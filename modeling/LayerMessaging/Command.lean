import LayerMessaging.Config.Load
import LayerMessaging.Deploy.Script
import LayerMessaging.Failure
import LayerMessaging.Submission.Submitter

namespace LayerMessaging

structure Scene where
  world : Rpc.World
  /-- The starts of the tool, with the time of each. -/
  tools : List (Nat × ToolCall)

def Scene.start : Scene := ⟨.start, []⟩

abbrev Command (α : Type) := ExceptT Failure (StateM Scene) α

namespace Command

inductive Result where
  /-- A dry run: the message is encoded and not sent. -/
  | prepared (message : Message)
  | submitted (submission : Submission)
  deriving DecidableEq

def ofRun {α : Type} (fail : ChainError → Failure) (run : Rpc.Run α) : Command α := fun scene =>
  let (result, world) := run scene.world
  (result.mapError fail, { scene with world })

def ofConfig {α : Type} (result : Except ConfigError α) : Command α :=
  ExceptT.mk (pure (result.mapError Failure.config))

/-- A run of calls whose failure is looked at. -/
def attempt {α : Type} (run : Rpc.Run α) : Command (Except ChainError α) := fun scene =>
  let (result, world) := run scene.world
  (.ok result, { scene with world })

def startTool (toolbox : Toolbox) (call : ToolCall) : Command ToolRun := fun scene =>
  let run := toolbox.run call
  let now := scene.world.now
  (.ok run, ⟨{ scene.world with now := now + run.seconds }, scene.tools ++ [(now, call)]⟩)

/-- The chain whose record is read: the one that the nodes report, or when none of them does, the
expected one or that of local development. -/
def deploymentChain (network : Rpc.Network) (settings : ChainSettings) (client : Rpc.Client) :
    Command Nat := do
  match ← attempt (client.verifyChainId network) with
  | .ok chainId => return chainId
  | .error (.chainMismatch expected actual) => throw (.chain (.chainMismatch expected actual))
  | .error _ => return settings.chainId.getD Config.defaultChainId

/-- Runs the deployment script and reports what it deployed: nothing, if it goes on for ever. -/
def deploy (network : Rpc.Network) (toolbox : Toolbox) (settings : Settings) (config : Config) :
    Command (Option DeploymentReport) := do
  let endpoint ← ofConfig config.requireEndpoint
  let chain := config.applyTo settings.chain
  let client ← ofRun .chain (Rpc.Client.ofSettings chain)
  let chainId ← deploymentChain network chain client
  let run ← startTool toolbox (settings.deploy.toolCall endpoint.rpcUrl)
  match settings.deploy.outcome chainId run with
  | .ok report? => return report?
  | .error error => throw (.deploy error)

/-- Submits a message once, over the settings with the endpoint laid over them. -/
def submit (network : Rpc.Network) (settings : Settings) (config : Config) (message : Message) :
    Command Submission := do
  let endpoint ← ofConfig config.requireEndpoint
  let submitter ← ofRun .chain (Submitter.connect network (config.applyTo settings.chain) endpoint)
  ofRun (fun e => .messaging (.chain e))
    (submitter.submit network message.recipient message.value message.calldata)

def finish (network : Rpc.Network) (settings : Settings) (config : Config) (message : Message)
    (dryRun : Bool) : Command Result :=
  if dryRun then return .prepared message
  else return .submitted (← submit network settings config message)

def send (network : Rpc.Network) (settings : Settings) (config : Config) (name : String)
    (payload : Payload) (dryRun : Bool) : Command Result := do
  let target ← ofConfig config.requireTarget
  match Message.toSend target name payload with
  | .error fault => throw (.messaging (.invalidSelectorName name fault))
  | .ok message => finish network settings config message dryRun

def consume (network : Rpc.Network) (settings : Settings) (config : Config) (payload : Payload)
    (dryRun : Bool) : Command Result := do
  let target ← ofConfig config.requireTarget
  finish network settings config (Message.toConsume target payload) dryRun

end Command

end LayerMessaging
