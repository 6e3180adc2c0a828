import LayerMessaging.Deploy.ArtifactReader
import LayerMessaging.Settings.Basic
import LayerMessaging.Url.Basic

namespace LayerMessaging

/-- How the tool is started. The signing key reaches it through the environment alone. -/
structure ToolCall where
  tool : String
  directory : String
  arguments : List String
  additions : List (String × String)
  deriving DecidableEq, Repr

/-- Whether no text of the call holds a NUL character, which ends a text where programs start. -/
def ToolCall.isPassable (call : ToolCall) : Bool :=
  (call.tool :: call.directory :: call.arguments).all fun text => !text.toList.contains '\x00'

/-- A run of the tool. -/
inductive ToolRun where
  | notStarted (cause : FileError)
  /-- It ends after some seconds, with a code unless a signal ends it, and leaves these files. -/
  | ended (code : Option Int) (seconds : Nat) (files : Files)
  | endless

/-- How long a run is waited for until it ends, if it ever does. -/
def ToolRun.seconds : ToolRun → Nat
  | .ended _ seconds _ => seconds
  | _ => 0

/-- How programs behave that are started. -/
abbrev Toolbox := ToolCall → ToolRun

/-- What comes of a call of the tool. A text with a NUL character cannot be passed on. -/
def Toolbox.run (toolbox : Toolbox) (call : ToolCall) : ToolRun :=
  if call.isPassable then toolbox call else .notStarted .invalidCall

namespace DeploySettings

def toolCall (settings : DeploySettings) (rpcUrl : Url) : ToolCall where
  tool := settings.tool
  directory := settings.projectDir
  arguments := ["script", settings.script, "--broadcast", "--rpc-url", rpcUrl.text]
  additions := [("FOUNDRY_DISABLE_NIGHTLY_WARNING", "1")]

def artifactPath (settings : DeploySettings) (chainId : Nat) : String :=
  Artifact.path settings.projectDir settings.script chainId

def readReport (settings : DeploySettings) (files : Files) (chainId : Nat) :
    Except DeployError DeploymentReport := do
  let path := settings.artifactPath chainId
  let artifact ← Artifact.load files path
  artifact.report settings.contractName path

/-- What is reported behind a run of the tool: the record of one that succeeded, and nothing behind
one that never ends. -/
def outcome (settings : DeploySettings) (chainId : Nat) :
    ToolRun → Except DeployError (Option DeploymentReport)
  | .notStarted cause => .error (.notStarted settings.tool cause)
  | .ended code _ files =>
    if code = some 0 then (settings.readReport files chainId).map some
    else .error (.toolFailed settings.tool code)
  | .endless => .ok none

end DeploySettings

end LayerMessaging
