import LayerMessaging.Command
import LayerMessaging.Program.CommandLine
import LayerMessaging.Program.Usage

namespace LayerMessaging.Program

structure Surroundings where
  files : Files
  environment : Environment
  network : Rpc.Network
  /-- How programs behave that are found through the environment. -/
  toolbox : Environment → Toolbox
  interrupt : Option Nat

structure Ending where
  exitCode : Nat
  output : String
  failure : Option Failure
  environment : Environment
  scene : Scene

def Ending.report? (ending : Ending) : Option String :=
  ending.failure.bind fun failure =>
    if failure.isAbort then none else some ("Error: " ++ failure.message)

def Ending.of (environment : Environment) (scene : Scene) : Except Failure String → Ending
  | .ok output => ⟨0, output, none, environment, scene⟩
  | .error failure => ⟨failure.exitCode, "", some failure, environment, scene⟩

def line (text : String) : String := text ++ "\n"

/-- What is printed for a message: its encoding, or the digest of its transaction. -/
def resultText : Command.Result → String
  | .prepared message => message.json.pretty
  | .submitted submission => submission.hash.hex

/-- Carries out an action and gives what it prints: nothing, if it never comes to an end. -/
def perform (network : Rpc.Network) (toolbox : Toolbox) (settings : Settings) (config : Config) :
    Action → Command (Option String)
  | .deploy => do
    let report? ← Command.deploy network toolbox settings config
    return report?.map fun report => line report.json.pretty
  | .send name payload dryRun => do
    let result ← Command.send network settings config name payload dryRun
    return some (line (resultText result))
  | .consume payload dryRun => do
    let result ← Command.consume network settings config payload dryRun
    return some (line (resultText result))
  | .selector name =>
    match Selector.ofName name with
    | .ok selector => return some (line selector.hex)
    | .error fault => throw (.messaging (.invalidSelectorName name fault))
  | .usage => return some (line usage)

/-- What is left of a scene when it is interrupted at a moment. -/
def Scene.until (scene : Scene) (moment : Nat) : Scene :=
  ⟨⟨moment, scene.world.trace.filter fun exchange => exchange.time ≤ moment⟩,
    scene.tools.filter fun start => start.1 ≤ moment⟩

/-- What a command that is left alone ends with, if it ends. -/
def ended? : Except Failure (Option String) → Option (Except Failure String)
  | .ok output? => output?.map .ok
  | .error failure => some (.error failure)

/-- Ends a command that is still going on when the user interrupts it. One that is left alone may go
on for ever. -/
def interruptedAt (interrupt : Option Nat) (run : Except Failure (Option String) × Scene) :
    Option (Except Failure String × Scene) :=
  match interrupt, ended? run.1 with
  | some moment, some result =>
    if moment < run.2.world.now then some (.error .interrupted, Scene.until run.2 moment)
    else some (result, run.2)
  | some moment, none => some (.error .interrupted, Scene.until run.2 moment)
  | none, result? => result?.map (·, run.2)

def settingsOf (files : Files) : Option String → Except ConfigError Settings
  | some path => Settings.load files path
  | none => .ok Settings.default

/-- The configuration of a run. Actions that work alone touch no env file. -/
def configOf (files : Files) (environment : Environment) (invocation : Invocation) :
    Config.Loaded :=
  match invocation.action.requirement with
  | some requirement => Config.load files invocation.envFile requirement environment
  | none => ⟨environment, .ok Config.empty⟩

/-- Runs the program. It ends unless its command goes on for ever. -/
def run (invocation : Invocation) (s : Surroundings) : Option Ending :=
  match settingsOf s.files invocation.settingsFile with
  | .error e => some (.of s.environment .start (.error (.config e)))
  | .ok settings =>
    let loaded := configOf s.files s.environment invocation
    match loaded.result with
    | .error e => some (.of loaded.environment .start (.error (.config e)))
    | .ok config =>
      let toolbox := s.toolbox loaded.environment
      let run := perform s.network toolbox settings config invocation.action Scene.start
      (interruptedAt s.interrupt run).map fun (result, scene) => .of loaded.environment scene result

def versionText : String := "messaging-bridge 0.1.0\n"

def refusedCode : Nat := 2

def answer (arguments : List String) (s : Surroundings) : Option Ending :=
  match Request.ofArguments arguments with
  | .run invocation => run invocation s
  | .version => some (.of s.environment .start (.ok versionText))
  | .help => some (.of s.environment .start (.ok (line usage)))
  | .refused => some ⟨refusedCode, "", none, s.environment, .start⟩

end LayerMessaging.Program
