import LayerMessaging.Config.Basic
import LayerMessaging.Message.Payload

namespace LayerMessaging.Program

inductive Action where
  | deploy
  | send (selectorName : String) (payload : Payload) (dryRun : Bool)
  | consume (payload : Payload) (dryRun : Bool)
  | selector (name : String)
  | usage
  deriving DecidableEq

/-- The configuration that an action needs; none for those that work alone. -/
def Action.requirement : Action → Option Requirement
  | .deploy => some .endpoint
  | .send _ _ dryRun => some (if dryRun then .target else .endpointAndTarget)
  | .consume _ dryRun => some (if dryRun then .target else .endpointAndTarget)
  | .selector _ => none
  | .usage => none

structure Invocation where
  envFile : String
  settingsFile : Option String
  action : Action
  deriving DecidableEq

inductive Request where
  | run (invocation : Invocation)
  | version
  | help
  | refused
  deriving DecidableEq

def defaultEnvFile : String := ".env"

/-- The values of the two common options. -/
structure CommonOptions where
  envFile : Option String
  settingsFile : Option String

inductive CommandName where
  | deploy
  | send
  | consume
  | selector
  | usage
  deriving DecidableEq

def CommandName.ofText? (text : String) : Option CommandName :=
  [("deploy-messaging-contracts", CommandName.deploy), ("send-msg", .send),
    ("consume-msg", .consume), ("selector", .selector), ("usage", .usage)].lookup text

def helpName : String := "help"

/-- Whether the arguments behind `help` name at most one command. -/
def isHelpTopic : List String → Bool
  | [] => true
  | [name] => name = helpName || (CommandName.ofText? name).isSome
  | _ => false

inductive ValueOption where
  | envFile
  | settingsFile
  | selectorName
  | payload
  deriving DecidableEq

inductive LongOption where
  | value (option : ValueOption)
  | dryRun
  | version
  | help

/-- The long options that are known at a place: before the command, or behind it. -/
def longOption? (command : Option CommandName) (name : String) : Option LongOption :=
  if name = "env-file" then some (.value .envFile)
  else if name = "config" then some (.value .settingsFile)
  else if name = "help" then some .help
  else
    match command with
    | none => if name = "version" then some .version else none
    | some .send =>
      if name = "selector-str" then some (.value .selectorName)
      else if name = "payload" then some (.value .payload)
      else if name = "dry-run" then some .dryRun
      else none
    | some .consume =>
      if name = "payload" then some (.value .payload)
      else if name = "dry-run" then some .dryRun
      else none
    | some _ => none

structure Given where
  common : CommonOptions
  selectorName : Option String
  payload : Option Payload
  dryRun : Bool
  operand : Option String

def Given.nothing : Given := ⟨⟨none, none⟩, none, none, false, none⟩

/-- Takes the value of an option. Each may be given once, paths must not be empty, and a payload
must be one. -/
def Given.take? (g : Given) (option : ValueOption) (value : String) : Option Given :=
  match option with
  | .envFile =>
    if g.common.envFile.isSome ∨ value = "" then none
    else some { g with common := { g.common with envFile := some value } }
  | .settingsFile =>
    if g.common.settingsFile.isSome ∨ value = "" then none
    else some { g with common := { g.common with settingsFile := some value } }
  | .selectorName =>
    if g.selectorName.isSome then none else some { g with selectorName := some value }
  | .payload =>
    if g.payload.isSome then none
    else
      match Payload.ofText value with
      | .ok payload => some { g with payload := some payload }
      | .error _ => none

def Given.operand? (g : Given) (command : Option CommandName) (value : String) : Option Given :=
  if command = some .selector ∧ g.operand.isNone then some { g with operand := some value }
  else none

def Given.action? (g : Given) : CommandName → Option Action
  | .deploy => some .deploy
  | .send => do return .send (← g.selectorName) (← g.payload) g.dryRun
  | .consume => do return .consume (← g.payload) g.dryRun
  | .selector => do return .selector (← g.operand)
  | .usage => some .usage

/-- Whether an argument can be the value of an option that stands before it. -/
def isValue (argument : String) : Bool :=
  argument = "-" || argument.toList.head? ≠ some '-'

/-- The part of a text before the first equals sign, and the part behind it. -/
def splitEquals (text : List Char) : String × Option String :=
  match text.dropWhile (· ≠ '=') with
  | _ :: value => (String.ofList (text.takeWhile (· ≠ '=')), some (String.ofList value))
  | [] => (String.ofList text, none)

inductive Parsed where
  | given (given : Given)
  | command (given : Given) (name : CommandName) (arguments : List String)
  | version
  | help
  | refused

/-- Reads the arguments before a command, or behind it. Options are taken in order, so that what is
met first decides. -/
def parseArguments (command : Option CommandName) (g : Given) : List String → Parsed
  | [] => .given g
  | argument :: rest =>
    match argument.toList with
    | ['-', '-'] =>
      match rest.foldlM (fun g operand => Given.operand? g command operand) g with
      | some g => .given g
      | none => .refused
    | '-' :: '-' :: body =>
      let (name, value) := splitEquals body
      match longOption? command name, value with
      | some (.value option), some value =>
        match g.take? option value with
        | some g => parseArguments command g rest
        | none => .refused
      | some (.value option), none =>
        match rest with
        | value :: rest =>
          if isValue value then
            match g.take? option value with
            | some g => parseArguments command g rest
            | none => .refused
          else .refused
        | [] => .refused
      | some .dryRun, none =>
        if g.dryRun then .refused else parseArguments command { g with dryRun := true } rest
      | some .version, none => .version
      | some .help, none => .help
      | _, _ => .refused
    | '-' :: 'c' :: body =>
      match body with
      | [] =>
        match rest with
        | value :: rest =>
          if isValue value then
            match g.take? .settingsFile value with
            | some g => parseArguments command g rest
            | none => .refused
          else .refused
        | [] => .refused
      | c :: attached =>
        let value := if c = '=' then attached else c :: attached
        match g.take? .settingsFile (String.ofList value) with
        | some g => parseArguments command g rest
        | none => .refused
    | '-' :: c :: _ =>
      if c = 'h' then .help
      else if c = 'V' ∧ command.isNone then .version
      else .refused
    | _ =>
      match command with
      | none =>
        match CommandName.ofText? argument with
        | some name => .command g name rest
        | none => if argument = helpName ∧ isHelpTopic rest then .help else .refused
      | some name =>
        match g.operand? (some name) argument with
        | some g => parseArguments command g rest
        | none => .refused

/-- Reads a command line, without the program's name. The common options behind the command win over
those before it. -/
def Request.ofArguments (arguments : List String) : Request :=
  match parseArguments none .nothing arguments with
  | .version => .version
  | .help => .help
  | .refused => .refused
  | .given _ => .refused
  | .command before name arguments =>
    match parseArguments (some name) .nothing arguments with
    | .given behind =>
      match behind.action? name with
      | some action =>
        .run ⟨((behind.common.envFile <|> before.common.envFile).getD defaultEnvFile),
          behind.common.settingsFile <|> before.common.settingsFile, action⟩
      | none => .refused
    | .help => .help
    | _ => .refused

end LayerMessaging.Program
