import LayerMessaging.Config.Error
import LayerMessaging.Chain.Error
import LayerMessaging.Deploy.Error
import LayerMessaging.Message.Payload
import LayerMessaging.Message.Selector

namespace LayerMessaging

inductive MessageError where
  | invalidSelectorName (name : String) (fault : Selector.Error)
  | invalidPayload (element reason : String)
  | chain (error : ChainError)
  deriving DecidableEq

def MessageError.message : MessageError → String
  | .invalidSelectorName name fault => "invalid selector name '" ++ name ++ "': " ++ fault.reason
  | .invalidPayload element reason => "invalid payload element '" ++ element ++ "': " ++ reason
  | .chain error => error.message

inductive Failure where
  | config (error : ConfigError)
  | chain (error : ChainError)
  | messaging (error : MessageError)
  | deploy (error : DeployError)
  | interrupted
  deriving DecidableEq

namespace Failure

def message : Failure → String
  | .config error => "configuration error: " ++ error.message
  | .chain error => error.message
  | .messaging error => error.message
  | .deploy error => "deployment failed: " ++ error.message
  | .interrupted => "interrupted"

/-- The exit code of a failure without one of its own. -/
def generalCode : Nat := 1

def interruptedCode : Nat := 130

/-- The exit code of a program that stops at once. -/
def abortedCode : Nat := 101

def isAbort : Failure → Bool
  | .config (.envFile _ (.unsettable _)) => true
  | _ => false

/-- The exit code for a failure. A tool that failed passes its own code on, if it is one. -/
def exitCode (failure : Failure) : Nat :=
  if failure.isAbort then abortedCode
  else
    match failure with
    | .deploy (.toolFailed _ (some code)) =>
      if 0 < code ∧ code < 256 then code.toNat else generalCode
    | .interrupted => interruptedCode
    | _ => generalCode

end Failure

def Payload.Error.failure (e : Payload.Error) : Failure :=
  .messaging (.invalidPayload e.element e.fault.reason)

end LayerMessaging
