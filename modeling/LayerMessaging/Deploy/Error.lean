import LayerMessaging.Files
import LayerMessaging.Text.Quoted

namespace LayerMessaging

inductive DeployError where
  | notStarted (tool : String) (cause : FileError)
  /-- The tool ended without success; there is no code if a signal ended it. -/
  | toolFailed (tool : String) (code : Option Int)
  | unreadableArtifact (path reason : String)
  | contractNotFound (name path : String)
  deriving DecidableEq, Repr

def DeployError.message : DeployError → String
  | .notStarted tool cause => "failed to run " ++ tool ++ ": " ++ cause.message
  | .toolFailed tool code =>
    tool ++ " exited with " ++ (match code with
      | some code => "code " ++ toString code
      | none => "a signal")
  | .unreadableArtifact path reason =>
    "unreadable broadcast file " ++ Text.quotePath path ++ ": " ++ reason
  | .contractNotFound name path =>
    "contract '" ++ name ++ "' not found in broadcast file " ++ Text.quotePath path

end LayerMessaging
