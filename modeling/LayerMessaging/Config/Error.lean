import LayerMessaging.EnvFile.Line
import LayerMessaging.Settings.Validation
import LayerMessaging.Text.Quoted

namespace LayerMessaging

inductive ConfigError where
  | envFileNotFound (path : String)
  | envFile (path : String) (cause : EnvFile.Error)
  | unreadableSettings (cause : FileError)
  | malformedSettings
  | invalidSettings (violations : List Settings.Violation)
  | missingKeys (keys : List String)
  | invalidValue (key reason : String)
  deriving DecidableEq, Repr

def ConfigError.message : ConfigError → String
  | .envFileNotFound path => "env file not found: " ++ Text.quotePath path
  | .envFile path cause =>
    "failed to read env file " ++ Text.quotePath path ++ ": " ++ cause.message
  | .unreadableSettings cause => "IO error: " ++ cause.message
  | .malformedSettings => "Parse error: not a settings file"
  | .invalidSettings violations =>
    "Validation failed: " ++ ", ".intercalate (violations.map Settings.Violation.text)
  | .missingKeys keys => "missing required configuration keys: " ++ ", ".intercalate keys
  | .invalidValue key reason => "invalid value for " ++ key ++ ": " ++ reason

end LayerMessaging
