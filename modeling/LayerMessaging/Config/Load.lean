import LayerMessaging.Config.Basic
import LayerMessaging.EnvFile.Load
import LayerMessaging.Settings.Decode

namespace LayerMessaging

def Settings.load (files : Files) (path : String) : Except ConfigError Settings := do
  let content ← match files.readText path with
    | .ok content => pure content
    | .error e => throw (.unreadableSettings e)
  match Settings.ofText content with
  | none => throw .malformedSettings
  | some settings =>
    if settings.violations = [] then return settings
    else throw (.invalidSettings settings.violations)

def EnvFile.load (files : Files) (path : String) (env : Environment) : Loading ConfigError :=
  if !files.isFile path then ⟨env, .error (.envFileNotFound path)⟩
  else
    match files.read path with
    | .error e => ⟨env, .error (.envFile path (.unreadable e))⟩
    | .ok content =>
      let loading := loadBytes content env
      ⟨loading.environment, loading.result.mapError (.envFile path)⟩

structure Config.Loaded where
  environment : Environment
  result : Except ConfigError Config

def Config.load (files : Files) (path : String) (requirement : Requirement) (env : Environment) :
    Config.Loaded :=
  let loading := EnvFile.load files path env
  ⟨loading.environment, do
    let _ ← loading.result
    Config.ofLookup requirement loading.environment.get?⟩

end LayerMessaging
