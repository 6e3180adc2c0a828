import LayerMessaging.Config.Load
import LayerMessaging.Proofs.EnvFile.Entry
import LayerMessaging.Proofs.Environment

namespace LayerMessaging

def Files.withFile (files : Files) (path : String) (content : Bytes) : Files where
  read path' := if path' = path then .ok content else files.read path'
  isFile path' := path' = path || files.isFile path'

namespace EnvFile

theorem loadLines_of_error {first : Bytes} {more : List Bytes} {e : Error}
    (h : nextLine (first :: more) .complete [] = .error e) (env : Environment) :
    loadLines (first :: more) env = ⟨env, .error e⟩ := by
  rw [loadLines]
  split <;> rename_i h' <;> rw [h] at h' <;> cases h'
  rfl

theorem loadLines_of_ok {first : Bytes} {more rest : List Bytes} {line : List Char}
    (h : nextLine (first :: more) .complete [] = .ok (line, rest)) (env : Environment) :
    loadLines (first :: more) env =
      match readEntry env line with
      | .error e => ⟨env, .error e⟩
      | .ok none => loadLines rest env
      | .ok (some (name, value)) =>
        if value.toList.contains nul then ⟨env, .error (.unsettable name)⟩
        else
          let loading := loadLines rest (env.set name value)
          { loading with result := loading.result.map (name :: ·) } := by
  conv_lhs => rw [loadLines]
  split <;> rename_i h' <;> rw [h] at h' <;> cases h'
  rfl

theorem nextLine_ne_unsettable (lines : List Bytes) (state : LineState) (read : List Char)
    (name : String) : nextLine lines state read ≠ .error (.unsettable name) := by
  intro h
  induction lines generalizing state read with
  | nil => cases h
  | cons physical rest ih =>
    rw [nextLine] at h
    split at h
    · cases h
    · dsimp only at h
      split at h
      · cases h
      · split at h
        · cases h
        · cases h
        · exact ih _ _ h

/-- Where loading stops at a variable, a line gives it a value with a NUL character. -/
theorem loadLines_unsettable_inv {lines : List Bytes} {env : Environment} {name : String}
    (h : (loadLines lines env).result = .error (.unsettable name)) :
    ∃ env' line value, readEntry env' line = .ok (some (name, value)) ∧ nul ∈ value.toList := by
  fun_induction loadLines lines env with
  | case1 => cases h
  | case2 env first more e hnext =>
    cases h
    exact absurd hnext (nextLine_ne_unsettable _ _ _ _)
  | case3 env first more line rest hnext _ e hentry =>
    cases h
    exact absurd hentry (readEntry_ne_unsettable _ _ _)
  | case4 env first more line rest hnext _ hentry ih => exact ih h
  | case5 env first more line rest hnext _ name' value hentry hnul =>
    cases h
    exact ⟨env, line, value, hentry, List.contains_iff_mem.mp hnul⟩
  | case6 env first more line rest hnext _ name' value hentry hnul loading ih =>
    refine ih ?_
    change loading.result.map (name' :: ·) = _ at h
    change loading.result = _
    cases hresult : loading.result with
    | ok names =>
      rw [hresult] at h
      cases h
    | error e =>
      rw [hresult] at h
      cases h
      rfl

/-- Loading a file that is there. -/
theorem load_withFile_eq_loadBytes (files : Files) (path : String) (content : Bytes)
    (env : Environment) : load (files.withFile path content) path env =
      ⟨(loadBytes content env).environment,
        (loadBytes content env).result.mapError (.envFile path)⟩ := by
  have hfile : (files.withFile path content).isFile path = true := by simp [Files.withFile]
  have hread : (files.withFile path content).read path = .ok content := if_pos rfl
  unfold load
  rw [hfile, hread]
  rfl

theorem load_unsettable_inv {files : Files} {path path' : String} {env : Environment}
    {name : String}
    (h : (load files path env).result = .error (.envFile path' (.unsettable name))) :
    path' = path ∧
      ∃ env' line value, readEntry env' line = .ok (some (name, value)) ∧ nul ∈ value.toList := by
  unfold load at h
  split at h
  · cases h
  · split at h
    · cases h
    · rename_i content hread
      change (loadBytes content env).result.mapError (ConfigError.envFile path) = _ at h
      cases hresult : (loadBytes content env).result with
      | ok names =>
        rw [hresult] at h
        cases h
      | error e =>
        rw [hresult] at h
        cases h
        exact ⟨rfl, loadLines_unsettable_inv hresult⟩

end EnvFile

end LayerMessaging
