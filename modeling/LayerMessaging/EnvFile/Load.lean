import LayerMessaging.EnvFile.Entry

namespace LayerMessaging.EnvFile

/-- The environment after loading, and the names that were set or what stopped it. -/
structure Loading (ε : Type) where
  environment : Environment
  result : Except ε (List String)

/-- Sets the entries of the lines, each before the next line is read, so that what precedes a fault
stays set. -/
def loadLines (lines : List Bytes) (env : Environment) : Loading Error :=
  match lines with
  | [] => ⟨env, .ok []⟩
  | first :: more =>
    match h : nextLine (first :: more) .complete [] with
    | .error e => ⟨env, .error e⟩
    | .ok (line, rest) =>
      have : rest.length < (first :: more).length := length_nextLine_lt h
      match readEntry env line with
      | .error e => ⟨env, .error e⟩
      | .ok none => loadLines rest env
      | .ok (some (name, value)) =>
        if value.toList.contains '\x00' then ⟨env, .error (.unsettable name)⟩
        else
          let loading := loadLines rest (env.set name value)
          { loading with result := loading.result.map (name :: ·) }
termination_by lines.length
decreasing_by all_goals assumption

def loadBytes (content : Bytes) (env : Environment) : Loading Error :=
  loadLines (physicalLines content) env

end LayerMessaging.EnvFile
