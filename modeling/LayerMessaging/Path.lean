import LayerMessaging.Text.Blank

namespace LayerMessaging.Path

/-- A path below another. An absolute path stands for itself. -/
def join (base below : String) : String :=
  if below.toList.head? = some '/' ∨ base = "" then below
  else if base.toList.getLast? = some '/' then base ++ below
  else base ++ "/" ++ below

/-- The parts between slashes that name something: not empty, and not the dot for the same place. -/
def parts (path : List Char) : List (List Char) :=
  (Text.splitChars (· = '/') path).filter fun part => !part.isEmpty && part != ['.']

/-- The last part of a path, unless it leads upwards. -/
def fileName? (path : String) : Option String :=
  match (parts path.toList).getLast? with
  | none => none
  | some part => if part = ['.', '.'] then none else some (String.ofList part)

end LayerMessaging.Path
