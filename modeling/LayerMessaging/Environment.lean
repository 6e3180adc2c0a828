namespace LayerMessaging

/-- Names and values, each name once. -/
structure Environment where
  entries : List (String × String)
  deriving DecidableEq, Repr

namespace Environment

def empty : Environment := ⟨[]⟩

def assign (name value : String) : List (String × String) → List (String × String)
  | [] => [(name, value)]
  | (n, old) :: rest => if n = name then (n, value) :: rest else (n, old) :: assign name value rest

def set (env : Environment) (name value : String) : Environment := ⟨assign name value env.entries⟩

/-- What follows the text `name=` in the text of a variable. -/
def match? (name : String) (entry : String × String) : Option String :=
  let wanted := name.toList ++ ['=']
  let text := entry.1.toList ++ '=' :: entry.2.toList
  if wanted.isPrefixOf text then some (String.ofList (text.drop wanted.length)) else none

/-- The value of a variable. Variables are searched by the text `name=value`, so that a name with an
equals sign can reach into a value; the empty name reaches none. -/
def get? (env : Environment) (name : String) : Option String :=
  if name = "" then none else env.entries.findSome? (match? name)

end Environment

end LayerMessaging
