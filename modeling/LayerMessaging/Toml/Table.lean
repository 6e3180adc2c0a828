import LayerMessaging.Toml.Basic

namespace LayerMessaging.Toml

inductive Node where
  | value (value : Toml)
  /-- A table; `implicit` if it was only named on the way to another, `dotted` if by a dotted
  key. -/
  | table (implicit dotted : Bool) (entries : List (String × Node))
  /-- The tables of a repeated header. -/
  | tables (elements : List (List (String × Node)))

structure Table where
  implicit : Bool
  dotted : Bool
  entries : List (String × Node)

namespace Table

def empty : Table := ⟨false, false, []⟩

/-- Puts a node under a key, in the place of an older one or at the end. -/
def set (entries : List (String × Node)) (key : String) (node : Node) : List (String × Node) :=
  match entries with
  | [] => [(key, node)]
  | (k, old) :: rest => if k = key then (k, node) :: rest else (k, old) :: set rest key node

/-- Changes the table at the end of a path, making the tables on the way. A value cannot be entered,
and a dotted key enters no table that has a header or braces of its own. -/
def modifyAt (dotted : Bool) (change : Table → Option Table) : List String → Table → Option Table
  | [], t => change t
  | key :: path, t =>
    match t.entries.lookup key with
    | none => do
      let new ← modifyAt dotted change path ⟨true, dotted, []⟩
      return { t with entries := set t.entries key (.table new.implicit new.dotted new.entries) }
    | some (.value _) => none
    | some (.tables elements) => do
      let new ← modifyAt dotted change path ⟨false, false, ← elements.getLast?⟩
      return { t with entries := set t.entries key (.tables (elements.dropLast ++ [new.entries])) }
    | some (.table implicit wasDotted entries) =>
      if dotted && !implicit then none
      else do
        let new ← modifyAt dotted change path ⟨implicit, wasDotted, entries⟩
        return { t with entries := set t.entries key (.table new.implicit new.dotted new.entries) }

def entriesAt : List String → List (String × Node) → Option (List (String × Node))
  | [], entries => some entries
  | key :: path, entries =>
    match entries.lookup key with
    | some (.table _ _ entries) => entriesAt path entries
    | some (.tables elements) => elements.getLast?.bind (entriesAt path)
    | _ => none

/-- Puts a value under a new key at the end of a dotted path. The table there must have come about
by dotted keys exactly if the path is not empty. -/
def put (t : Table) (path : List String) (key : String) (value : Toml) : Option Table :=
  modifyAt true (fun t =>
    if t.dotted = path.isEmpty then none
    else if (t.entries.lookup key).isSome then none
    else some { t with entries := t.entries ++ [(key, .value value)] }) path t

mutual
def toToml : Node → Toml
  | .value value => value
  | .table _ _ entries => .table (toTomlEntries entries)
  | .tables elements => .array (toTomlTables elements)

def toTomlEntries : List (String × Node) → List (String × Toml)
  | [] => []
  | (key, node) :: rest => (key, toToml node) :: toTomlEntries rest

def toTomlTables : List (List (String × Node)) → List Toml
  | [] => []
  | entries :: rest => .table (toTomlEntries entries) :: toTomlTables rest
end

def toEntries (t : Table) : List (String × Toml) := toTomlEntries t.entries

end Table

end LayerMessaging.Toml
