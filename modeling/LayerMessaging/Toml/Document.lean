import LayerMessaging.Toml.Value

namespace LayerMessaging.Toml

structure Document where
  root : Table
  header : List String
  /-- Whether the header repeats. -/
  repeated : Bool
  current : Table

namespace Document

def start : Document := ⟨.empty, [], false, .empty⟩

def settle (doc : Document) : Option Table :=
  match doc.header.getLast? with
  | none => some doc.current
  | some key =>
    doc.root |> Table.modifyAt false (fun parent =>
      if doc.repeated then
        match parent.entries.lookup key with
        | some (.tables elements) =>
          some { parent with
            entries := Table.set parent.entries key (.tables (elements ++ [doc.current.entries])) }
        | none =>
          some { parent with
            entries := parent.entries ++ [(key, .tables [doc.current.entries])] }
        | some _ => none
      else
        let node := Node.table doc.current.implicit doc.current.dotted doc.current.entries
        some { parent with entries := Table.set parent.entries key node }) doc.header.dropLast

/-- What stands under the key of a header before the table is opened: nothing, a table that so far
was only named on the way to others, or a fault. -/
def opened (repeated : Bool) (node : Option Node) : Option (List (String × Node)) :=
  match node, repeated with
  | none, _ => some []
  | some (.tables _), true => some []
  | some (.table true false entries), false => some entries
  | some _, _ => none

/-- Opens the table of a header. Its parents come about on the way. -/
def openTable (doc : Document) (path : List String) (key : String) (repeated : Bool) :
    Option Document := do
  let root ← doc.settle
  let root ← root |> Table.modifyAt false some path
  let parent ← Table.entriesAt path root.entries
  let entries ← opened repeated (parent.lookup key)
  let root ← root |> Table.modifyAt false (fun parent =>
    some (if repeated then parent
      else { parent with entries := parent.entries.filter (·.1 ≠ key) })) path
  return ⟨root, path ++ [key], repeated, ⟨false, false, entries⟩⟩

def line (doc : Document) (cs : List Char) : Option (Document × List Char) :=
  match cs with
  | '[' :: '[' :: rest => do
    let ((path, key), rest) ← Reader.key rest
    match rest with
    | ']' :: ']' :: rest => return (← doc.openTable path key true, rest)
    | _ => none
  | '[' :: rest => do
    let ((path, key), rest) ← Reader.key rest
    match rest with
    | ']' :: rest => return (← doc.openTable path key false, rest)
    | _ => none
  | cs => do
    let ((path, key), rest) ← Reader.key cs
    match rest with
    | '=' :: rest =>
      let (value, rest) ← Reader.value Reader.depthLimit (Reader.skipSpace rest)
      return ({ doc with current := ← doc.current.put path key value }, rest)
    | _ => none

def lines : (fuel : Nat) → Document → List Char → Option Document
  | 0, _, _ => none
  | fuel + 1, doc, cs =>
    match Reader.skipLines cs.length cs with
    | [] => some doc
    | cs => do
      let (doc, rest) ← doc.line cs
      lines fuel doc (← Reader.endOfLine? rest)

/-- The table that a text describes. A byte order mark may stand at its front. -/
def parse (text : String) : Option (List (String × Toml)) := do
  let cs := match text.toList with
    | '\uFEFF' :: cs => cs
    | cs => cs
  let doc ← lines (cs.length + 1) start cs
  return (← doc.settle).toEntries

end Document

end LayerMessaging.Toml
