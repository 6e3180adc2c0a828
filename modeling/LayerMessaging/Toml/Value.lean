import LayerMessaging.Toml.Numeral
import LayerMessaging.Toml.Table

namespace LayerMessaging.Toml.Reader

/-- How deep lists and tables may be nested, and how long a dotted key may be. -/
def depthLimit : Nat := 80

def isBareKeyChar (c : Char) : Bool := c.isAlphanum || c = '_' || c = '-'

/-- One part of a key: bare, or a quoted text on one line. -/
def keyPart : Reader String := fun cs =>
  match lineText cs with
  | some part => some part
  | none =>
    match cs.takeWhile isBareKeyChar with
    | [] => none
    | part => some (String.ofList part, cs.dropWhile isBareKeyChar)

def keyParts : (fuel : Nat) → Reader (List String)
  | 0, _ => none
  | fuel + 1, cs => do
    let (part, rest) ← keyPart (skipSpace cs)
    match skipSpace rest with
    | '.' :: rest =>
      let (parts, rest) ← keyParts fuel rest
      return (part :: parts, rest)
    | rest => return ([part], rest)

/-- A dotted key: the parts before the last, and the last. -/
def key : Reader (List String × String) := fun cs => do
  let (parts, rest) ← keyParts (cs.length + 1) cs
  if depthLimit ≤ parts.length then none
  return ((parts.dropLast, ← parts.getLast?), rest)

/-- The items of a list up to its end, the comma behind the last being optional. -/
def items (value : Reader Toml) : (fuel : Nat) → Reader (List Toml)
  | 0, _ => none
  | fuel + 1, cs =>
    match skipLines cs.length cs with
    | ']' :: rest => some ([], rest)
    | cs => do
      let (item, rest) ← value cs
      match skipLines rest.length rest with
      | ',' :: rest =>
        let (items, rest) ← items value fuel rest
        return (item :: items, rest)
      | ']' :: rest => return ([item], rest)
      | _ => none

/-- The entries of a table on one line up to its end, without a comma behind the last. -/
def entries (value : Reader Toml) : (fuel : Nat) → Table → Reader Table
  | 0, _, _ => none
  | fuel + 1, t, cs => do
    let ((path, key), rest) ← key cs
    match skipSpace rest with
    | '=' :: rest =>
      let (item, rest) ← value (skipSpace rest)
      let t ← t.put path key item
      match skipSpace rest with
      | ',' :: rest => entries value fuel t rest
      | '\x7d' :: rest => return (t, rest)
      | _ => none
    | _ => none

def value : (depth : Nat) → Reader Toml
  | 0, _ => none
  | depth + 1, cs =>
    match cs with
    | [] => none
    | c :: rest =>
      if c = '"' ∨ c = '\'' then do
        let (text, rest) ← quotedText cs
        return (.string text, rest)
      else if c = '[' then do
        let (list, rest) ← items (value depth) (rest.length + 1) rest
        if depth = 0 then none else return (.array list, rest)
      else if c = '\x7b' then
        match skipSpace rest with
        | '\x7d' :: rest => if depth = 0 then none else some (.table [], rest)
        | rest => do
          let (t, rest) ← entries (value depth) (rest.length + 1) .empty rest
          return (.table t.toEntries, rest)
      else if "true".toList.isPrefixOf cs then some (.boolean true, cs.drop 4)
      else if "false".toList.isPrefixOf cs then some (.boolean false, cs.drop 5)
      else numeral cs

end LayerMessaging.Toml.Reader
