import LayerMessaging.Json.Basic

namespace LayerMessaging.Json

inductive Fault where
  | malformed
  | missingField (name : String)
  | duplicateField (name : String)
  deriving DecidableEq, Repr

def Fault.message : Fault → String
  | .malformed => "not the expected JSON"
  | .missingField name => "missing field `" ++ name ++ "`"
  | .duplicateField name => "duplicate field `" ++ name ++ "`"

abbrev Reader (α : Type) := List Char → Except Fault (α × List Char)

namespace Reader

def isSpace (c : Char) : Bool := c = ' ' || c = '\n' || c = '\t' || c = '\r'

def skipSpace (cs : List Char) : List Char := cs.dropWhile isSpace

/-- The number that four hexadecimal digits spell. -/
def unit? (a b c d : Char) : Option Nat := do
  let value (c : Char) : Option Nat :=
    if '0' ≤ c ∧ c ≤ '9' then some (c.toNat - 48)
    else if 'a' ≤ c ∧ c ≤ 'f' then some (c.toNat - 87)
    else if 'A' ≤ c ∧ c ≤ 'F' then some (c.toNat - 55)
    else none
  return 4096 * (← value a) + 256 * (← value b) + 16 * (← value c) + (← value d)

def escaped? (c : Char) : Option Char :=
  if c = '"' ∨ c = '\\' ∨ c = '/' then some c
  else if c = 'b' then some '\x08'
  else if c = 'f' then some '\x0c'
  else if c = 'n' then some '\n'
  else if c = 'r' then some '\r'
  else if c = 't' then some '\t'
  else none

/-- The rest of a string. Its text is absent if half of a surrogate pair stands alone in it, which
is a fault only where the text matters. -/
def stringRest (cs : List Char) : Except Fault (Option (List Char) × List Char) :=
  match cs with
  | [] => .error .malformed
  | '"' :: rest => .ok (some [], rest)
  | '\\' :: 'u' :: a :: b :: c :: d :: rest =>
    match unit? a b c d with
    | none => .error .malformed
    | some high =>
      if high < 0xd800 ∨ 0xdfff < high then do
        let (text, after) ← stringRest rest
        return (text.map (Char.ofNat high :: ·), after)
      else
        match rest with
        | '\\' :: 'u' :: e :: f :: g :: h :: rest' =>
          match unit? e f g h with
          | some low =>
            if high < 0xdc00 ∧ 0xdc00 ≤ low ∧ low ≤ 0xdfff then do
              let (text, after) ← stringRest rest'
              let c := Char.ofNat (0x10000 + (high - 0xd800) * 1024 + (low - 0xdc00))
              return (text.map (c :: ·), after)
            else do
              let (_, after) ← stringRest ('\\' :: 'u' :: e :: f :: g :: h :: rest')
              return (none, after)
          | none => .error .malformed
        | rest => do
          let (_, after) ← stringRest rest
          return (none, after)
  | '\\' :: c :: rest =>
    match escaped? c with
    | some c => do
      let (text, after) ← stringRest rest
      return (text.map (c :: ·), after)
    | none => .error .malformed
  | c :: rest =>
    if c.toNat < 32 ∨ c = '\\' then .error .malformed
    else do
      let (text, after) ← stringRest rest
      return (text.map (c :: ·), after)
termination_by cs.length

def string : Reader String := fun cs =>
  match skipSpace cs with
  | '"' :: rest => do
    match ← stringRest rest with
    | (some text, after) => return (String.ofList text, after)
    | (none, _) => throw .malformed
  | _ => throw .malformed

def digits1 (cs : List Char) : Option (List Char × List Char) :=
  match cs.takeWhile Char.isDigit with
  | [] => none
  | digits => some (digits, cs.dropWhile Char.isDigit)

def valueOfDigits (digits : List Char) : Nat :=
  digits.foldl (fun n c => 10 * n + (c.toNat - 48)) 0

def number : Reader Json := fun cs =>
  let (sign, body) := match cs with
    | '-' :: rest => (['-'], rest)
    | cs => ([], cs)
  match digits1 body with
  | none => throw .malformed
  | some (whole, rest) =>
    if 1 < whole.length ∧ whole.head? = some '0' then throw .malformed
    else do
      let (fraction, rest) ← match rest with
        | '.' :: rest => match digits1 rest with
          | some (digits, rest) => pure ('.' :: digits, rest)
          | none => throw .malformed
        | rest => pure ([], rest)
      let (exponent, rest) ← match rest with
        | e :: rest' =>
          if e = 'e' ∨ e = 'E' then
            let (mark, rest') := match rest' with
              | '+' :: rest' => ([e, '+'], rest')
              | '-' :: rest' => ([e, '-'], rest')
              | rest' => ([e], rest')
            match digits1 rest' with
            | some (digits, rest) => pure (mark ++ digits, rest)
            | none => throw .malformed
          else pure ([], rest)
        | [] => pure ([], rest)
      if sign ++ fraction ++ exponent = [] then return (.natural (valueOfDigits whole), rest)
      else return (.number (String.ofList (sign ++ whole ++ fraction ++ exponent)), rest)

/-- Drops a word from the front. -/
def word? (word : String) (cs : List Char) : Option (List Char) :=
  if word.toList.isPrefixOf cs then some (cs.drop word.length) else none

mutual
/-- A value, or nothing in its place if one of its texts is broken; `depth` bounds the nesting. -/
def anyValue : (fuel : Nat) → Reader (Option Json)
  | 0, _ => throw .malformed
  | fuel + 1, cs =>
    match skipSpace cs with
    | '"' :: rest => do
      let (text, after) ← stringRest rest
      return (text.map (.string ∘ String.ofList), after)
    | '[' :: rest =>
      match skipSpace rest with
      | ']' :: rest => return (some (.array []), rest)
      | rest => do
        let (items, after) ← anyItems fuel rest
        return (items.map .array, after)
    | '\x7b' :: rest =>
      match skipSpace rest with
      | '\x7d' :: rest => return (some (.object []), rest)
      | rest => do
        let (fields, after) ← anyFields fuel rest
        return (fields.map .object, after)
    | cs =>
      match word? "null" cs, word? "true" cs, word? "false" cs with
      | some rest, _, _ => return (some .null, rest)
      | _, some rest, _ => return (some (.bool true), rest)
      | _, _, some rest => return (some (.bool false), rest)
      | none, none, none => do
        let (value, after) ← number cs
        return (some value, after)

def anyItems : (fuel : Nat) → Reader (Option (List Json))
  | 0, _ => throw .malformed
  | fuel + 1, cs => do
    let (item, rest) ← anyValue fuel cs
    match skipSpace rest with
    | ',' :: rest =>
      let (items, after) ← anyItems fuel rest
      return ((do return (← item) :: (← items)), after)
    | ']' :: rest => return (item.map ([·]), rest)
    | _ => throw .malformed

def anyFields : (fuel : Nat) → Reader (Option (List (String × Json)))
  | 0, _ => throw .malformed
  | fuel + 1, cs =>
    match skipSpace cs with
    | '"' :: rest => do
      let (key, rest) ← stringRest rest
      match skipSpace rest with
      | ':' :: rest =>
        let (value, rest) ← anyValue fuel rest
        let field := do return (String.ofList (← key), ← value)
        match skipSpace rest with
        | ',' :: rest =>
          let (fields, after) ← anyFields fuel rest
          return ((do return (← field) :: (← fields)), after)
        | '\x7d' :: rest => return (field.map ([·]), rest)
        | _ => throw .malformed
      | _ => throw .malformed
    | _ => throw .malformed
end

/-- A value of any kind. Each step of the nesting uses up a character, so that twice their number
is enough fuel. -/
def any : Reader (Option Json) := fun cs => anyValue (2 * cs.length + 1) cs

def value : Reader Json := fun cs => do
  match ← any cs with
  | (some json, rest) => return (json, rest)
  | (none, _) => throw .malformed

def skip : Reader Unit := fun cs => do
  let (_, rest) ← any cs
  return ((), rest)

/-- A value, or nothing where `null` stands. -/
def nullable {α : Type} (reader : Reader α) : Reader (Option α) := fun cs =>
  match word? "null" (skipSpace cs) with
  | some rest => return (none, rest)
  | none => do
    let (a, rest) ← reader cs
    return (some a, rest)

def itemsRest {α : Type} (reader : Reader α) : (fuel : Nat) → Reader (List α)
  | 0, _ => throw .malformed
  | fuel + 1, cs => do
    let (item, rest) ← reader cs
    match skipSpace rest with
    | ',' :: rest =>
      let (items, after) ← itemsRest reader fuel rest
      return (item :: items, after)
    | ']' :: rest => return ([item], rest)
    | _ => throw .malformed

def list {α : Type} (reader : Reader α) : Reader (List α) := fun cs =>
  match skipSpace cs with
  | '[' :: rest =>
    match skipSpace rest with
    | ']' :: rest => return ([], rest)
    | rest => itemsRest reader (rest.length + 1) rest
  | _ => throw .malformed

def valueOf {α : Type} (reader : Reader α) : Reader α := fun cs =>
  match skipSpace cs with
  | ':' :: rest => reader rest
  | _ => throw .malformed

/-- One step of reading a record: the part read so far, a key, and the characters behind the key. -/
abbrev FieldReader (σ : Type) := σ → String → Reader σ

def fieldsRest {σ : Type} (field : FieldReader σ) : (fuel : Nat) → σ → Reader σ
  | 0, _, _ => throw .malformed
  | fuel + 1, part, cs => do
    let (key, rest) ← string cs
    let (part, rest) ← field part key rest
    match skipSpace rest with
    | ',' :: rest => fieldsRest field fuel part rest
    | '\x7d' :: rest => return (part, rest)
    | _ => throw .malformed

def fields {σ : Type} (field : FieldReader σ) (start : σ) : Reader σ := fun cs =>
  match skipSpace cs with
  | '\x7b' :: rest =>
    match skipSpace rest with
    | '\x7d' :: rest => return (start, rest)
    | rest => fieldsRest field (rest.length + 1) start rest
  | _ => throw .malformed

/-- Sets a field that must not have been set before. -/
def once {σ α : Type} (name : String) (old : Option α) (reader : Reader α) (set : α → σ) :
    Reader σ := fun cs =>
  if old.isSome then throw (.duplicateField name)
  else do
    let (a, rest) ← valueOf reader cs
    return (set a, rest)

def ignored {σ : Type} (part : σ) : Reader σ := fun cs => do
  let (_, rest) ← valueOf skip cs
  return (part, rest)

/-- A field that must have been given. -/
def required {α : Type} (name : String) : Option α → Except Fault α
  | some a => .ok a
  | none => .error (.missingField name)

def ofText {α : Type} (reader : Reader α) (text : String) : Except Fault α := do
  let (a, rest) ← reader text.toList
  if (skipSpace rest).isEmpty then return a else throw .malformed

end LayerMessaging.Json.Reader
