import LayerMessaging.Environment
import LayerMessaging.EnvFile.Line
import LayerMessaging.Text.Alphanumeric

namespace LayerMessaging.EnvFile

def isNameStart (c : Char) : Bool := c.isAlpha || c = '_'

def isNameChar (c : Char) : Bool := c.isAlphanum || c = '_' || c = '.'

/-- A position in a line: how many bytes were read, and what follows. -/
structure Cursor where
  position : Nat
  rest : List Char

def Cursor.skip (cursor : Cursor) (p : Char → Bool) : Cursor :=
  ⟨cursor.position + (Text.utf8Chars (cursor.rest.takeWhile p)).length, cursor.rest.dropWhile p⟩

def Cursor.name? (cursor : Cursor) : Option (String × Cursor) :=
  if cursor.rest.head?.any isNameStart then
    some (String.ofList (cursor.rest.takeWhile isNameChar), cursor.skip isNameChar)
  else none

def Cursor.equals? (cursor : Cursor) : Option Cursor :=
  match cursor.rest with
  | '=' :: rest => some ⟨cursor.position + 1, rest⟩
  | _ => none

inductive Reference where
  | none
  /-- Behind a dollar sign. -/
  | bare (name : List Char)
  /-- Behind a dollar sign and an opening brace. -/
  | braced (name : List Char)
  deriving DecidableEq

/-- A value that is read up to some character. -/
structure Value where
  strong : Bool
  weak : Bool
  escaped : Bool
  /-- Whether only blanks and a comment may follow. -/
  ending : Bool
  reference : Reference
  output : List Char

def Value.start : Value := ⟨false, false, false, false, .none, []⟩

/-- The value of a variable, nothing if there is none. The parser's own table of the entries read so
far needs no place here: it asks the environment first, and every entry is set there before the next
line is read, so that the table holds nothing that the environment does not. -/
def expand (env : Environment) (name : List Char) : List Char :=
  ((env.get? (String.ofList name)).getD "").toList

def Value.push (v : Value) (c : Char) : Value := { v with output := v.output ++ [c] }

/-- The value behind one more character, unless the character must not stand there. A comment, which
ends the value, is not told apart here. -/
def Value.next? (env : Environment) (v : Value) (c : Char) : Option Value :=
  if v.ending then if c = ' ' ∨ c = '\t' then some v else none
  else if v.escaped then
    let v := { v with escaped := false }
    if c = '\\' ∨ c = '\'' ∨ c = '"' ∨ c = '$' ∨ c = ' ' then some (v.push c)
    else if c = 'n' then some (v.push '\n')
    else none
  else if v.strong then some (if c = '\'' then { v with strong := false } else v.push c)
  else
    match v.reference with
    | .bare name =>
      if Text.isAlphanumeric c then some { v with reference := .bare (name ++ [c]) }
      else if c = '\x7b' ∧ name = [] then some { v with reference := .braced [] }
      else
        let v := { v with output := v.output ++ expand env name }
        some (if c = '$' then { v with reference := .bare [] }
          else { v with reference := .none }.push c)
    | .braced name =>
      if c = '\x7d' then some { v with reference := .none, output := v.output ++ expand env name }
      else some { v with reference := .braced (name ++ [c]) }
    | .none =>
      some <|
        if c = '$' then { v with reference := .bare [] }
        else if v.weak then
          if c = '"' then { v with weak := false }
          else if c = '\\' then { v with escaped := true }
          else v.push c
        else if c = '\'' then { v with strong := true }
        else if c = '"' then { v with weak := true }
        else if c = '\\' then { v with escaped := true }
        else if c = ' ' ∨ c = '\t' then { v with ending := true }
        else v.push c

/-- The finished value, unless a quote or a brace is still open. -/
def Value.finish? (env : Environment) (v : Value) : Option (List Char) :=
  if v.strong ∨ v.weak then none
  else
    match v.reference with
    | .none => some v.output
    | .bare name => some (v.output ++ expand env name)
    | .braced _ => none

def readValue (env : Environment) (whole : List Char) :
    List Char → (index : Nat) → Value → Except Error (List Char)
  | [], _, v =>
    match v.finish? env with
    | some output => .ok output
    | none => .error (.malformedLine (String.ofList whole) ((Text.utf8Chars whole).length - 1))
  | c :: rest, index, v =>
    if v.ending ∧ c = '#' then readValue env whole [] index v
    else
      match v.next? env c with
      | some v => readValue env whole rest (index + 1) v
      | none => .error (.malformedLine (String.ofList whole) index)

/-- Reads a line: nothing in a blank line or a comment, and a name with its value in any other. The
word `export` may stand in front. -/
def readEntry (env : Environment) (line : List Char) : Except Error (Option (String × String)) :=
  let fault (cursor : Cursor) : Except Error (Option (String × String)) :=
    .error (.malformedLine (String.ofList line) cursor.position)
  let cursor := (⟨0, Text.trimEndChars line⟩ : Cursor).skip Text.isBlank
  if cursor.rest = [] ∨ cursor.rest.head? = some '#' then .ok none
  else
    let finish (name : String) (cursor : Cursor) : Except Error (Option (String × String)) :=
      let cursor := cursor.skip Text.isBlank
      match cursor.equals? with
      | none => fault cursor
      | some cursor =>
        let cursor := cursor.skip Text.isBlank
        if cursor.rest = [] ∨ cursor.rest.head? = some '#' then .ok (some (name, ""))
        else do
          let value ← readValue env cursor.rest cursor.rest 0 .start
          return some (name, String.ofList value)
    match cursor.name? with
    | none => fault cursor
    | some (name, behind) =>
      let next := behind.skip Text.isBlank
      if name = "export" ∧ next.equals?.isNone then
        match next.name? with
        | none => fault next
        | some (name, behind) => finish name behind
      else finish name behind

end LayerMessaging.EnvFile
