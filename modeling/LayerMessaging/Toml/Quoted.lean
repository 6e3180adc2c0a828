import LayerMessaging.Toml.Basic

namespace LayerMessaging.Toml.Reader

def hexValue? (digits : List Char) : Option Nat :=
  digits.foldlM (fun n c =>
    if '0' ≤ c ∧ c ≤ '9' then some (16 * n + (c.toNat - 48))
    else if 'a' ≤ c ∧ c ≤ 'f' then some (16 * n + (c.toNat - 87))
    else if 'A' ≤ c ∧ c ≤ 'F' then some (16 * n + (c.toNat - 55))
    else none) 0

def charOf? (n : Nat) : Option Char := if h : n.isValidChar then some (Char.ofNatAux n h) else none

/-- A character by its number, in exactly `count` digits. -/
def numbered (count : Nat) (rest : List Char) : Option (Char × List Char) :=
  if rest.length < count then none
  else do return (← charOf? (← hexValue? (rest.take count)), rest.drop count)

def escape? (cs : List Char) : Option (Char × List Char) :=
  match cs with
  | 'b' :: rest => some ('\x08', rest)
  | 't' :: rest => some ('\t', rest)
  | 'n' :: rest => some ('\n', rest)
  | 'f' :: rest => some ('\x0c', rest)
  | 'r' :: rest => some ('\r', rest)
  | '"' :: rest => some ('"', rest)
  | '\\' :: rest => some ('\\', rest)
  | 'u' :: rest => numbered 4 rest
  | 'U' :: rest => numbered 8 rest
  | _ => none

def basicRest : (fuel : Nat) → List Char → (text : List Char) → Option (String × List Char)
  | 0, _, _ => none
  | fuel + 1, cs, text =>
    match cs with
    | [] => none
    | '"' :: rest => some (String.ofList text.reverse, rest)
    | '\\' :: rest => do
      let (c, rest) ← escape? rest
      basicRest fuel rest (c :: text)
    | c :: rest => if isPlain c then basicRest fuel rest (c :: text) else none

def literalRest (cs : List Char) : Option (String × List Char) :=
  let text := cs.takeWhile fun c => isPlain c && c ≠ '\''
  match cs.drop text.length with
  | '\'' :: rest => some (String.ofList text, rest)
  | _ => none

/-- Up to two quotes may stand in front of the three that close a text over several lines. -/
def closing (quote : Char) (cs : List Char) : Option (Nat × List Char) :=
  let run := (cs.takeWhile (· = quote)).length
  if run < 3 then none else some (min (run - 3) 2, cs.drop (min (run - 3) 2 + 3))

/-- Drops white space with its line breaks; every round takes at least one character. -/
def skipWhite : (fuel : Nat) → List Char → List Char
  | 0, cs => cs
  | fuel + 1, cs =>
    match lineBreak? (skipSpace cs) with
    | some rest => skipWhite fuel rest
    | none => skipSpace cs

/-- Behind a backslash at the end of a line, all white space up to the next character is dropped. -/
def continuation? (fuel : Nat) (cs : List Char) : Option (List Char) :=
  (lineBreak? (skipSpace cs)).map (skipWhite fuel)

/-- The rest of a text over several lines. Line breaks are read as line feeds. -/
def linesRest (quote : Char) : (fuel : Nat) → List Char → (text : List Char)
    → Option (String × List Char)
  | 0, _, _ => none
  | fuel + 1, cs, text =>
    match cs with
    | [] => none
    | c :: rest =>
      if c = quote then
        match closing quote cs with
        | some (extra, rest) =>
          some (String.ofList (List.replicate extra quote ++ text).reverse, rest)
        | none => linesRest quote fuel rest (c :: text)
      else if c = '\\' ∧ quote = '"' then
        match continuation? fuel rest with
        | some rest => linesRest quote fuel rest text
        | none => do
          let (c, rest) ← escape? rest
          linesRest quote fuel rest (c :: text)
      else
        match lineBreak? cs with
        | some rest => linesRest quote fuel rest ('\n' :: text)
        | none => if isPlain c then linesRest quote fuel rest (c :: text) else none

def dropFirstBreak (cs : List Char) : List Char := (lineBreak? cs).getD cs

def lineText : Reader String := fun cs =>
  match cs with
  | '"' :: rest => basicRest (rest.length + 1) rest []
  | '\'' :: rest => literalRest rest
  | _ => none

def quotedText : Reader String := fun cs =>
  match cs with
  | '"' :: '"' :: '"' :: rest => linesRest '"' (rest.length + 1) (dropFirstBreak rest) []
  | '\'' :: '\'' :: '\'' :: rest => linesRest '\'' (rest.length + 1) (dropFirstBreak rest) []
  | cs => lineText cs

end LayerMessaging.Toml.Reader
