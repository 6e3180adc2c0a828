import LayerMessaging.Json.Reader
import LayerMessaging.Text.Utf8

namespace LayerMessaging.Json.Leftover

/-- Drops the character at which a reader gave up. Readers go by bytes, so that beyond ASCII a part
of the character is left. -/
def behind (c : Char) (rest : List Char) : List Char := if c.toNat < 128 then rest else c :: rest

/-- Drops a number of bytes; a character of which a part is left is kept. -/
def dropBytes : (count : Nat) → List Char → List Char
  | 0, cs => cs
  | _, [] => []
  | count, c :: rest =>
    if count < c.utf8Size then c :: rest else dropBytes (count - c.utf8Size) rest
termination_by _ cs => cs.length

/-- Behind the letters of a word, up to the first other one. -/
def ofWord : (word : List Char) → List Char → List Char
  | [], cs => cs
  | _, [] => []
  | w :: word, c :: rest => if c = w then ofWord word rest else behind c rest

/-- Behind the digits of an exponent. A value out of range is seen at the digit that makes the
exponent itself too large. -/
def ofExponentDigits (grows : Bool) (value : Nat) : List Char → List Char
  | [] => []
  | c :: rest =>
    if c.isDigit then
      let value := 10 * value + (c.toNat - 48)
      if grows && 2147483647 < value then rest else ofExponentDigits grows value rest
    else c :: rest

def ofExponent (isZero : Bool) (cs : List Char) : List Char :=
  let (grows, digits) := match cs with
    | '+' :: rest => (!isZero, rest)
    | '-' :: rest => (false, rest)
    | cs => (!isZero, cs)
  match digits with
  | [] => []
  | c :: rest => if c.isDigit then ofExponentDigits grows 0 (c :: rest) else behind c rest

/-- Behind fraction and exponent, given the digits before them; absent where there is neither. -/
def ofFraction? (whole : List Char) (cs : List Char) : Option (List Char) :=
  let isExponent (c : Char) : Bool := c = 'e' || c = 'E'
  match cs with
  | '.' :: rest =>
    let digits := rest.takeWhile Char.isDigit
    match rest.dropWhile Char.isDigit with
    | c :: behind =>
      if isExponent c && !digits.isEmpty then
        some (ofExponent ((whole ++ digits).all (· = '0')) behind)
      else some (c :: behind)
    | [] => some []
  | c :: rest => if isExponent c then some (ofExponent (whole.all (· = '0')) rest) else none
  | [] => none

def wholeDigits (cs : List Char) : List Char × List Char :=
  match cs with
  | '0' :: rest => (['0'], rest)
  | cs => (cs.takeWhile Char.isDigit, cs.dropWhile Char.isDigit)

def ofNegative (cs : List Char) : List Char :=
  match wholeDigits cs, cs with
  | ([], _), c :: rest => behind c rest
  | (whole, rest), _ => (ofFraction? whole rest).getD rest

mutual
/-- Behind a string, whose first quote is dropped already. -/
def ofString : (fuel : Nat) → List Char → List Char
  | 0, _ => []
  | _, [] => []
  | fuel + 1, c :: rest =>
    if c = '"' then rest
    else if c = '\\' then ofEscape fuel rest
    else if c.toNat < 32 then rest
    else ofString fuel rest

def ofEscape : (fuel : Nat) → List Char → List Char
  | 0, _ => []
  | _, [] => []
  | fuel + 1, c :: rest =>
    if c = 'u' then
      match hexUnit? rest with
      | none => dropBytes 4 rest
      | some (high, rest) =>
        if 0xdc00 ≤ high ∧ high ≤ 0xdfff then rest
        else if 0xd800 ≤ high ∧ high < 0xdc00 then
          match rest with
          | '\\' :: 'u' :: rest => match hexUnit? rest with
            | none => dropBytes 4 rest
            | some (low, rest) =>
              if 0xdc00 ≤ low ∧ low ≤ 0xdfff then ofString fuel rest else rest
          | '\\' :: c :: rest => behind c rest
          | ['\\'] => []
          | c :: rest => behind c rest
          | [] => []
        else ofString fuel rest
    else if (Reader.escaped? c).isSome then ofString fuel rest
    else behind c rest
where
  hexUnit? : List Char → Option (Nat × List Char)
    | a :: b :: c :: d :: rest => (Reader.unit? a b c d).map (·, rest)
    | _ => none
end

/-- Behind a value that is no byte. A list or an object is not even begun. Absent for a byte. -/
def ofNoByte? (cs : List Char) : Option (List Char) :=
  match cs with
  | '-' :: rest => some (ofNegative rest)
  | '"' :: rest => some (ofString (2 * rest.length + 1) rest)
  | 'n' :: rest => some (ofWord "ull".toList rest)
  | 't' :: rest => some (ofWord "rue".toList rest)
  | 'f' :: rest => some (ofWord "alse".toList rest)
  | cs =>
    match wholeDigits cs with
    | ([], rest) => some rest
    | (whole, rest) =>
      match ofFraction? whole rest with
      | some rest => some rest
      | none =>
        if rest.head?.any Char.isDigit || 255 < Reader.valueOfDigits whole then some rest else none

end LayerMessaging.Json.Leftover
