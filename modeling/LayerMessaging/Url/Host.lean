import LayerMessaging.Url.Domain
import LayerMessaging.Url.Error
import LayerMessaging.Url.Percent

namespace LayerMessaging.Url

inductive Host where
  | name (text : String)
  | ipv4 (address : Nat)
  | ipv6 (pieces : List Nat)
  deriving DecidableEq, Repr

namespace Host

/-- A part of an address of four bytes: a number in radix 10, behind `0` in radix 8, behind `0x` in
radix 16. The prefix alone is zero. -/
def ipv4Number? (part : List Char) : Option Nat :=
  let digits (radix : Nat) (cs : List Char) : Option Nat :=
    cs.foldlM (fun n c => do
      let d ← Percent.digit? (UInt8.ofNat c.toNat)
      if d < radix ∧ c.toNat < 128 then some (radix * n + d) else none) 0
  match part with
  | [] => none
  | '0' :: 'x' :: rest => digits 16 rest
  | '0' :: 'X' :: rest => digits 16 rest
  | '0' :: d :: rest => digits 8 (d :: rest)
  | part => digits 10 part

/-- The parts of a name between dots; an empty one at the end does not count. -/
def ipv4Parts (name : List Char) : List (List Char) :=
  let parts := Text.splitChars (· = '.') name
  if parts.getLast? = some [] then parts.dropLast else parts

def endsInNumber (name : List Char) : Bool :=
  match (ipv4Parts name).getLast? with
  | none => false
  | some last => (!last.isEmpty && last.all Char.isDigit) || (ipv4Number? last).isSome

/-- An address of up to four parts, the last of which fills the bytes that are left. -/
def ipv4? (name : List Char) : Option Nat := do
  let parts := ipv4Parts name
  if 4 < parts.length then none
  let numbers ← parts.mapM ipv4Number?
  let last ← numbers.getLast?
  let front := numbers.dropLast
  if front.any (255 < ·) ∨ Bytes.limit (4 - front.length) ≤ last then none
  return (front.foldl (fun n part => 256 * n + part) 0) * Bytes.limit (4 - front.length) + last

/-- The number of hexadecimal digits at the front, at most `left`, their value, and what follows. -/
def piece : (left : Nat) → List Char → (count value : Nat) → Nat × Nat × List Char
  | left + 1, c :: rest, count, value =>
    match if c.toNat < 128 then Percent.digit? (UInt8.ofNat c.toNat) else none with
    | some d => piece left rest (count + 1) (16 * value + d)
    | none => (count, value, c :: rest)
  | _, cs, count, value => (count, value, cs)

def ipv4Byte? (part : List Char) : Option Nat :=
  if part.isEmpty ∨ 3 < part.length ∨ !part.all Char.isDigit then none
  else if 1 < part.length ∧ part.head? = some '0' then none
  else
    let value := part.foldl (fun n c => 10 * n + (c.toNat - 48)) 0
    if value ≤ 255 then some value else none

def ipv4Tail? (cs : List Char) : Option (List Nat) := do
  match ← (Text.splitChars (· = '.') cs).mapM ipv4Byte? with
  | [a, b, c, d] => some [256 * a + b, 256 * c + d]
  | _ => none

/-- The pieces of an address and how many of them stand before the double colon, if there is one.
Every round takes at least one character. -/
def pieces? : (fuel : Nat) → List Char → (pieces : List Nat) → (gap : Option Nat)
    → Option (List Nat × Option Nat)
  | 0, _, _, _ => none
  | fuel + 1, cs, pieces, gap =>
    match cs with
    | [] => some (pieces, gap)
    | ':' :: rest =>
      if 8 ≤ pieces.length + gap.toList.length ∨ gap.isSome then none
      else pieces? fuel rest pieces (some pieces.length)
    | cs =>
      if 8 ≤ pieces.length + gap.toList.length then none
      else
        match piece 4 cs 0 0 with
        | (0, _, _) => none
        | (_, value, []) => some (pieces ++ [value], gap)
        | (_, value, ':' :: rest) =>
          if rest.isEmpty then none else pieces? fuel rest (pieces ++ [value]) gap
        | (_, _, '.' :: _) =>
          if 6 < pieces.length + gap.toList.length then none
          else do
            let tail ← ipv4Tail? cs
            return (pieces ++ tail, gap)
        | _ => none

def ipv6? (cs : List Char) : Option (List Nat) := do
  let (pieces, gap) ← match cs with
    | ':' :: ':' :: rest => pieces? (cs.length + 1) rest [] (some 0)
    | ':' :: _ => none
    | [] => none
    | cs => pieces? (cs.length + 1) cs [] none
  match gap with
  | none => if pieces.length = 8 then some pieces else none
  | some place =>
    if 8 < pieces.length then none
    else some (pieces.take place ++ List.replicate (8 - pieces.length) 0 ++ pieces.drop place)

def parse (cs : List Char) : Except Error Host :=
  match cs with
  | '[' :: rest =>
    if rest.getLast? = some ']' then
      match ipv6? rest.dropLast with
      | some pieces => .ok (.ipv6 pieces)
      | none => .error .invalidIpv6
    else .error .invalidIpv6
  | cs =>
    match Domain.toAscii (Percent.decode (Text.utf8Chars cs)) with
    | none => .error .invalidDomainName
    | some [] => .error .emptyHost
    | some domain =>
      if endsInNumber domain then
        match ipv4? domain with
        | some address => .ok (.ipv4 address)
        | none => .error .invalidIpv4
      else .ok (.name (String.ofList domain))

def isForbidden (c : Char) : Bool :=
  c = '\x00' || c = '\t' || c = '\n' || c = '\r' || " #/:<>?@[\\]^|".toList.contains c

/-- The host of any other scheme. -/
def parseOpaque (cs : List Char) : Except Error Host :=
  match cs with
  | '[' :: _ => parse cs
  | cs =>
    if cs.any isForbidden then .error .invalidDomainCharacter
    else .ok (.name (String.ofList (Percent.encode Percent.controlSet cs)))

def ipv4Text (address : Nat) : List Char :=
  List.intercalate ['.'] ([3, 2, 1, 0].map fun i => Nat.toDigits 10 (address / Bytes.limit i % 256))

def zeroRun (pieces : List Nat) : Nat := (pieces.takeWhile (· = 0)).length

/-- The start and the length of the longest run of at least two zeros, the first of equals. -/
def longestRun (pieces : List Nat) : Option (Nat × Nat) :=
  (List.range 8).foldl (fun best i =>
    let run := zeroRun (pieces.drop i)
    if run < 2 then best
    else match best with
      | some (_, length) => if length < run then some (i, run) else best
      | none => some (i, run)) none

def piecesText (pieces : List Nat) : List Char :=
  List.intercalate [':'] (pieces.map (Nat.toDigits 16))

/-- The pieces between colons, the longest run of zeros left out. -/
def ipv6Text (pieces : List Nat) : List Char :=
  match longestRun pieces with
  | none => piecesText pieces
  | some (start, length) =>
    piecesText (pieces.take start) ++ [':', ':'] ++ piecesText (pieces.drop (start + length))

def chars : Host → List Char
  | .name text => text.toList
  | .ipv4 address => ipv4Text address
  | .ipv6 pieces => '[' :: ipv6Text pieces ++ [']']

end Host

end LayerMessaging.Url
