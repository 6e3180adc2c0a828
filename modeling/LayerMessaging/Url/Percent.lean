import LayerMessaging.Text.Utf8

namespace LayerMessaging.Percent

/-- The ASCII characters, besides the controls, that a part of a URL encodes. -/
abbrev EncodeSet := List Char

def fragmentSet : EncodeSet := [' ', '"', '<', '>', '\x60']

def querySet : EncodeSet := [' ', '"', '#', '<', '>']

def specialQuerySet : EncodeSet := querySet ++ ['\'']

def pathSet : EncodeSet := fragmentSet ++ ['#', '?', '\x7b', '\x7d']

def userinfoSet : EncodeSet :=
  pathSet ++ ['/', ':', ';', '=', '@', '[', '\\', ']', '^', '|']

def controlSet : EncodeSet := []

/-- A byte as a percent sign and two upper-case digits. -/
def encodeByte (b : UInt8) : List Char :=
  ['%', (Nat.digitChar (b.toNat / 16)).toUpper, (Nat.digitChar (b.toNat % 16)).toUpper]

def encodeChar (set : EncodeSet) (c : Char) : List Char :=
  if c.toNat < 32 ∨ 127 ≤ c.toNat ∨ set.contains c then (Text.utf8Chars [c]).flatMap encodeByte
  else [c]

def encode (set : EncodeSet) (cs : List Char) : List Char := cs.flatMap (encodeChar set)

def digit? (b : UInt8) : Option Nat :=
  let n := b.toNat
  if 48 ≤ n ∧ n ≤ 57 then some (n - 48)
  else if 97 ≤ n ∧ n ≤ 102 then some (n - 87)
  else if 65 ≤ n ∧ n ≤ 70 then some (n - 55)
  else none

/-- The bytes that a text encodes; a percent sign without two digits stands for itself. -/
def decode (bytes : Bytes) : Bytes :=
  match bytes with
  | [] => []
  | b :: rest =>
    match b, rest with
    | 37, high :: low :: rest' =>
      match digit? high, digit? low with
      | some h, some l => UInt8.ofNat (16 * h + l) :: decode rest'
      | _, _ => 37 :: decode (high :: low :: rest')
    | b, rest => b :: decode rest
termination_by bytes.length

end LayerMessaging.Percent
