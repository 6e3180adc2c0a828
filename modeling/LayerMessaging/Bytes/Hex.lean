import LayerMessaging.Text.Quoted
import LayerMessaging.Text.Utf8

namespace LayerMessaging.Hex

def digit (n : Nat) : Char :=
  if n < 10 then Char.ofNat (48 + n) else Char.ofNat (87 + n)

def digitValue? (code : Nat) : Option Nat :=
  if 48 ≤ code ∧ code ≤ 57 then some (code - 48)
  else if 97 ≤ code ∧ code ≤ 102 then some (code - 87)
  else if 65 ≤ code ∧ code ≤ 70 then some (code - 55)
  else none

def digits (bytes : Bytes) : List Char :=
  bytes.flatMap fun b => [digit (b.toNat / 16), digit (b.toNat % 16)]

def encode (bytes : Bytes) : String := String.ofList (digits bytes)

def encodeMarked (bytes : Bytes) : String := "0x" ++ encode bytes

/-- The digits of a number behind the marker `0x`, without leading zeros. -/
def quantity (n : Nat) : String :=
  "0x" ++ String.ofList (Nat.toDigits 16 n)

inductive Error where
  | oddLength
  | wrongLength
  | invalidCharacter (code : Nat) (position : Nat)
  deriving Repr, DecidableEq

/-- A byte that is no digit is shown as the character of that number. -/
def Error.message : Error → String
  | .oddLength => "odd number of digits"
  | .wrongLength => "invalid string length"
  | .invalidCharacter code position =>
    "invalid character " ++ Text.quoteChar (Char.ofNat code) ++ " at position " ++ toString position

/-- The marker in front of the digits may be written `0x` or `0X`, or left out. -/
def dropMarker : Bytes → Bytes
  | 48 :: 120 :: rest => rest
  | 48 :: 88 :: rest => rest
  | bytes => bytes

def firstInvalid? (text : Bytes) (position : Nat) : Option (Nat × Nat) :=
  match text with
  | [] => none
  | b :: rest =>
    if (digitValue? b.toNat).isSome then firstInvalid? rest (position + 1)
    else some (b.toNat, position)

def digitOrZero (b : UInt8) : Nat := (digitValue? b.toNat).getD 0

/-- Pairs of digits as bytes; a last odd digit is dropped. -/
def pairs : Bytes → Bytes
  | high :: low :: rest => UInt8.ofNat (16 * digitOrZero high + digitOrZero low) :: pairs rest
  | _ => []

/-- Reads exactly `size` bytes. An odd number of digits is reported before a wrong one, and both
before a character that is no digit. -/
def decodeExact (size : Nat) (text : String) : Except Error Bytes :=
  let body := dropMarker (Text.utf8 text)
  if body.length % 2 = 1 then .error .oddLength
  else if body.length ≠ 2 * size then .error .wrongLength
  else match firstInvalid? body 0 with
    | some (code, position) => .error (.invalidCharacter code position)
    | none => .ok (pairs body)

theorem length_pairs (text : Bytes) : (pairs text).length = text.length / 2 := by
  fun_induction pairs text with
  | case1 high low rest ih => simp [ih]; omega
  | case2 text h =>
    match text, h with
    | [], _ => rfl
    | [_], _ => simp
    | a :: b :: r, h => exact absurd rfl (h a b r)

theorem length_of_decodeExact {size : Nat} {text : String} {bytes : Bytes}
    (h : decodeExact size text = .ok bytes) : bytes.length = size := by
  simp only [decodeExact] at h
  split at h
  · cases h
  · split at h
    · cases h
    · split at h
      · cases h
      · cases h
        rw [length_pairs]
        omega

end LayerMessaging.Hex
