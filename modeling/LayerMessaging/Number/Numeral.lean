import LayerMessaging.Text.Utf8

namespace LayerMessaging.Numeral

inductive Error where
  | empty
  | invalidDigit (code : Nat)
  | overflow
  deriving Repr, DecidableEq

def digit? (radix : Nat) (b : UInt8) : Option Nat :=
  let code := b.toNat
  let value :=
    if 48 ≤ code ∧ code ≤ 57 then code - 48
    else if 97 ≤ code ∧ code ≤ 122 then code - 87
    else if 65 ≤ code ∧ code ≤ 90 then code - 55
    else radix
  if value < radix then some value else none

/-- Decimal digits from the first to the last; the first that is wrong or makes the value reach the
bound decides. -/
def decimalFrom (bound : Nat) : Bytes → Nat → Except Error Nat
  | [], value => .ok value
  | b :: rest, value =>
    match digit? 10 b with
    | none => .error (.invalidDigit b.toNat)
    | some d =>
      if bound ≤ 10 * value + d then .error .overflow
      else decimalFrom bound rest (10 * value + d)

/-- A plain decimal numeral, with an optional plus sign. -/
def plain (bound : Nat) (text : String) : Except Error Nat :=
  match Text.utf8 text with
  | [] => .error .empty
  | 43 :: b :: rest => decimalFrom bound (b :: rest) 0
  | bytes => decimalFrom bound bytes 0

def isGrouping (b : UInt8) : Bool := b = 95

/-- How many decimal digits always fit in 64 bits. -/
def groupSize : Nat := 19

/-- Decimal digits from the first to the last, gathered in groups of `groupSize`: a wrong digit is
reported where it stands, a value that has reached the bound only where a group or the text ends. -/
def gathered (bound : Nat) : Bytes → (size value : Nat) → Except Error Nat
  | [], _, value => if bound ≤ value then .error .overflow else .ok value
  | b :: rest, size, value =>
    match digit? 10 b with
    | none => .error (.invalidDigit b.toNat)
    | some d =>
      if size + 1 < groupSize then gathered bound rest (size + 1) (10 * value + d)
      else if bound ≤ 10 * value + d then .error .overflow
      else gathered bound rest 0 (10 * value + d)

/-- Digits from the last to the first, each with its weight. -/
def weighted (bound radix : Nat) : Bytes → (weight value : Nat) → Except Error Nat
  | [], _, value => .ok value
  | b :: rest, weight, value =>
    match digit? radix b with
    | none => .error (.invalidDigit b.toNat)
    | some d =>
      if bound ≤ value + d * weight then .error .overflow
      else weighted bound radix rest (weight * radix) (value + d * weight)

/-- The radix that the prefix chooses, and the digits behind it. -/
def radixOf : Bytes → Nat × Bytes
  | 48 :: 120 :: rest => (16, rest)
  | 48 :: 88 :: rest => (16, rest)
  | 48 :: 111 :: rest => (8, rest)
  | 48 :: 79 :: rest => (8, rest)
  | 48 :: 98 :: rest => (2, rest)
  | 48 :: 66 :: rest => (2, rest)
  | bytes => (10, bytes)

/-- A numeral of any radix. Decimal digits are read from the first to the last, the digits behind a
prefix from the last to the first, and of two faults the one found first is reported. No digits at
all are zero. -/
def prefixed (bound : Nat) (text : String) : Except Error Nat :=
  match radixOf (Text.utf8 text) with
  | (10, digits) => gathered bound (digits.filter (! isGrouping ·)) 0 0
  | (radix, digits) => weighted bound radix (digits.filter (! isGrouping ·)).reverse 1 0

theorem lt_of_gathered {bound : Nat} {bytes : Bytes} {size value n : Nat}
    (h : gathered bound bytes size value = .ok n) : n < bound := by
  induction bytes generalizing size value with
  | nil =>
    rw [gathered] at h
    split at h
    · cases h
    · cases h; omega
  | cons b rest ih =>
    rw [gathered] at h
    split at h
    · cases h
    · split at h
      · exact ih h
      · split at h
        · cases h
        · exact ih h

theorem lt_of_weighted {bound radix : Nat} {bytes : Bytes} {weight value n : Nat}
    (hv : value < bound) (h : weighted bound radix bytes weight value = .ok n) : n < bound := by
  induction bytes generalizing weight value with
  | nil => cases h; exact hv
  | cons b rest ih =>
    rw [weighted] at h
    split at h
    · cases h
    · split at h
      · cases h
      · exact ih (by omega) h

theorem lt_of_prefixed {bound : Nat} {text : String} {n : Nat} (hb : 0 < bound)
    (h : prefixed bound text = .ok n) : n < bound := by
  rw [prefixed] at h
  split at h
  · exact lt_of_gathered h
  · exact lt_of_weighted hb h

end LayerMessaging.Numeral
