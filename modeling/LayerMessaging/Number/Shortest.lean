import LayerMessaging.Number.Binary64

namespace LayerMessaging.Binary64

structure Decimal where
  digits : Nat
  exponent : Int

/-- Twice the magnitude in units, and twice the two points halfway to its neighbours. -/
structure Interval where
  low : Nat
  twice : Nat
  high : Nat
  closed : Bool

/-- The magnitudes that round to the given finite magnitude bits. -/
def interval (bits : Nat) : Interval where
  low := unitsOfBits (bits - 1) + unitsOfBits bits
  twice := 2 * unitsOfBits bits
  high := unitsOfBits bits + unitsOfBits (bits + 1)
  closed := bits % 2 = 0

def Interval.contains (i : Interval) (d : Decimal) : Bool :=
  let point := 2 * one * d.digits * Nat.pow 10 d.exponent.toNat
  let scale := Nat.pow 10 (-d.exponent).toNat
  if i.closed then i.low * scale ≤ point && point ≤ i.high * scale
  else i.low * scale < point && point < i.high * scale

/-- The nearer of the value's two neighbours among the multiples of `10 ^ exponent`, if one of them
lies in the interval; of two equally near the larger. -/
def Interval.nearest? (i : Interval) (exponent : Int) : Option Decimal :=
  let num := i.twice * Nat.pow 10 (-exponent).toNat
  let den := 2 * one * Nat.pow 10 exponent.toNat
  let below : Decimal := ⟨num / den, exponent⟩
  let above : Decimal := ⟨num / den + 1, exponent⟩
  let up := den ≤ 2 * (num % den)
  match i.contains below, i.contains above with
  | true, true => some (if up then above else below)
  | true, false => some below
  | false, true => some above
  | false, false => none

def leadingExponent (units : Nat) : Int :=
  if one ≤ units then (Nat.toDigits 10 (units / one)).length - 1
  else -((Nat.toDigits 10 ((one - 1) / units)).length : Int)

/-- The first of the grids, from coarse to fine, that has a point in the interval. -/
def Interval.search (i : Interval) : (grids : Nat) → (exponent : Int) → Decimal
  | 0, exponent => ⟨i.twice * Nat.pow 10 (-exponent).toNat / (2 * one), exponent⟩
  | grids + 1, exponent =>
    match i.nearest? exponent with
    | some d => d
    | none => i.search grids (exponent - 1)

/-- Moves the zeros at the end of the digits into the exponent. -/
def Decimal.strip (fuel : Nat) (d : Decimal) : Decimal :=
  match fuel with
  | 0 => d
  | fuel + 1 =>
    if d.digits ≠ 0 ∧ d.digits % 10 = 0 then Decimal.strip fuel ⟨d.digits / 10, d.exponent + 1⟩
    else d

/-- The shortest decimal that rounds to the given positive finite magnitude bits. -/
def shortest (bits : Nat) : Decimal :=
  ((interval bits).search 20 (leadingExponent (unitsOfBits bits) + 1)).strip 20

/-- The digits with the point where the exponent puts it. -/
def Decimal.positional (d : Decimal) : String :=
  let digits := Nat.toDigits 10 d.digits
  if 0 ≤ d.exponent then String.ofList (digits ++ List.replicate d.exponent.toNat '0')
  else
    let places := (-d.exponent).toNat
    if places < digits.length then
      let whole := digits.length - places
      String.ofList (digits.take whole ++ '.' :: digits.drop whole)
    else String.ofList ('0' :: '.' :: List.replicate (places - digits.length) '0' ++ digits)

def text (x : Binary64) : String :=
  match x.value with
  | .nan => "NaN"
  | .infinite s => (if s then "-" else "") ++ "inf"
  | .finite s units =>
    (if s then "-" else "") ++ (if units = 0 then "0" else (shortest x.magnitudeBits).positional)

def bitsText (x : Binary64) : String :=
  let digits := Nat.toDigits 16 x.bits.toNat
  String.ofList (List.replicate (16 - digits.length) '0' ++ digits)

end LayerMessaging.Binary64
