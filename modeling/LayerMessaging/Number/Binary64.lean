import LayerMessaging.Bytes.Basic

namespace LayerMessaging

structure Binary64 where
  bits : UInt64
  deriving DecidableEq

namespace Binary64

/-- What a bit pattern stands for; a finite magnitude is in units of 2 ^ -1074. -/
inductive Value where
  | nan
  | infinite (negative : Bool)
  | finite (negative : Bool) (units : Nat)
  deriving DecidableEq, Repr

def one : Nat := Nat.pow 2 1074

/-- The number of magnitude bits with the same scale. -/
def binade : Nat := Nat.pow 2 52

def infinityBits : Nat := 2047 * binade

def signBit : Nat := 2048 * binade

def isNegative (x : Binary64) : Bool := signBit ≤ x.bits.toNat

def magnitudeBits (x : Binary64) : Nat := x.bits.toNat % signBit

def unitsOfBits (bits : Nat) : Nat :=
  if bits < binade then bits else (binade + bits % binade) * Nat.pow 2 (bits / binade - 1)

def value (x : Binary64) : Value :=
  if infinityBits < x.magnitudeBits then .nan
  else if x.magnitudeBits = infinityBits then .infinite x.isNegative
  else .finite x.isNegative (unitsOfBits x.magnitudeBits)

/-- The whole number nearest to a quotient, the even one of two equally near. -/
def roundDiv (num den : Nat) : Nat :=
  let q := num / den
  let r := num % den
  if den < 2 * r ∨ (2 * r = den ∧ q % 2 = 1) then q + 1 else q

/-- The magnitude bits nearest to a quotient of units, or those of infinity when it is too large. -/
def roundBits (num den : Nat) : Nat :=
  let scale := (num / den).log2 - 52
  min infinityBits (scale * binade + roundDiv num (den * Nat.pow 2 scale))

def ofMagnitude (negative : Bool) (bits : Nat) : Binary64 :=
  ⟨UInt64.ofNat ((if negative then signBit else 0) + bits)⟩

def round (negative : Bool) (num den : Nat) : Binary64 := ofMagnitude negative (roundBits num den)

def nan (negative : Bool) : Binary64 := ofMagnitude negative (infinityBits + binade / 2)

def infinity (negative : Bool) : Binary64 := ofMagnitude negative infinityBits

def ofNat (n : Nat) : Binary64 := round false (n * one) 1

def ofInt (n : Int) : Binary64 := round (n < 0) (n.natAbs * one) 1

/-- The number nearest to `digits * 10 ^ exponent`. Exponents far outside the range of the format
are decided from the number of digits alone. -/
def ofDecimal (negative : Bool) (digits : Nat) (exponent : Int) : Binary64 :=
  let size : Int := (Nat.toDigits 10 digits).length
  if digits = 0 ∨ exponent + size < -400 then ofMagnitude negative 0
  else if 400 < exponent + size then infinity negative
  else if 0 ≤ exponent then round negative (digits * Nat.pow 10 exponent.toNat * one) 1
  else round negative (digits * one) (Nat.pow 10 (-exponent).toNat)

def mul (x y : Binary64) : Binary64 :=
  match x.value, y.value with
  | .nan, _ => nan false
  | _, .nan => nan false
  | .infinite s, .infinite t => infinity (s != t)
  | .infinite s, .finite t units => if units = 0 then nan false else infinity (s != t)
  | .finite s units, .infinite t => if units = 0 then nan false else infinity (s != t)
  | .finite s a, .finite t b => round (s != t) (a * b) one

/-- Whether the number is less than one; false for what is no number. -/
def ltOne (x : Binary64) : Bool :=
  match x.value with
  | .nan => false
  | .infinite s => s
  | .finite s units => s || units < one

/-- The whole number next to the value in the direction of zero, brought into the range below the
bound; what is no number counts as zero. -/
def toNatBelow (bound : Nat) (x : Binary64) : Nat :=
  match x.value with
  | .nan => 0
  | .infinite s => if s then 0 else bound - 1
  | .finite s units => if s then 0 else min (bound - 1) (units / one)

/-- The least whole number that is not below the value, brought into the range below the bound. -/
def ceilBelow (bound : Nat) (x : Binary64) : Nat :=
  match x.value with
  | .nan => 0
  | .infinite s => if s then 0 else bound - 1
  | .finite s units => if s then 0 else min (bound - 1) ((units + (one - 1)) / one)

end Binary64

end LayerMessaging
