import LayerMessaging.Bytes.Fixed
import LayerMessaging.Digest.Sha256

namespace LayerMessaging.Secp256k1

def fieldPrime : Nat := Bytes.limit 32 - Bytes.limit 4 - 977

def order : Nat := 0xfffffffffffffffffffffffffffffffebaaedce6af48a03bbfd25e8cd0364141

def powMod (base exponent modulus : Nat) : Nat :=
  if exponent = 0 then 1 % modulus
  else
    let half := powMod (base * base % modulus) (exponent / 2) modulus
    if exponent % 2 = 1 then base * half % modulus else half
termination_by exponent
decreasing_by omega

/-- The inverse modulo a prime, by Fermat's theorem. -/
def inverse (x prime : Nat) : Nat := powMod x (prime - 2) prime

/-- A point of the curve `y² = x³ + 7`. -/
inductive Point where
  | infinity
  | affine (x y : Nat)
  deriving DecidableEq

namespace Point

def generator : Point :=
  .affine 0x79be667ef9dcbbac55a06295ce870b07029bfcdb2dce28d959f2815b16f81798
    0x483ada7726a3c4655da4fbfc0e1108a8fd17b448a68554199c47d08ffb10d4b8

/-- The third point on the line of the given slope, mirrored. -/
def chord (slope x₁ y₁ x₂ : Nat) : Point :=
  let x := (slope * slope + 2 * fieldPrime - x₁ - x₂) % fieldPrime
  .affine x ((slope * (x₁ + fieldPrime - x) + fieldPrime - y₁) % fieldPrime)

def add : Point → Point → Point
  | .infinity, q => q
  | p, .infinity => p
  | .affine x₁ y₁, .affine x₂ y₂ =>
    if x₁ = x₂ then
      if (y₁ + y₂) % fieldPrime = 0 then .infinity
      else chord (3 * x₁ * x₁ % fieldPrime * inverse (2 * y₁ % fieldPrime) fieldPrime % fieldPrime)
        x₁ y₁ x₂
    else chord ((y₂ + fieldPrime - y₁) * inverse ((x₂ + fieldPrime - x₁) % fieldPrime) fieldPrime
        % fieldPrime) x₁ y₁ x₂

def multiply (count : Nat) (p : Point) : Point :=
  if count = 0 then .infinity
  else
    let rest := multiply (count / 2) (add p p)
    if count % 2 = 1 then add p rest else rest
termination_by count
decreasing_by omega

end Point

structure SecretKey where
  val : Nat
  pos : 0 < val
  lt : val < order
  deriving DecidableEq

def SecretKey.ofBytes? (bytes : Bytes) : Option SecretKey :=
  if h : 0 < bytes.toNat ∧ bytes.toNat < order then some ⟨bytes.toNat, h.1, h.2⟩ else none

def SecretKey.publicBytes (key : SecretKey) : Bytes :=
  match Point.generator.multiply key.val with
  | .infinity => Bytes.ofNat 64 0
  | .affine x y => Bytes.ofNat 32 x ++ Bytes.ofNat 32 y

/-- A recoverable signature with the smaller second half. -/
structure Signature where
  r : Nat
  s : Nat
  oddY : Bool
  low : s ≤ order / 2
  deriving DecidableEq

/-- The state from which nonces are drawn. -/
structure Drawing where
  key : Bytes
  value : Bytes

def Drawing.stir (d : Drawing) (tag : UInt8) (input : Bytes) : Drawing :=
  let key := Sha256.hmac d.key (d.value ++ tag :: input)
  ⟨key, Sha256.hmac key d.value⟩

/-- The starting state for a key and a digest below the order. -/
def Drawing.start (key : SecretKey) (digest : Nat) : Drawing :=
  let seed := Bytes.ofNat 32 key.val ++ Bytes.ofNat 32 digest
  ((⟨List.replicate 32 0, List.replicate 32 1⟩ : Drawing).stir 0 seed).stir 1 seed

/-- The first of at most `tries` candidates that is in range. -/
def Drawing.nonce? : (tries : Nat) → Drawing → Option Nat
  | 0, _ => none
  | tries + 1, d =>
    let value := Sha256.hmac d.key d.value
    let candidate := Bytes.toNat value
    if 0 < candidate ∧ candidate < order then some candidate
    else Drawing.nonce? tries ((⟨d.key, value⟩ : Drawing).stir 0 [])

/-- The signature made with a given nonce. Of `s` and its negative the smaller is taken, which turns
the parity of the nonce's point. There is none in the two cases, out of reach in practice, where a
half would be zero. -/
def signWith (key : SecretKey) (digest nonce : Nat) : Option Signature :=
  match Point.generator.multiply nonce with
  | .infinity => none
  | .affine x y =>
    let r := x % order
    let s := inverse nonce order * ((digest + r * key.val) % order) % order
    if r = 0 ∨ s = 0 then none
    else if h : s ≤ order / 2 then some ⟨r, s, y % 2 = 1, h⟩
    else some ⟨r, order - s, y % 2 = 0, by omega⟩

/-- The signature of a digest. A candidate nonce is out of range with odds below 2 ^ -127, so that a
hundred of them are as good as endless many. -/
def sign (key : SecretKey) (digest : Hash) : Option Signature :=
  let number := digest.toNat % order
  ((Drawing.start key number).nonce? 100).bind (signWith key number)

end LayerMessaging.Secp256k1
