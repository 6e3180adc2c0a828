import LayerMessaging.Digest.Keccak
import LayerMessaging.Number.Uint256
import LayerMessaging.Text.Utf8

namespace LayerMessaging

structure Selector where
  val : Nat
  lt : val < Nat.pow 2 250
  deriving DecidableEq

namespace Selector

inductive Error where
  | emptyName
  | notAscii
  deriving DecidableEq, Repr

def Error.reason : Error → String
  | .emptyName => "name is empty"
  | .notAscii => "name must be ASCII"

/-- The names of the default entry points, whose selector is zero. -/
def defaultNames : List String := ["__default__", "__l1_default__"]

/-- Clears the top six of 256 bits. -/
def clearTop : Bytes → Bytes
  | [] => []
  | b :: rest => (b &&& 3) :: rest

theorem toNat_clearTop (bytes : Bytes) (h : bytes.length = 32) :
    Bytes.toNat (clearTop bytes) = Bytes.toNat bytes % Nat.pow 2 250 := by
  match bytes, h with
  | b :: rest, h =>
    have hr : rest.length = 31 := by simpa using h
    have hlt := Bytes.toNat_lt rest
    have hb : (b &&& 3).toNat = b.toNat % 4 := by
      rw [UInt8.toNat_and]
      exact Nat.and_two_pow_sub_one_eq_mod b.toNat 2
    rw [clearTop, Bytes.toNat_cons, Bytes.toNat_cons, hb, hr]
    rw [hr] at hlt
    have e : Bytes.limit 31 = Nat.pow 2 248 := by decide
    rw [e] at hlt ⊢
    simp only [Nat.pow_eq] at hlt ⊢
    omega

def ofDigest (digest : Hash) : Selector :=
  ⟨Bytes.toNat (clearTop digest.bytes), by
    rw [toNat_clearTop _ digest.length_eq]
    exact Nat.mod_lt _ (by decide)⟩

def zero : Selector := ⟨0, by decide⟩

def ofName (name : String) : Except Error Selector :=
  if name = "" then .error .emptyName
  else if ¬ Text.isAscii name then .error .notAscii
  else if name ∈ defaultNames then .ok zero
  else .ok (ofDigest (Keccak.digest (Text.utf8 name)))

def word (selector : Selector) : Uint256 :=
  ⟨selector.val, Nat.lt_of_lt_of_le selector.lt (by decide)⟩

/-- The selector at the full width of a digest. -/
def hex (selector : Selector) : String := (FixedBytes.ofNat selector.val : Hash).hex

end Selector

end LayerMessaging
