import LayerMessaging.Bytes.Hex
import LayerMessaging.Number.Numeral

namespace LayerMessaging

structure Uint256 where
  val : Nat
  lt : val < Bytes.limit 32
  deriving DecidableEq

namespace Uint256

@[ext] theorem ext {a b : Uint256} (h : a.val = b.val) : a = b := by
  cases a; cases b; cases h; rfl

def ofNat (n : Nat) : Uint256 := ⟨n % Bytes.limit 32, Nat.mod_lt _ (Bytes.limit_pos _)⟩

def zero : Uint256 := ⟨0, Bytes.limit_pos _⟩

def one : Uint256 := ⟨1, by decide⟩

instance : Inhabited Uint256 := ⟨zero⟩

def bytes (word : Uint256) : Bytes := Bytes.ofNat 32 word.val

def decimal (word : Uint256) : String := toString word.val

def hex (word : Uint256) : String := Hex.quantity word.val

def ofText (text : String) : Except Numeral.Error Uint256 :=
  match h : Numeral.prefixed (Bytes.limit 32) text with
  | .ok n => .ok ⟨n, Numeral.lt_of_prefixed (Bytes.limit_pos _) h⟩
  | .error e => .error e

/-- The words for the faults of a 256-bit numeral. A wrong digit is shown as the character whose
number is the byte. -/
def faultText : Numeral.Error → String
  | .invalidDigit code => "invalid digit: " ++ String.singleton (Char.ofNat code)
  | .overflow => "the value is too large to fit the target type"
  | .empty => "the text is empty"

@[simp] theorem val_ofNat (n : Nat) : (ofNat n).val = n % Bytes.limit 32 := rfl

@[simp] theorem length_bytes (word : Uint256) : word.bytes.length = 32 := by simp [bytes]

@[simp] theorem toNat_bytes (word : Uint256) : Bytes.toNat word.bytes = word.val := by
  rw [bytes, Bytes.toNat_ofNat]
  exact Nat.mod_eq_of_lt (by have := word.lt; omega)

end Uint256

end LayerMessaging
