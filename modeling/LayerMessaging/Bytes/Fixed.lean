import LayerMessaging.Bytes.Hex

namespace LayerMessaging

structure FixedBytes (size : Nat) where
  bytes : Bytes
  length_eq : bytes.length = size
  deriving DecidableEq

abbrev Hash := FixedBytes 32

abbrev Address := FixedBytes 20

namespace FixedBytes

variable {size : Nat}

@[ext] theorem ext {a b : FixedBytes size} (h : a.bytes = b.bytes) : a = b := by
  cases a; cases b; cases h; rfl

def ofNat (n : Nat) : FixedBytes size := ⟨Bytes.ofNat size n, Bytes.length_ofNat size n⟩

def toNat (value : FixedBytes size) : Nat := value.bytes.toNat

instance : Inhabited (FixedBytes size) := ⟨ofNat 0⟩

def hex (value : FixedBytes size) : String := Hex.encodeMarked value.bytes

/-- Reads hexadecimal of exactly the right width, with or without the marker `0x`. -/
def ofHex (text : String) : Except Hex.Error (FixedBytes size) :=
  match h : Hex.decodeExact size text with
  | .ok bytes => .ok ⟨bytes, Hex.length_of_decodeExact h⟩
  | .error e => .error e

def ofBytes? (bytes : Bytes) : Option (FixedBytes size) :=
  if h : bytes.length = size then some ⟨bytes, h⟩ else none

end FixedBytes

end LayerMessaging
