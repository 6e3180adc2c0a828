import LayerMessaging.Proofs.Bytes.Hex
import LayerMessaging.Proofs.Json.Pretty
import LayerMessaging.Proofs.Number.Grouped

namespace LayerMessaging

namespace Json

variable {α : Type}

def text? : Json → Option String
  | .string text => some text
  | _ => none

def natural? : Json → Option Nat
  | .natural n => some n
  | _ => none

def flag? : Json → Option Bool
  | .bool value => some value
  | _ => none

def keys : Json → List String
  | .object fields => fields.map Prod.fst
  | _ => []

def field? (json : Json) (key : String) (read : Json → Option α) : Option α := do
  read (← json.get? key)

def optionalField? (json : Json) (key : String) (read : Json → Option α) : Option (Option α) :=
  match json.get? key with
  | none => some none
  | some value => (read value).map some

/-- A value, or nothing where `null` stands. -/
def nullable? (read : Json → Option α) : Json → Option (Option α)
  | .null => some none
  | json => (read json).map some

def list? (read : Json → Option α) : Json → Option (List α)
  | .array items => items.mapM read
  | _ => none

def word? (json : Json) : Option Uint256 := do (Uint256.ofText (← json.text?)).toOption

def fixedBytes? {size : Nat} (json : Json) : Option (FixedBytes size) := do
  (FixedBytes.ofHex (← json.text?)).toOption

/-- A byte string of any length: half as many bytes as there are digits behind the marker. -/
def bytes? (json : Json) : Option Bytes := do
  let text ← json.text?
  (Hex.decodeExact ((text.length - 2) / 2) text).toOption

theorem nullable?_ofOption {read : Json → Option α} {write : α → Json}
    (h : ∀ a, read (write a) = some a) (hnull : ∀ a, write a ≠ .null) (a : Option α) :
    nullable? read (ofOption write a) = some a := by
  cases a with
  | none => rfl
  | some a =>
    unfold nullable? ofOption
    split
    · exact absurd ‹_› (hnull a)
    · rw [h]
      rfl

theorem list?_map {read : Json → Option α} {write : α → Json} (h : ∀ a, read (write a) = some a)
    (as : List α) : list? read (.array (as.map write)) = some as := by
  induction as with
  | nil => rfl
  | cons a as ih =>
    rw [list?] at ih
    rw [List.map_cons, list?, List.mapM_cons, h, ih]
    rfl

theorem word?_hex (word : Uint256) : word? (.string word.hex) = some word := by
  change (Uint256.ofText word.hex).toOption = _
  rw [Uint256.ofText_hex]
  rfl

theorem fixedBytes?_hex {size : Nat} (value : FixedBytes size) :
    fixedBytes? (.string value.hex) = some value := by
  change (FixedBytes.ofHex value.hex : Except _ (FixedBytes size)).toOption = _
  rw [FixedBytes.ofHex_hex]
  rfl

theorem bytes?_encodeMarked (bytes : Bytes) :
    bytes? (.string (Hex.encodeMarked bytes)) = some bytes := by
  have hlength : bytes.length = ((Hex.encodeMarked bytes).length - 2) / 2 := by
    rw [Hex.length_encodeMarked]
    omega
  change (Hex.decodeExact _ (Hex.encodeMarked bytes)).toOption = _
  rw [Hex.decodeExact_encodeMarked hlength]
  rfl

end Json

end LayerMessaging
