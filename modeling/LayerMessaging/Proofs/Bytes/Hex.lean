import LayerMessaging.Bytes.Fixed

namespace LayerMessaging

namespace Hex

def digitByte (n : Nat) : UInt8 := UInt8.ofNat (digit n).toNat

theorem utf8EncodeChar_digit : ∀ n < 16, String.utf8EncodeChar (digit n) = [digitByte n] := by
  decide

theorem digitValue?_digitByte : ∀ n < 16, digitValue? (digitByte n).toNat = some n := by
  decide

theorem utf8Chars_digits (bytes : Bytes) :
    Text.utf8Chars (digits bytes) =
      bytes.flatMap fun b => [digitByte (b.toNat / 16), digitByte (b.toNat % 16)] := by
  induction bytes with
  | nil => rfl
  | cons b rest ih =>
    have hlt := b.toNat_lt
    have hhigh := utf8EncodeChar_digit (b.toNat / 16) (by omega)
    have hlow := utf8EncodeChar_digit (b.toNat % 16) (by omega)
    rw [digits, List.flatMap_cons, Text.utf8Chars_append, List.flatMap_cons, ← ih]
    simp [Text.utf8Chars, hhigh, hlow, digits]

theorem firstInvalid?_digits (bytes : Bytes) (position : Nat) :
    firstInvalid? (Text.utf8Chars (digits bytes)) position = none := by
  rw [utf8Chars_digits]
  induction bytes generalizing position with
  | nil => rfl
  | cons b rest ih =>
    have hlt := b.toNat_lt
    have hhigh := digitValue?_digitByte (b.toNat / 16) (by omega)
    have hlow := digitValue?_digitByte (b.toNat % 16) (by omega)
    simp [firstInvalid?, hhigh, hlow, ih]

theorem pairs_digits (bytes : Bytes) : pairs (Text.utf8Chars (digits bytes)) = bytes := by
  rw [utf8Chars_digits]
  induction bytes with
  | nil => rfl
  | cons b rest ih =>
    have hlt := b.toNat_lt
    have hhigh := digitValue?_digitByte (b.toNat / 16) (by omega)
    have hlow := digitValue?_digitByte (b.toNat % 16) (by omega)
    have hbyte : UInt8.ofNat (16 * (b.toNat / 16) + b.toNat % 16) = b := by
      rw [Nat.div_add_mod, UInt8.ofNat_toNat]
    simp [pairs, digitOrZero, hhigh, hlow, hbyte, ih]

theorem length_utf8Chars_digits (bytes : Bytes) :
    (Text.utf8Chars (digits bytes)).length = 2 * bytes.length := by
  rw [utf8Chars_digits]
  induction bytes with
  | nil => rfl
  | cons b rest ih =>
    rw [List.flatMap_cons, List.length_append, ih, List.length_cons]
    simp only [List.length_cons, List.length_nil]
    omega

theorem length_digits (bytes : Bytes) : (digits bytes).length = 2 * bytes.length := by
  unfold digits
  induction bytes with
  | nil => rfl
  | cons b rest ih =>
    rw [List.flatMap_cons, List.length_append, ih, List.length_cons]
    simp only [List.length_cons, List.length_nil]
    omega

theorem length_encodeMarked (bytes : Bytes) :
    (encodeMarked bytes).length = 2 + 2 * bytes.length := by
  rw [encodeMarked, encode, String.length_append, String.length_ofList, String.length_ofList,
    length_digits]
  rfl

theorem utf8_encodeMarked (bytes : Bytes) :
    Text.utf8 (encodeMarked bytes) = 48 :: 120 :: Text.utf8Chars (digits bytes) := by
  have hmarker : Text.utf8Chars "0x".toList = [48, 120] := by decide
  rw [Text.utf8, encodeMarked, encode, String.toList_append, Text.utf8Chars_append, hmarker,
    String.toList_ofList]
  rfl

/-- What is written with the marker reads back. -/
theorem decodeExact_encodeMarked {size : Nat} {bytes : Bytes} (h : bytes.length = size) :
    decodeExact size (encodeMarked bytes) = .ok bytes := by
  have hbody : dropMarker (Text.utf8 (encodeMarked bytes)) = Text.utf8Chars (digits bytes) := by
    rw [utf8_encodeMarked]
    rfl
  have hlength := length_utf8Chars_digits bytes
  unfold decodeExact
  dsimp only
  rw [hbody, if_neg (by omega), if_neg (by omega), firstInvalid?_digits, pairs_digits]

end Hex

theorem FixedBytes.ofHex_hex {size : Nat} (value : FixedBytes size) :
    FixedBytes.ofHex value.hex = .ok value := by
  have hread := Hex.decodeExact_encodeMarked value.length_eq
  unfold ofHex hex
  split
  · rename_i bytes h
    rw [hread] at h
    cases h
    rfl
  · rename_i e h
    rw [hread] at h
    cases h

end LayerMessaging
