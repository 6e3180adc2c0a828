import LayerMessaging.Proofs.Bytes.Hex
import LayerMessaging.Proofs.Number.Numeral

namespace LayerMessaging.Hex

open Numeral

/-- The characters are so many digits of the number behind one of some markers. -/
inductive Marked (markers : List (List Char)) (count : Nat) : List Char → Nat → Prop
  | behind {marker digits : List Char} (hmarker : marker ∈ markers)
      (hcount : digits.length = count) (h : ∀ c ∈ digits, IsDigit 16 c) :
      Marked markers count (marker ++ digits) (number 16 digits)

def dropped : List (List Char) := [[], ['0', 'x'], ['0', 'X']]

variable {markers : List (List Char)} {count size n : Nat} {c : Char} {cs digits : List Char}
  {bytes : Bytes}

theorem isDigit_iff_isSome : IsDigit 16 c ↔ (digitValue? c.toNat).isSome = true := by
  rw [isDigit_iff, Option.isSome_iff_exists]
  constructor
  · rintro ⟨d, -, hvalue⟩
    exact ⟨d, hvalue⟩
  · rintro ⟨d, hvalue⟩
    refine ⟨d, ?_, hvalue⟩
    unfold digitValue? at hvalue
    split_ifs at hvalue <;> cases hvalue <;> omega

/-- Characters have one number at most, and one marker. -/
theorem Marked.unique {markers' : List (List Char)} {n' : Nat} (h : Marked markers count cs n)
    (h' : Marked markers' count cs n') :
    n = n' ∧ ∃ marker, marker ∈ markers ∧ marker ∈ markers' := by
  obtain ⟨hmarker, hcount, -⟩ := h
  rename_i marker digits
  generalize hcs : marker ++ digits = cs at h'
  obtain ⟨hmarker', hcount', -⟩ := h'
  obtain ⟨rfl, rfl⟩ := List.append_inj' hcs (by omega)
  exact ⟨rfl, _, hmarker, hmarker'⟩

theorem marked_append_iff {markers' : List (List Char)} :
    Marked (markers ++ markers') count cs n ↔
      Marked markers count cs n ∨ Marked markers' count cs n := by
  constructor
  · rintro ⟨hmarker, hcount, hdigits⟩
    exact (List.mem_append.mp hmarker).imp (.behind · hcount hdigits) (.behind · hcount hdigits)
  · rintro (⟨hmarker, hcount, hdigits⟩ | ⟨hmarker, hcount, hdigits⟩)
    · exact .behind (List.mem_append_left _ hmarker) hcount hdigits
    · exact .behind (List.mem_append_right _ hmarker) hcount hdigits

theorem lt_of_mem_dropped {marker : List Char} (h : marker ∈ dropped) :
    ∀ c ∈ marker, c.toNat < 128 := by
  have hall : dropped.all (·.all (·.toNat < 128)) = true := by decide
  intro c hc
  exact of_decide_eq_true (List.all_eq_true.mp (List.all_eq_true.mp hall marker h) c hc)

theorem exists_eq_append_dropMarker (bytes : Bytes) :
    ∃ marker ∈ dropped, bytes = marker.map Char.toUInt8 ++ dropMarker bytes := by
  unfold dropMarker
  split
  · exact ⟨['0', 'x'], by decide, rfl⟩
  · exact ⟨['0', 'X'], by decide, rfl⟩
  · exact ⟨[], by decide, rfl⟩

theorem isSome_digitValue?_toUInt8 (h : ∀ c ∈ digits, IsDigit 16 c) :
    ∀ b ∈ digits.map Char.toUInt8, (digitValue? b.toNat).isSome = true := by
  intro b hb
  obtain ⟨c, hc, rfl⟩ := List.mem_map.mp hb
  rw [Text.toNat_toUInt8 (h c hc).lt_ascii]
  exact isDigit_iff_isSome.mp (h c hc)

theorem dropMarker_digits (h : ∀ c ∈ digits, IsDigit 16 c) :
    dropMarker (digits.map Char.toUInt8) = digits.map Char.toUInt8 := by
  have hdigit := isSome_digitValue?_toUInt8 h
  unfold dropMarker
  split
  · rename_i heq
    have hx := hdigit 120 (by simp [heq])
    exact absurd hx (by decide)
  · rename_i heq
    have hx := hdigit 88 (by simp [heq])
    exact absurd hx (by decide)
  · rfl

theorem dropMarker_append {marker : List Char} (hmarker : marker ∈ dropped)
    (h : ∀ c ∈ digits, IsDigit 16 c) :
    dropMarker ((marker ++ digits).map Char.toUInt8) = digits.map Char.toUInt8 := by
  simp only [dropped, List.mem_cons, List.not_mem_nil, or_false] at hmarker
  rcases hmarker with rfl | rfl | rfl
  · exact dropMarker_digits h
  · rfl
  · rfl

theorem firstInvalid?_eq_none_iff {text : Bytes} {position : Nat} :
    firstInvalid? text position = none ↔ ∀ b ∈ text, (digitValue? b.toNat).isSome = true := by
  induction text generalizing position with
  | nil => simp [firstInvalid?]
  | cons b rest ih =>
    rw [firstInvalid?, List.forall_mem_cons]
    split
    · rename_i hb
      rw [ih]
      exact ⟨fun h => ⟨hb, h⟩, And.right⟩
    · rename_i hb
      constructor
      · intro h
        cases h
      · intro h
        exact absurd h.1 hb

theorem digitOrZero_toUInt8 (h : IsDigit 16 c) : digitOrZero c.toUInt8 = digitOf c := by
  unfold digitOrZero digitOf
  rw [Text.toNat_toUInt8 h.lt_ascii]

/-- Two digits are a byte, so that the bytes extend a number as the digits do. -/
theorem foldl_pairs : ∀ (digits : List Char) (n : Nat), (∀ c ∈ digits, IsDigit 16 c) →
    digits.length % 2 = 0 →
      (pairs (digits.map Char.toUInt8)).foldl (fun n b => 256 * n + b.toNat) n = extend 16 n digits
  | [], _, _, _ => rfl
  | [_], _, _, hlength => by simp at hlength
  | high :: low :: rest, n, h, hlength => by
    obtain ⟨hhigh, hlow, hrest⟩ := List.forall_mem_cons.mp h |>.imp_right List.forall_mem_cons.mp
    have hrestLength : rest.length % 2 = 0 := by
      rw [List.length_cons, List.length_cons] at hlength
      omega
    have hhighLt := hhigh.digitOf_lt
    have hlowLt := hlow.digitOf_lt
    have hbyte : (UInt8.ofNat (16 * digitOf high + digitOf low)).toNat =
        16 * digitOf high + digitOf low := UInt8.toNat_ofNat_of_lt' (by
      change _ < 256
      omega)
    rw [List.map_cons, List.map_cons, pairs, List.foldl_cons, digitOrZero_toUInt8 hhigh,
      digitOrZero_toUInt8 hlow, hbyte, foldl_pairs rest _ hrest hrestLength, extend_cons,
      extend_cons]
    congr 1
    omega

theorem toNat_pairs (h : ∀ c ∈ digits, IsDigit 16 c) (hlength : digits.length % 2 = 0) :
    Bytes.toNat (pairs (digits.map Char.toUInt8)) = number 16 digits :=
  foldl_pairs digits 0 h hlength

theorem lt_of_isSome_digitValue? {code : Nat} (h : (digitValue? code).isSome = true) :
    code < 128 := by
  unfold digitValue? at h
  split_ifs at h <;> first | omega | cases h

theorem exists_marked_of_dropMarker
    (h : ∀ b ∈ dropMarker (Text.utf8Chars cs), (digitValue? b.toNat).isSome = true) :
    ∃ marker ∈ dropped, ∃ digits, cs = marker ++ digits ∧ (∀ c ∈ digits, IsDigit 16 c) ∧
      dropMarker (Text.utf8Chars cs) = digits.map Char.toUInt8 := by
  obtain ⟨marker, hmarker, heq⟩ := exists_eq_append_dropMarker (Text.utf8Chars cs)
  generalize dropMarker (Text.utf8Chars cs) = body at h heq ⊢
  have hmarkerAscii := lt_of_mem_dropped hmarker
  have hascii : ∀ c ∈ cs, c.toNat < 128 := by
    apply Text.forall_lt_of_utf8Chars
    intro b hb
    rw [heq, List.mem_append, List.mem_map] at hb
    rcases hb with ⟨c, hc, rfl⟩ | hb
    · rw [Text.toNat_toUInt8 (hmarkerAscii c hc)]
      exact hmarkerAscii c hc
    · exact lt_of_isSome_digitValue? (h b hb)
  rw [Text.utf8Chars_ascii hascii] at heq
  obtain ⟨front, digits, rfl, hfront, rfl⟩ := List.map_eq_append_iff.mp heq
  obtain ⟨hfrontAscii, hdigitsAscii⟩ := List.forall_mem_append.mp hascii
  rw [← Text.utf8Chars_ascii hfrontAscii, ← Text.utf8Chars_ascii hmarkerAscii] at hfront
  rw [Text.utf8Chars_injective hfront]
  refine ⟨marker, hmarker, digits, rfl, fun c hc => ?_, rfl⟩
  rw [isDigit_iff_isSome, ← Text.toNat_toUInt8 (hdigitsAscii c hc)]
  exact h _ (List.mem_map_of_mem hc)

/-- Characters are read as bytes of a number exactly if they are digits of it behind what is
dropped. -/
theorem decodeExact_eq_ok_iff :
    (∃ bytes, decodeExact size (String.ofList cs) = .ok bytes ∧ bytes.toNat = n) ↔
      Marked dropped (2 * size) cs n := by
  unfold decodeExact Text.utf8
  rw [String.toList_ofList]
  dsimp only
  constructor
  · rintro ⟨bytes, hread, rfl⟩
    split_ifs at hread with hodd hlength
    split at hread
    · cases hread
    · rename_i hvalid
      cases hread
      obtain ⟨marker, hmarker, digits, rfl, hdigits, hbody⟩ :=
        exists_marked_of_dropMarker (firstInvalid?_eq_none_iff.mp hvalid)
      rw [hbody, List.length_map] at hodd hlength
      rw [hbody, toNat_pairs hdigits (by omega)]
      exact .behind hmarker (by omega) hdigits
  · rintro ⟨hmarker, hcount, hdigits⟩
    rename_i marker digits
    have hascii : ∀ c ∈ marker ++ digits, c.toNat < 128 := List.forall_mem_append.mpr
      ⟨lt_of_mem_dropped hmarker, fun c hc => (hdigits c hc).lt_ascii⟩
    rw [Text.utf8Chars_ascii hascii, dropMarker_append hmarker hdigits, List.length_map, hcount,
      if_neg (by omega), if_neg (by omega)]
    have hvalid : firstInvalid? (digits.map Char.toUInt8) 0 = none :=
      firstInvalid?_eq_none_iff.mpr (isSome_digitValue?_toUInt8 hdigits)
    rw [hvalid]
    exact ⟨_, rfl, toNat_pairs hdigits (by omega)⟩

def lowerDigits : List Char := "0123456789abcdef".toList

theorem digit_mem_lowerDigits : ∀ n < 16, digit n ∈ lowerDigits := by decide

theorem isDigit_of_mem_lowerDigits (h : c ∈ lowerDigits) : IsDigit 16 c := by
  have hall : lowerDigits.all (fun c => decide (IsDigit 16 c)) = true := by decide
  exact of_decide_eq_true (List.all_eq_true.mp hall c h)

theorem mem_lowerDigits_of_mem_digits (h : c ∈ Hex.digits bytes) : c ∈ lowerDigits := by
  obtain ⟨b, -, hb⟩ := List.mem_flatMap.mp h
  have hlt := b.toNat_lt
  rcases List.mem_cons.mp hb with rfl | hb
  · exact digit_mem_lowerDigits _ (by omega)
  · rw [List.mem_singleton.mp hb]
    exact digit_mem_lowerDigits _ (by omega)

theorem number_digits (bytes : Bytes) : number 16 (Hex.digits bytes) = bytes.toNat := by
  have hdigits : ∀ c ∈ Hex.digits bytes, IsDigit 16 c := fun c hc =>
    isDigit_of_mem_lowerDigits (mem_lowerDigits_of_mem_digits hc)
  have hpairs := pairs_digits bytes
  rw [Text.utf8Chars_ascii fun c hc => (hdigits c hc).lt_ascii] at hpairs
  rw [← toNat_pairs hdigits (by rw [length_digits]; omega), hpairs]

end LayerMessaging.Hex
