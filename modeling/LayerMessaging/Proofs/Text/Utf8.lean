import LayerMessaging.Text.Utf8

namespace LayerMessaging.Text

theorem toNat_toUInt8 {c : Char} (h : c.toNat < 128) : c.toUInt8.toNat = c.toNat := by
  have hmod : c.toUInt8.toNat = c.val.toNat % 256 := UInt32.toNat_toUInt8 c.val
  rw [hmod]
  exact Nat.mod_eq_of_lt (Nat.lt_trans h (by decide))

theorem toUInt8_inj {c d : Char} (hc : c.toNat < 128) (hd : d.toNat < 128) :
    c.toUInt8 = d.toUInt8 ↔ c = d := by
  rw [← UInt8.toNat_inj, toNat_toUInt8 hc, toNat_toUInt8 hd, Char.toNat_inj]

theorem utf8EncodeChar_ascii {c : Char} (h : c.toNat < 128) :
    String.utf8EncodeChar c = [c.toUInt8] := by
  have hsize : c.utf8Size = 1 := by
    rw [Char.utf8Size_eq_one_iff, UInt32.le_iff_toNat_le]
    exact Nat.le_of_lt_succ h
  exact String.utf8EncodeChar_eq_singleton hsize

theorem utf8Chars_ascii {cs : List Char} (h : ∀ c ∈ cs, c.toNat < 128) :
    utf8Chars cs = cs.map Char.toUInt8 := by
  induction cs with
  | nil => rfl
  | cons c rest ih =>
    have hrest := ih fun d hd => h d (List.mem_cons_of_mem _ hd)
    have hc := utf8EncodeChar_ascii (h c (List.mem_cons_self ..))
    unfold utf8Chars at hrest ⊢
    rw [List.flatMap_cons, hc, hrest, List.map_cons, List.singleton_append]

theorem toByteArray_eq (bytes : Bytes) : bytes.toByteArray = ⟨bytes.toArray⟩ := by
  apply ByteArray.ext
  exact List.data_toByteArray

theorem ofUtf8?_eq_some_iff {bytes : Bytes} {text : String} :
    ofUtf8? bytes = some text ↔ bytes = utf8 text := by
  have hbytes : text.toByteArray = ⟨(utf8 text).toArray⟩ := by
    rw [← toByteArray_eq, ← String.utf8Encode_toList]
    rfl
  unfold ofUtf8? String.fromUTF8?
  constructor
  · intro h
    split at h
    · cases h
      have harray := congrArg (fun array => array.data.toList) hbytes
      exact harray
    · cases h
  · rintro rfl
    rw [← hbytes, dif_pos text.isValidUTF8]
    rfl

theorem ofUtf8?_utf8 (text : String) : ofUtf8? (utf8 text) = some text :=
  ofUtf8?_eq_some_iff.mpr rfl

theorem utf8Chars_injective : Function.Injective utf8Chars := by
  intro cs cs' h
  have hread (cs : List Char) : ofUtf8? (utf8Chars cs) = some (String.ofList cs) := by
    rw [ofUtf8?_eq_some_iff, utf8, String.toList_ofList]
  have htext := hread cs
  rw [h, hread cs', Option.some_inj, String.ofList_inj] at htext
  exact htext.symm

theorem forall_lt_of_utf8Chars {cs : List Char} (h : ∀ b ∈ utf8Chars cs, b.toNat < 128) :
    ∀ c ∈ cs, c.toNat < 128 := by
  -- The ASCII characters with the numbers of the bytes have the same bytes.
  let chars := (utf8Chars cs).map Char.ofUInt8
  have htoNat (b : UInt8) : (Char.ofUInt8 b).toNat = b.toNat := UInt8.toNat_toUInt32 b
  have hascii : ∀ c ∈ chars, c.toNat < 128 := by
    intro c hc
    obtain ⟨b, hb, rfl⟩ := List.mem_map.mp hc
    rw [htoNat]
    exact h b hb
  have hbytes : utf8Chars chars = utf8Chars cs := by
    rw [utf8Chars_ascii hascii, List.map_map]
    refine (List.map_congr_left fun b hb => ?_).trans (List.map_id _)
    apply UInt8.toNat_inj.mp
    have hb := h b hb
    rw [← htoNat] at hb
    rw [Function.comp_apply, toNat_toUInt8 hb, htoNat]
    rfl
  have htext : ofUtf8? (utf8Chars cs) = some (String.ofList chars) := by
    rw [ofUtf8?_eq_some_iff, utf8, String.toList_ofList, hbytes]
  have htext' : ofUtf8? (utf8Chars cs) = some (String.ofList cs) := by
    rw [ofUtf8?_eq_some_iff, utf8, String.toList_ofList]
  rw [htext, Option.some_inj, String.ofList_inj] at htext'
  rw [← htext']
  exact hascii

theorem ofUtf8?_append (cs : List Char) (rest : Bytes) :
    ofUtf8? (utf8Chars cs ++ rest) = (ofUtf8? rest).map fun text => String.ofList cs ++ text := by
  cases hrest : ofUtf8? rest with
  | some text =>
    rw [ofUtf8?_eq_some_iff] at hrest
    rw [Option.map_some, ofUtf8?_eq_some_iff, hrest, utf8, utf8, String.toList_append,
      String.toList_ofList, utf8Chars_append]
  | none =>
    rw [Option.map_none, Option.eq_none_iff_forall_ne_some]
    intro text htext
    rw [ofUtf8?_eq_some_iff] at htext
    -- The characters are the first of the text, and the others are spelled by what is left.
    have hencode : cs.utf8Encode ++ rest.toByteArray = text.toList.utf8Encode := by
      unfold List.utf8Encode
      rw [← List.toByteArray_append]
      exact congrArg List.toByteArray htext
    obtain ⟨tail, htail⟩ := List.isPrefix_of_utf8Encode_append_eq_utf8Encode _ hencode
    rw [utf8, ← htail, utf8Chars_append] at htext
    have hspells : rest = utf8 (String.ofList tail) := by
      rw [utf8, String.toList_ofList]
      exact List.append_cancel_left htext
    rw [hspells, ofUtf8?_utf8] at hrest
    cases hrest

end LayerMessaging.Text
