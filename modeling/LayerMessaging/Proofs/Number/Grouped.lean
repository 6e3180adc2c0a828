import LayerMessaging.Number.Uint256
import LayerMessaging.Proofs.Number.Numeral

namespace LayerMessaging

namespace Numeral

def radixOfMark? (mark : Char) : Option Nat :=
  if mark = 'x' ∨ mark = 'X' then some 16
  else if mark = 'o' ∨ mark = 'O' then some 8
  else if mark = 'b' ∨ mark = 'B' then some 2
  else none

def ungrouped (cs : List Char) : List Char := cs.filter (· ≠ '_')

/-- The characters are read as the number. No digits at all are zero. -/
inductive Grouped : List Char → Nat → Prop
  | decimal {cs : List Char} (hne : cs ≠ []) (h : ∀ c ∈ ungrouped cs, IsDigit 10 c) :
      Grouped cs (number 10 (ungrouped cs))
  | marked {mark : Char} {radix : Nat} {digits : List Char} (hmark : radixOfMark? mark = some radix)
      (h : ∀ c ∈ ungrouped digits, IsDigit radix c) :
      Grouped ('0' :: mark :: digits) (number radix (ungrouped digits))

variable {radix bound n : Nat} {c : Char} {cs digits : List Char}

theorem radixOfMark?_cases {mark : Char} (h : radixOfMark? mark = some radix) :
    (radix = 16 ∧ (mark = 'x' ∨ mark = 'X')) ∨ (radix = 8 ∧ (mark = 'o' ∨ mark = 'O')) ∨
      (radix = 2 ∧ (mark = 'b' ∨ mark = 'B')) := by
  unfold radixOfMark? at h
  split_ifs at h with hhex hoct hbin <;> cases h
  · exact .inl ⟨rfl, hhex⟩
  · exact .inr (.inl ⟨rfl, hoct⟩)
  · exact .inr (.inr ⟨rfl, hbin⟩)

theorem lt_of_digit? {b : UInt8} (h : (digit? radix b).isSome) : b.toNat < 128 := by
  unfold digit? at h
  dsimp only at h
  split_ifs at h <;> first | omega | cases h

theorem isDigit_of_digit? (hc : c.toNat < 128) (hradix : radix ≤ 16) {d : Nat}
    (h : digit? radix c.toUInt8 = some d) : IsDigit radix c ∧ digitOf c = d := by
  unfold digit? at h
  dsimp only at h
  rw [Text.toNat_toUInt8 hc] at h
  have hcases : d < radix ∧ ((48 ≤ c.toNat ∧ c.toNat ≤ 57 ∧ d = c.toNat - 48) ∨
      (97 ≤ c.toNat ∧ c.toNat ≤ 102 ∧ d = c.toNat - 87) ∨
      (65 ≤ c.toNat ∧ c.toNat ≤ 70 ∧ d = c.toNat - 55)) := by
    split_ifs at h <;> cases h <;> omega
  have hvalue : Hex.digitValue? c.toNat = some d := by
    unfold Hex.digitValue?
    rcases hcases with ⟨-, ⟨hlow, hhigh, rfl⟩ | ⟨hlow, hhigh, rfl⟩ | ⟨hlow, hhigh, rfl⟩⟩
    · rw [if_pos (by omega)]
    · rw [if_neg (by omega), if_pos (by omega)]
    · rw [if_neg (by omega), if_neg (by omega), if_pos (by omega)]
  refine ⟨isDigit_iff.mpr ⟨d, hcases.1, hvalue⟩, ?_⟩
  rw [digitOf, hvalue, Option.getD_some]

theorem isGrouping_iff (hc : c.toNat < 128) : isGrouping c.toUInt8 = true ↔ c = '_' := by
  have hbyte : (95 : UInt8) = '_'.toUInt8 := rfl
  unfold isGrouping
  rw [decide_eq_true_eq, hbyte, Text.toUInt8_inj hc (by decide)]

theorem filter_map_toUInt8 (hcs : ∀ c ∈ cs, c.toNat < 128) :
    (cs.map Char.toUInt8).filter (! isGrouping ·) = (ungrouped cs).map Char.toUInt8 := by
  unfold ungrouped
  rw [List.filter_map]
  congr 1
  apply List.filter_congr
  intro c hc
  have hgrouping := isGrouping_iff (hcs c hc)
  by_cases h : c = '_'
  · rw [Function.comp_apply, hgrouping.mpr h, h]
    rfl
  · rw [Function.comp_apply, Bool.eq_false_iff.mpr (mt hgrouping.mp h), decide_eq_true h]
    rfl

theorem forall_of_gathered {bytes : Bytes} {size value : Nat}
    (h : gathered bound bytes size value = .ok n) : ∀ b ∈ bytes, (digit? 10 b).isSome := by
  induction bytes generalizing size value with
  | nil => exact List.forall_mem_nil _
  | cons b rest ih =>
    rw [gathered] at h
    cases hdigit : digit? 10 b with
    | none => simp [hdigit] at h
    | some d =>
      rw [hdigit] at h
      dsimp only at h
      refine List.forall_mem_cons.mpr ⟨by rw [hdigit]; rfl, ?_⟩
      split_ifs at h <;> exact ih h

theorem forall_of_weighted {bytes : Bytes} {weight value : Nat}
    (h : weighted bound radix bytes weight value = .ok n) :
    ∀ b ∈ bytes, (digit? radix b).isSome := by
  induction bytes generalizing weight value with
  | nil => exact List.forall_mem_nil _
  | cons b rest ih =>
    rw [weighted] at h
    cases hdigit : digit? radix b with
    | none => simp [hdigit] at h
    | some d =>
      rw [hdigit] at h
      dsimp only at h
      refine List.forall_mem_cons.mpr ⟨by rw [hdigit]; rfl, ?_⟩
      split_ifs at h
      exact ih h

theorem gathered_inv (hdigits : ∀ c ∈ digits, c.toNat < 128) {size value : Nat}
    (h : gathered bound (digits.map Char.toUInt8) size value = .ok n) :
    (∀ c ∈ digits, IsDigit 10 c) ∧ n = extend 10 value digits := by
  induction digits generalizing size value with
  | nil =>
    rw [List.map_nil, gathered] at h
    split_ifs at h
    cases h
    exact ⟨List.forall_mem_nil _, rfl⟩
  | cons c rest ih =>
    obtain ⟨hc, hrest⟩ := List.forall_mem_cons.mp hdigits
    rw [List.map_cons, gathered] at h
    cases hdigit : digit? 10 c.toUInt8 with
    | none => simp [hdigit] at h
    | some d =>
      obtain ⟨hisDigit, rfl⟩ := isDigit_of_digit? hc (by decide) hdigit
      rw [hdigit] at h
      dsimp only at h
      have hread : (∀ c ∈ rest, IsDigit 10 c) ∧ n = extend 10 (10 * value + digitOf c) rest := by
        split_ifs at h <;> exact ih hrest h
      exact ⟨List.forall_mem_cons.mpr ⟨hisDigit, hread.1⟩, hread.2⟩

theorem weighted_inv (hradix : radix ≤ 16) (hdigits : ∀ c ∈ digits, c.toNat < 128)
    {weight value : Nat}
    (h : weighted bound radix (digits.map Char.toUInt8).reverse weight value = .ok n) :
    (∀ c ∈ digits, IsDigit radix c) ∧ n = value + weight * number radix digits := by
  -- By induction from behind, since the last digit is the first one that is read.
  induction digits using List.reverseRecOn generalizing weight value with
  | nil =>
    cases h
    exact ⟨List.forall_mem_nil _, rfl⟩
  | append_singleton digits c ih =>
    obtain ⟨hinit, hlast⟩ := List.forall_mem_append.mp hdigits
    rw [List.map_append, List.reverse_append, List.map_singleton, List.reverse_singleton,
      List.singleton_append, weighted] at h
    cases hdigit : digit? radix c.toUInt8 with
    | none => simp [hdigit] at h
    | some d =>
      obtain ⟨hisDigit, rfl⟩ :=
        isDigit_of_digit? (hlast c (List.mem_singleton_self _)) hradix hdigit
      rw [hdigit] at h
      dsimp only at h
      split_ifs at h
      obtain ⟨hdigits, hvalue⟩ := ih hinit h
      refine ⟨List.forall_mem_append.mpr ⟨hdigits, ?_⟩, ?_⟩
      · intro d hd
        rwa [List.mem_singleton.mp hd]
      · rw [hvalue, number_concat]
        ring

theorem radixOf_marked {mark : Char} (hmark : radixOfMark? mark = some radix) (rest : Bytes) :
    radixOf (48 :: mark.toUInt8 :: rest) = (radix, rest) := by
  rcases radixOfMark?_cases hmark with
    ⟨rfl, rfl | rfl⟩ | ⟨rfl, rfl | rfl⟩ | ⟨rfl, rfl | rfl⟩ <;> rfl

theorem radixOf_unmarked (hcs : ∀ c ∈ cs, c.toNat < 128)
    (h : ∀ mark digits, cs = '0' :: mark :: digits → radixOfMark? mark = none) :
    radixOf (cs.map Char.toUInt8) = (10, cs.map Char.toUInt8) := by
  have hnone (mark : Char) (hmark : mark.toNat < 128) (hsome : radixOfMark? mark ≠ none)
      (rest : Bytes) : cs.map Char.toUInt8 ≠ 48 :: mark.toUInt8 :: rest := by
    intro heq
    obtain ⟨zero, tail, rfl, hzero, htail⟩ := List.map_eq_cons_iff.mp heq
    obtain ⟨mark', digits, rfl, hmark', -⟩ := List.map_eq_cons_iff.mp htail
    obtain ⟨hzeroAscii, htailAscii⟩ := List.forall_mem_cons.mp hcs
    have hzero' : zero.toUInt8 = '0'.toUInt8 := hzero
    have hmarkAscii := htailAscii mark' (List.mem_cons_self ..)
    rw [(Text.toUInt8_inj hzeroAscii (by decide)).mp hzero',
      (Text.toUInt8_inj hmarkAscii hmark).mp hmark'] at h
    exact hsome (h _ _ rfl)
  unfold radixOf
  split
  · exact absurd ‹_› (hnone 'x' (by decide) (by decide) _)
  · exact absurd ‹_› (hnone 'X' (by decide) (by decide) _)
  · exact absurd ‹_› (hnone 'o' (by decide) (by decide) _)
  · exact absurd ‹_› (hnone 'O' (by decide) (by decide) _)
  · exact absurd ‹_› (hnone 'b' (by decide) (by decide) _)
  · exact absurd ‹_› (hnone 'B' (by decide) (by decide) _)
  · rfl

theorem lt_of_mem_radixOf {bytes : Bytes} (h : ∀ b ∈ (radixOf bytes).2, b.toNat < 128) :
    ∀ b ∈ bytes, b.toNat < 128 := by
  unfold radixOf at h
  split at h
  all_goals first
    | exact h
    | exact List.forall_mem_cons.mpr ⟨by decide, List.forall_mem_cons.mpr ⟨by decide, h⟩⟩

theorem forall_lt_of_prefixed (h : prefixed bound (String.ofList cs) = .ok n) :
    ∀ c ∈ cs, c.toNat < 128 := by
  unfold prefixed Text.utf8 at h
  rw [String.toList_ofList] at h
  refine Text.forall_lt_of_utf8Chars (lt_of_mem_radixOf fun b hb => ?_)
  by_cases hgrouping : isGrouping b = true
  · rw [of_decide_eq_true hgrouping]
    decide
  · have hfilter : b ∈ (radixOf (Text.utf8Chars cs)).2.filter (! isGrouping ·) :=
      List.mem_filter.mpr ⟨hb, by simpa using hgrouping⟩
    split at h
    · rename_i heq
      rw [heq] at hfilter
      exact lt_of_digit? (forall_of_gathered h b hfilter)
    · rename_i heq
      rw [heq] at hfilter
      exact lt_of_digit? (forall_of_weighted h b (List.mem_reverse.mpr hfilter))

theorem prefixed_marked {mark : Char} (hmark : radixOfMark? mark = some radix)
    (hdigits : ∀ c ∈ digits, c.toNat < 128) :
    prefixed bound (String.ofList ('0' :: mark :: digits)) =
      weighted bound radix ((ungrouped digits).map Char.toUInt8).reverse 1 0 := by
  have hascii : ∀ c ∈ '0' :: mark :: digits, c.toNat < 128 := by
    refine List.forall_mem_cons.mpr ⟨by decide, List.forall_mem_cons.mpr ⟨?_, hdigits⟩⟩
    rcases radixOfMark?_cases hmark with ⟨-, rfl | rfl⟩ | ⟨-, rfl | rfl⟩ | ⟨-, rfl | rfl⟩ <;> decide
  have hradix : radixOf (('0' :: mark :: digits).map Char.toUInt8) =
      (radix, digits.map Char.toUInt8) := radixOf_marked hmark _
  unfold prefixed Text.utf8
  rw [String.toList_ofList, Text.utf8Chars_ascii hascii, ← filter_map_toUInt8 hdigits, hradix]
  rcases radixOfMark?_cases hmark with ⟨rfl, -⟩ | ⟨rfl, -⟩ | ⟨rfl, -⟩ <;> rfl

theorem prefixed_unmarked (hcs : ∀ c ∈ cs, c.toNat < 128)
    (h : ∀ mark digits, cs = '0' :: mark :: digits → radixOfMark? mark = none) :
    prefixed bound (String.ofList cs) = gathered bound ((ungrouped cs).map Char.toUInt8) 0 0 := by
  unfold prefixed Text.utf8
  rw [String.toList_ofList, Text.utf8Chars_ascii hcs, radixOf_unmarked hcs h,
    ← filter_map_toUInt8 hcs]
  rfl

theorem forall_lt_of_ungrouped (h : ∀ c ∈ ungrouped cs, IsDigit radix c) :
    ∀ c ∈ cs, c.toNat < 128 := by
  intro c hc
  by_cases hunderscore : c = '_'
  · rw [hunderscore]
    decide
  · exact (h c (List.mem_filter.mpr ⟨hc, decide_eq_true hunderscore⟩)).lt_ascii

theorem unmarked_of_ungrouped (h : ∀ c ∈ ungrouped cs, IsDigit 10 c) {mark : Char}
    {digits : List Char} (hcs : cs = '0' :: mark :: digits) : radixOfMark? mark = none := by
  cases hmark : radixOfMark? mark with
  | none => rfl
  | some radix =>
    have hdigit (hne : mark ≠ '_') : IsDigit 10 mark :=
      h mark (List.mem_filter.mpr ⟨by simp [hcs], decide_eq_true hne⟩)
    rcases radixOfMark?_cases hmark with ⟨-, rfl | rfl⟩ | ⟨-, rfl | rfl⟩ | ⟨-, rfl | rfl⟩ <;>
      exact absurd (hdigit (by decide)) (by decide)

theorem prefixed_of_grouped (h : Grouped cs n) (hn : n < bound) :
    prefixed bound (String.ofList cs) = .ok n := by
  cases h with
  | decimal hne h =>
    rw [prefixed_unmarked (forall_lt_of_ungrouped h) fun mark digits => unmarked_of_ungrouped h]
    exact gathered_digits h 0 hn
  | @marked mark radix digits hmark h =>
    have hvalue : 0 + 1 * number radix (ungrouped digits) = number radix (ungrouped digits) := by
      omega
    rw [← hvalue] at hn ⊢
    rw [prefixed_marked hmark (forall_lt_of_ungrouped h)]
    exact weighted_digits h hn

theorem grouped_of_prefixed (hne : cs ≠ []) (h : prefixed bound (String.ofList cs) = .ok n) :
    Grouped cs n := by
  have hascii := forall_lt_of_prefixed h
  have hungrouped {cs : List Char} (hcs : ∀ c ∈ cs, c.toNat < 128) :
      ∀ c ∈ ungrouped cs, c.toNat < 128 := fun c hc => hcs c (List.mem_of_mem_filter hc)
  by_cases hmarked : ∃ mark digits radix, cs = '0' :: mark :: digits ∧
      radixOfMark? mark = some radix
  · obtain ⟨mark, digits, radix, rfl, hmark⟩ := hmarked
    obtain ⟨-, hascii⟩ := List.forall_mem_cons.mp hascii
    obtain ⟨-, hascii⟩ := List.forall_mem_cons.mp hascii
    have hradix : radix ≤ 16 := by
      have hcases := radixOfMark?_cases hmark
      omega
    rw [prefixed_marked hmark hascii] at h
    obtain ⟨hdigits, hvalue⟩ := weighted_inv hradix (hungrouped hascii) h
    rw [Nat.zero_add, Nat.one_mul] at hvalue
    rw [hvalue]
    exact .marked hmark hdigits
  · have hunmarked : ∀ mark digits, cs = '0' :: mark :: digits → radixOfMark? mark = none := by
      intro mark digits hcs
      by_contra hsome
      obtain ⟨radix, hradix⟩ := Option.ne_none_iff_exists'.mp hsome
      exact hmarked ⟨mark, digits, radix, hcs, hradix⟩
    rw [prefixed_unmarked hascii hunmarked] at h
    obtain ⟨hdigits, rfl⟩ := gathered_inv (hungrouped hascii) h
    exact .decimal hne hdigits

/-- What is read is a numeral of a number below the bound, and all of these are read. -/
theorem prefixed_eq_ok_iff (hbound : 0 < bound) (hne : cs ≠ []) :
    prefixed bound (String.ofList cs) = .ok n ↔ Grouped cs n ∧ n < bound :=
  ⟨fun h => ⟨grouped_of_prefixed hne h, lt_of_prefixed hbound h⟩,
    fun h => prefixed_of_grouped h.1 h.2⟩

/-- There are no underscores, and a mark is a small `x` with digits behind it. -/
structure IsPlain (cs : List Char) : Prop where
  ungrouped : '_' ∉ cs
  marked : ∀ mark digits, cs = '0' :: mark :: digits → radixOfMark? mark ≠ none →
    mark = 'x' ∧ digits ≠ []

theorem ungrouped_eq_self (h : '_' ∉ cs) : ungrouped cs = cs := by
  unfold ungrouped
  rw [List.filter_eq_self]
  intro c hc
  rw [decide_eq_true_eq]
  rintro rfl
  exact h hc

theorem not_mem_of_isDigit (h : ∀ c ∈ digits, IsDigit radix c) : '_' ∉ digits :=
  fun hmem => (h '_' hmem).ne (by decide) rfl

/-- Plain numerals are the decimal and hexadecimal ones. -/
theorem spells_iff : Spells cs n ↔ Grouped cs n ∧ IsPlain cs := by
  constructor
  · rintro (⟨hne, h⟩ | ⟨hne, h⟩)
    · have hself := ungrouped_eq_self (not_mem_of_isDigit h)
      have hdigits : ∀ c ∈ ungrouped cs, IsDigit 10 c := by rwa [hself]
      have hgrouped := Grouped.decimal hne hdigits
      rw [hself] at hgrouped
      exact ⟨hgrouped, not_mem_of_isDigit h, fun mark digits hcs hmark =>
        absurd (unmarked_of_ungrouped hdigits hcs) hmark⟩
    · rename_i digits
      have hself := ungrouped_eq_self (not_mem_of_isDigit h)
      have hgrouped := @Grouped.marked 'x' 16 digits rfl (by rwa [hself])
      rw [hself] at hgrouped
      refine ⟨hgrouped, ?_, ?_⟩
      · simpa using not_mem_of_isDigit h
      · rintro mark digits' hcs -
        cases hcs
        exact ⟨rfl, hne⟩
  · rintro ⟨⟨hne, h⟩ | ⟨hmark, h⟩, hplain⟩
    · have hself := ungrouped_eq_self hplain.ungrouped
      rw [hself] at h ⊢
      exact .decimal hne h
    · rename_i mark radix digits
      have hmarked : radixOfMark? mark ≠ none := by rw [hmark]; exact Option.some_ne_none _
      obtain ⟨rfl, hne⟩ := hplain.marked mark digits rfl hmarked
      have hself := ungrouped_eq_self
        (mt (List.mem_cons_of_mem _) (mt (List.mem_cons_of_mem _) hplain.ungrouped))
      cases hmark
      rw [hself] at h ⊢
      exact .hexadecimal hne h

end Numeral

theorem Uint256.ofText_eq_ok_iff_prefixed {text : String} {word : Uint256} :
    ofText text = .ok word ↔ Numeral.prefixed (Bytes.limit 32) text = .ok word.val := by
  unfold ofText
  split
  · rename_i n hn
    constructor
    · rintro ⟨⟩
      exact hn
    · intro h
      rw [hn, Except.ok.injEq] at h
      exact congrArg Except.ok (Uint256.ext h)
  · rename_i e he
    constructor
    · nofun
    · intro h
      rw [he] at h
      cases h

/-- A text that is not empty is read as a word exactly if it is a numeral of the word. -/
theorem Uint256.ofText_eq_ok_iff {cs : List Char} {word : Uint256} (hne : cs ≠ []) :
    ofText (String.ofList cs) = .ok word ↔ Numeral.Grouped cs word.val := by
  rw [ofText_eq_ok_iff_prefixed, Numeral.prefixed_eq_ok_iff (Bytes.limit_pos _) hne]
  exact and_iff_left word.lt

theorem Uint256.ofText_hex (word : Uint256) : ofText word.hex = .ok word := by
  have hgrouped := (Numeral.spells_iff.mp (Numeral.spells_quantity word.val)).1
  have hne : (Hex.quantity word.val).toList ≠ [] := by
    unfold Hex.quantity
    simp
  have hread := (ofText_eq_ok_iff hne).mpr hgrouped
  rwa [String.ofList_toList] at hread

end LayerMessaging
