import LayerMessaging.Message.Payload
import LayerMessaging.Proofs.Number.Grouped
import Mathlib.Data.List.Forall2

namespace LayerMessaging.Payload

open Text

/-- A piece between separators: nothing but quotes, or a numeral with any quotes around it. -/
inductive Piece (IsNumeral : List Char → Nat → Prop) : List Uint256 → List Char → Prop
  | empty {cs : List Char} (h : ∀ c ∈ cs, isQuote c = true) : Piece IsNumeral [] cs
  | numeral {before cs behind : List Char} {word : Uint256}
      (hbefore : ∀ c ∈ before, isQuote c = true) (hbehind : ∀ c ∈ behind, isQuote c = true)
      (h : IsNumeral cs word.val) : Piece IsNumeral [word] (before ++ cs ++ behind)

inductive Pieces (IsNumeral : List Char → Nat → Prop) : List Uint256 → List Char → Prop
  | last {words : List Uint256} {piece : List Char} (h : Piece IsNumeral words piece) :
      Pieces IsNumeral words piece
  | more {words words' : List Uint256} {s : Char} {piece cs : List Char}
      (h : Piece IsNumeral words piece) (hs : isSeparator s = true)
      (hrest : Pieces IsNumeral words' cs) : Pieces IsNumeral (words ++ words') (piece ++ s :: cs)

/-- A text with some words, as far as it is known what a numeral is. Blank characters are
separators, so that only those around brackets are named. -/
inductive Layout (IsNumeral : List Char → Nat → Prop) (words : List Uint256) : List Char → Prop
  | bare {cs : List Char} (h : Pieces IsNumeral words cs) : Layout IsNumeral words cs
  | bracketed {before cs behind : List Char} (hbefore : ∀ c ∈ before, isBlank c = true)
      (hbehind : ∀ c ∈ behind, isBlank c = true) (h : Pieces IsNumeral words cs) :
      Layout IsNumeral words (before ++ ('[' :: cs ++ [']']) ++ behind)

/-- The character is neither a separator nor a bracket nor a sign. -/
structure IsInner (c : Char) : Prop where
  not_separator : isSeparator c = false
  not_opening : c ≠ '['
  not_closing : c ≠ ']'
  not_minus : c ≠ '-'

theorem isInner_quote : IsInner '"' := by
  constructor <;> decide

variable {IsNumeral : List Char → Nat → Prop} {c s : Char} {cs piece before behind : List Char}
  {words : List Uint256}

theorem isInner_of_isQuote (h : isQuote c = true) : IsInner c := by
  rw [of_decide_eq_true h]
  exact isInner_quote

theorem isInner_of_isDigit {radix : Nat} (h : Numeral.IsDigit radix c) :
    IsInner c ∧ isQuote c = false := by
  have hcomma : c ≠ ',' := h.ne (by decide)
  have hseparator : isSeparator c = false := by
    unfold isSeparator
    rw [h.not_blank, decide_eq_false hcomma]
    rfl
  exact ⟨⟨hseparator, h.ne (by decide), h.ne (by decide), h.ne (by decide)⟩,
    decide_eq_false (h.ne (by decide))⟩

def StandApart (IsNumeral : List Char → Nat → Prop) : Prop :=
  ∀ cs n, IsNumeral cs n → cs ≠ [] ∧ ∀ c ∈ cs, IsInner c ∧ isQuote c = false

theorem standApart_spells : StandApart Numeral.Spells := by
  rintro cs n (⟨hne, h⟩ | ⟨hne, h⟩)
  · exact ⟨hne, fun c hc => isInner_of_isDigit (h c hc)⟩
  · refine ⟨List.cons_ne_nil _ _, List.forall_mem_cons.mpr ⟨?_, List.forall_mem_cons.mpr
      ⟨?_, fun c hc => isInner_of_isDigit (h c hc)⟩⟩⟩
    · exact ⟨by constructor <;> decide, by decide⟩
    · exact ⟨by constructor <;> decide, by decide⟩

theorem standApart_grouped : StandApart Numeral.Grouped := by
  have hgrouped {radix : Nat} {cs : List Char}
      (h : ∀ c ∈ Numeral.ungrouped cs, Numeral.IsDigit radix c) :
      ∀ c ∈ cs, IsInner c ∧ isQuote c = false := by
    intro c hc
    by_cases hunderscore : c = '_'
    · rw [hunderscore]
      exact ⟨by constructor <;> decide, by decide⟩
    · exact isInner_of_isDigit (h c (List.mem_filter.mpr ⟨hc, decide_eq_true hunderscore⟩))
  rintro cs n (⟨hne, h⟩ | ⟨hmark, h⟩)
  · exact ⟨hne, hgrouped h⟩
  · refine ⟨List.cons_ne_nil _ _, List.forall_mem_cons.mpr ⟨?_, List.forall_mem_cons.mpr
      ⟨?_, hgrouped h⟩⟩⟩
    · exact ⟨by constructor <;> decide, by decide⟩
    · rcases Numeral.radixOfMark?_cases hmark with
        ⟨-, rfl | rfl⟩ | ⟨-, rfl | rfl⟩ | ⟨-, rfl | rfl⟩ <;>
          exact ⟨by constructor <;> decide, by decide⟩

theorem isSeparator_of_isBlank (h : isBlank c = true) : isSeparator c = true := by
  unfold isSeparator
  rw [h, Bool.or_true]

theorem not_bracket_of_isSeparator (hs : isSeparator s = true) : s ≠ '[' ∧ s ≠ ']' := by
  constructor <;> rintro rfl <;> revert hs <;> decide

theorem pieces_cons (hs : isSeparator s = true) (cs : List Char) :
    pieces (s :: cs) = pieces cs := by
  unfold pieces
  rw [splitChars, if_pos hs]
  rfl

theorem pieces_concat (hs : isSeparator s = true) (cs : List Char) :
    pieces (cs ++ [s]) = pieces cs := by
  unfold pieces
  rw [splitChars_concat hs, List.map_append, List.filter_append]
  exact List.append_nil _

theorem pieces_append_blank (h : ∀ c ∈ behind, isBlank c = true) (cs : List Char) :
    pieces (cs ++ behind) = pieces cs := by
  induction behind generalizing cs with
  | nil => rw [List.append_nil]
  | cons b rest ih =>
    have hb := isSeparator_of_isBlank (h b (List.mem_cons_self ..))
    rw [List.append_cons, ih fun d hd => h d (List.mem_cons_of_mem _ hd), pieces_concat hb]

theorem pieces_blank_append (h : ∀ c ∈ before, isBlank c = true) (cs : List Char) :
    pieces (before ++ cs) = pieces cs := by
  induction before with
  | nil => rfl
  | cons b rest ih =>
    have hb := isSeparator_of_isBlank (h b (List.mem_cons_self ..))
    rw [List.cons_append, pieces_cons hb, ih fun d hd => h d (List.mem_cons_of_mem _ hd)]

theorem pieces_trimChars (cs : List Char) : pieces (trimChars cs) = pieces cs := by
  obtain ⟨before, behind, hbefore, hbehind, heq⟩ := exists_eq_append_trimChars cs
  have hpieces := congrArg pieces heq
  rw [pieces_append_blank hbehind, pieces_blank_append hbefore] at hpieces
  exact hpieces.symm

theorem pieces_of_not_separator (h : ∀ c ∈ piece, isSeparator c = false) :
    pieces piece = [unquote piece].filter (! ·.isEmpty) := by
  unfold pieces
  rw [splitChars_eq_singleton h, List.map_singleton]

theorem pieces_append_cons (h : ∀ c ∈ piece, isSeparator c = false) (hs : isSeparator s = true)
    (cs : List Char) : pieces (piece ++ s :: cs) = pieces piece ++ pieces cs := by
  rw [pieces_of_not_separator h]
  unfold pieces
  rw [splitChars_append_cons h hs, List.map_cons, ← List.singleton_append, List.filter_append]

theorem ne_nil_of_mem_pieces (h : piece ∈ pieces cs) : piece ≠ [] := by
  have hnonempty := (List.mem_filter.mp h).2
  rintro rfl
  cases hnonempty

theorem unquote_append (hbefore : ∀ c ∈ before, isQuote c = true)
    (hbehind : ∀ c ∈ behind, isQuote c = true) (hcs : ∀ c ∈ cs, IsInner c ∧ isQuote c = false) :
    unquote (before ++ cs ++ behind) = cs :=
  dropEndWhile_dropWhile_append hbefore hbehind (fun c hc => (hcs c (List.mem_of_head? hc)).2)
    fun c hc => (hcs c (List.mem_of_getLast? hc)).2

theorem Piece.isInner (hapart : StandApart IsNumeral) (h : Piece IsNumeral words piece) :
    ∀ c ∈ piece, IsInner c := by
  cases h with
  | empty h => exact fun c hc => isInner_of_isQuote (h c hc)
  | numeral hbefore hbehind h =>
    refine List.forall_mem_append.mpr ⟨List.forall_mem_append.mpr ⟨?_, ?_⟩, ?_⟩
    · exact fun c hc => isInner_of_isQuote (hbefore c hc)
    · exact fun c hc => ((hapart _ _ h).2 c hc).1
    · exact fun c hc => isInner_of_isQuote (hbehind c hc)

/-- Of a piece, its numeral is left, if it has one. -/
theorem Piece.forall₂ (hapart : StandApart IsNumeral) (h : Piece IsNumeral words piece) :
    List.Forall₂ (fun piece word => IsNumeral piece word.val) (pieces piece) words := by
  have hseparator : ∀ c ∈ piece, isSeparator c = false := fun c hc =>
    (h.isInner hapart c hc).not_separator
  rw [pieces_of_not_separator hseparator]
  cases h with
  | empty h =>
    have hnil : piece.dropWhile isQuote = [] := List.dropWhile_eq_nil_iff.mpr h
    rw [unquote, hnil]
    exact .nil
  | numeral hbefore hbehind h =>
    obtain ⟨hne, hinner⟩ := hapart _ _ h
    rw [unquote_append hbefore hbehind hinner, List.filter_cons_of_pos (by simpa using hne)]
    exact .cons h .nil

theorem Piece.of_forall₂ (hseparator : ∀ c ∈ piece, isSeparator c = false)
    (h : List.Forall₂ (fun piece word => IsNumeral piece word.val) (pieces piece) words) :
    Piece IsNumeral words piece := by
  obtain ⟨before, behind, hbefore, hbehind, heq⟩ := exists_eq_append_dropEndWhile isQuote piece
  have heq : piece = before ++ unquote piece ++ behind := heq
  rw [pieces_of_not_separator hseparator] at h
  by_cases hnil : unquote piece = []
  · rw [hnil] at h heq
    rw [List.forall₂_nil_left_iff.mp h, heq]
    rw [List.append_nil]
    exact .empty (List.forall_mem_append.mpr ⟨hbefore, hbehind⟩)
  · rw [List.filter_cons_of_pos (by simpa using hnil), List.forall₂_cons_left_iff] at h
    obtain ⟨word, words', hnumeral, hrest, rfl⟩ := h
    rw [List.forall₂_nil_left_iff.mp hrest, heq]
    exact .numeral hbefore hbehind hnumeral

theorem Pieces.forall₂ (hapart : StandApart IsNumeral) (h : Pieces IsNumeral words cs) :
    List.Forall₂ (fun piece word => IsNumeral piece word.val) (pieces cs) words := by
  induction h with
  | last h => exact h.forall₂ hapart
  | more h hs hrest ih =>
    rw [pieces_append_cons (fun c hc => (h.isInner hapart c hc).not_separator) hs]
    exact List.rel_append (h.forall₂ hapart) ih

theorem Pieces.of_forall₂
    (h : List.Forall₂ (fun piece word => IsNumeral piece word.val) (pieces cs) words) :
    Pieces IsNumeral words cs := by
  -- By induction on the length, from the first separator to what is behind it.
  generalize hsize : cs.length = size
  induction size using Nat.strong_induction_on generalizing cs words with
  | _ size ih =>
    rcases exists_first_separator isSeparator cs with hnone | ⟨piece, s, rest, rfl, hpiece, hs⟩
    · exact .last (Piece.of_forall₂ hnone h)
    · have hshorter : rest.length < size := by
        rw [← hsize, List.length_append, List.length_cons]
        omega
      rw [pieces_append_cons hpiece hs] at h
      have hfirst := (List.forall₂_take_append _ _ _ h.flip).flip
      have hothers := (List.forall₂_drop_append _ _ _ h.flip).flip
      have hpieces := Pieces.more (Piece.of_forall₂ hpiece hfirst) hs (ih _ hshorter hothers rfl)
      rwa [List.take_append_drop] at hpieces

theorem body_of_not_bracket (h : ∀ c ∈ cs, c ≠ '[' ∧ c ≠ ']') : body cs = .ok cs := by
  unfold body
  split
  · exact ((h '[' (List.mem_cons_self ..)).1 rfl).elim
  · refine if_neg fun hlast => ?_
    exact (h ']' (List.mem_of_getLast? hlast)).2 rfl

theorem body_bracketed (cs : List Char) : body ('[' :: cs ++ [']']) = .ok cs := by
  have hlast : (cs ++ [']']).getLast? = some ']' := List.getLast?_concat
  rw [List.cons_append, body, if_pos hlast, List.dropLast_concat]

theorem Pieces.not_bracket (hapart : StandApart IsNumeral) (h : Pieces IsNumeral words cs) :
    ∀ c ∈ cs, c ≠ '[' ∧ c ≠ ']' := by
  have hpiece {words : List Uint256} {piece : List Char} (h : Piece IsNumeral words piece) :
      ∀ c ∈ piece, c ≠ '[' ∧ c ≠ ']' := fun c hc =>
    ⟨(h.isInner hapart c hc).not_opening, (h.isInner hapart c hc).not_closing⟩
  induction h with
  | last h => exact hpiece h
  | more h hs hrest ih =>
    exact List.forall_mem_append.mpr
      ⟨hpiece h, List.forall_mem_cons.mpr ⟨not_bracket_of_isSeparator hs, ih⟩⟩

theorem body_inv {inside : List Char} (h : body cs = .ok inside) :
    cs = '[' :: inside ++ [']'] ∨ cs = inside := by
  unfold body at h
  split at h
  · rename_i rest
    split_ifs at h with hlast
    cases h
    have hne : rest ≠ [] := by
      rintro rfl
      cases hlast
    rw [List.getLast?_eq_getLast_of_ne_nil hne, Option.some_inj] at hlast
    have hrest := List.dropLast_append_getLast hne
    rw [hlast] at hrest
    rw [List.cons_append, hrest]
    exact .inl rfl
  · split_ifs at h
    cases h
    exact .inr rfl

theorem layout_iff (hapart : StandApart IsNumeral) :
    Layout IsNumeral words cs ↔ ∃ inside, body (trimChars cs) = .ok inside ∧
      List.Forall₂ (fun piece word => IsNumeral piece word.val) (pieces inside) words := by
  constructor
  · rintro (h | ⟨hbefore, hbehind, h⟩)
    · refine ⟨trimChars cs, body_of_not_bracket fun c hc => ?_, ?_⟩
      · exact h.not_bracket hapart c (mem_of_mem_trimChars hc)
      · rw [pieces_trimChars]
        exact h.forall₂ hapart
    · rename_i before cs behind
      have hblank : isBlank '[' = false ∧ isBlank ']' = false := by decide
      have htrimmed : Trimmed ('[' :: cs ++ [']']) := by
        constructor
        · rintro c ⟨⟩
          exact hblank.1
        · intro c hc
          rw [List.getLast?_concat] at hc
          cases hc
          exact hblank.2
      refine ⟨cs, ?_, h.forall₂ hapart⟩
      rw [trimChars_append hbefore hbehind htrimmed]
      exact body_bracketed cs
  · rintro ⟨inside, hbody, h⟩
    obtain ⟨before, behind, hbefore, hbehind, heq⟩ := exists_eq_append_trimChars cs
    rcases body_inv hbody with hbrackets | hbare
    · rw [heq, hbrackets]
      exact .bracketed hbefore hbehind (Pieces.of_forall₂ h)
    · rw [← hbare, pieces_trimChars] at h
      exact .bare (Pieces.of_forall₂ h)

theorem element_eq_ok_iff {word : Uint256} (hne : piece ≠ []) :
    element piece = .ok word ↔ Numeral.Grouped piece word.val := by
  rw [← Uint256.ofText_eq_ok_iff hne]
  unfold element
  by_cases hminus : piece.head? = some '-'
  · rw [if_pos hminus]
    refine ⟨nofun, fun h => ?_⟩
    -- A numeral has no sign.
    have hgrouped := (Uint256.ofText_eq_ok_iff hne).mp h
    exact absurd rfl ((standApart_grouped _ _ hgrouped).2 _ (List.mem_of_head? hminus)).1.not_minus
  · rw [if_neg hminus]
    cases Uint256.ofText (String.ofList piece) with
    | ok word' => exact ⟨fun h => congrArg Except.ok (Except.ok.inj h),
        fun h => congrArg Except.ok (Except.ok.inj h)⟩
    | error fault => exact ⟨nofun, nofun⟩

/-- Pieces are read as words exactly if they are numerals of them. -/
theorem mapM_element_eq_ok_iff {ps : List (List Char)} (hps : ∀ piece ∈ ps, piece ≠ []) :
    ps.mapM element = .ok words ↔
      List.Forall₂ (fun piece word => Numeral.Grouped piece word.val) ps words := by
  induction ps generalizing words with
  | nil =>
    rw [List.forall₂_nil_left_iff, List.mapM_nil]
    exact ⟨fun h => (Except.ok.inj h).symm, fun h => by rw [h]; rfl⟩
  | cons piece ps ih =>
    obtain ⟨hne, hps⟩ := List.forall_mem_cons.mp hps
    rw [List.forall₂_cons_left_iff, List.mapM_cons]
    constructor
    · intro h
      cases hpiece : element piece with
      | error fault =>
        rw [hpiece] at h
        cases h
      | ok word =>
        cases hrest : ps.mapM element with
        | error fault =>
          rw [hpiece, hrest] at h
          cases h
        | ok words' =>
          rw [hpiece, hrest] at h
          cases h
          exact ⟨word, words', (element_eq_ok_iff hne).mp hpiece, (ih hps).mp hrest, rfl⟩
    · rintro ⟨word, words', hpiece, hrest, rfl⟩
      rw [(element_eq_ok_iff hne).mpr hpiece, (ih hps).mpr hrest]
      rfl

theorem ofText_of_body {text : String} {inside : List Char}
    (hbody : body (trimChars text.toList) = .ok inside)
    (h : (pieces inside).mapM element = .ok words) : ofText text = .ok ⟨words⟩ := by
  unfold ofText
  rw [hbody]
  change (do return (⟨← (pieces inside).mapM element⟩ : Payload)) = _
  rw [h]
  rfl

/-- Reading succeeds where there is something inside brackets, if any, whose pieces are read. -/
theorem ofText_eq_ok_iff_body {text : String} {payload : Payload} :
    ofText text = .ok payload ↔ ∃ inside, body (trimChars text.toList) = .ok inside ∧
      (pieces inside).mapM element = .ok payload.words := by
  constructor
  · intro h
    unfold ofText at h
    cases hbody : body (trimChars text.toList) with
    | error fault =>
      rw [hbody] at h
      cases h
    | ok inside =>
      rw [hbody] at h
      change (do return (⟨← (pieces inside).mapM element⟩ : Payload)) = _ at h
      cases hwords : (pieces inside).mapM element with
      | error fault =>
        rw [hwords] at h
        cases h
      | ok words =>
        rw [hwords] at h
        cases h
        exact ⟨inside, rfl, hwords⟩
  · rintro ⟨inside, hbody, hwords⟩
    exact ofText_of_body hbody hwords

theorem ofText_eq_ok_iff {text : String} {payload : Payload} :
    ofText text = .ok payload ↔ Layout Numeral.Grouped payload.words text.toList := by
  rw [ofText_eq_ok_iff_body, layout_iff standApart_grouped]
  refine exists_congr fun inside => and_congr_right fun _ => ?_
  exact mapM_element_eq_ok_iff fun piece hpiece => ne_nil_of_mem_pieces hpiece

def AllPlain (cs : List Char) : Prop :=
  ∀ inside, body (trimChars cs) = .ok inside → ∀ piece ∈ pieces inside, Numeral.IsPlain piece

theorem layout_spells_iff :
    Layout Numeral.Spells words cs ↔ Layout Numeral.Grouped words cs ∧ AllPlain cs := by
  have hplain (inside : List Char) :
      List.Forall₂ (fun piece word => Numeral.Spells piece word.val) (pieces inside) words ↔
        (∀ piece ∈ pieces inside, Numeral.IsPlain piece) ∧
          List.Forall₂ (fun piece word => Numeral.Grouped piece word.val) (pieces inside)
            words := by
    rw [← List.forall₂_and_left]
    simp only [Numeral.spells_iff, and_comm]
  rw [layout_iff standApart_grouped, layout_iff standApart_spells]
  constructor
  · rintro ⟨inside, hbody, h⟩
    obtain ⟨hpieces, h⟩ := (hplain inside).mp h
    refine ⟨⟨inside, hbody, h⟩, fun inside' hbody' => ?_⟩
    rw [hbody] at hbody'
    cases hbody'
    exact hpieces
  · rintro ⟨⟨inside, hbody, h⟩, hall⟩
    exact ⟨inside, hbody, (hplain inside).mpr ⟨hall inside hbody, h⟩⟩

/-- The texts that are read are those laid out from grouped numerals, with the numbers of these in
order. They are laid out from decimal and hexadecimal numerals exactly if every piece is plain. -/
theorem ofText_reads_layouts (text : String) (payload : Payload) :
    (ofText text = .ok payload ↔ Layout Numeral.Grouped payload.words text.toList) ∧
      (ofText text = .ok payload ∧ AllPlain text.toList ↔
        Layout Numeral.Spells payload.words text.toList) := by
  refine ⟨ofText_eq_ok_iff, ?_⟩
  rw [ofText_eq_ok_iff, layout_spells_iff]

/-- A mark without digits is read as zero, although it is no numeral of any number. -/
theorem mark_alone_reads_as_zero :
    ofText "[0x]" = .ok ⟨[Uint256.zero]⟩ ∧
      ∀ words, ¬Layout Numeral.Spells words "[0x]".toList := by
  refine ⟨by decide +kernel, fun words h => ?_⟩
  obtain ⟨inside, hbody, h⟩ := (layout_iff standApart_spells).mp h
  have hinside : body (trimChars "[0x]".toList) = .ok ['0', 'x'] := by decide
  rw [hinside] at hbody
  cases hbody
  have hpieces : pieces ['0', 'x'] = [['0', 'x']] := by decide
  rw [hpieces, List.forall₂_cons_left_iff] at h
  obtain ⟨word, -, hspells, -, -⟩ := h
  obtain ⟨-, hplain⟩ := Numeral.spells_iff.mp hspells
  exact (hplain.marked 'x' [] rfl (by decide)).2 rfl

example : ofText "1_000 0b11 \"_\"" = .ok ⟨[⟨1000, by decide⟩, ⟨3, by decide⟩, Uint256.zero]⟩ := by
  decide +kernel

end LayerMessaging.Payload
