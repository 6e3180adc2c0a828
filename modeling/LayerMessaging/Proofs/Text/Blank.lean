import LayerMessaging.Text.Blank
import Mathlib.Data.List.DropRight

namespace LayerMessaging.Text

structure Trimmed (cs : List Char) : Prop where
  head : ∀ c, cs.head? = some c → isBlank c = false
  last : ∀ c, cs.getLast? = some c → isBlank c = false

variable {p : Char → Bool} {cs before behind : List Char}

theorem isBlank_eq_false {c : Char} (hlow : 33 ≤ c.toNat) (hhigh : c.toNat ≤ 132) :
    isBlank c = false := by
  simp [isBlank, inRanges, blankRanges]
  omega

theorem dropWhile_eq_self (h : ∀ c, cs.head? = some c → p c = false) : cs.dropWhile p = cs := by
  cases cs with
  | nil => rfl
  | cons c rest => exact List.dropWhile_cons_of_neg (by simp [h c rfl])

theorem dropWhile_append_of_mem {c : Char} (hmem : c ∈ cs) (hc : p c = false) (rest : List Char) :
    (cs ++ rest).dropWhile p = cs.dropWhile p ++ rest := by
  rw [List.dropWhile_append, if_neg]
  intro hempty
  have hall := List.dropWhile_eq_nil_iff.mp (List.isEmpty_iff.mp hempty)
  rw [hall c hmem] at hc
  cases hc

theorem takeWhile_append_of_mem {c : Char} (hmem : c ∈ cs) (hc : p c = false) (rest : List Char) :
    (cs ++ rest).takeWhile p = cs.takeWhile p := by
  induction cs with
  | nil => cases hmem
  | cons d tail ih =>
    rw [List.cons_append, List.takeWhile_cons, List.takeWhile_cons]
    split
    · rename_i hd
      rcases List.mem_cons.mp hmem with rfl | hmem
      · rw [hd] at hc
        cases hc
      · rw [ih hmem]
    · rfl

theorem dropEndWhile_eq_self (h : ∀ c, cs.getLast? = some c → p c = false) :
    dropEndWhile p cs = cs := by
  unfold dropEndWhile
  rw [dropWhile_eq_self, List.reverse_reverse]
  intro c hc
  rw [List.head?_reverse] at hc
  exact h c hc

theorem dropEndWhile_append (h : ∀ c ∈ behind, p c = true) :
    dropEndWhile p (cs ++ behind) = dropEndWhile p cs := by
  unfold dropEndWhile
  rw [List.reverse_append, List.dropWhile_append_of_pos]
  intro c hc
  exact h c (List.mem_reverse.mp hc)

theorem dropEndWhile_append_cons {c : Char} (hc : p c = false) (tail : List Char) :
    dropEndWhile p (cs ++ c :: tail) = cs ++ c :: dropEndWhile p tail := by
  have hreverse : (cs ++ c :: tail).reverse = tail.reverse ++ c :: cs.reverse := by simp
  unfold dropEndWhile
  rw [hreverse, List.dropWhile_append]
  split
  · rename_i hempty
    rw [List.dropWhile_cons_of_neg (by simp [hc]), List.isEmpty_iff.mp hempty]
    simp
  · simp

/-- What surrounds a text that neither begins nor ends so is dropped. -/
theorem dropEndWhile_dropWhile_append (hbefore : ∀ c ∈ before, p c = true)
    (hbehind : ∀ c ∈ behind, p c = true) (hhead : ∀ c, cs.head? = some c → p c = false)
    (hlast : ∀ c, cs.getLast? = some c → p c = false) :
    dropEndWhile p ((before ++ cs ++ behind).dropWhile p) = cs := by
  rw [List.append_assoc, List.dropWhile_append_of_pos hbefore]
  cases cs with
  | nil =>
    have hnil : List.dropWhile p behind = [] := List.dropWhile_eq_nil_iff.mpr hbehind
    rw [List.nil_append, hnil]
    rfl
  | cons c rest =>
    rw [dropWhile_eq_self, dropEndWhile_append hbehind, dropEndWhile_eq_self hlast]
    intro d hd
    exact hhead d hd

theorem trimChars_append (hbefore : ∀ c ∈ before, isBlank c = true)
    (hbehind : ∀ c ∈ behind, isBlank c = true) (h : Trimmed cs) :
    trimChars (before ++ cs ++ behind) = cs :=
  dropEndWhile_dropWhile_append hbefore hbehind h.head h.last

theorem trimmed_trimChars (cs : List Char) : Trimmed (trimChars cs) := by
  have hstart : ∀ c, (trimStartChars cs).head? = some c → isBlank c = false := by
    intro c hc
    have hnot := List.head?_dropWhile_not isBlank cs
    unfold trimStartChars at hc
    rw [hc] at hnot
    simpa using hnot
  constructor
  · intro c hc
    have hfront : trimChars cs <+: trimStartChars cs := List.rdropWhile_prefix _ _
    obtain ⟨tail, htail⟩ := hfront
    apply hstart
    rw [← htail, List.head?_append, hc]
    rfl
  · intro c hc
    have hnot := List.head?_dropWhile_not isBlank (trimStartChars cs).reverse
    unfold trimChars trimEndChars dropEndWhile at hc
    rw [List.getLast?_reverse] at hc
    rw [hc] at hnot
    simpa using hnot

theorem exists_eq_append_dropEndWhile (p : Char → Bool) (cs : List Char) :
    ∃ before behind, (∀ c ∈ before, p c = true) ∧ (∀ c ∈ behind, p c = true) ∧
      cs = before ++ dropEndWhile p (cs.dropWhile p) ++ behind := by
  refine ⟨cs.takeWhile p, ((cs.dropWhile p).reverse.takeWhile p).reverse, ?_, ?_, ?_⟩
  · intro c hc
    exact List.mem_takeWhile_imp hc
  · intro c hc
    exact List.mem_takeWhile_imp (List.mem_reverse.mp hc)
  · have hend : dropEndWhile p (cs.dropWhile p) ++
        ((cs.dropWhile p).reverse.takeWhile p).reverse = cs.dropWhile p := by
      unfold dropEndWhile
      rw [← List.reverse_append, List.takeWhile_append_dropWhile, List.reverse_reverse]
    rw [List.append_assoc, hend]
    exact List.takeWhile_append_dropWhile.symm

/-- A text is its trimmed form with blank characters around it. -/
theorem exists_eq_append_trimChars (cs : List Char) :
    ∃ before behind, (∀ c ∈ before, isBlank c = true) ∧ (∀ c ∈ behind, isBlank c = true) ∧
      cs = before ++ trimChars cs ++ behind :=
  exists_eq_append_dropEndWhile isBlank cs

theorem mem_of_mem_trimChars {c : Char} (h : c ∈ trimChars cs) : c ∈ cs := by
  obtain ⟨before, behind, -, -, heq⟩ := exists_eq_append_trimChars cs
  rw [heq]
  exact List.mem_append_left _ (List.mem_append_right _ h)

theorem trimChars_of_trimmed (h : Trimmed cs) : trimChars cs = cs := by
  have htrim := @trimChars_append cs [] [] (by simp) (by simp) h
  simpa using htrim

theorem trimChars_trimChars (cs : List Char) : trimChars (trimChars cs) = trimChars cs :=
  trimChars_of_trimmed (trimmed_trimChars cs)

theorem trimChars_eq_nil_iff : trimChars cs = [] ↔ ∀ c ∈ cs, isBlank c = true := by
  constructor
  · intro h
    obtain ⟨before, behind, hbefore, hbehind, heq⟩ := exists_eq_append_trimChars cs
    rw [h] at heq
    rw [heq]
    intro c hc
    simp only [List.append_nil, List.mem_append] at hc
    rcases hc with hc | hc
    · exact hbefore c hc
    · exact hbehind c hc
  · intro h
    have hnil : Trimmed [] := ⟨by simp, by simp⟩
    have htrim := @trimChars_append [] cs [] h (by simp) hnil
    simpa using htrim

theorem splitChars_append_separator {s : Char} (hs : p s = true) (cs rest : List Char) :
    splitChars p (cs ++ s :: rest) = splitChars p cs ++ splitChars p rest := by
  induction cs with
  | nil => exact if_pos hs
  | cons c cs ih =>
    obtain ⟨first, others, hsplit⟩ := List.exists_cons_of_ne_nil (splitChars_ne_nil p cs)
    rw [List.cons_append, splitChars, splitChars, ih, hsplit]
    split <;> rfl

theorem splitChars_eq_singleton (h : ∀ c ∈ cs, p c = false) : splitChars p cs = [cs] := by
  induction cs with
  | nil => rfl
  | cons c rest ih =>
    obtain ⟨hc, hrest⟩ := List.forall_mem_cons.mp h
    rw [splitChars, if_neg (by simp [hc]), ih hrest]

theorem splitChars_append_cons {s : Char} (h : ∀ c ∈ cs, p c = false) (hs : p s = true)
    (rest : List Char) : splitChars p (cs ++ s :: rest) = cs :: splitChars p rest := by
  rw [splitChars_append_separator hs, splitChars_eq_singleton h, List.singleton_append]

theorem splitChars_concat {s : Char} (hs : p s = true) (cs : List Char) :
    splitChars p (cs ++ [s]) = splitChars p cs ++ [[]] :=
  splitChars_append_separator hs cs []

theorem not_mem_of_mem_splitChars {piece : List Char} (h : piece ∈ splitChars p cs) :
    ∀ c ∈ piece, p c = false := by
  induction cs generalizing piece with
  | nil =>
    rw [List.mem_singleton.mp h]
    exact List.forall_mem_nil _
  | cons c rest ih =>
    rw [splitChars] at h
    split at h
    · rcases List.mem_cons.mp h with rfl | h
      · exact List.forall_mem_nil _
      · exact ih h
    · rename_i hc
      obtain ⟨first, others, hsplit⟩ := List.exists_cons_of_ne_nil (splitChars_ne_nil p rest)
      rw [hsplit] at h ih
      rcases List.mem_cons.mp h with rfl | h
      · exact List.forall_mem_cons.mpr ⟨eq_false_of_ne_true hc, ih List.mem_cons_self⟩
      · exact ih (List.mem_cons_of_mem _ h)

/-- A text has no separator, or a first one. -/
theorem exists_first_separator (p : Char → Bool) (cs : List Char) :
    (∀ c ∈ cs, p c = false) ∨
      ∃ piece s rest, cs = piece ++ s :: rest ∧ (∀ c ∈ piece, p c = false) ∧ p s = true := by
  induction cs with
  | nil => exact .inl (List.forall_mem_nil _)
  | cons c rest ih =>
    cases hc : p c with
    | true => exact .inr ⟨[], c, rest, rfl, List.forall_mem_nil _, hc⟩
    | false =>
      rcases ih with h | ⟨piece, s, rest', rfl, hpiece, hs⟩
      · exact .inl (List.forall_mem_cons.mpr ⟨hc, h⟩)
      · exact .inr ⟨c :: piece, s, rest', rfl, List.forall_mem_cons.mpr ⟨hc, hpiece⟩, hs⟩

end LayerMessaging.Text
