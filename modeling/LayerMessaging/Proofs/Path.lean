import LayerMessaging.Path
import LayerMessaging.Proofs.Text.Blank

namespace LayerMessaging.Path

open Text

variable {base below path name : String} {cs part : List Char}

/-- A path with the slash that stands between it and what is below it. -/
def folder (base : String) : String :=
  if base = "" ∨ base.toList.getLast? = some '/' then base else base ++ "/"

theorem join_of_absolute (h : below.toList.head? = some '/') : join base below = below :=
  if_pos (.inl h)

theorem join_of_relative (h : below.toList.head? ≠ some '/') :
    join base below = folder base ++ below := by
  unfold join folder
  by_cases hbase : base = ""
  · simp [hbase]
  · by_cases hlast : base.toList.getLast? = some '/'
    · simp [h, hbase, hlast]
    · simp [h, hbase, hlast]

theorem parts_append_slash (cs rest : List Char) :
    parts (cs ++ '/' :: rest) = parts cs ++ parts rest := by
  unfold parts
  rw [splitChars_append_separator (by simp), List.filter_append]

/-- The slash behind a path is no part of it, so that what follows has its own parts. -/
theorem parts_folder_append (base : String) (cs : List Char) :
    parts ((folder base).toList ++ cs) = parts base.toList ++ parts cs := by
  unfold folder
  by_cases hbase : base = ""
  · subst hbase
    rfl
  · by_cases hlast : base.toList.getLast? = some '/'
    · obtain ⟨front, hfront⟩ := List.getLast?_eq_some_iff.mp hlast
      rw [if_pos (.inr hlast), hfront, List.append_assoc, List.singleton_append,
        parts_append_slash, parts_append_slash]
      have hnil : parts [] = [] := rfl
      rw [hnil, List.append_nil]
    · rw [if_neg (not_or_intro hbase hlast), String.toList_append, List.append_assoc]
      exact parts_append_slash _ _

theorem parts_join_of_relative (h : below.toList.head? ≠ some '/') :
    parts (join base below).toList = parts base.toList ++ parts below.toList := by
  rw [join_of_relative h, String.toList_append, parts_folder_append]

theorem mem_parts (h : part ∈ parts cs) : part ≠ [] ∧ part ≠ ['.'] ∧ '/' ∉ part := by
  obtain ⟨hpiece, hplace⟩ := List.mem_filter.mp h
  simp only [Bool.and_eq_true, Bool.not_eq_eq_eq_not, Bool.not_true, List.isEmpty_eq_false_iff,
    bne_iff_ne, ne_eq] at hplace
  refine ⟨hplace.1, hplace.2, ?_⟩
  intro hslash
  have hnot := not_mem_of_mem_splitChars hpiece '/' hslash
  simp at hnot

/-- A name of a file: one part, which leads neither to the same place nor upwards. -/
structure IsFileName (name : String) : Prop where
  ne_empty : name ≠ ""
  ne_here : name ≠ "."
  ne_up : name ≠ ".."
  no_slash : '/' ∉ name.toList

namespace IsFileName

theorem ne_nil (h : IsFileName name) : name.toList ≠ [] := by
  intro hnil
  exact h.ne_empty (String.toList_inj.mp hnil)

theorem head? (h : IsFileName name) : name.toList.head? ≠ some '/' := by
  intro hhead
  exact h.no_slash (List.mem_of_head? hhead)

theorem join_eq (h : IsFileName name) (base : String) : join base name = folder base ++ name :=
  join_of_relative h.head?

/-- A path that ends in a name has no slash at its end, and one is put behind it. -/
theorem folder_join (h : IsFileName name) (base : String) :
    folder (join base name) = folder base ++ name ++ "/" := by
  rw [h.join_eq]
  apply if_neg
  rintro (hempty | hlast)
  · apply h.ne_nil
    have htext := congrArg String.toList hempty
    rw [String.toList_append] at htext
    exact (List.append_eq_nil_iff.mp htext).2
  · rw [String.toList_append, List.getLast?_append_of_ne_nil _ h.ne_nil] at hlast
    exact h.no_slash (List.mem_of_getLast? hlast)

theorem parts_eq (h : IsFileName name) : parts name.toList = [name.toList] := by
  have hsplit : splitChars (· = '/') name.toList = [name.toList] := by
    apply splitChars_eq_singleton
    intro c hc
    have hne : c ≠ '/' := by
      rintro rfl
      exact h.no_slash hc
    simpa using hne
  have hhere : name.toList ≠ ['.'] := by
    intro heq
    exact h.ne_here (String.toList_inj.mp heq)
  unfold parts
  rw [hsplit]
  simp [h.ne_nil, hhere]

theorem parts_join (h : IsFileName name) (base : String) :
    parts (join base name).toList = parts base.toList ++ [name.toList] := by
  rw [parts_join_of_relative h.head?, h.parts_eq]

end IsFileName

theorem isFileName_toString (n : Nat) : IsFileName (toString n) := by
  have hdigits : ∀ c : Char, c.isDigit = false → c ∉ (toString n).toList := by
    intro c hc hmem
    rw [Nat.toString_eq_ofList_toDigits, String.toList_ofList] at hmem
    have hdigit := Nat.isDigit_of_mem_toDigits (by decide) (by decide) hmem
    rw [hc] at hdigit
    cases hdigit
  have hdot : '.' ∉ (toString n).toList := hdigits '.' rfl
  refine ⟨?_, ?_, ?_, hdigits '/' rfl⟩
  · intro hempty
    have hnil := congrArg String.toList hempty
    rw [Nat.toString_eq_ofList_toDigits, String.toList_ofList] at hnil
    exact Nat.toDigits_ne_nil hnil
  · intro hhere
    rw [hhere] at hdot
    exact hdot (by decide)
  · intro hup
    rw [hup] at hdot
    exact hdot (by decide)

/-- The last part of the path is a name, and not the way upwards. -/
def EndsIn (path name : String) : Prop :=
  (parts path.toList).getLast? = some name.toList ∧ name ≠ ".."

theorem fileName?_eq_some_iff : fileName? path = some name ↔ EndsIn path name := by
  have hup : ∀ part : List Char, part = ['.', '.'] ↔ String.ofList part = ".." := by
    intro part
    rw [← String.toList_inj, String.toList_ofList]
    rfl
  unfold fileName? EndsIn
  cases h : (parts path.toList).getLast? with
  | none => simp
  | some part =>
    dsimp only
    rw [Option.some.injEq]
    constructor
    · intro hname
      split at hname
      · cases hname
      · rename_i hnot
        cases hname
        exact ⟨String.toList_ofList.symm, fun heq => hnot ((hup part).mpr heq)⟩
    · rintro ⟨rfl, hne⟩
      rw [if_neg]
      · rw [String.ofList_toList]
      · intro heq
        apply hne
        rw [← String.ofList_toList (s := name)]
        exact (hup _).mp heq

theorem EndsIn.isFileName (h : EndsIn path name) : IsFileName name := by
  obtain ⟨hne, hhere, hslash⟩ := mem_parts (List.mem_of_getLast? h.1)
  refine ⟨?_, ?_, h.2, hslash⟩
  · rintro rfl
    exact hne rfl
  · rintro rfl
    exact hhere rfl

/-- A path that ends in no name has no parts, or leads upwards. -/
theorem getLast?_parts_of_nameless (h : ∀ name, ¬ EndsIn path name) :
    parts path.toList = [] ∨ (parts path.toList).getLast? = some "..".toList := by
  cases hlast : (parts path.toList).getLast? with
  | none => exact .inl (List.getLast?_eq_none_iff.mp hlast)
  | some part =>
    right
    by_contra hup
    apply h (String.ofList part)
    refine ⟨by rw [hlast, String.toList_ofList], ?_⟩
    intro heq
    apply hup
    rw [← heq, String.toList_ofList]

end LayerMessaging.Path
