import LayerMessaging.Environment
import Mathlib.Data.List.Induction
import Mathlib.Data.List.TakeWhile

namespace LayerMessaging

def nul : Char := '\x00'

namespace Environment

/-- No name and no value holds a NUL character, as in the environment of any process. -/
def NulFree (env : Environment) : Prop :=
  ∀ entry ∈ env.entries, nul ∉ entry.1.toList ∧ nul ∉ entry.2.toList

theorem NulFree.empty : NulFree .empty := by
  rintro entry ⟨⟩

theorem mem_assign {name value : String} {entries : List (String × String)}
    {entry : String × String} (h : entry ∈ assign name value entries) :
    entry = (name, value) ∨ entry ∈ entries := by
  induction entries with
  | nil => exact .inl (List.mem_singleton.mp h)
  | cons first rest ih =>
    rw [assign] at h
    split at h
    · rename_i hname
      rcases List.mem_cons.mp h with rfl | h
      · rw [hname]
        exact .inl rfl
      · exact .inr (List.mem_cons_of_mem _ h)
    · rcases List.mem_cons.mp h with rfl | h
      · exact .inr (List.mem_cons_self ..)
      · exact (ih h).imp_right (List.mem_cons_of_mem _)

variable {env : Environment}

theorem NulFree.set (h : env.NulFree) {name value : String} (hname : nul ∉ name.toList)
    (hvalue : nul ∉ value.toList) : (env.set name value).NulFree := by
  intro entry hentry
  rcases mem_assign hentry with rfl | hentry
  · exact ⟨hname, hvalue⟩
  · exact h entry hentry

theorem NulFree.not_mem_get? (h : env.NulFree) {name value : String}
    (hget : env.get? name = some value) : nul ∉ value.toList := by
  unfold get? at hget
  split at hget
  · cases hget
  · obtain ⟨entry, hentry, hmatch⟩ := List.exists_of_findSome?_eq_some hget
    obtain ⟨hname, hvalue⟩ := h entry hentry
    unfold match? at hmatch
    dsimp only at hmatch
    split at hmatch
    · cases hmatch
      rw [String.toList_ofList]
      intro hmem
      have htext := List.mem_of_mem_drop hmem
      rw [List.mem_append, List.mem_cons] at htext
      rcases htext with htext | htext | htext
      · exact hname htext
      · cases htext
      · exact hvalue htext
    · cases hmatch

structure IsName (name : String) : Prop where
  ne_empty : name ≠ ""
  not_mem : '=' ∉ name.toList

/-- The names hold no equals sign behind their first character, as in the environment of any
process, where that sign ends the name. -/
def WellFormed (env : Environment) : Prop :=
  ∀ entry ∈ env.entries, '=' ∉ entry.1.toList.tail

variable {name name' value : String} {entries : List (String × String)}

theorem WellFormed.set (h : env.WellFormed) (hname : IsName name) (value : String) :
    (env.set name value).WellFormed := by
  intro entry hentry
  rcases mem_assign hentry with rfl | hentry
  · exact mt List.mem_of_mem_tail hname.not_mem
  · exact h entry hentry

theorem takeWhile_append_equals {cs : List Char} (h : '=' ∉ cs) (rest : List Char) :
    List.takeWhile (· ≠ '=') (cs ++ '=' :: rest) = cs := by
  rw [List.takeWhile_append_of_pos, List.takeWhile_cons_of_neg, List.append_nil]
  · simp
  · intro c hc
    rw [decide_eq_true_eq]
    rintro rfl
    exact h hc

/-- Where the text of a variable starts with a name and an equals sign, that is its name. -/
theorem eq_of_isPrefixed (hname : IsName name) (hname' : '=' ∉ name'.toList.tail)
    {value : List Char} (h : name.toList ++ ['='] <+: name'.toList ++ '=' :: value) :
    name' = name := by
  obtain ⟨rest, hrest⟩ := h
  rw [List.append_assoc, List.singleton_append] at hrest
  have hsign := hname.not_mem
  rw [← String.toList_inj]
  cases hcs : name.toList with
  | nil => exact absurd (String.toList_eq_nil_iff.mp hcs) hname.ne_empty
  | cons c cs =>
    rw [hcs] at hrest hsign
    obtain ⟨hc, hcs⟩ := not_or.mp (mt List.mem_cons.mpr hsign)
    -- The first character is the same in both; from there both names end at the sign.
    cases hds : name'.toList with
    | nil =>
      rw [hds] at hrest
      exact absurd (List.cons.inj hrest).1.symm hc
    | cons d ds =>
      rw [hds] at hrest hname'
      obtain ⟨rfl, htail⟩ := List.cons.inj hrest
      have htake : List.takeWhile (· ≠ '=') (cs ++ '=' :: rest) =
          List.takeWhile (· ≠ '=') (ds ++ '=' :: value) :=
        congrArg (List.takeWhile (· ≠ '=')) htail
      have hds' : '=' ∉ ds := hname'
      rw [takeWhile_append_equals hcs, takeWhile_append_equals hds'] at htake
      rw [htake]

theorem match?_eq (hname : IsName name) (hname' : '=' ∉ name'.toList.tail) (value : String) :
    match? name (name', value) = if name' = name then some value else none := by
  unfold match?
  dsimp only
  by_cases h : name' = name
  · subst h
    have htext : name'.toList ++ '=' :: value.toList =
        (name'.toList ++ ['=']) ++ value.toList := by simp
    rw [if_pos rfl, htext, if_pos (List.isPrefixOf_iff_prefix.mpr (List.prefix_append _ _)),
      List.drop_left, String.ofList_toList]
  · rw [if_neg h, if_neg (mt List.isPrefixOf_iff_prefix.mp (mt (eq_of_isPrefixed hname hname') h))]

theorem findSome?_assign (hname : IsName name) (hname' : IsName name') (value : String)
    (h : ∀ entry ∈ entries, '=' ∉ entry.1.toList.tail) :
    (assign name value entries).findSome? (match? name') =
      if name = name' then some value else entries.findSome? (match? name') := by
  have htail : '=' ∉ name.toList.tail := mt List.mem_of_mem_tail hname.not_mem
  induction entries with
  | nil =>
    rw [assign, List.findSome?_cons, match?_eq hname' htail]
    by_cases hfound : name = name'
    · rw [if_pos hfound, if_pos hfound]
    · rw [if_neg hfound, if_neg hfound]
  | cons first rest ih =>
    obtain ⟨key, old⟩ := first
    obtain ⟨hkey, hrest⟩ := List.forall_mem_cons.mp h
    rw [assign]
    by_cases hsame : key = name
    · rw [if_pos hsame, List.findSome?_cons, List.findSome?_cons, match?_eq hname' hkey,
        match?_eq hname' hkey, hsame]
      by_cases hfound : name = name'
      · rw [if_pos hfound, if_pos hfound]
      · rw [if_neg hfound, if_neg hfound, if_neg hfound]
    · rw [if_neg hsame, List.findSome?_cons, List.findSome?_cons, match?_eq hname' hkey, ih hrest]
      by_cases hfound : key = name'
      · have hne : name ≠ name' := fun hname => hsame (hfound.trans hname.symm)
        rw [if_pos hfound, if_neg hne, if_neg hne]
      · rw [if_neg hfound]

/-- The variable that is set has the value, and every other one is as it was. -/
theorem get?_set (h : env.WellFormed) (hname : IsName name) (value : String)
    (hname' : '=' ∉ name'.toList) :
    (env.set name value).get? name' = if name = name' then some value else env.get? name' := by
  unfold get?
  by_cases hempty : name' = ""
  · rw [if_pos hempty, if_pos hempty, if_neg (hempty ▸ hname.ne_empty)]
  · rw [if_neg hempty, if_neg hempty]
    exact findSome?_assign hname ⟨hempty, hname'⟩ value h

def lastAssigned? (entries : List (String × String)) (name : String) : Option String :=
  entries.reverse.lookup name

/-- The environment behind assignments in order. -/
def overlay (env : Environment) (entries : List (String × String)) : Environment :=
  entries.foldl (fun env entry => env.set entry.1 entry.2) env

theorem overlay_append (env : Environment) (entries entries' : List (String × String)) :
    env.overlay (entries ++ entries') = (env.overlay entries).overlay entries' :=
  List.foldl_append

theorem lastAssigned?_concat (entries : List (String × String)) (name value name' : String) :
    lastAssigned? (entries ++ [(name, value)]) name' =
      if name = name' then some value else lastAssigned? entries name' := by
  unfold lastAssigned?
  rw [List.reverse_append, List.reverse_singleton, List.singleton_append, List.lookup_cons]
  by_cases h : name = name'
  · rw [if_pos h, beq_iff_eq.mpr h.symm]
  · rw [if_neg h, beq_false_of_ne (Ne.symm h)]

theorem WellFormed.overlay (h : env.WellFormed) (hentries : ∀ entry ∈ entries, IsName entry.1) :
    (env.overlay entries).WellFormed := by
  induction entries using List.reverseRecOn with
  | nil => exact h
  | append_singleton entries entry ih =>
    obtain ⟨hinit, hlast⟩ := List.forall_mem_append.mp hentries
    rw [overlay_append]
    exact (ih hinit).set (hlast entry (List.mem_singleton_self _)) _

/-- The last assignment of a name wins, and every other variable is as it was. -/
theorem get?_overlay (h : env.WellFormed) (hentries : ∀ entry ∈ entries, IsName entry.1)
    (hname : '=' ∉ name.toList) :
    (env.overlay entries).get? name = (lastAssigned? entries name).or (env.get? name) := by
  induction entries using List.reverseRecOn with
  | nil => rfl
  | append_singleton entries entry ih =>
    obtain ⟨hinit, hlast⟩ := List.forall_mem_append.mp hentries
    have hentry := hlast entry (List.mem_singleton_self _)
    have hset : (env.overlay (entries ++ [entry])).get? name =
        ((env.overlay entries).set entry.1 entry.2).get? name := by
      rw [overlay_append]
      rfl
    rw [hset, get?_set (h.overlay hinit) hentry _ hname, lastAssigned?_concat, ih hinit]
    split <;> rfl

end Environment

end LayerMessaging
