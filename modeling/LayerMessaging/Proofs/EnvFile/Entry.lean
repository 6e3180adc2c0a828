import LayerMessaging.Proofs.EnvFile.Key

namespace LayerMessaging.EnvFile

open Text

/-- What stands up to the equals sign of a line. -/
inductive Head where
  | fault (position : Nat)
  | nothing
  | entry (name : String) (text : List Char)
  deriving DecidableEq

def headBehind (name : String) (cursor : Cursor) : Head :=
  let cursor := cursor.skip isBlank
  match cursor.equals? with
  | none => .fault cursor.position
  | some cursor => .entry name cursor.rest

def head (line : List Char) : Head :=
  let cursor := (⟨0, line⟩ : Cursor).skip isBlank
  if cursor.rest = [] ∨ cursor.rest.head? = some '#' then .nothing
  else
    match cursor.name? with
    | none => .fault cursor.position
    | some (name, behind) =>
      let next := behind.skip isBlank
      if name = "export" ∧ next.equals?.isNone then
        match next.name? with
        | none => .fault next.position
        | some (name, behind) => headBehind name behind
      else headBehind name behind

def assigned (env : Environment) (name : String) (text : List Char) :
    Except Error (Option (String × String)) :=
  if text = [] ∨ text.head? = some '#' then .ok (some (name, ""))
  else do
    let value ← readValue env text text 0 .start
    return some (name, String.ofList value)

def Head.toEntry (env : Environment) (line : List Char) :
    Head → Except Error (Option (String × String))
  | .fault position => .error (.malformedLine (String.ofList line) position)
  | .nothing => .ok none
  | .entry name text => assigned env name (text.dropWhile isBlank)

/-- A line is read up to its equals sign, and then its value. -/
theorem readEntry_eq (env : Environment) (line : List Char) :
    readEntry env line = (head (trimEndChars line)).toEntry env line := by
  have hbehind (name : String) (cursor : Cursor) :
      (headBehind name cursor).toEntry env line =
        match (cursor.skip isBlank).equals? with
        | none => .error (.malformedLine (String.ofList line) (cursor.skip isBlank).position)
        | some cursor => assigned env name (cursor.skip isBlank).rest := by
    unfold headBehind
    dsimp only
    cases (cursor.skip isBlank).equals? <;> rfl
  unfold readEntry head
  dsimp only
  generalize (⟨0, trimEndChars line⟩ : Cursor).skip isBlank = cursor
  by_cases hnothing : cursor.rest = [] ∨ cursor.rest.head? = some '#'
  · rw [if_pos hnothing, if_pos hnothing]
    rfl
  rw [if_neg hnothing, if_neg hnothing]
  cases cursor.name? with
  | none => rfl
  | some named =>
    obtain ⟨name, behind⟩ := named
    dsimp only
    by_cases hexport : name = "export" ∧ (behind.skip isBlank).equals?.isNone
    · rw [if_pos hexport, if_pos hexport]
      cases (behind.skip isBlank).name? with
      | none => rfl
      | some named =>
        dsimp only
        rw [hbehind]
        rfl
    · rw [if_neg hexport, if_neg hexport, hbehind]
      rfl

def Cursor.extend (cursor : Cursor) (rest : List Char) : Cursor :=
  ⟨cursor.position, cursor.rest ++ rest⟩

def Head.extend (rest : List Char) : Head → Head
  | .entry name text => .entry name (text ++ rest)
  | head => head

def Cursor.BeforeEquals (cursor : Cursor) : Prop := '=' ∈ cursor.rest

namespace Cursor.BeforeEquals

variable {cursor : Cursor}

theorem skip (h : cursor.BeforeEquals) {p : Char → Bool} (hp : p '=' = false) :
    (cursor.skip p).BeforeEquals := by
  unfold BeforeEquals at h
  rw [← List.takeWhile_append_dropWhile (p := p) (l := cursor.rest), List.mem_append] at h
  rcases h with h | h
  · rw [List.mem_takeWhile_imp h] at hp
    cases hp
  · exact h

theorem skip_extend (h : cursor.BeforeEquals) {p : Char → Bool} (hp : p '=' = false)
    (rest : List Char) : (cursor.extend rest).skip p = (cursor.skip p).extend rest := by
  unfold Cursor.skip Cursor.extend
  rw [takeWhile_append_of_mem h hp, dropWhile_append_of_mem h hp]

theorem head?_extend (h : cursor.BeforeEquals) (rest : List Char) :
    (cursor.extend rest).rest.head? = cursor.rest.head? :=
  List.head?_append_of_ne_nil _ (List.ne_nil_of_mem h)

theorem name?_extend (h : cursor.BeforeEquals) (rest : List Char) :
    (cursor.extend rest).name? =
      cursor.name?.map fun (name, behind) => (name, behind.extend rest) := by
  unfold Cursor.name?
  rw [h.head?_extend, h.skip_extend (by decide)]
  have htake : (cursor.extend rest).rest.takeWhile isNameChar =
      cursor.rest.takeWhile isNameChar := takeWhile_append_of_mem h (by decide) rest
  rw [htake]
  split <;> rfl

theorem equals?_extend (h : cursor.BeforeEquals) (rest : List Char) :
    (cursor.extend rest).equals? = cursor.equals?.map (·.extend rest) := by
  obtain ⟨position, text⟩ := cursor
  cases text with
  | nil => cases h
  | cons c text =>
    unfold Cursor.equals? Cursor.extend
    by_cases hc : c = '='
    · subst hc
      rfl
    · simp [hc]

theorem name? (h : cursor.BeforeEquals) {name : String} {behind : Cursor}
    (hname : cursor.name? = some (name, behind)) : behind.BeforeEquals := by
  unfold Cursor.name? at hname
  split at hname
  · cases hname
    exact h.skip (by decide)
  · cases hname

theorem headBehind_extend (h : cursor.BeforeEquals) (name : String) (rest : List Char) :
    headBehind name (cursor.extend rest) = (headBehind name cursor).extend rest := by
  unfold headBehind
  dsimp only
  rw [h.skip_extend (by decide), (h.skip (by decide)).equals?_extend]
  cases (cursor.skip isBlank).equals? <;> rfl

end Cursor.BeforeEquals

/-- The head of a line is settled by the text up to the equals sign. -/
theorem head_append {front : List Char} (h : '=' ∈ front) (rest : List Char) :
    head (front ++ rest) = (head front).extend rest := by
  have hstart : (⟨0, front⟩ : Cursor).BeforeEquals := h
  have hskip := hstart.skip_extend (p := isBlank) (by decide) rest
  -- The cursor never passes the sign, and before it more text behind changes nothing.
  have hcursor := hstart.skip (p := isBlank) (by decide)
  change (⟨0, front ++ rest⟩ : Cursor).skip isBlank = _ at hskip
  unfold head
  rw [hskip]
  generalize (⟨0, front⟩ : Cursor).skip isBlank = cursor at hcursor
  have hnothing : ((cursor.extend rest).rest = [] ∨ (cursor.extend rest).rest.head? = some '#') ↔
      (cursor.rest = [] ∨ cursor.rest.head? = some '#') := by
    have hne := List.ne_nil_of_mem hcursor
    rw [hcursor.head?_extend]
    simp [Cursor.extend, hne]
  dsimp only
  by_cases h : cursor.rest = [] ∨ cursor.rest.head? = some '#'
  · rw [if_pos (hnothing.mpr h), if_pos h]
    rfl
  rw [if_neg (mt hnothing.mp h), if_neg h, hcursor.name?_extend]
  cases hname : cursor.name? with
  | none => rfl
  | some named =>
    obtain ⟨name, behind⟩ := named
    have hbehind := hcursor.name? hname
    have hnext := hbehind.skip (p := isBlank) (by decide)
    rw [Option.map_some]
    dsimp only
    rw [hbehind.skip_extend (by decide), hnext.equals?_extend, Option.isNone_map,
      hnext.name?_extend, hbehind.headBehind_extend]
    split
    · cases hname' : (behind.skip isBlank).name? with
      | none => rfl
      | some named => exact (hnext.name? hname').headBehind_extend _ rest
    · rfl

theorem Cursor.forall_mem_name? {cursor behind : Cursor} {name : String}
    (h : cursor.name? = some (name, behind)) : ∀ c ∈ name.toList, isNameChar c = true := by
  unfold Cursor.name? at h
  split at h
  · cases h
    intro c hc
    rw [String.toList_ofList] at hc
    exact List.mem_takeWhile_imp hc
  · cases h

theorem Cursor.ne_empty_of_name? {cursor behind : Cursor} {name : String}
    (h : cursor.name? = some (name, behind)) : name ≠ "" := by
  unfold Cursor.name? at h
  split at h
  · rename_i hstart
    cases h
    cases hrest : cursor.rest with
    | nil =>
      rw [hrest] at hstart
      cases hstart
    | cons c rest =>
      rw [hrest] at hstart
      have hstart : isNameStart c = true := hstart
      have hchar : isNameChar c = true := by
        simp only [isNameStart, isNameChar, Char.isAlphanum, Bool.or_eq_true] at hstart ⊢
        tauto
      rw [List.takeWhile_cons_of_pos hchar, ne_eq, ← String.toList_inj, String.toList_ofList]
      exact List.cons_ne_nil _ _
  · cases h

theorem headBehind_inv {name name' : String} {cursor : Cursor} {text : List Char}
    (h : headBehind name cursor = .entry name' text) : name = name' := by
  unfold headBehind at h
  dsimp only at h
  split at h
  · cases h
  · cases h
    rfl

/-- The name of an entry is one that a cursor gives. -/
theorem exists_name?_of_head {line text : List Char} {name : String}
    (h : head line = .entry name text) :
    ∃ cursor behind : Cursor, cursor.name? = some (name, behind) := by
  unfold head at h
  dsimp only at h
  split at h
  · cases h
  split at h
  · cases h
  rename_i hname
  split at h
  · split at h
    · cases h
    rename_i hname'
    cases headBehind_inv h
    exact ⟨_, _, hname'⟩
  · cases headBehind_inv h
    exact ⟨_, _, hname⟩

theorem forall_mem_head {line text : List Char} {name : String}
    (h : head line = .entry name text) : ∀ c ∈ name.toList, isNameChar c = true := by
  obtain ⟨cursor, behind, hname⟩ := exists_name?_of_head h
  exact Cursor.forall_mem_name? hname

theorem ne_empty_of_head {line text : List Char} {name : String}
    (h : head line = .entry name text) : name ≠ "" := by
  obtain ⟨cursor, behind, hname⟩ := exists_name?_of_head h
  exact Cursor.ne_empty_of_name? hname

/-- A value is malformed or it is read; what is set with it is not looked at. -/
theorem readValue_ne_unsettable (env : Environment) (whole cs : List Char) (index : Nat)
    (v : Value) (name : String) : readValue env whole cs index v ≠ .error (.unsettable name) := by
  intro h
  induction cs generalizing index v with
  | nil =>
    rw [readValue] at h
    split at h <;> cases h
  | cons c rest ih =>
    rw [readValue] at h
    split at h
    · rw [readValue] at h
      split at h <;> cases h
    · split at h
      · exact ih _ _ h
      · cases h

theorem readEntry_ne_unsettable (env : Environment) (line : List Char) (name : String) :
    readEntry env line ≠ .error (.unsettable name) := by
  intro h
  rw [readEntry_eq] at h
  cases hhead : head (trimEndChars line) with
  | fault position =>
    rw [hhead] at h
    cases h
  | nothing =>
    rw [hhead] at h
    cases h
  | entry name' text =>
    rw [hhead] at h
    unfold Head.toEntry assigned at h
    dsimp only at h
    split at h
    · cases h
    · cases hread : readValue env (text.dropWhile isBlank) (text.dropWhile isBlank) 0 .start with
      | ok value =>
        rw [hread] at h
        cases h
      | error e =>
        rw [hread] at h
        cases h
        exact readValue_ne_unsettable _ _ _ _ _ _ hread

end LayerMessaging.EnvFile
