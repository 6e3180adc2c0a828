import LayerMessaging.Proofs.EnvFile.Entry
import LayerMessaging.Proofs.Environment
import Mathlib.Data.Option.Basic

namespace LayerMessaging.EnvFile

open Text

theorem not_mem_expand {env : Environment} (h : env.NulFree) (name : List Char) :
    nul ∉ expand env name := by
  unfold expand
  cases hget : env.get? (String.ofList name) with
  | none => nofun
  | some value => exact h.not_mem_get? hget

/-- The references are of one kind, and a name is about to begin in both or in neither. -/
inductive Reference.Alike : Reference → Reference → Prop
  | none : Reference.Alike .none .none
  | bare {name name' : List Char} (h : name = [] ↔ name' = []) :
      Reference.Alike (.bare name) (.bare name')
  | braced (name name' : List Char) : Reference.Alike (.braced name) (.braced name')

/-- The values are read on in the same way, and hold a NUL character or not. -/
structure Value.Alike (v v' : Value) : Prop where
  strong : v.strong = v'.strong
  weak : v.weak = v'.weak
  escaped : v.escaped = v'.escaped
  ending : v.ending = v'.ending
  reference : v.reference.Alike v'.reference
  output : nul ∈ v.output ↔ nul ∈ v'.output

theorem nul_mem_push {output output' : List Char} (h : nul ∈ output ↔ nul ∈ output')
    {c c' : Char} (hc : Twin c c') : nul ∈ output ++ [c] ↔ nul ∈ output' ++ [c'] := by
  have hnul : nul = c ↔ nul = c' := by
    rw [eq_comm, hc.eq_iff nul (by decide), eq_comm]
  simp only [List.mem_append, List.mem_singleton, h, hnul]

theorem nul_mem_expand {env env' : Environment} (henv : env.NulFree) (henv' : env'.NulFree)
    {output output' : List Char} (h : nul ∈ output ↔ nul ∈ output') {name name' : List Char} :
    nul ∈ output ++ expand env name ↔ nul ∈ output' ++ expand env' name' := by
  have hname := not_mem_expand henv name
  have hname' := not_mem_expand henv' name'
  simp only [List.mem_append, h, hname, hname']

/-- Whatever the value, twins are read alike. -/
theorem Value.Alike.next? {env env' : Environment} (henv : env.NulFree) (henv' : env'.NulFree)
    {v v' : Value} (h : v.Alike v') {c c' : Char} (hc : Twin c c') :
    Option.Rel Value.Alike (v.next? env c) (v'.next? env' c') := by
  obtain ⟨strong, weak, escaped, ending, reference, output⟩ := v
  obtain ⟨strong', weak', escaped', ending', reference', output'⟩ := v'
  obtain ⟨hstrong, hweak, hescaped, hending, hreference, houtput⟩ := h
  dsimp only at hstrong hweak hescaped hending hreference houtput
  subst hstrong hweak hescaped hending
  have hpush := nul_mem_push houtput hc
  have hexpand {name name' : List Char} := @nul_mem_expand _ _ henv henv' _ _ houtput name name'
  unfold Value.next? Value.push
  simp only [hc.eq_iff ' ' (by decide), hc.eq_iff '\t' (by decide), hc.eq_iff '\\' (by decide),
    hc.eq_iff '\'' (by decide), hc.eq_iff '"' (by decide), hc.eq_iff '$' (by decide),
    hc.eq_iff 'n' (by decide), hc.eq_iff '\x7b' (by decide), hc.eq_iff '\x7d' (by decide),
    hc.isAlphanumeric_eq]
  have alike {strong weak escaped ending : Bool} {reference reference' : Reference}
      {output output' : List Char} (hreference : reference.Alike reference')
      (houtput : nul ∈ output ↔ nul ∈ output') :
      Option.Rel Value.Alike (some ⟨strong, weak, escaped, ending, reference, output⟩)
        (some ⟨strong, weak, escaped, ending, reference', output'⟩) :=
    .some ⟨rfl, rfl, rfl, rfl, hreference, houtput⟩
  -- The branches in the order in which the reader takes them.
  by_cases hending : ending = true
  · rw [if_pos hending, if_pos hending]
    split
    · exact alike hreference houtput
    · exact .none
  rw [if_neg hending, if_neg hending]
  by_cases hescaped : escaped = true
  · rw [if_pos hescaped, if_pos hescaped]
    split
    · exact alike hreference hpush
    split
    · exact alike hreference (by rw [List.mem_append, List.mem_append, houtput])
    · exact .none
  rw [if_neg hescaped, if_neg hescaped]
  by_cases hstrong : strong = true
  · rw [if_pos hstrong, if_pos hstrong]
    split
    · exact alike hreference houtput
    · exact alike hreference hpush
  rw [if_neg hstrong, if_neg hstrong]
  cases hreference with
  | none =>
    dsimp only
    split
    · exact alike (.bare Iff.rfl) houtput
    split
    · split
      · exact alike .none houtput
      split
      · exact alike .none houtput
      · exact alike .none hpush
    · split
      · exact alike .none houtput
      split
      · exact alike .none houtput
      split
      · exact alike .none houtput
      split
      · exact alike .none houtput
      · exact alike .none hpush
  | @bare name name' h =>
    simp only [h]
    split
    · exact alike (.bare (by simp)) houtput
    split
    · exact alike (.braced [] []) houtput
    split
    · exact alike (.bare Iff.rfl) hexpand
    · exact alike .none (nul_mem_push hexpand hc)
  | braced name name' =>
    dsimp only
    split
    · exact alike .none hexpand
    · exact alike (.braced _ _) houtput

theorem Value.Alike.finish? {env env' : Environment} (henv : env.NulFree) (henv' : env'.NulFree)
    {v v' : Value} (h : v.Alike v') :
    Option.Rel (fun output output' => nul ∈ output ↔ nul ∈ output') (v.finish? env)
      (v'.finish? env') := by
  have houtput := h.output
  have hreference := h.reference
  unfold Value.finish?
  rw [h.strong, h.weak]
  split
  · exact .none
  cases hreference' : v.reference <;> cases hreference'' : v'.reference <;>
    rw [hreference', hreference''] at hreference <;> cases hreference
  · exact .some houtput
  · exact .some (nul_mem_expand henv henv' houtput)
  · exact .none

variable {key key' : KeyDigits}

theorem readValue_cons (env : Environment) (whole : List Char) (c : Char) (rest : List Char)
    (index : Nat) (v : Value) :
    readValue env whole (c :: rest) index v =
      if v.ending ∧ c = '#' then readValue env whole [] index v
      else
        match v.next? env c with
        | some v => readValue env whole rest (index + 1) v
        | none => .error (.malformedLine (String.ofList whole) index) :=
  readValue.eq_2 env whole index v c rest

/-- A value is well-formed with one key if it is with the other, and a fault is found at the same
place. -/
theorem readValue_alike {env env' : Environment} (henv : env.NulFree) (henv' : env'.NulFree)
    {whole whole' cs cs' : List Char}
    (hlength : (utf8Chars whole).length = (utf8Chars whole').length)
    (hfault : ∀ position, SameButKey key key' (.malformedLine (String.ofList whole) position)
      (.malformedLine (String.ofList whole') position))
    (hcs : List.Forall₂ Twin cs cs') (index : Nat) {v v' : Value} (h : v.Alike v') :
    Agree key key' (fun output output' => nul ∈ output ↔ nul ∈ output')
      (readValue env whole cs index v) (readValue env' whole' cs' index v') := by
  have hend (index : Nat) {v v' : Value} (h : v.Alike v') :
      Agree key key' (fun output output' => nul ∈ output ↔ nul ∈ output')
        (readValue env whole [] index v) (readValue env' whole' [] index v') := by
    have hfinish := h.finish? henv henv'
    rw [readValue, readValue, ← hlength]
    cases hv : v.finish? env <;> cases hv' : v'.finish? env' <;> rw [hv, hv'] at hfinish <;>
      cases hfinish
    · exact .error (hfault _)
    · exact .ok ‹_›
  -- By induction on both texts at once: the values stay alike up to the same place.
  induction hcs generalizing index v v' with
  | nil => exact hend index h
  | @cons c c' cs cs' hc hcs ih =>
    have hnext := h.next? henv henv' hc
    rw [readValue_cons, readValue_cons, h.ending]
    simp only [hc.eq_iff '#' (by decide)]
    split
    · exact hend index h
    · cases hv : v.next? env c <;> cases hv' : v'.next? env' c' <;> rw [hv, hv'] at hnext <;>
        cases hnext
      · exact .error (hfault index)
      · exact ih (index + 1) ‹_›

/-- The names are the same and can be set, and the values can be set both or neither. -/
inductive EntryPair : Option (String × String) → Option (String × String) → Prop
  | none : EntryPair none none
  | some {name value value' : String} (hname : nul ∉ name.toList)
      (hvalue : nul ∈ value.toList ↔ nul ∈ value'.toList) :
      EntryPair (some (name, value)) (some (name, value'))

theorem nul_not_mem_head {line text : List Char} {name : String}
    (h : head line = .entry name text) : nul ∉ name.toList := by
  intro hmem
  have hname := forall_mem_head h nul hmem
  revert hname
  decide

theorem assigned_alike {env env' : Environment} (henv : env.NulFree) (henv' : env'.NulFree)
    {name : String} (hname : nul ∉ name.toList) {text text' : List Char}
    (htext : List.Forall₂ Twin text text')
    (hfault : ∀ position, SameButKey key key' (.malformedLine (String.ofList text) position)
      (.malformedLine (String.ofList text') position)) :
    Agree key key' EntryPair (assigned env name text) (assigned env' name text') := by
  have hempty : (text = [] ∨ text.head? = some '#') ↔ (text' = [] ∨ text'.head? = some '#') := by
    cases htext with
    | nil => rfl
    | cons hc hcs => simp [hc.eq_iff '#' (by decide)]
  unfold assigned
  simp only [hempty]
  split
  · exact .ok (.some hname Iff.rfl)
  · have hstart : Value.start.Alike Value.start := ⟨rfl, rfl, rfl, rfl, .none, Iff.rfl⟩
    have hvalue := readValue_alike henv henv' (length_utf8Chars_twin htext) hfault htext 0 hstart
    refine hvalue.map fun output output' houtput => .some hname ?_
    rw [String.toList_ofList, String.toList_ofList]
    exact houtput

/-- An entry is read with one key as with the other. -/
theorem LinePair.readEntry {env env' : Environment} (henv : env.NulFree) (henv' : env'.NulFree)
    {line line' : List Char} (h : LinePair key key' line line') :
    Agree key key' EntryPair (readEntry env line) (readEntry env' line') := by
  rw [readEntry_eq, readEntry_eq]
  cases h with
  | same =>
    cases hhead : head (trimEndChars line) with
    | fault position => exact .error (.same _)
    | nothing => exact .ok .none
    | entry name text =>
      exact assigned_alike henv henv' (nul_not_mem_head hhead) (forall₂_twin_refl _)
        fun _ => .same _
  | @keyed front h back =>
    have htrim (key : KeyDigits) : head (trimEndChars (front ++ key.chars ++ back)) =
        (head front).extend (key.chars ++ trimEndChars back) := by
      unfold trimEndChars
      rw [key.dropEndWhile_append (fun c hc => (key.isDigit c hc).not_blank), List.append_assoc,
        head_append h]
    rw [htrim, htrim]
    cases hhead : head front with
    | fault position => exact .error (.quoted front back position)
    | nothing => exact .ok .none
    | entry name text =>
      dsimp only [Head.extend, Head.toEntry]
      rw [← List.append_assoc, ← List.append_assoc, key.dropWhile_append, key'.dropWhile_append]
      exact assigned_alike henv henv' (nul_not_mem_head hhead) (forall₂_twin_keyed key key' _ _)
        fun position => .quoted _ _ _

end LayerMessaging.EnvFile
