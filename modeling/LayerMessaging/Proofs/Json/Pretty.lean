import LayerMessaging.Json.Printer
import LayerMessaging.Json.Reader
import Mathlib.Tactic.SplitIfs

namespace LayerMessaging.Json

open Reader

inductive Plain : Json → Prop
  | null : Plain .null
  | bool (value : Bool) : Plain (.bool value)
  | natural (value : Nat) : Plain (.natural value)
  | string (value : String) : Plain (.string value)
  | array {items : List Json} (h : ∀ item ∈ items, Plain item) : Plain (.array items)
  | object {fields : List (String × Json)} (h : ∀ field ∈ fields, Plain field.2) :
      Plain (.object fields)

attribute [simp] Plain.null Plain.bool Plain.natural Plain.string

@[simp] theorem plain_array_iff {items : List Json} :
    Plain (.array items) ↔ ∀ item ∈ items, Plain item :=
  ⟨fun | .array h => h, .array⟩

@[simp] theorem plain_object_iff {fields : List (String × Json)} :
    Plain (.object fields) ↔ ∀ field ∈ fields, Plain field.2 :=
  ⟨fun | .object h => h, .object⟩

variable {c : Char} {cs rest after : List Char} {fuel level : Nat} {json : Json}

theorem skipSpace_cons (h : isSpace c = false) (rest : List Char) :
    skipSpace (c :: rest) = c :: rest :=
  List.dropWhile_cons_of_neg (by rw [h]; exact Bool.false_ne_true)

theorem skipSpace_newLine (level : Nat) (cs : List Char) :
    skipSpace (newLine level ++ cs) = skipSpace cs := by
  refine List.dropWhile_append_of_pos fun c hc => ?_
  rcases List.mem_cons.mp hc with rfl | hc
  · rfl
  · rw [List.eq_of_mem_replicate hc]
    rfl

theorem stringRest_escaped {letter : Char} (hletter : escaped? letter = some c)
    (hrest : stringRest rest = .ok (some cs, after)) :
    stringRest ('\\' :: letter :: rest) = .ok (some (c :: cs), after) := by
  rw [stringRest, hletter, hrest]
  · rfl
  · rintro _ _ _ _ _ rfl
    cases hletter

theorem unit?_control :
    ∀ n < 32, unit? '0' '0' (hexDigit (n / 16)) (hexDigit (n % 16)) = some n := by
  decide

theorem stringRest_control (hc : c.toNat < 32) (hrest : stringRest rest = .ok (some cs, after)) :
    stringRest ('\\' :: 'u' :: '0' :: '0' :: hexDigit (c.toNat / 16) :: hexDigit (c.toNat % 16) ::
      rest) = .ok (some (c :: cs), after) := by
  rw [stringRest, unit?_control c.toNat hc]
  dsimp only
  rw [if_pos (.inl (by omega)), hrest, Char.ofNat_toNat]
  rfl

theorem stringRest_other (hquote : c ≠ '"') (hbackslash : c ≠ '\\') (hc : ¬c.toNat < 32)
    (hrest : stringRest rest = .ok (some cs, after)) :
    stringRest (c :: rest) = .ok (some (c :: cs), after) := by
  rw [stringRest, if_neg (not_or.mpr ⟨hc, hbackslash⟩), hrest]
  · rfl
  · exact hquote
  · exact fun _ _ _ _ _ h => absurd h hbackslash
  · exact fun _ _ h => absurd h hbackslash

/-- A character is read from the way in which it is written in a string. -/
theorem stringRest_escapeChar (c : Char) (hrest : stringRest rest = .ok (some cs, after)) :
    stringRest (escapeChar c ++ rest) = .ok (some (c :: cs), after) := by
  unfold escapeChar
  split_ifs with hquote hbackslash hfeed hreturn htab hback hform hcontrol
  · exact stringRest_escaped (by rw [hquote]; rfl) hrest
  · exact stringRest_escaped (by rw [hbackslash]; rfl) hrest
  · exact stringRest_escaped (by rw [hfeed]; rfl) hrest
  · exact stringRest_escaped (by rw [hreturn]; rfl) hrest
  · exact stringRest_escaped (by rw [htab]; rfl) hrest
  · exact stringRest_escaped (by rw [hback]; rfl) hrest
  · exact stringRest_escaped (by rw [hform]; rfl) hrest
  · exact stringRest_control hcontrol hrest
  · exact stringRest_other hquote hbackslash hcontrol hrest

/-- The text of a string is read up to its closing quote. -/
theorem stringRest_flatMap (cs rest : List Char) :
    stringRest (cs.flatMap escapeChar ++ '"' :: rest) = .ok (some cs, rest) := by
  induction cs with
  | nil => rw [List.flatMap_nil, List.nil_append, stringRest]
  | cons c cs ih =>
    rw [List.flatMap_cons, List.append_assoc]
    exact stringRest_escapeChar c ih

def Ends (rest : List Char) : Prop :=
  ∀ c, rest.head? = some c → c.isDigit = false ∧ c ≠ '.' ∧ c ≠ 'e' ∧ c ≠ 'E'

theorem Ends.nil : Ends [] := by
  rintro c ⟨⟩

theorem Ends.cons (h : c.isDigit = false ∧ c ≠ '.' ∧ c ≠ 'e' ∧ c ≠ 'E') (rest : List Char) :
    Ends (c :: rest) := by
  rintro _ ⟨⟩
  exact h

theorem Ends.newLine (level : Nat) (rest : List Char) : Ends (newLine level ++ rest) :=
  .cons (by decide) _

/-- Only zero starts with a zero. -/
theorem head?_toDigits {n : Nat} (h : 0 < n) : (Nat.toDigits 10 n).head? ≠ some '0' := by
  induction n using Nat.strongRecOn with
  | ind n ih =>
    by_cases hlt : n < 10
    · rw [Nat.toDigits_of_lt_base hlt, List.head?_cons, ne_eq, Option.some_inj,
        Nat.digitChar_eq_zero]
      omega
    · rw [Nat.toDigits_of_base_le (by decide) (by omega), List.head?_append,
        List.head?_eq_some_head Nat.toDigits_ne_nil, Option.some_or,
        ← List.head?_eq_some_head Nat.toDigits_ne_nil]
      exact ih _ (by omega) (by omega)

theorem isDigit_of_mem (n : Nat) : ∀ c ∈ Nat.toDigits 10 n, c.isDigit = true := fun _ hc =>
  Nat.isDigit_of_mem_toDigits (by decide) (by decide) hc

theorem exists_first_digit (n : Nat) :
    ∃ c cs, Nat.toDigits 10 n = c :: cs ∧ c.isDigit = true := by
  obtain ⟨c, cs, hcs⟩ := List.exists_cons_of_ne_nil (@Nat.toDigits_ne_nil n 10)
  exact ⟨c, cs, hcs, isDigit_of_mem n c (by rw [hcs]; exact List.mem_cons_self ..)⟩

theorem isDigit_ne {d : Char} (hc : c.isDigit = true) (hd : d.isDigit = false) : c ≠ d := by
  rintro rfl
  rw [hd] at hc
  cases hc

theorem digits1_toDigits (n : Nat) (h : Ends rest) :
    digits1 (Nat.toDigits 10 n ++ rest) = some (Nat.toDigits 10 n, rest) := by
  have hdigits := isDigit_of_mem n
  have hbehind : rest.takeWhile Char.isDigit = [] ∧ rest.dropWhile Char.isDigit = rest := by
    cases rest with
    | nil => exact ⟨rfl, rfl⟩
    | cons c rest =>
      have hc : ¬c.isDigit = true := by rw [(h c rfl).1]; exact Bool.false_ne_true
      exact ⟨List.takeWhile_cons_of_neg hc, List.dropWhile_cons_of_neg hc⟩
  unfold digits1
  rw [List.takeWhile_append_of_pos hdigits, List.dropWhile_append_of_pos hdigits, hbehind.1,
    hbehind.2, List.append_nil]
  split
  · exact absurd ‹_› Nat.toDigits_ne_nil
  · rfl

theorem valueOfDigits_toDigits (n : Nat) : valueOfDigits (Nat.toDigits 10 n) = n :=
  Nat.ofDigitChars_eq_foldl.symm.trans Nat.ofDigitChars_ten_toDigits

theorem number_toDigits (n : Nat) (h : Ends rest) :
    Reader.number (Nat.toDigits 10 n ++ rest) = Except.ok (.natural n, rest) := by
  have hzero : ¬(1 < (Nat.toDigits 10 n).length ∧ (Nat.toDigits 10 n).head? = some '0') := by
    rintro ⟨hlength, hhead⟩
    rcases Nat.eq_zero_or_pos n with rfl | hn
    · exact absurd hlength (by decide)
    · exact head?_toDigits hn hhead
  unfold Reader.number
  split
  rename_i sign body hsign
  have hunsigned : sign = [] ∧ body = Nat.toDigits 10 n ++ rest := by
    split at hsign
    · rename_i tail heq
      obtain ⟨c, digits, hdigits, hc⟩ := exists_first_digit n
      rw [hdigits, List.cons_append] at heq
      exact absurd (List.cons.inj heq).1 (isDigit_ne hc rfl)
    · cases hsign
      exact ⟨rfl, rfl⟩
  obtain ⟨rfl, rfl⟩ := hunsigned
  rw [digits1_toDigits n h]
  dsimp only
  rw [if_neg hzero, valueOfDigits_toDigits]
  cases rest with
  | nil => rfl
  | cons c rest =>
    obtain ⟨-, hpoint, hsmall, hlarge⟩ := h c rfl
    have hexponent : ¬(c = 'e' ∨ c = 'E') := not_or.mpr ⟨hsmall, hlarge⟩
    split
    · rename_i heq
      exact absurd (List.cons.inj heq).1 hpoint
    · rw [pure_bind]
      dsimp only
      rw [if_neg hexponent]
      rfl

/-- A value is read from some characters, whatever follows them. -/
def Reads (cs : List Char) (json : Json) : Prop :=
  ∀ fuel rest, 2 * cs.length ≤ fuel → Ends rest →
    anyValue fuel (cs ++ rest) = Except.ok (some json, rest)

/-- Space in front of a value is skipped. -/
theorem anyValue_space {cs cs' : List Char} (h : skipSpace cs = skipSpace cs') (fuel : Nat) :
    anyValue fuel cs = anyValue fuel cs' := by
  cases fuel with
  | zero => rfl
  | succ fuel => rw [anyValue, anyValue, h]

theorem anyValue_blank (fuel : Nat) (cs : List Char) :
    anyValue fuel (' ' :: cs) = anyValue fuel cs :=
  anyValue_space (List.dropWhile_cons_of_pos rfl) fuel

theorem anyItems_newLine (fuel level : Nat) (cs : List Char) :
    anyItems fuel (newLine level ++ cs) = anyItems fuel cs := by
  cases fuel with
  | zero => rfl
  | succ fuel => rw [anyItems, anyItems, anyValue_space (skipSpace_newLine level cs)]

theorem anyFields_newLine (fuel level : Nat) (cs : List Char) :
    anyFields fuel (newLine level ++ cs) = anyFields fuel cs := by
  cases fuel with
  | zero => rfl
  | succ fuel => rw [anyFields, anyFields, skipSpace_newLine]

/-- The first character of a value is no space and closes no list. -/
theorem head_prettyChars (h : Plain json) (level : Nat) :
    ∃ c cs, prettyChars level json = c :: cs ∧ isSpace c = false ∧ c ≠ ']' := by
  cases h with
  | null => exact ⟨_, _, rfl, rfl, by decide⟩
  | bool value => cases value <;> exact ⟨_, _, rfl, rfl, by decide⟩
  | natural value =>
    obtain ⟨c, cs, hcs, hc⟩ := exists_first_digit value
    refine ⟨c, cs, hcs, ?_, isDigit_ne hc rfl⟩
    simp [isSpace, isDigit_ne hc]
  | string value => exact ⟨_, _, rfl, rfl, by decide⟩
  | @array items => cases items <;> exact ⟨_, _, rfl, rfl, by decide⟩
  | @object fields => cases fields <;> exact ⟨_, _, rfl, rfl, by decide⟩

theorem reads_null : Reads "null".toList null := by
  rintro (_ | fuel) rest hfuel -
  · cases hfuel
  · rfl

theorem reads_bool (value : Bool) :
    Reads (if value then "true" else "false").toList (bool value) := by
  rintro (_ | fuel) rest hfuel -
  · cases value <;> cases hfuel
  · cases value <;> rfl

theorem stringChars_append (text : String) (rest : List Char) :
    stringChars text ++ rest = '"' :: (text.toList.flatMap escapeChar ++ '"' :: rest) := by
  rw [stringChars, List.cons_append, List.cons_append, List.append_assoc, List.singleton_append]

theorem anyValue_quote (fuel : Nat) (rest : List Char) :
    anyValue (fuel + 1) ('"' :: rest) = (do
      let (text, after) ← stringRest rest
      return (text.map (.string ∘ String.ofList), after)) := rfl

theorem anyValue_bracket (hspace : isSpace c = false) (hclose : c ≠ ']') (fuel level : Nat)
    (cs : List Char) :
    anyValue (fuel + 1) ('[' :: (newLine level ++ c :: cs)) = (do
      let (items, after) ← anyItems fuel (c :: cs)
      return (items.map array, after)) := by
  have hskip : skipSpace (newLine level ++ c :: cs) = c :: cs := by
    rw [skipSpace_newLine, skipSpace_cons hspace]
  rw [anyValue, skipSpace_cons rfl]
  split
  case h_2 rest heq =>
    obtain rfl := (List.cons.inj heq).2
    rw [hskip]
    split
    · rename_i heq
      exact absurd (List.cons.inj heq).1 hclose
    · rfl
  all_goals simp_all

theorem anyValue_brace (fuel level : Nat) (cs : List Char) :
    anyValue (fuel + 1) ('\x7b' :: (newLine level ++ '"' :: cs)) = (do
      let (fields, after) ← anyFields fuel ('"' :: cs)
      return (fields.map object, after)) := by
  have hskip : skipSpace (newLine level ++ '"' :: cs) = '"' :: cs := by
    rw [skipSpace_newLine, skipSpace_cons rfl]
  rw [anyValue, skipSpace_cons rfl]
  split
  case h_3 rest heq =>
    obtain rfl := (List.cons.inj heq).2
    rw [hskip]
    rfl
  all_goals simp_all

theorem reads_string (value : String) : Reads (stringChars value) (string value) := by
  rintro (_ | fuel) rest hfuel -
  · cases hfuel
  · rw [stringChars_append, anyValue_quote, stringRest_flatMap]
    exact congrArg (fun text => Except.ok (some (string text), rest)) String.ofList_toList

theorem word?_eq_none {word : String} {d : Char} {ds : List Char} (hword : word.toList = d :: ds)
    (hd : c ≠ d) (cs : List Char) : word? word (c :: cs) = none := by
  unfold word?
  rw [hword, List.isPrefixOf_cons_cons, beq_false_of_ne hd.symm, Bool.false_and]
  rfl

theorem anyValue_digit (hc : c.isDigit = true) (fuel : Nat) (cs : List Char) :
    anyValue (fuel + 1) (c :: cs) = (do
      let (value, after) ← Reader.number (c :: cs)
      return (some value, after)) := by
  have hspace : isSpace c = false := by simp [isSpace, isDigit_ne hc]
  rw [anyValue, skipSpace_cons hspace]
  split
  iterate 3
    · rename_i heq
      exact absurd (List.cons.inj heq).1 (isDigit_ne hc rfl)
  · rw [word?_eq_none rfl (isDigit_ne hc rfl), word?_eq_none rfl (isDigit_ne hc rfl),
      word?_eq_none rfl (isDigit_ne hc rfl)]

theorem reads_natural (value : Nat) : Reads (Nat.toDigits 10 value) (natural value) := by
  obtain ⟨c, cs, hcs, hc⟩ := exists_first_digit value
  rintro (_ | fuel) rest hfuel hrest
  · rw [hcs] at hfuel
    cases hfuel
  · have hnumber := number_toDigits value hrest
    rw [hcs, List.cons_append] at hnumber ⊢
    rw [anyValue_digit hc, hnumber]
    rfl

section List

variable {item : Json} {items : List Json}

theorem anyItems_last (hitem : Reads cs item) (hfuel : 2 * cs.length ≤ fuel) (below : Nat)
    (rest : List Char) :
    anyItems (fuel + 1) (cs ++ (newLine below ++ ']' :: rest)) = Except.ok (some [item], rest) := by
  rw [anyItems, hitem fuel _ hfuel (Ends.newLine below _)]
  dsimp only [bind, Except.bind]
  rw [skipSpace_newLine]
  rfl

theorem anyItems_comma (hitem : Reads cs item) (hfuel : 2 * cs.length ≤ fuel)
    (hitems : anyItems fuel rest = Except.ok (some items, after)) :
    anyItems (fuel + 1) (cs ++ ',' :: rest) = Except.ok (some (item :: items), after) := by
  rw [anyItems, hitem fuel _ hfuel (Ends.cons (by decide) _)]
  change (do
    let (rest, after) ← anyItems fuel rest
    return ((do return (← some item) :: (← rest)), after)) = _
  rw [hitems]
  rfl

theorem anyItems_pretty (hitem : Reads (prettyChars level item) item)
    (hitems : ∀ next ∈ items, Reads (prettyChars level next) next) (below : Nat) (rest : List Char)
    (hfuel : 2 * (prettyChars level item ++ prettyItems level items).length < fuel) :
    anyItems fuel (prettyChars level item ++ (prettyItems level items ++
      (newLine below ++ ']' :: rest))) = Except.ok (some (item :: items), rest) := by
  induction items generalizing item fuel with
  | nil =>
    obtain ⟨fuel, rfl⟩ := Nat.exists_eq_succ_of_ne_zero (Nat.ne_zero_of_lt hfuel)
    rw [prettyItems, List.append_nil] at hfuel
    exact anyItems_last hitem (Nat.le_of_lt_succ hfuel) below rest
  | cons next items ih =>
    obtain ⟨fuel, rfl⟩ := Nat.exists_eq_succ_of_ne_zero (Nat.ne_zero_of_lt hfuel)
    obtain ⟨hnext, hitems⟩ := List.forall_mem_cons.mp hitems
    rw [prettyItems] at hfuel ⊢
    simp only [List.cons_append, List.length_append, List.length_cons, List.append_assoc]
      at hfuel ⊢
    refine anyItems_comma hitem (by omega) ?_
    rw [anyItems_newLine]
    exact ih hnext hitems (by rw [List.length_append]; omega)

theorem reads_array (hplain : ∀ item ∈ items, Plain item)
    (hitems : ∀ item ∈ items, Reads (prettyChars (level + 1) item) item) :
    Reads (prettyChars level (.array items)) (.array items) := by
  rintro (_ | fuel) rest hfuel -
  · cases items <;> cases hfuel
  cases items with
  | nil => rfl
  | cons item items =>
    obtain ⟨hitem, hitems⟩ := List.forall_mem_cons.mp hitems
    have hfirst := hplain item (List.mem_cons_self ..)
    obtain ⟨c, cs, hcs, hspace, hclose⟩ := head_prettyChars hfirst (level + 1)
    rw [prettyChars] at hfuel ⊢
    simp only [List.cons_append, List.length_append, List.length_cons, List.append_assoc,
      List.nil_append, List.length_nil] at hfuel ⊢
    have hlength : 2 * (prettyChars (level + 1) item ++ prettyItems (level + 1) items).length
        < fuel := by
      rw [List.length_append]
      omega
    have hread := anyItems_pretty hitem hitems level rest hlength
    rw [hcs, List.cons_append] at hread ⊢
    rw [anyValue_bracket hspace hclose, hread]
    rfl

end List

section Object

variable {key : String} {value : Json} {fields : List (String × Json)}

theorem anyFields_last (key : String) (hvalue : Reads cs value) (hfuel : 2 * cs.length ≤ fuel)
    (below : Nat) (rest : List Char) :
    anyFields (fuel + 1) (stringChars key ++ ':' :: ' ' ::
      (cs ++ (newLine below ++ '\x7d' :: rest))) = Except.ok (some [(key, value)], rest) := by
  have hcolon (cs : List Char) : skipSpace (':' :: cs) = ':' :: cs := skipSpace_cons rfl cs
  have hclose : skipSpace (newLine below ++ '\x7d' :: rest) = '\x7d' :: rest :=
    (skipSpace_newLine ..).trans (skipSpace_cons rfl _)
  have hread := hvalue fuel _ hfuel (Ends.newLine below ('\x7d' :: rest))
  rw [← anyValue_blank] at hread
  rw [stringChars_append, anyFields, skipSpace_cons rfl]
  simp only [stringRest_flatMap, bind, Except.bind, hcolon, hread, hclose, Option.bind_some,
    String.ofList_toList]
  rfl

theorem anyFields_comma (key : String) (hvalue : Reads cs value) (hfuel : 2 * cs.length ≤ fuel)
    (hfields : anyFields fuel rest = Except.ok (some fields, after)) :
    anyFields (fuel + 1) (stringChars key ++ ':' :: ' ' :: (cs ++ ',' :: rest)) =
      Except.ok (some ((key, value) :: fields), after) := by
  have hcolon (cs : List Char) : skipSpace (':' :: cs) = ':' :: cs := skipSpace_cons rfl cs
  have hcomma : skipSpace (',' :: rest) = ',' :: rest := skipSpace_cons rfl rest
  have hread := hvalue fuel (',' :: rest) hfuel (Ends.cons (by decide) rest)
  rw [← anyValue_blank] at hread
  rw [stringChars_append, anyFields, skipSpace_cons rfl]
  simp only [stringRest_flatMap, bind, Except.bind, hcolon, hread, hcomma, hfields,
    Option.bind_some, String.ofList_toList]
  rfl

theorem anyFields_pretty (key : String) (hvalue : Reads (prettyChars level value) value)
    (hfields : ∀ next ∈ fields, Reads (prettyChars level next.2) next.2) (below : Nat)
    (rest : List Char)
    (hfuel : 2 * (prettyChars level value ++ prettyFields level fields).length < fuel) :
    anyFields fuel (stringChars key ++ ':' :: ' ' :: (prettyChars level value ++
      (prettyFields level fields ++ (newLine below ++ '\x7d' :: rest)))) =
        Except.ok (some ((key, value) :: fields), rest) := by
  induction fields generalizing key value fuel with
  | nil =>
    obtain ⟨fuel, rfl⟩ := Nat.exists_eq_succ_of_ne_zero (Nat.ne_zero_of_lt hfuel)
    rw [prettyFields, List.append_nil] at hfuel
    exact anyFields_last key hvalue (Nat.le_of_lt_succ hfuel) below rest
  | cons next fields ih =>
    obtain ⟨fuel, rfl⟩ := Nat.exists_eq_succ_of_ne_zero (Nat.ne_zero_of_lt hfuel)
    obtain ⟨hnext, hfields⟩ := List.forall_mem_cons.mp hfields
    rw [prettyFields] at hfuel ⊢
    simp only [List.cons_append, List.length_append, List.length_cons, List.append_assoc,
      List.nil_append] at hfuel ⊢
    refine anyFields_comma key hvalue (by omega) ?_
    rw [anyFields_newLine]
    exact ih next.1 hnext hfields (by rw [List.length_append]; omega)

theorem reads_object (hfields : ∀ field ∈ fields, Reads (prettyChars (level + 1) field.2) field.2) :
    Reads (prettyChars level (.object fields)) (.object fields) := by
  rintro (_ | fuel) rest hfuel -
  · cases fields <;> cases hfuel
  cases fields with
  | nil => rfl
  | cons field fields =>
    obtain ⟨key, value⟩ := field
    obtain ⟨hvalue, hfields⟩ := List.forall_mem_cons.mp hfields
    change Reads (prettyChars (level + 1) value) value at hvalue
    rw [prettyChars] at hfuel ⊢
    simp only [List.cons_append, List.length_append, List.length_cons, List.append_assoc,
      List.nil_append] at hfuel ⊢
    have hlength : 2 * (prettyChars (level + 1) value ++ prettyFields (level + 1) fields).length
        < fuel := by
      rw [List.length_append]
      omega
    have hread := anyFields_pretty key hvalue hfields level rest hlength
    rw [stringChars_append] at hread ⊢
    rw [anyValue_brace, hread]
    rfl

end Object

theorem reads_prettyChars (h : Plain json) : ∀ level, Reads (prettyChars level json) json := by
  induction h with
  | null => exact fun _ => reads_null
  | bool value => exact fun _ => reads_bool value
  | natural value => exact fun _ => reads_natural value
  | string value => exact fun _ => reads_string value
  | array h ih => exact fun level => reads_array h fun item hitem => ih item hitem (level + 1)
  | object _ ih => exact fun level => reads_object fun field hfield => ih field hfield (level + 1)

/-- A value is read back from its text over several lines. -/
theorem ofText_pretty (h : Plain json) : ofText Reader.value json.pretty = Except.ok json := by
  have hread := reads_prettyChars h 0 (2 * (prettyChars 0 json).length + 1) [] (by omega) Ends.nil
  rw [List.append_nil] at hread
  unfold ofText Reader.value Reader.any pretty
  rw [String.toList_ofList, hread]
  rfl

end LayerMessaging.Json
