import LayerMessaging.EnvFile.Load
import LayerMessaging.Proofs.Number.Numeral
import Mathlib.Data.List.Forall2

namespace LayerMessaging.EnvFile

structure KeyDigits where
  chars : List Char
  length_eq : chars.length = 64
  isDigit : ∀ c ∈ chars, Numeral.IsDigit 16 c

/-- The errors are the same, or quote a text in which one key stands for the other. -/
inductive SameButKey (key key' : KeyDigits) : Error → Error → Prop
  | same (e : Error) : SameButKey key key' e e
  | quoted (front back : List Char) (position : Nat) :
      SameButKey key key'
        (.malformedLine (String.ofList (front ++ key.chars ++ back)) position)
        (.malformedLine (String.ofList (front ++ key'.chars ++ back)) position)

/-- Both succeed and the results are related, or both fail with errors that are the same but for the
key. -/
inductive Agree (key key' : KeyDigits) {α β : Type} (R : α → β → Prop) :
    Except Error α → Except Error β → Prop
  | ok {a : α} {b : β} (h : R a b) : Agree key key' R (.ok a) (.ok b)
  | error {e e' : Error} (h : SameButKey key key' e e') : Agree key key' R (.error e) (.error e')

inductive LinePair (key key' : KeyDigits) : List Char → List Char → Prop
  | same (line : List Char) : LinePair key key' line line
  | keyed {front : List Char} (h : '=' ∈ front) (back : List Char) :
      LinePair key key' (front ++ key.chars ++ back) (front ++ key'.chars ++ back)

/-- The physical lines are the same, or in one of them a key stands for the other behind an equals
sign. -/
inductive Lines (key key' : KeyDigits) : List Bytes → List Bytes → Prop
  | same (lines : List Bytes) : Lines key key' lines lines
  | keyed {front : List Char} (h : '=' ∈ front) (back : Bytes) (lines : List Bytes) :
      Lines key key' ((Text.utf8Chars (front ++ key.chars) ++ back) :: lines)
        ((Text.utf8Chars (front ++ key'.chars) ++ back) :: lines)
  | later (line : Bytes) {lines lines' : List Bytes} (h : Lines key key' lines lines') :
      Lines key key' (line :: lines) (line :: lines')

variable {key key' : KeyDigits} {α β γ δ : Type} {R : α → β → Prop} {S : γ → δ → Prop}

theorem Agree.refl {R : α → α → Prop} (hrefl : ∀ a, R a a) (result : Except Error α) :
    Agree key key' R result result := by
  cases result with
  | ok a => exact .ok (hrefl a)
  | error e => exact .error (.same e)

theorem Agree.map {result : Except Error α} {result' : Except Error β} {f : α → γ} {f' : β → δ}
    (h : Agree key key' R result result') (hf : ∀ a b, R a b → S (f a) (f' b)) :
    Agree key key' S (result.map f) (result'.map f') := by
  cases h with
  | ok h => exact .ok (hf _ _ h)
  | error h => exact .error h

inductive Twin : Char → Char → Prop
  | same (c : Char) : Twin c c
  | digits {c c' : Char} (hc : Numeral.IsDigit 16 c) (hc' : Numeral.IsDigit 16 c') : Twin c c'

namespace Twin

variable {c c' : Char}

theorem eq_iff (h : Twin c c') (d : Char) (hd : ¬Numeral.IsDigit 16 d) : c = d ↔ c' = d := by
  cases h with
  | same => rfl
  | digits hc hc' => exact ⟨fun heq => (hc.ne hd heq).elim, fun heq => (hc'.ne hd heq).elim⟩

theorem isAlphanumeric_eq (h : Twin c c') : Text.isAlphanumeric c = Text.isAlphanumeric c' := by
  have hcodes : ∀ code < 128, Numeral.IsDigit 16 (Char.ofNat code) →
      (Char.ofNat code).isAlphanum = true := by decide
  have hdigit {c : Char} (h : Numeral.IsDigit 16 c) : Text.isAlphanumeric c = true := by
    have hc := hcodes c.toNat h.lt_ascii
    rw [Char.ofNat_toNat] at hc
    exact Text.isAlphanumeric_of_isAlphanum (hc h)
  cases h with
  | same => rfl
  | digits hc hc' => rw [hdigit hc, hdigit hc']

end Twin

theorem forall₂_twin_refl (cs : List Char) : List.Forall₂ Twin cs cs :=
  List.forall₂_same.mpr fun c _ => .same c

theorem forall₂_twin_keys (key key' : KeyDigits) : List.Forall₂ Twin key.chars key'.chars := by
  refine List.forall₂_iff_zip.mpr ⟨key.length_eq.trans key'.length_eq.symm, ?_⟩
  intro c c' hmem
  obtain ⟨hc, hc'⟩ := List.of_mem_zip hmem
  exact .digits (key.isDigit c hc) (key'.isDigit c' hc')

theorem forall₂_twin_keyed (key key' : KeyDigits) (front back : List Char) :
    List.Forall₂ Twin (front ++ key.chars ++ back) (front ++ key'.chars ++ back) :=
  List.rel_append (List.rel_append (forall₂_twin_refl front) (forall₂_twin_keys key key'))
    (forall₂_twin_refl back)

theorem length_utf8Chars_twin {cs cs' : List Char} (h : List.Forall₂ Twin cs cs') :
    (Text.utf8Chars cs).length = (Text.utf8Chars cs').length := by
  induction h with
  | nil => rfl
  | @cons c c' cs cs' hc hcs ih =>
    have hencode : (String.utf8EncodeChar c).length = (String.utf8EncodeChar c').length := by
      cases hc with
      | same => rfl
      | digits hc hc' =>
        rw [Text.utf8EncodeChar_ascii hc.lt_ascii, Text.utf8EncodeChar_ascii hc'.lt_ascii]
        rfl
    unfold Text.utf8Chars at ih ⊢
    rw [List.flatMap_cons, List.flatMap_cons, List.length_append, List.length_append, hencode, ih]

namespace KeyDigits

theorem ne_nil (key : KeyDigits) : key.chars ≠ [] := by
  intro h
  have hlength := key.length_eq
  rw [h] at hlength
  cases hlength

theorem exists_concat (key : KeyDigits) : ∃ digits last, key.chars = digits ++ [last] :=
  ⟨_, _, (List.dropLast_append_getLast key.ne_nil).symm⟩

/-- Texts with one key and the other have the same number of bytes. -/
theorem length_utf8Chars_eq (key key' : KeyDigits) (front back : List Char) :
    (Text.utf8Chars (front ++ key.chars ++ back)).length =
      (Text.utf8Chars (front ++ key'.chars ++ back)).length :=
  length_utf8Chars_twin (forall₂_twin_keyed key key' front back)

/-- The last digit of a key keeps what stands before it at the end of a text. -/
theorem dropEndWhile_append (key : KeyDigits) {p : Char → Bool} (hp : ∀ c ∈ key.chars, p c = false)
    (front back : List Char) :
    Text.dropEndWhile p (front ++ key.chars ++ back) =
      front ++ key.chars ++ Text.dropEndWhile p back := by
  obtain ⟨digits, last, hkey⟩ := key.exists_concat
  have hlast : p last = false := hp last (by simp [hkey])
  have hdrop := @Text.dropEndWhile_append_cons p (front ++ digits) last hlast back
  rw [hkey]
  simpa using hdrop

/-- The first digit of a key is no blank that could be skipped with those before it. -/
theorem dropWhile_append (key : KeyDigits) (front back : List Char) :
    (front ++ key.chars ++ back).dropWhile Text.isBlank =
      front.dropWhile Text.isBlank ++ key.chars ++ back := by
  have hkey : (key.chars ++ back).dropWhile Text.isBlank = key.chars ++ back := by
    apply Text.dropWhile_eq_self
    intro c hc
    rw [List.head?_append_of_ne_nil _ key.ne_nil] at hc
    exact (key.isDigit c (List.mem_of_head? hc)).not_blank
  rw [List.append_assoc, List.dropWhile_append]
  split
  · rename_i hempty
    rw [hkey, List.isEmpty_iff.mp hempty]
    rfl
  · rw [List.append_assoc]

end KeyDigits

end LayerMessaging.EnvFile
