import LayerMessaging.Bytes.Hex
import LayerMessaging.Number.Numeral
import LayerMessaging.Proofs.Text.Blank
import LayerMessaging.Proofs.Text.Utf8
import Mathlib.Data.List.Induction
import Mathlib.Tactic.Ring

namespace LayerMessaging.Numeral

def digitOf (c : Char) : Nat := (Hex.digitValue? c.toNat).getD 0

/-- Digits behind the digits of a number. -/
def extend (radix n : Nat) (digits : List Char) : Nat :=
  digits.foldl (fun n c => radix * n + digitOf c) n

def number (radix : Nat) (digits : List Char) : Nat := extend radix 0 digits

def IsDigit (radix : Nat) (c : Char) : Prop :=
  (Hex.digitValue? c.toNat).any (· < radix) = true

instance (radix : Nat) (c : Char) : Decidable (IsDigit radix c) :=
  inferInstanceAs (Decidable (_ = true))

inductive Spells : List Char → Nat → Prop
  | decimal {digits : List Char} (hne : digits ≠ []) (h : ∀ c ∈ digits, IsDigit 10 c) :
      Spells digits (number 10 digits)
  | hexadecimal {digits : List Char} (hne : digits ≠ []) (h : ∀ c ∈ digits, IsDigit 16 c) :
      Spells ('0' :: 'x' :: digits) (number 16 digits)

variable {radix bound : Nat} {c : Char} {digits : List Char}

theorem isDigit_iff : IsDigit radix c ↔ ∃ d < radix, Hex.digitValue? c.toNat = some d := by
  unfold IsDigit
  cases Hex.digitValue? c.toNat with
  | none => simp
  | some d => simp

theorem IsDigit.cases (h : IsDigit radix c) :
    (48 ≤ c.toNat ∧ c.toNat ≤ 57 ∧ digitOf c = c.toNat - 48) ∨
      (97 ≤ c.toNat ∧ c.toNat ≤ 102 ∧ digitOf c = c.toNat - 87) ∨
      (65 ≤ c.toNat ∧ c.toNat ≤ 70 ∧ digitOf c = c.toNat - 55) := by
  obtain ⟨d, -, hvalue⟩ := isDigit_iff.mp h
  have hdigit : digitOf c = d := by
    unfold digitOf
    rw [hvalue, Option.getD_some]
  unfold Hex.digitValue? at hvalue
  split at hvalue
  · cases hvalue
    omega
  · split at hvalue
    · cases hvalue
      omega
    · split at hvalue
      · cases hvalue
        omega
      · cases hvalue

theorem IsDigit.hexadecimal (h : IsDigit radix c) : IsDigit 16 c := by
  have hcases := h.cases
  obtain ⟨d, -, hvalue⟩ := isDigit_iff.mp h
  have hdigit : digitOf c = d := by
    unfold digitOf
    rw [hvalue, Option.getD_some]
  exact isDigit_iff.mpr ⟨d, by omega, hvalue⟩

theorem IsDigit.ne {d : Char} (h : IsDigit radix c) (hd : ¬IsDigit 16 d) : c ≠ d := by
  rintro rfl
  exact hd h.hexadecimal

theorem IsDigit.digitOf_lt (h : IsDigit radix c) : digitOf c < radix := by
  obtain ⟨d, hd, hvalue⟩ := isDigit_iff.mp h
  unfold digitOf
  rw [hvalue]
  exact hd

theorem IsDigit.lt_ascii (h : IsDigit radix c) : c.toNat < 128 := by
  have hcases := h.cases
  omega

theorem IsDigit.not_blank (h : IsDigit radix c) : Text.isBlank c = false := by
  have hcases := h.cases
  exact Text.isBlank_eq_false (by omega) (by omega)

theorem IsDigit.digit?_eq (h : IsDigit radix c) : digit? radix c.toUInt8 = some (digitOf c) := by
  have hbyte := Text.toNat_toUInt8 h.lt_ascii
  have hvalue : (if 48 ≤ c.toNat ∧ c.toNat ≤ 57 then c.toNat - 48
      else if 97 ≤ c.toNat ∧ c.toNat ≤ 122 then c.toNat - 87
      else if 65 ≤ c.toNat ∧ c.toNat ≤ 90 then c.toNat - 55
      else radix) = digitOf c := by
    rcases h.cases with ⟨hlow, hhigh, hvalue⟩ | ⟨hlow, hhigh, hvalue⟩ | ⟨hlow, hhigh, hvalue⟩
    · rw [if_pos (by omega), hvalue]
    · rw [if_neg (by omega), if_pos (by omega), hvalue]
    · rw [if_neg (by omega), if_neg (by omega), if_pos (by omega), hvalue]
  unfold digit?
  dsimp only
  rw [hbyte, hvalue, if_pos h.digitOf_lt]

theorem extend_cons (n : Nat) :
    extend radix n (c :: digits) = extend radix (radix * n + digitOf c) digits := rfl

theorem number_concat (digits : List Char) (c : Char) :
    number radix (digits ++ [c]) = radix * number radix digits + digitOf c := by
  unfold number extend
  rw [List.foldl_append]
  rfl

theorem le_extend (hradix : 0 < radix) (n : Nat) : n ≤ extend radix n digits := by
  induction digits generalizing n with
  | nil => exact Nat.le_refl n
  | cons c rest ih =>
    have hmul : n ≤ radix * n := Nat.le_mul_of_pos_left n hradix
    have hrest := ih (radix * n + digitOf c)
    rw [extend_cons]
    omega

theorem gathered_digits (h : ∀ c ∈ digits, IsDigit 10 c) (size : Nat) {value : Nat}
    (hbound : extend 10 value digits < bound) :
    gathered bound (digits.map Char.toUInt8) size value = .ok (extend 10 value digits) := by
  induction digits generalizing size value with
  | nil => exact if_neg (Nat.not_le.mpr hbound)
  | cons c rest ih =>
    rw [extend_cons] at hbound ⊢
    have hdigit := (h c (List.mem_cons_self ..)).digit?_eq
    have hrest := fun size => ih (fun d hd => h d (List.mem_cons_of_mem _ hd)) size hbound
    have hle := @le_extend 10 rest (by decide) (10 * value + digitOf c)
    rw [List.map_cons, gathered, hdigit]
    dsimp only
    split
    · exact hrest (size + 1)
    · rw [if_neg (by omega)]
      exact hrest 0

/-- From the last digit on, each digit with its weight. -/
theorem weighted_digits (h : ∀ c ∈ digits, IsDigit radix c) {weight value : Nat}
    (hbound : value + weight * number radix digits < bound) :
    weighted bound radix (digits.map Char.toUInt8).reverse weight value =
      .ok (value + weight * number radix digits) := by
  -- By induction from behind, since the last digit is the first one that is read.
  induction digits using List.reverseRecOn generalizing weight value with
  | nil => rfl
  | append_singleton digits c ih =>
    have hdigit := (h c (by simp)).digit?_eq
    have hsum : value + weight * number radix (digits ++ [c]) =
        value + digitOf c * weight + weight * radix * number radix digits := by
      rw [number_concat]
      ring
    rw [hsum] at hbound ⊢
    rw [List.map_append, List.reverse_append, List.map_singleton, List.reverse_singleton,
      List.singleton_append, weighted, hdigit]
    dsimp only
    rw [if_neg (by omega)]
    exact ih (fun d hd => h d (List.mem_append_left _ hd)) hbound

theorem isDigit_of_isDigit (h : c.isDigit = true) :
    IsDigit 10 c ∧ digitOf c = c.toNat - '0'.toNat := by
  have hbounds : 48 ≤ c.toNat ∧ c.toNat ≤ 57 := Char.isDigit_iff_toNat.mp h
  have hvalue : Hex.digitValue? c.toNat = some (c.toNat - 48) := if_pos hbounds
  refine ⟨isDigit_iff.mpr ⟨c.toNat - 48, by omega, hvalue⟩, ?_⟩
  unfold digitOf
  rw [hvalue]
  rfl

theorem extend_eq_ofDigitChars (h : ∀ c ∈ digits, c.isDigit = true) (n : Nat) :
    extend 10 n digits = Nat.ofDigitChars 10 digits n := by
  induction digits generalizing n with
  | nil => rfl
  | cons c rest ih =>
    have hc := (isDigit_of_isDigit (h c (List.mem_cons_self ..))).2
    rw [extend_cons, hc, ih fun d hd => h d (List.mem_cons_of_mem _ hd)]
    rfl

theorem spells_decimal (n : Nat) : Spells (toString n).toList n := by
  have hdigits : ∀ c ∈ Nat.toDigits 10 n, c.isDigit = true := fun c hc =>
    Nat.isDigit_of_mem_toDigits (by decide) (by decide) hc
  have hvalue : number 10 (Nat.toDigits 10 n) = n := by
    unfold number
    rw [extend_eq_ofDigitChars hdigits]
    exact Nat.ofDigitChars_ten_toDigits
  have hspells := Spells.decimal Nat.toDigits_ne_nil fun c hc =>
    (isDigit_of_isDigit (hdigits c hc)).1
  rw [hvalue] at hspells
  rw [Nat.toString_eq_ofList_toDigits, String.toList_ofList]
  exact hspells

theorem isDigit_digitChar :
    ∀ d < 16, IsDigit 16 (Nat.digitChar d) ∧ digitOf (Nat.digitChar d) = d := by
  decide

theorem hexadecimal_toDigits (n : Nat) :
    (∀ c ∈ Nat.toDigits 16 n, IsDigit 16 c) ∧ number 16 (Nat.toDigits 16 n) = n := by
  induction n using Nat.strongRecOn with
  | ind n ih =>
    by_cases hlt : n < 16
    · obtain ⟨hdigit, hvalue⟩ := isDigit_digitChar n hlt
      rw [Nat.toDigits_of_lt_base hlt]
      refine ⟨List.forall_mem_singleton.mpr hdigit, ?_⟩
      exact (number_concat [] _).trans (by rw [hvalue]; exact Nat.zero_add n)
    · obtain ⟨hdigits, hvalue⟩ := ih (n / 16) (by omega)
      obtain ⟨hlast, hlastValue⟩ := isDigit_digitChar (n % 16) (Nat.mod_lt _ (by decide))
      rw [Nat.toDigits_of_base_le (by decide) (by omega)]
      refine ⟨List.forall_mem_append.mpr ⟨hdigits, List.forall_mem_singleton.mpr hlast⟩, ?_⟩
      rw [number_concat, hvalue, hlastValue]
      exact Nat.div_add_mod n 16

theorem spells_quantity (n : Nat) : Spells (Hex.quantity n).toList n := by
  obtain ⟨hdigits, hvalue⟩ := hexadecimal_toDigits n
  have hspells := Spells.hexadecimal Nat.toDigits_ne_nil hdigits
  rw [hvalue] at hspells
  rw [Hex.quantity, String.toList_append, String.toList_ofList, String.toList_ofList]
  exact hspells

end LayerMessaging.Numeral
