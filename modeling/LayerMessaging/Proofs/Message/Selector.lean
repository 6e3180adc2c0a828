import LayerMessaging.Message.Selector
import LayerMessaging.Proofs.Bytes.HexNumber

namespace LayerMessaging.Selector

open Numeral

/-- What a name comes to: it is refused for the first of two faults, it is one of the default entry
points, or its digest is cut. -/
inductive Selection (name : String) : Except Error Selector → Prop
  | empty (h : name = "") : Selection name (.error .emptyName)
  | notAscii (hne : name ≠ "") (h : ∃ c ∈ name.toList, 128 ≤ c.toNat) :
      Selection name (.error .notAscii)
  | default {selector : Selector} (h : name = "__default__" ∨ name = "__l1_default__")
      (hval : selector.val = 0) : Selection name (.ok selector)
  | digest {selector : Selector} (hne : name ≠ "") (h : ∀ c ∈ name.toList, c.toNat < 128)
      (hnot : name ≠ "__default__" ∧ name ≠ "__l1_default__")
      (hval : selector.val = (Keccak.digest (Text.utf8 name)).toNat % Nat.pow 2 250) :
      Selection name (.ok selector)

/-- The text has 64 lower-case digits behind `0x`, and they spell the number. -/
def Prints (text : String) (n : Nat) : Prop :=
  ∃ digits, text.toList = '0' :: 'x' :: digits ∧ digits.length = 64 ∧
    (∀ c ∈ digits, c ∈ Hex.lowerDigits) ∧ number 16 digits = n

theorem isAscii_iff {text : String} :
    Text.isAscii text = true ↔ ∀ c ∈ text.toList, c.toNat < 128 := by
  unfold Text.isAscii
  rw [List.all_eq_true]
  simp only [decide_eq_true_eq]

theorem val_ofDigest (digest : Hash) :
    (ofDigest digest).val = digest.toNat % Nat.pow 2 250 :=
  toNat_clearTop digest.bytes digest.length_eq

theorem selection_ofName (name : String) : Selection name (ofName name) := by
  unfold ofName
  split
  · exact .empty ‹_›
  split
  · rename_i hascii
    rw [isAscii_iff] at hascii
    push Not at hascii
    exact .notAscii ‹_› hascii
  rename_i hne hascii
  rw [not_not, isAscii_iff] at hascii
  split
  · rename_i hdefault
    exact .default (by simpa [defaultNames] using hdefault) rfl
  · rename_i hnot
    exact .digest hne hascii (by simpa [defaultNames] using hnot) (val_ofDigest _)

/-- What is printed has the digits of the number and is as wide as a digest. -/
theorem prints_hex (selector : Selector) : Prints selector.hex selector.val := by
  have hlimit : Nat.pow 2 250 ≤ Bytes.limit 32 := by decide
  have hval := selector.lt
  refine ⟨Hex.digits (Bytes.ofNat 32 selector.val), ?_, ?_, ?_, ?_⟩
  · unfold hex FixedBytes.hex FixedBytes.ofNat Hex.encodeMarked Hex.encode
    rw [String.toList_append, String.toList_ofList, String.toList_ofList, List.cons_append,
      List.singleton_append]
  · rw [Hex.length_digits, Bytes.length_ofNat]
  · intro c hc
    exact Hex.mem_lowerDigits_of_mem_digits hc
  · rw [Hex.number_digits, Bytes.toNat_ofNat]
    exact Nat.mod_eq_of_lt (by omega)

theorem Prints.unique {text : String} {n n' : Nat} (h : Prints text n) (h' : Prints text n') :
    n = n' := by
  obtain ⟨digits, htext, -, -, rfl⟩ := h
  obtain ⟨digits', htext', -, -, rfl⟩ := h'
  rw [htext] at htext'
  cases htext'
  rfl

theorem hex_injective : Function.Injective hex := by
  intro selector selector' h
  have hprints := prints_hex selector
  rw [h] at hprints
  have hval := hprints.unique (prints_hex selector')
  cases selector
  cases selector'
  cases hval
  rfl

theorem not_refused {name : String} (hne : name ≠ "") (hascii : ∀ c ∈ name.toList, c.toNat < 128) :
    ¬(name = "" ∨ ∃ c ∈ name.toList, 128 ≤ c.toNat) := by
  rintro (h | ⟨c, hc, hlarge⟩)
  · exact hne h
  · exact Nat.not_lt.mpr hlarge (hascii c hc)

theorem Selection.error_iff {name : String} {result : Except Error Selector}
    (h : Selection name result) :
    (∃ fault, result = .error fault) ↔ name = "" ∨ ∃ c ∈ name.toList, 128 ≤ c.toNat := by
  cases h with
  | empty h => exact ⟨fun _ => .inl h, fun _ => ⟨_, rfl⟩⟩
  | notAscii _ h => exact ⟨fun _ => .inr h, fun _ => ⟨_, rfl⟩⟩
  | default h =>
    have hname : name ≠ "" ∧ Text.isAscii name = true := by
      rcases h with rfl | rfl <;> decide
    exact ⟨nofun, fun hfault => absurd hfault (not_refused hname.1 (isAscii_iff.mp hname.2))⟩
  | digest hne h => exact ⟨nofun, fun hfault => absurd hfault (not_refused hne h)⟩

/-- A name is refused exactly if it is empty or has a character beyond ASCII; of any other name, the
default entry points apart, the selector is the digest's remainder. Every selector has 250 bits and
is printed as 64 digits that spell it, so that no two are printed alike. -/
theorem names_select_digests (name : String) :
    ((∃ fault, ofName name = .error fault) ↔ name = "" ∨ ∃ c ∈ name.toList, 128 ≤ c.toNat) ∧
    Selection name (ofName name) ∧
    (∀ selector : Selector, selector.val < Nat.pow 2 250 ∧ Prints selector.hex selector.val) ∧
    Function.Injective hex :=
  ⟨(selection_ofName name).error_iff, selection_ofName name,
    fun selector => ⟨selector.lt, prints_hex selector⟩, hex_injective⟩

example : (ofName "__default__").toOption.map hex =
    some "0x0000000000000000000000000000000000000000000000000000000000000000" := by
  decide +kernel

end LayerMessaging.Selector
