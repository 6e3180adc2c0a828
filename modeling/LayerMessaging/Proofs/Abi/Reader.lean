import LayerMessaging.Abi

namespace LayerMessaging

theorem Bytes.ofNat_toNat {width : Nat} {bytes : Bytes} (h : bytes.length = width) :
    Bytes.ofNat width bytes.toNat = bytes := by
  induction width generalizing bytes with
  | zero => rw [List.eq_nil_of_length_eq_zero h, Bytes.ofNat]
  | succ width ih =>
    have hne : bytes ≠ [] := by
      rintro rfl
      cases h
    -- Spelling puts the last digit down last, so that the bytes are taken apart from behind.
    obtain ⟨front, last, rfl⟩ : ∃ front last, bytes = front ++ [last] :=
      ⟨_, _, (List.dropLast_concat_getLast hne).symm⟩
    have hfront : front.length = width := by simpa using h
    have hlast := last.toNat_lt
    rw [Bytes.toNat_append_singleton, Bytes.ofNat,
      show (256 * Bytes.toNat front + last.toNat) / 256 = Bytes.toNat front by omega, ih hfront]
    congr 2
    apply UInt8.toNat_inj.mp
    rw [UInt8.toNat_ofNat']
    omega

theorem Bytes.ofNat_mod (width n : Nat) :
    Bytes.ofNat width (n % Bytes.limit width) = Bytes.ofNat width n := by
  rw [← Bytes.toNat_ofNat, Bytes.ofNat_toNat (Bytes.length_ofNat width n)]

theorem Uint256.ofNat_val (word : Uint256) : Uint256.ofNat word.val = word :=
  Uint256.ext (Nat.mod_eq_of_lt word.lt)

theorem Uint256.bytes_ofNat (n : Nat) : (Uint256.ofNat n).bytes = Bytes.ofNat 32 n :=
  Bytes.ofNat_mod 32 n

namespace Abi

inductive Kind where
  | word
  | words
  deriving DecidableEq

def Argument.kind : Argument → Kind
  | .word _ => .word
  | .words _ => .words

def readWord? (bytes : Bytes) : Option (Uint256 × Bytes) :=
  if 32 ≤ bytes.length then some (Uint256.ofNat (Bytes.toNat (bytes.take 32)), bytes.drop 32)
  else none

def readWords? : (count : Nat) → Bytes → Option (List Uint256 × Bytes)
  | 0, bytes => some ([], bytes)
  | count + 1, bytes => do
    let (word, bytes) ← readWord? bytes
    let (words, rest) ← readWords? count bytes
    return (word :: words, rest)

/-- The arguments whose heads are given, with their tails at the front of the bytes, and what
follows the tails. The first tail has the given offset. -/
def readTails? : (offset : Nat) → List (Kind × Uint256) → Bytes → Option (List Argument × Bytes)
  | _, [], bytes => some ([], bytes)
  | offset, (.word, head) :: heads, bytes => do
    let (arguments, rest) ← readTails? offset heads bytes
    return (.word head :: arguments, rest)
  | offset, (.words, head) :: heads, bytes =>
    if head.val ≠ offset then none
    else do
      let (count, bytes) ← readWord? bytes
      let (values, bytes) ← readWords? count.val bytes
      let (arguments, rest) ← readTails? (offset + 32 * (values.length + 1)) heads bytes
      return (.words values :: arguments, rest)

def decode? (kinds : List Kind) (bytes : Bytes) : Option (List Argument) :=
  match readWords? kinds.length bytes with
  | none => none
  | some (heads, tails) =>
    match readTails? (32 * kinds.length) (kinds.zip heads) tails with
    | some (arguments, []) => some arguments
    | _ => none

@[simp] theorem length_wordBytes (n : Nat) : (wordBytes n).length = 32 := Bytes.length_ofNat 32 n

theorem length_flatMap_bytes (words : List Uint256) :
    (words.flatMap Uint256.bytes).length = 32 * words.length := by
  induction words with
  | nil => rfl
  | cons word words ih =>
    rw [List.flatMap_cons, List.length_append, Uint256.length_bytes, ih, List.length_cons]
    omega

/-- A word is read where its bytes stand, and nowhere else. -/
theorem readWord?_eq_some_iff {bytes rest : Bytes} {word : Uint256} :
    readWord? bytes = some (word, rest) ↔ bytes = word.bytes ++ rest := by
  unfold readWord?
  constructor
  · intro h
    split at h
    · rename_i hlength
      have htake : (bytes.take 32).length = 32 := by
        rw [List.length_take]
        omega
      cases h
      rw [Uint256.bytes_ofNat, Bytes.ofNat_toNat htake, List.take_append_drop]
    · cases h
  · intro h
    have hlength := word.length_bytes
    rw [h, if_pos (by rw [List.length_append]; omega), List.take_left' hlength,
      List.drop_left' hlength, Uint256.toNat_bytes, Uint256.ofNat_val]

theorem readWords?_eq_some_iff {count : Nat} {bytes rest : Bytes} {words : List Uint256} :
    readWords? count bytes = some (words, rest) ↔
      words.length = count ∧ bytes = words.flatMap Uint256.bytes ++ rest := by
  induction count generalizing bytes words with
  | zero =>
    rw [readWords?, List.length_eq_zero_iff]
    constructor
    · intro h
      cases h
      exact ⟨rfl, rfl⟩
    · rintro ⟨rfl, rfl⟩
      rfl
  | succ count ih =>
    simp only [readWords?, Option.bind_eq_bind, Option.bind_eq_some_iff, Prod.exists]
    constructor
    · rintro ⟨word, tail, hword, words', rest', hwords, ⟨⟩⟩
      obtain ⟨rfl, rfl⟩ := ih.mp hwords
      refine ⟨rfl, ?_⟩
      rw [readWord?_eq_some_iff.mp hword, List.flatMap_cons, List.append_assoc]
    · rintro ⟨hcount, rfl⟩
      cases words with
      | nil => cases hcount
      | cons word words =>
        have hwords := ih.mpr ⟨Nat.succ.inj hcount, rfl⟩
        exact ⟨word, _, readWord?_eq_some_iff.mpr (List.append_assoc ..), words, rest, hwords, rfl⟩

theorem readWords?_flatMap (words : List Uint256) (rest : Bytes) :
    readWords? words.length (words.flatMap Uint256.bytes ++ rest) = some (words, rest) :=
  readWords?_eq_some_iff.mpr ⟨rfl, rfl⟩

/-- The kinds and heads of arguments, the first tail being at the given offset. -/
def slots : (offset : Nat) → List Argument → List (Kind × Uint256)
  | _, [] => []
  | offset, .word value :: rest => (.word, value) :: slots offset rest
  | offset, .words values :: rest =>
    (.words, Uint256.ofNat offset) :: slots (offset + 32 * (values.length + 1)) rest

/-- The offsets and lengths of the lists are words. -/
def Fits : (offset : Nat) → List Argument → Prop
  | _, [] => True
  | offset, .word _ :: rest => Fits offset rest
  | offset, .words values :: rest =>
    offset < Bytes.limit 32 ∧ values.length < Bytes.limit 32 ∧
      Fits (offset + 32 * (values.length + 1)) rest

theorem length_tail_words (values : List Uint256) :
    (Argument.words values).tail.length = 32 * (values.length + 1) := by
  rw [Argument.tail, List.length_append, length_wordBytes, length_flatMap_bytes]
  omega

theorem heads_eq (offset : Nat) (arguments : List Argument) :
    heads offset arguments = ((slots offset arguments).map Prod.snd).flatMap Uint256.bytes := by
  induction offset, arguments using slots.induct with
  | case1 => rfl
  | case2 offset value rest ih =>
    rw [heads, slots, List.map_cons, List.flatMap_cons, ih]
  | case3 offset values rest ih =>
    rw [heads, slots, List.map_cons, List.flatMap_cons, length_tail_words, ih, wordBytes,
      Uint256.bytes_ofNat]

theorem map_fst_slots (offset : Nat) (arguments : List Argument) :
    (slots offset arguments).map Prod.fst = arguments.map Argument.kind := by
  induction offset, arguments using slots.induct with
  | case1 => rfl
  | case2 offset value rest ih | case3 offset values rest ih =>
    rw [slots, List.map_cons, List.map_cons, ih, Argument.kind]

theorem length_slots (offset : Nat) (arguments : List Argument) :
    (slots offset arguments).length = arguments.length := by
  have h := congrArg List.length (map_fst_slots offset arguments)
  simpa only [List.length_map] using h

/-- Tails that were written read back, whatever follows them. -/
theorem readTails?_slots {offset : Nat} {arguments : List Argument} (h : Fits offset arguments)
    (rest : Bytes) :
    readTails? offset (slots offset arguments) (arguments.flatMap Argument.tail ++ rest) =
      some (arguments, rest) := by
  induction offset, arguments using slots.induct with
  | case1 offset => rfl
  | case2 offset value arguments ih =>
    have hrest := ih h
    rw [slots, readTails?, List.flatMap_cons, Argument.tail, List.nil_append, hrest]
    rfl
  | case3 offset values arguments ih =>
    obtain ⟨hoffset, hcount, hfits⟩ := h
    have hrest := ih hfits
    have hhead : (Uint256.ofNat offset).val = offset := Nat.mod_eq_of_lt hoffset
    have hvalues : (Uint256.ofNat values.length).val = values.length := Nat.mod_eq_of_lt hcount
    have hbytes : (List.flatMap Argument.tail (.words values :: arguments)) ++ rest =
        (Uint256.ofNat values.length).bytes ++ (values.flatMap Uint256.bytes ++
          (arguments.flatMap Argument.tail ++ rest)) := by
      rw [List.flatMap_cons, Argument.tail, wordBytes, ← Uint256.bytes_ofNat]
      simp only [List.append_assoc]
    rw [slots, readTails?, if_neg (not_not_intro hhead), hbytes,
      readWord?_eq_some_iff.mpr rfl, Option.bind_eq_bind, Option.bind_some]
    dsimp only
    rw [hvalues, readWords?_flatMap, Option.bind_eq_bind, Option.bind_some]
    dsimp only
    rw [hrest]
    rfl

theorem eq_of_readTails? {offset : Nat} {heads : List (Kind × Uint256)} {bytes rest : Bytes}
    {arguments : List Argument} (h : readTails? offset heads bytes = some (arguments, rest)) :
    heads = slots offset arguments ∧ Fits offset arguments ∧
      bytes = arguments.flatMap Argument.tail ++ rest := by
  induction offset, heads, bytes using readTails?.induct generalizing arguments with
  | case1 offset bytes =>
    cases h
    exact ⟨rfl, trivial, rfl⟩
  | case2 offset head heads bytes ih =>
    simp only [readTails?, Option.bind_eq_bind, Option.bind_eq_some_iff, Prod.exists] at h
    obtain ⟨arguments, rest, hrest, ⟨⟩⟩ := h
    obtain ⟨rfl, hfits, rfl⟩ := ih hrest
    exact ⟨rfl, hfits, rfl⟩
  | case3 offset head heads bytes hne =>
    rw [readTails?, if_pos hne] at h
    cases h
  | case4 offset head heads bytes heq ih =>
    rw [readTails?, if_neg heq] at h
    simp only [Option.bind_eq_bind, Option.bind_eq_some_iff, Prod.exists] at h
    obtain ⟨count, bytes', hcount, values, bytes'', hvalues, arguments, rest, hrest, ⟨⟩⟩ := h
    obtain ⟨hlength, hbytes'⟩ := readWords?_eq_some_iff.mp hvalues
    obtain ⟨hheads, hfits, hbytes''⟩ := ih values bytes'' hrest
    have hoffset : head.val = offset := Decidable.not_not.mp heq
    have hlt := head.lt
    have hlt' := count.lt
    refine ⟨?_, ⟨by omega, by omega, hfits⟩, ?_⟩
    · rw [slots, hheads, ← hoffset, Uint256.ofNat_val]
    · rw [readWord?_eq_some_iff.mp hcount, hbytes', hbytes'', List.flatMap_cons, Argument.tail,
        wordBytes, ← Uint256.bytes_ofNat, hlength, Uint256.ofNat_val]
      simp only [List.append_assoc]

/-- Arguments whose offsets and lengths have room in a word read back from what was written. -/
theorem decode?_encodeArguments {arguments : List Argument}
    (h : Fits (32 * arguments.length) arguments) :
    decode? (arguments.map Argument.kind) (encodeArguments arguments) = some arguments := by
  have hheads := readWords?_flatMap ((slots (32 * arguments.length) arguments).map Prod.snd)
    (arguments.flatMap Argument.tail)
  have hzip : (arguments.map Argument.kind).zip
      ((slots (32 * arguments.length) arguments).map Prod.snd) =
        slots (32 * arguments.length) arguments :=
    (List.zip_of_prod (map_fst_slots _ _) rfl).symm
  have htails := readTails?_slots h []
  rw [List.length_map, length_slots] at hheads
  rw [List.append_nil] at htails
  rw [decode?, encodeArguments, heads_eq, List.length_map, hheads]
  dsimp only
  rw [hzip, htails]

/-- Bytes that read as arguments are those that were written from them. -/
theorem eq_of_decode? {kinds : List Kind} {bytes : Bytes} {arguments : List Argument}
    (h : decode? kinds bytes = some arguments) :
    kinds = arguments.map Argument.kind ∧ Fits (32 * arguments.length) arguments ∧
      bytes = encodeArguments arguments := by
  unfold decode? at h
  split at h
  · cases h
  rename_i heads tails hheads
  split at h
  · rename_i arguments' htails
    cases h
    obtain ⟨hlength, hbytes⟩ := readWords?_eq_some_iff.mp hheads
    obtain ⟨hslots, hfits, rfl⟩ := eq_of_readTails? htails
    have hkinds : kinds = arguments.map Argument.kind := by
      rw [← map_fst_slots, ← hslots, List.map_fst_zip (by omega)]
    have hcount : kinds.length = arguments.length := by
      rw [hkinds, List.length_map]
    have hwords : heads = (slots (32 * arguments.length) arguments).map Prod.snd := by
      rw [← hcount, ← hslots, List.map_snd_zip (by omega)]
    rw [hcount] at hfits
    refine ⟨hkinds, hfits, ?_⟩
    rw [encodeArguments, heads_eq, hbytes, hwords, List.append_nil]
  · cases h

theorem decode?_eq_some_iff {kinds : List Kind} {bytes : Bytes} {arguments : List Argument} :
    decode? kinds bytes = some arguments ↔
      kinds = arguments.map Argument.kind ∧ Fits (32 * arguments.length) arguments ∧
        bytes = encodeArguments arguments := by
  constructor
  · exact eq_of_decode?
  · rintro ⟨rfl, hfits, rfl⟩
    exact decode?_encodeArguments hfits

end Abi

end LayerMessaging
