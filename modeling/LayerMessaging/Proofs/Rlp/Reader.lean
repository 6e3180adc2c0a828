import LayerMessaging.Rlp

namespace LayerMessaging

namespace Rlp

inductive Kind where
  | string
  | list
  deriving DecidableEq

def cut? (length : Nat) (bytes : Bytes) : Option (Bytes × Bytes) :=
  if length ≤ bytes.length then some (bytes.take length, bytes.drop length) else none

/-- A payload behind its length, which has so many bytes: the fewest, and more than 55 in value. -/
def cutLong? (width : Nat) (bytes : Bytes) : Option (Bytes × Bytes) :=
  match cut? width bytes with
  | none => none
  | some (digits, rest) =>
    if digits.head? = some 0 ∨ digits.toNat ≤ 55 then none else cut? digits.toNat rest

/-- A string of one byte below 128 is its own form, and has no other. -/
def isOwnForm : Bytes → Bool
  | [b] => b < 128
  | _ => false

/-- The kind and payload of the first item, and what follows the item. -/
def first? : Bytes → Option (Kind × Bytes × Bytes)
  | [] => none
  | b :: rest =>
    if b.toNat < 128 then some (.string, [b], rest)
    else if b.toNat ≤ 183 then
      ((cut? (b.toNat - 128) rest).filter fun (payload, _) => !isOwnForm payload).map
        (Prod.mk .string)
    else if b.toNat ≤ 191 then (cutLong? (b.toNat - 183) rest).map (Prod.mk .string)
    else if b.toNat ≤ 247 then (cut? (b.toNat - 192) rest).map (Prod.mk .list)
    else (cutLong? (b.toNat - 247) rest).map (Prod.mk .list)

theorem length_cut? {length : Nat} {bytes payload rest : Bytes}
    (h : cut? length bytes = some (payload, rest)) :
    payload.length + rest.length = bytes.length := by
  unfold cut? at h
  split at h
  · cases h
    simp only [List.length_take, List.length_drop]
    omega
  · cases h

theorem length_cutLong? {width : Nat} {bytes payload rest : Bytes}
    (h : cutLong? width bytes = some (payload, rest)) :
    payload.length + rest.length ≤ bytes.length := by
  unfold cutLong? at h
  rcases hcut : cut? width bytes with _ | ⟨digits, tail⟩
  · rw [hcut] at h
    cases h
  · rw [hcut] at h
    have hdigits := length_cut? hcut
    dsimp only at h
    split at h
    · cases h
    · have htail := length_cut? h
      omega

/-- What follows an item is shorter than the item with it, and so is the payload of a list. -/
theorem length_first? {bytes payload rest : Bytes} {kind : Kind}
    (h : first? bytes = some (kind, payload, rest)) :
    rest.length < bytes.length ∧ (kind = .list → payload.length < bytes.length) := by
  cases bytes with
  | nil => cases h
  | cons b tail =>
    rw [List.length_cons]
    simp only [first?] at h
    split at h
    · cases h
      simp
    split at h
    · obtain ⟨⟨payload, rest⟩, hcut, ⟨⟩⟩ := Option.map_eq_some_iff.mp h
      have := length_cut? (Option.filter_eq_some_iff.mp hcut).1
      exact ⟨by omega, nofun⟩
    split at h
    · obtain ⟨⟨payload, rest⟩, hcut, ⟨⟩⟩ := Option.map_eq_some_iff.mp h
      have := length_cutLong? hcut
      exact ⟨by omega, nofun⟩
    split at h
    · obtain ⟨⟨payload, rest⟩, hcut, ⟨⟩⟩ := Option.map_eq_some_iff.mp h
      have := length_cut? hcut
      omega
    · obtain ⟨⟨payload, rest⟩, hcut, ⟨⟩⟩ := Option.map_eq_some_iff.mp h
      have := length_cutLong? hcut
      omega

def readItems (bytes : Bytes) : Option (List Item) :=
  match _h : first? bytes with
  | none => if bytes = [] then some [] else none
  | some (.string, payload, rest) => (readItems rest).map (.string payload :: ·)
  | some (.list, payload, rest) =>
    match readItems payload with
    | none => none
    | some items => (readItems rest).map (.list items :: ·)
termination_by bytes.length
decreasing_by
  · exact (length_first? _h).1
  · exact (length_first? _h).2 rfl
  · exact (length_first? _h).1

def decode? (bytes : Bytes) : Option Item :=
  match readItems bytes with
  | some [item] => some item
  | _ => none

theorem cut?_append (payload rest : Bytes) :
    cut? payload.length (payload ++ rest) = some (payload, rest) := by
  unfold cut?
  rw [if_pos (by simp), List.take_left, List.drop_left]

theorem cutLong?_minimal {payload : Bytes} (h : 55 < payload.length) (rest : Bytes) :
    cutLong? (Bytes.minimal payload.length).length
        (Bytes.minimal payload.length ++ (payload ++ rest)) = some (payload, rest) := by
  unfold cutLong?
  rw [cut?_append]
  dsimp only
  rw [Bytes.toNat_minimal, if_neg, cut?_append]
  rintro (hzero | hshort)
  · exact Bytes.head?_minimal _ hzero
  · omega

def Item.kind : Item → Kind
  | .string _ => .string
  | .list _ => .list

def Kind.base : Kind → Nat
  | .string => 128
  | .list => 192

theorem Kind.base_cases (kind : Kind) :
    (kind = .string ∧ kind.base = 128) ∨ (kind = .list ∧ kind.base = 192) := by
  cases kind <;> simp [base]

/-- Behind a prefix that was written the payload is found again. -/
theorem first?_lengthPrefix {payload : Bytes} (h : payload.length < Bytes.limit 8) (kind : Kind)
    (hown : kind = .string → isOwnForm payload = false) (rest : Bytes) :
    first? (lengthPrefix kind.base payload.length ++ payload ++ rest) =
      some (kind, payload, rest) := by
  have hbase := kind.base_cases
  unfold lengthPrefix
  -- The first byte lies in the range of its kind and of its width, so that reading takes the branch
  -- that the prefix was written by.
  split
  · have hb : (UInt8.ofNat (kind.base + payload.length)).toNat = kind.base + payload.length := by
      rw [UInt8.toNat_ofNat']
      omega
    simp only [List.cons_append, List.nil_append, first?, hb]
    rcases hbase with ⟨rfl, hbase⟩ | ⟨rfl, hbase⟩
    · rw [if_neg (by omega), if_pos (by omega),
        show Kind.string.base + payload.length - 128 = payload.length by omega, cut?_append]
      simp [hown rfl]
    · rw [if_neg (by omega), if_neg (by omega), if_neg (by omega), if_pos (by omega),
        show Kind.list.base + payload.length - 192 = payload.length by omega, cut?_append]
      rfl
  · have hlong : 55 < payload.length := by omega
    have hw : (Bytes.minimal payload.length).length ≤ 8 := Bytes.length_minimal_le h
    have hpos : 0 < (Bytes.minimal payload.length).length := by
      rw [Bytes.minimal_of_pos (by omega), List.length_append]
      simp
    have hcut := cutLong?_minimal hlong rest
    generalize (Bytes.minimal payload.length).length = width at hw hpos hcut
    have hb : (UInt8.ofNat (kind.base + 55 + width)).toNat = kind.base + 55 + width := by
      rw [UInt8.toNat_ofNat']
      omega
    simp only [List.cons_append, List.append_assoc, first?, hb]
    rcases hbase with ⟨rfl, hbase⟩ | ⟨rfl, hbase⟩
    · rw [if_neg (by omega), if_neg (by omega), if_pos (by omega),
        show Kind.string.base + 55 + width - 183 = width by omega, hcut]
      rfl
    · rw [if_neg (by omega), if_neg (by omega), if_neg (by omega), if_neg (by omega),
        show Kind.list.base + 55 + width - 247 = width by omega, hcut]
      rfl

theorem encodeString_eq (bytes : Bytes) :
    encodeString bytes =
      if isOwnForm bytes then bytes else lengthPrefix 128 bytes.length ++ bytes := by
  rcases bytes with _ | ⟨b, _ | ⟨c, rest⟩⟩
  · rfl
  · by_cases hb : b < 128 <;> simp [encodeString, isOwnForm, hb]
  · rfl

theorem eq_singleton_of_isOwnForm {bytes : Bytes} (h : isOwnForm bytes = true) :
    ∃ b, bytes = [b] ∧ b.toNat < 128 := by
  rcases bytes with _ | ⟨b, _ | ⟨c, rest⟩⟩
  · cases h
  · exact ⟨b, rfl, by simpa [isOwnForm, UInt8.lt_iff_toNat_lt] using h⟩
  · cases h

/-- The first item of what was written is the one that was written first. -/
theorem first?_encode (item : Item) (h : item.payload.length < Bytes.limit 8) (rest : Bytes) :
    first? (encode item ++ rest) = some (item.kind, item.payload, rest) := by
  cases item with
  | string bytes =>
    rw [encode, encodeString_eq]
    cases hown : isOwnForm bytes with
    | true =>
      obtain ⟨b, rfl, hb⟩ := eq_singleton_of_isOwnForm hown
      rw [if_pos rfl, List.singleton_append, first?, if_pos hb]
      rfl
    | false =>
      rw [if_neg Bool.false_ne_true]
      exact first?_lengthPrefix h .string (fun _ => hown) rest
  | list items =>
    rw [encode]
    exact first?_lengthPrefix h .list nofun rest

theorem readItems_nil : readItems [] = some [] := by
  rw [readItems]
  rfl

theorem readItems_string {bytes payload rest : Bytes}
    (h : first? bytes = some (.string, payload, rest)) :
    readItems bytes = (readItems rest).map (.string payload :: ·) := by
  rw [readItems]
  split <;> simp_all

theorem readItems_list {bytes payload rest : Bytes} {items : List Item}
    (h : first? bytes = some (.list, payload, rest)) (hitems : readItems payload = some items) :
    readItems bytes = (readItems rest).map (.list items :: ·) := by
  rw [readItems]
  split <;> simp_all

theorem length_payload_lt (items : List Item) :
    (encodeItems items).length < (encode (.list items)).length := by
  rw [encode, List.length_append]
  unfold lengthPrefix
  split <;> simp

theorem length_payload_le (item : Item) : item.payload.length ≤ (encode item).length := by
  cases item with
  | string bytes =>
    rw [encode, encodeString_eq]
    split <;> simp [Item.payload]
  | list items => exact Nat.le_of_lt (length_payload_lt items)

mutual

theorem readItems_encode_append (item : Item) (h : item.payload.length < Bytes.limit 8)
    (rest : Bytes) : readItems (encode item ++ rest) = (readItems rest).map (item :: ·) :=
  match item with
  | .string bytes => readItems_string (first?_encode (.string bytes) h rest)
  | .list items =>
    readItems_list (first?_encode (.list items) h rest) (readItems_encodeItems items h)

theorem readItems_encodeItems (items : List Item)
    (h : (encodeItems items).length < Bytes.limit 8) :
    readItems (encodeItems items) = some items := by
  match items with
  | [] => exact readItems_nil
  | item :: items =>
    -- No payload is longer than the one that it is a part of, so that the bound passes down.
    rw [encodeItems, List.length_append] at h
    have := length_payload_le item
    rw [encodeItems, readItems_encode_append item (by omega),
      readItems_encodeItems items (by omega)]
    rfl

end

/-- Every item that has a form is read back from it, and nothing is left over. -/
theorem decode?_encode? {item : Item} {bytes : Bytes} (h : encode? item = some bytes) :
    decode? bytes = some item := by
  unfold encode? at h
  split at h
  · cases h
    have hread := readItems_encode_append item ‹_› []
    rw [List.append_nil, readItems_nil] at hread
    rw [decode?, hread]
    rfl
  · cases h

end Rlp

end LayerMessaging
