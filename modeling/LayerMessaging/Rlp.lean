import LayerMessaging.Bytes.Basic

namespace LayerMessaging.Rlp

inductive Item where
  | string (bytes : Bytes)
  | list (items : List Item)

def Item.ofNat (n : Nat) : Item := .string (Bytes.minimal n)

/-- The prefix of a payload: its length on top of the base up to 55, and beyond that the length of
the length, then the length. -/
def lengthPrefix (base : Nat) (length : Nat) : Bytes :=
  if length ≤ 55 then [UInt8.ofNat (base + length)]
  else UInt8.ofNat (base + 55 + (Bytes.minimal length).length) :: Bytes.minimal length

/-- A byte string; a single byte below 128 is its own form. -/
def encodeString (bytes : Bytes) : Bytes :=
  match bytes with
  | [b] => if b < 128 then [b] else lengthPrefix 128 1 ++ [b]
  | _ => lengthPrefix 128 bytes.length ++ bytes

mutual
def encode : Item → Bytes
  | .string bytes => encodeString bytes
  | .list items =>
    let payload := encodeItems items
    lengthPrefix 192 payload.length ++ payload

def encodeItems : List Item → Bytes
  | [] => []
  | item :: items => encode item ++ encodeItems items
end

/-- What the prefix counts: the bytes of a string, or the forms of a list's items. -/
def Item.payload : Item → Bytes
  | .string bytes => bytes
  | .list items => encodeItems items

/-- The form of an item. A length has eight bytes at most, so that what is longer has no form. -/
def encode? (item : Item) : Option Bytes :=
  if item.payload.length < Bytes.limit 8 then some (encode item) else none

end LayerMessaging.Rlp
