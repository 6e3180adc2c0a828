import LayerMessaging.Number.Numeral
import LayerMessaging.Rpc.Call

namespace LayerMessaging.Rpc

/-- A number below a bound: a JSON number, or a numeral of any radix in a string. -/
def quantity? (bound : Nat) (json : Json) : Option Nat :=
  match json with
  | .natural n => if n < min bound (Bytes.limit 8) then some n else none
  | .string text => (Numeral.prefixed bound text).toOption
  | _ => none

def byte? : Json → Option UInt8
  | .natural n => if n < 256 then some (UInt8.ofNat n) else none
  | _ => none

/-- Whether an item behind the last byte of a list is overlooked: if it is no byte and has no items
of its own. -/
def isOverlooked : Json → Bool
  | .array _ | .object _ => false
  | json => (byte? json).isNone

/-- A digest: hexadecimal in a string, or a list of bytes. -/
def hash? (json : Json) : Option Hash :=
  match json with
  | .string text => (FixedBytes.ofHex text).toOption
  | .array items => do
    let bytes ← (items.take 32).mapM byte?
    let behind := items.drop 32
    if behind.length ≤ 1 ∧ behind.all isOverlooked then FixedBytes.ofBytes? bytes else none
  | _ => none

end LayerMessaging.Rpc
