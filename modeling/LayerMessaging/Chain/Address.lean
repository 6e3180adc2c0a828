import LayerMessaging.Digest.Keccak
import LayerMessaging.Text.Utf8

namespace LayerMessaging

/-- The digits of an address, each letter upper-case where the matching digit of their digest is at
least eight. -/
def Address.checksumDigits (address : Address) : List Char :=
  let digits := Hex.digits address.bytes
  let marks := Hex.digits (Keccak.digest (Text.utf8Chars digits)).bytes
  digits.zipWith (fun c mark => if '8' ≤ mark then c.toUpper else c) marks

/-- The text of an address that carries its checksum. -/
def Address.checksummed (address : Address) : String :=
  "0x" ++ String.ofList address.checksumDigits

end LayerMessaging
