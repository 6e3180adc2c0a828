import LayerMessaging.Text.Blank

namespace LayerMessaging.Text

def codeOf (digits : List Char) : Nat :=
  digits.foldl (fun n c => 16 * n + (if c.isDigit then c.toNat - 48 else c.toNat - 55)) 0

def readEntry (entry : List Char) : List (Nat × List Nat) :=
  match splitChars (· = ':') entry with
  | [first, rows] =>
    (splitChars (· = ',') rows).zipIdx.map fun (row, i) =>
      (codeOf first + i, (splitChars (· = '+') row).map codeOf)
  | _ => []

/-- The table that a text spells. An entry is a code point, a colon, and the rows of this code point
and of those after it, between commas; a row is code points between plus signs. -/
def readListing (text : String) : List (Nat × List Nat) :=
  (splitChars isBlank text.toList).flatMap readEntry

end LayerMessaging.Text
