import LayerMessaging.Text.Utf8
import LayerMessaging.Url.Label

namespace LayerMessaging.Domain

def isDenied (c : Char) : Bool :=
  c.toNat ≤ 32 || c.toNat = 127 || "%#/:<>?@[\\]^|".toList.contains c

/-- The labels of a name, unless one of them is none or they do not keep to their directions. -/
def labels? (name : List Char) : Option (List (List Char)) := do
  let mapped := (← name.mapM mapChar).flatten
  let labels ← (Text.splitChars (· = '.') (Text.composed mapped)).mapM readLabel
  if !labels.all isSound then none
  else if labels.any turnsRight && !labels.all keepsDirection then none
  else some labels

/-- The ASCII form of the name that the bytes spell, unless it is no domain name. -/
def toAscii (bytes : Bytes) : Option (List Char) := do
  let text ← Text.ofUtf8? bytes
  let labels ← labels? text.toList
  let name := List.intercalate ['.'] (labels.map labelToAscii)
  if name.any isDenied then none else some name

end LayerMessaging.Domain
