import LayerMessaging.Text.Composed
import LayerMessaging.Url.Direction
import LayerMessaging.Url.Joiner
import LayerMessaging.Url.Punycode

namespace LayerMessaging.Domain

def isAsciiLabel (label : List Char) : Bool := label.all fun c => c.toNat < 128

def punycodeMark : List Char := ['x', 'n', '-', '-']

structure LabelLimits where
  label : Nat
  punycode : Nat

def labelLimits : LabelLimits := ⟨1000, 2000⟩

/-- Whether mapping and composing leave a label as it is. -/
def isSettled (label : List Char) : Bool :=
  label.all (fun c => mapChar c == some [c]) && Text.composed label == label

/-- The characters of a label in lower case: of one in punycode those that it spells. -/
def readLabel (label : List Char) : Option (List Char) :=
  if punycodeMark.isPrefixOf label then
    if !isAsciiLabel label || label.getLast? = some '-'
      || punycodeMark.length + labelLimits.punycode < label.length then none
    else
      match Punycode.decode (label.drop punycodeMark.length) with
      | some spelled => if isSettled spelled then some spelled else none
      | none => none
  else some label

/-- Whether a label may be part of a name, whatever its other labels. -/
def isSound (label : List Char) : Bool :=
  isAsciiLabel label
    || (!label.head?.any Text.isMark && joinersFit [] label
      && label.length ≤ labelLimits.label)

def labelToAscii (label : List Char) : List Char :=
  if isAsciiLabel label then label else punycodeMark ++ Punycode.encode label

end LayerMessaging.Domain
