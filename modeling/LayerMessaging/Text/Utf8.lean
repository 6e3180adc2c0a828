import LayerMessaging.Bytes.Basic

namespace LayerMessaging.Text

/-- The bytes of the characters, each in its shortest form. -/
def utf8Chars (cs : List Char) : Bytes := cs.flatMap String.utf8EncodeChar

def utf8 (text : String) : Bytes := utf8Chars text.toList

def ofUtf8? (bytes : Bytes) : Option String := String.fromUTF8? ⟨bytes.toArray⟩

def utf8Length (text : String) : Nat := (utf8 text).length

@[simp] theorem utf8Chars_append (a b : List Char) :
    utf8Chars (a ++ b) = utf8Chars a ++ utf8Chars b := by
  simp [utf8Chars]

def isAscii (text : String) : Bool := text.toList.all fun c => c.toNat < 128

end LayerMessaging.Text
