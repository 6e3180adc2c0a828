import LayerMessaging.Number.Uint256
import LayerMessaging.Text.Blank

namespace LayerMessaging

structure Payload where
  words : List Uint256
  deriving DecidableEq

namespace Payload

inductive Fault where
  | unbalancedBrackets
  | signed
  | numeral (fault : Numeral.Error)
  deriving DecidableEq, Repr

structure Error where
  element : String
  fault : Fault
  deriving DecidableEq, Repr

def Fault.reason : Fault → String
  | .unbalancedBrackets => "unbalanced brackets"
  | .signed => "must be unsigned"
  | .numeral fault => Uint256.faultText fault

def isSeparator (c : Char) : Bool := c = ',' || Text.isBlank c

/-- The text between the brackets, or all of it when there are none. -/
def body (trimmed : List Char) : Except Error (List Char) :=
  match trimmed with
  | '[' :: rest =>
    if rest.getLast? = some ']' then .ok rest.dropLast
    else .error ⟨String.ofList trimmed, .unbalancedBrackets⟩
  | _ =>
    if trimmed.getLast? = some ']' then .error ⟨String.ofList trimmed, .unbalancedBrackets⟩
    else .ok trimmed

def isQuote (c : Char) : Bool := c = '"'

/-- A piece without the double quotes at its ends. -/
def unquote (piece : List Char) : List Char :=
  Text.dropEndWhile isQuote (piece.dropWhile isQuote)

/-- The pieces between separators that are not empty without their quotes. -/
def pieces (body : List Char) : List (List Char) :=
  ((Text.splitChars isSeparator body).map unquote).filter (! ·.isEmpty)

def element (piece : List Char) : Except Error Uint256 :=
  if piece.head? = some '-' then .error ⟨String.ofList piece, .signed⟩
  else
    match Uint256.ofText (String.ofList piece) with
    | .ok word => .ok word
    | .error fault => .error ⟨String.ofList piece, .numeral fault⟩

/-- Reads a payload. The first wrong piece is reported. -/
def ofText (text : String) : Except Error Payload := do
  let body ← body (Text.trimChars text.toList)
  return ⟨← (pieces body).mapM element⟩

/-- The words in decimal, between brackets and with a comma between two. -/
def text (payload : Payload) : String :=
  "[" ++ ",".intercalate (payload.words.map Uint256.decimal) ++ "]"

end Payload

end LayerMessaging
