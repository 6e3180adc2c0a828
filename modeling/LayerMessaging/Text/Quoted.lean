import LayerMessaging.Text.Unprintable

namespace LayerMessaging.Text

/-- A character by its number, in the fewest hexadecimal digits. -/
def numbered (c : Char) : List Char :=
  ['\\', 'u', '\x7b'] ++ Nat.toDigits 16 c.toNat ++ ['\x7d']

structure QuoteStyle where
  escapesSingle : Bool
  escapesDouble : Bool

/-- Text between double quotes. -/
def QuoteStyle.text : QuoteStyle := ⟨false, true⟩

/-- Paths escape both quotes, although they too stand between double ones. -/
def QuoteStyle.path : QuoteStyle := ⟨true, true⟩

/-- A single character between single quotes. -/
def QuoteStyle.character : QuoteStyle := ⟨true, false⟩

def escapeChar (style : QuoteStyle) (c : Char) : List Char :=
  if c = '\x00' then ['\\', '0']
  else if c = '\t' then ['\\', 't']
  else if c = '\n' then ['\\', 'n']
  else if c = '\r' then ['\\', 'r']
  else if c = '\\' then ['\\', '\\']
  else if c = '\'' && style.escapesSingle then ['\\', '\'']
  else if c = '"' && style.escapesDouble then ['\\', '"']
  else if isExtending c || isHidden c then numbered c
  else [c]

def quoteWith (style : QuoteStyle) (text : String) : String :=
  "\"" ++ String.ofList (text.toList.flatMap (escapeChar style)) ++ "\""

def quote (text : String) : String := quoteWith .text text

def quotePath (path : String) : String := quoteWith .path path

def quoteChar (c : Char) : String :=
  "'" ++ String.ofList (escapeChar .character c) ++ "'"

def describeOption : Option String → String
  | some value => "Some(" ++ value ++ ")"
  | none => "None"

def describeList (values : List String) : String := "[" ++ ", ".intercalate values ++ "]"

end LayerMessaging.Text
