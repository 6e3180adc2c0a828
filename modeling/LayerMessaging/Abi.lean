import LayerMessaging.Digest.Keccak
import LayerMessaging.Number.Uint256
import LayerMessaging.Text.Utf8

namespace LayerMessaging.Abi

inductive Argument where
  | word (value : Uint256)
  | words (values : List Uint256)

def functionId (signature : String) : Bytes := (Keccak.digest (Text.utf8 signature)).bytes.take 4

def wordBytes (n : Nat) : Bytes := Bytes.ofNat 32 n

/-- What an argument places behind the heads: a list its length and its elements, a word nothing. -/
def Argument.tail : Argument → Bytes
  | .word _ => []
  | .words values => wordBytes values.length ++ values.flatMap Uint256.bytes

/-- The heads of the arguments, where a list is represented by the offset of its tail. -/
def heads : (offset : Nat) → List Argument → Bytes
  | _, [] => []
  | offset, .word value :: rest => value.bytes ++ heads offset rest
  | offset, .words values :: rest =>
    wordBytes offset ++ heads (offset + (Argument.words values).tail.length) rest

def encodeArguments (arguments : List Argument) : Bytes :=
  heads (32 * arguments.length) arguments ++ arguments.flatMap Argument.tail

/-- The function's four bytes and its arguments. -/
def encodeCall (signature : String) (arguments : List Argument) : Bytes :=
  functionId signature ++ encodeArguments arguments

theorem length_functionId (signature : String) : (functionId signature).length = 4 := by
  simp [functionId, (Keccak.digest (Text.utf8 signature)).length_eq]

end LayerMessaging.Abi
