import LayerMessaging.Path
import LayerMessaging.Text.Utf8

namespace LayerMessaging

inductive FileError where
  | notFound
  | permissionDenied
  | notDirectory
  | isDirectory
  | notText
  | invalidName
  | nameTooLong
  /-- A program cannot be called with a NUL character in its name, its directory or an argument. -/
  | invalidCall
  deriving DecidableEq, Repr

def FileError.message : FileError → String
  | .notFound => "No such file or directory (os error 2)"
  | .permissionDenied => "Permission denied (os error 13)"
  | .notDirectory => "Not a directory (os error 20)"
  | .isDirectory => "Is a directory (os error 21)"
  | .notText => "stream did not contain valid UTF-8"
  | .invalidName => "file name contained an unexpected NUL byte"
  | .nameTooLong => "File name too long (os error 36)"
  | .invalidCall => "nul byte found in provided data"

structure NameLimits where
  name : Nat
  path : Nat

def nameLimits : NameLimits := ⟨255, 4095⟩

/-- What a command sees of the file system. -/
structure Files where
  read : String → Except FileError Bytes
  isFile : String → Bool

namespace Files

def readText (files : Files) (path : String) : Except FileError String := do
  match Text.ofUtf8? (← files.read path) with
  | some text => return text
  | none => throw .notText

inductive Node where
  | file (content : Bytes)
  | directory (entries : List (String × Node))

namespace Node

def insert (node : Node) : List String → List (String × Node) → List (String × Node)
  | [], entries => entries
  | [name], entries => (entries.filter (·.1 ≠ name)) ++ [(name, node)]
  | name :: rest, entries =>
    let below := match entries.lookup name with
      | some (.directory below) => below
      | _ => []
    (entries.filter (·.1 ≠ name)) ++ [(name, .directory (node.insert rest below))]

/-- Follows the parts of a path. `above` holds the directories above the current one, the nearest
first; beyond the first, nothing is known but that there are directories. -/
def follow : List String → (above : List Node) → Node → Except FileError Node
  | [], _, node => .ok node
  | part :: parts, above, node =>
    match node with
    | .file _ => .error .notDirectory
    | .directory entries =>
      if part = "" ∨ part = "." then follow parts above node
      else if part = ".." then
        match above with
        | parent :: above => follow parts above parent
        | [] => follow parts [] (.directory [])
      else if nameLimits.name < Text.utf8Length part then .error .nameTooLong
      else
        match entries.lookup part with
        | some child => follow parts (node :: above) child
        | none => .error .notFound

def find (root : Node) (path : String) : Except FileError Node :=
  let parts := (Text.splitChars (· = '/') path.toList).map String.ofList
  if path.toList.contains '\x00' then .error .invalidName
  else if nameLimits.path < Text.utf8Length path then .error .nameTooLong
  else if path = "" then .error .notFound
  else if path.toList.head? = some '/' then follow parts [] (.directory [])
  else follow parts [] root

end Node

/-- The files of a tree, seen from its root. -/
def ofTree (root : Node) : Files where
  read path := do
    match ← root.find path with
    | .file content => return content
    | .directory _ => throw .isDirectory
  isFile path :=
    match root.find path with
    | .ok (.file _) => true
    | _ => false

end Files

end LayerMessaging
