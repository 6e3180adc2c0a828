import LayerMessaging.Program.Run

namespace LayerMessaging.Program

def fileError : IO.Error → FileError
  | .permissionDenied .. => .permissionDenied
  | .inappropriateType .. => .isDirectory
  | _ => .notFound

def readFile (path : String) : IO (Except FileError Bytes) := do
  try return .ok (← IO.FS.readBinFile path).toList
  catch e => return .error (fileError e)

/-- The variables in the bytes of an environment block, each of which ends with a zero byte. -/
def variablesOf (block : Bytes) : List (String × String) :=
  (Text.splitChars (· = '\x00') ((Text.ofUtf8? block).getD "").toList).filterMap fun entry =>
    match splitEquals entry with
    | (name, some value) => some (name, value)
    | (_, none) => none

def readEnvironment : IO Environment := do
  let block ← readFile "/proc/self/environ"
  return ⟨variablesOf (block.toOption.getD [])⟩

/-- The files that an invocation names. -/
def filesOf (invocation : Invocation) : IO Files := do
  let paths := invocation.envFile :: invocation.settingsFile.toList
  let contents ← paths.mapM fun path => do return (path, ← readFile path)
  let read (path : String) := (contents.lookup path).getD (.error .notFound)
  return ⟨read, fun path => (read path).toBool⟩

def noTools : Environment → Toolbox := fun _ _ => .notStarted .notFound

end LayerMessaging.Program

open LayerMessaging LayerMessaging.Program

def main (arguments : List String) : IO UInt32 := do
  let files ← match Request.ofArguments arguments with
    | .run invocation => filesOf invocation
    | _ => pure (Files.ofTree (.directory []))
  let surroundings := ⟨files, ← readEnvironment, Rpc.unreachable, noTools, none⟩
  -- Without a tool there is nothing that could go on for ever.
  let some ending := answer arguments surroundings | return Failure.generalCode.toUInt32
  IO.print ending.output
  if let some report := ending.report? then IO.eprintln report
  return ending.exitCode.toUInt32
