import LayerMessaging.Files

namespace LayerMessaging.EnvFile

inductive Error where
  | malformedLine (line : String) (position : Nat)
  | unreadable (cause : FileError)
  /-- A variable cannot hold a NUL character. The program stops at once, without a report. -/
  | unsettable (name : String)
  deriving DecidableEq, Repr

def Error.message : Error → String
  | .malformedLine line position =>
    "Error parsing line: '" ++ line ++ "', error at line index: " ++ toString position
  | .unreadable cause => cause.message
  | .unsettable name => "the value of " ++ name ++ " holds a NUL character"

inductive LineState where
  | complete
  | escaped
  | strong
  | strongEscaped
  | weak
  | weakEscaped
  | blank
  | comment
  deriving DecidableEq, Repr

def LineState.next (state : LineState) (c : Char) : LineState :=
  let opening : LineState :=
    if c = '\\' then .escaped
    else if c = '"' then .weak
    else if c = '\'' then .strong
    else .complete
  match state with
  | .blank => if c = '#' then .comment else opening
  | .complete => if Text.isBlank c ∧ c ≠ '\n' ∧ c ≠ '\r' then .blank else opening
  | .escaped => .complete
  | .weak => if c = '\\' then .weakEscaped else if c = '"' then .complete else .weak
  | .weakEscaped => .weak
  | .strong => if c = '\\' then .strongEscaped else if c = '\'' then .complete else .strong
  | .strongEscaped => .strong
  | .comment => .comment

/-- Runs over a physical line up to a comment: the state there and the characters before it. -/
def scan : LineState → List Char → LineState × List Char
  | state, [] => (state, [])
  | state, c :: rest =>
    match state.next c with
    | .comment => (.comment, [])
    | state =>
      let (final, kept) := scan state rest
      (final, c :: kept)

/-- The physical lines of a file, each with its line feed. -/
def physicalLines : Bytes → List Bytes
  | [] => []
  | b :: rest =>
    if b = 10 then [b] :: physicalLines rest
    else
      match physicalLines rest with
      | line :: lines => (b :: line) :: lines
      | [] => [[b]]

/-- Drops the line break at the end. -/
def dropBreak (line : List Char) : List Char :=
  match line.reverse with
  | '\n' :: '\r' :: rest => rest.reverse
  | '\n' :: rest => rest.reverse
  | _ => line

/-- The next logical line and the physical lines behind it. `read` is what the line has so far. -/
def nextLine : List Bytes → LineState → (read : List Char) → Except Error (List Char × List Bytes)
  | [], _, read => .error (.malformedLine (String.ofList read) (Text.utf8Chars read).length)
  | physical :: rest, state, read =>
    match Text.ofUtf8? physical with
    | none => .error (.unreadable .notText)
    | some text =>
      let line := read ++ text.toList
      if (Text.trimStartChars line).head? = some '#' then .ok ([], rest)
      else
        match scan state text.toList with
        | (.complete, _) => .ok (dropBreak line, rest)
        | (.comment, kept) => .ok (read ++ kept, rest)
        | (state, _) => nextLine rest state line

theorem length_nextLine_lt {lines rest : List Bytes} {state : LineState} {read line : List Char}
    (h : nextLine lines state read = .ok (line, rest)) : rest.length < lines.length := by
  induction lines generalizing state read with
  | nil => simp [nextLine] at h
  | cons physical lines ih =>
    rw [nextLine] at h
    split at h
    · cases h
    · dsimp only at h
      split at h
      · cases h; simp
      · split at h
        · cases h; simp
        · cases h; simp
        · exact Nat.lt_succ_of_lt (ih h)

end LayerMessaging.EnvFile
