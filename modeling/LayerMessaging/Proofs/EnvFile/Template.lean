import LayerMessaging.Proofs.EnvFile.Value

namespace LayerMessaging.EnvFile

open Text

inductive Piece where
  | char (c : Char)
  | reference (name : List Char)
  deriving DecidableEq

def fill (valueOf : List Char → List Char) (pieces : List Piece) : List Char :=
  pieces.flatMap fun
    | .char c => [c]
    | .reference name => valueOf name

def Value.named? (v : Value) (c : Char) : Option (List Char) :=
  if v.ending ∨ v.escaped ∨ v.strong then none
  else
    match v.reference with
    | .none => none
    | .bare name => if isAlphanumeric c ∨ c = '\x7b' ∧ name = [] then none else some name
    | .braced name => if c = '\x7d' then some name else none

/-- Moves over one more character, and gives the pieces that the value gains. In the empty
environment variables hold nothing, so that what a value gains there is the text apart from them. -/
def Value.step? (v : Value) (c : Char) : Option (List Piece × Value) :=
  (Value.next? .empty { v with output := [] } c).map fun v' =>
    ((v.named? c).toList.map Piece.reference ++ v'.output.map Piece.char, { v' with output := [] })

def Reference.pieces : Reference → List Piece
  | .bare name => [.reference name]
  | .none | .braced _ => []

def endPieces (whole : List Char) (v : Value) : Except Error (List Piece) :=
  match v.finish? .empty with
  | some _ => .ok v.reference.pieces
  | none => .error (.malformedLine (String.ofList whole) ((utf8Chars whole).length - 1))

/-- Reads the pieces of a value, as `readValue` reads the value. -/
def readPieces (whole : List Char) :
    List Char → (index : Nat) → Value → Except Error (List Piece)
  | [], _, v => endPieces whole v
  | c :: rest, index, v =>
    if v.ending ∧ c = '#' then endPieces whole v
    else
      match v.step? c with
      | some (pieces, v) => (readPieces whole rest (index + 1) v).map (pieces ++ ·)
      | none => .error (.malformedLine (String.ofList whole) index)

structure Assignment where
  name : String
  pieces : List Piece
  deriving DecidableEq

def written (line : List Char) : Except Error (Option Assignment) :=
  match head (trimEndChars line) with
  | .fault position => .error (.malformedLine (String.ofList line) position)
  | .nothing => .ok none
  | .entry name text =>
    let text := text.dropWhile isBlank
    if text = [] ∨ text.head? = some '#' then .ok (some ⟨name, []⟩)
    else (readPieces text text 0 .start).map fun pieces => some ⟨name, pieces⟩

@[simp] theorem fill_nil (valueOf : List Char → List Char) : fill valueOf [] = [] := rfl

theorem fill_append (valueOf : List Char → List Char) (pieces pieces' : List Piece) :
    fill valueOf (pieces ++ pieces') = fill valueOf pieces ++ fill valueOf pieces' :=
  List.flatMap_append

theorem expand_empty (name : List Char) : expand .empty name = [] := by
  unfold expand Environment.get?
  split <;> rfl

/-- Whatever the environment, a value gains the same pieces. -/
theorem Value.next?_eq (env : Environment) (v : Value) (c : Char) :
    v.next? env c = (v.step? c).map fun (pieces, v') =>
      { v' with output := v.output ++ fill (expand env) pieces } := by
  obtain ⟨strong, weak, escaped, ending, reference, output⟩ := v
  unfold step? named? next? push
  dsimp only
  -- The branches in the order in which the reader takes them.
  by_cases hending : ending = true
  · have hplain : ending = true ∨ escaped = true ∨ strong = true := .inl hending
    rw [if_pos hending, if_pos hending, if_pos hplain]
    split_ifs <;> simp
  rw [if_neg hending, if_neg hending]
  by_cases hescaped : escaped = true
  · have hplain : ending = true ∨ escaped = true ∨ strong = true := .inr (.inl hescaped)
    rw [if_pos hescaped, if_pos hescaped, if_pos hplain]
    split_ifs <;> simp [fill]
  rw [if_neg hescaped, if_neg hescaped]
  by_cases hstrong : strong = true
  · have hplain : ending = true ∨ escaped = true ∨ strong = true := .inr (.inr hstrong)
    rw [if_pos hstrong, if_pos hstrong, if_pos hplain]
    split_ifs <;> simp [fill]
  have hplain : ¬(ending = true ∨ escaped = true ∨ strong = true) :=
    not_or_intro hending (not_or_intro hescaped hstrong)
  rw [if_neg hstrong, if_neg hstrong, if_neg hplain]
  cases reference with
  | none =>
    dsimp only
    split_ifs <;> simp [fill]
  | bare name =>
    dsimp only
    split_ifs <;> simp_all [fill, expand_empty]
  | braced name =>
    dsimp only
    split_ifs <;> simp [fill, expand_empty]

theorem readValue_nil (env : Environment) (whole : List Char) (index : Nat) (v : Value)
    (output : List Char) :
    readValue env whole [] index { v with output } =
      (endPieces whole v).map fun pieces => output ++ fill (expand env) pieces := by
  unfold readValue endPieces Value.finish?
  dsimp only
  split_ifs
  · rfl
  · cases v.reference with
    | none => simp [Reference.pieces, Except.map]
    | bare name => simp [Reference.pieces, Except.map, fill]
    | braced name => rfl

/-- A value is what its pieces come to in the environment, behind what it held before. -/
theorem readValue_eq (env : Environment) (whole cs : List Char) (index : Nat) (v : Value)
    (output : List Char) :
    readValue env whole cs index { v with output } =
      (readPieces whole cs index v).map fun pieces => output ++ fill (expand env) pieces := by
  induction cs generalizing index v output with
  | nil => exact readValue_nil env whole index v output
  | cons c rest ih =>
    have hstep : Value.step? { v with output } c = v.step? c := rfl
    rw [readValue_cons, readPieces, Value.next?_eq, hstep]
    by_cases hcomment : v.ending ∧ c = '#'
    · rw [if_pos hcomment, if_pos hcomment]
      exact readValue_nil env whole index v output
    · rw [if_neg hcomment, if_neg hcomment]
      cases v.step? c with
      | none => rfl
      | some step =>
        obtain ⟨pieces, v'⟩ := step
        rw [Option.map_some]
        dsimp only
        rw [ih]
        cases readPieces whole rest (index + 1) v' with
        | error e => rfl
        | ok pieces' => simp [Except.map, fill_append]

def Assignment.entry (valueOf : List Char → List Char) (assignment : Assignment) :
    String × String :=
  (assignment.name, String.ofList (fill valueOf assignment.pieces))

/-- The environment bears on a line only through the variables that are named in its value. -/
theorem readEntry_eq_written (env : Environment) (line : List Char) :
    readEntry env line = (written line).map (Option.map (Assignment.entry (expand env))) := by
  rw [readEntry_eq]
  unfold written
  cases head (trimEndChars line) with
  | fault position => rfl
  | nothing => rfl
  | entry name text =>
    dsimp only [Head.toEntry, assigned]
    generalize text.dropWhile isBlank = text
    split_ifs
    · rfl
    · have hvalue := readValue_eq env text text 0 .start []
      have hstart : { Value.start with output := [] } = Value.start := rfl
      rw [hstart] at hvalue
      rw [hvalue]
      cases readPieces text text 0 .start <;> rfl

/-- The name of an assignment is one that a variable can be found by. -/
theorem isName_of_written {line : List Char} {assignment : Assignment}
    (h : written line = .ok (some assignment)) : Environment.IsName assignment.name := by
  unfold written at h
  cases hhead : head (trimEndChars line) with
  | fault position => simp [hhead] at h
  | nothing => simp [hhead] at h
  | entry name text =>
    have hname : assignment.name = name := by
      rw [hhead] at h
      dsimp only at h
      generalize text.dropWhile isBlank = text at h
      split_ifs at h
      · cases h
        rfl
      · cases hpieces : readPieces text text 0 .start <;> rw [hpieces] at h <;> cases h
        rfl
    rw [hname]
    refine ⟨ne_empty_of_head hhead, fun hmem => ?_⟩
    have hchar := forall_mem_head hhead '=' hmem
    revert hchar
    decide

/-- Single quotes and backslashes keep a dollar sign as it is. -/
example : written "export KEY = \"a$B-\"$\x7bC.D\x7d'$E'\\$F # G".toList = .ok (some ⟨"KEY",
    [.char 'a', .reference ['B'], .char '-', .reference ['C', '.', 'D'], .char '$', .char 'E',
      .char '$', .char 'F']⟩) := by
  decide +kernel

end LayerMessaging.EnvFile
