import LayerMessaging.Failure
import LayerMessaging.Proofs.EnvFile.Line
import LayerMessaging.Proofs.EnvFile.Load
import LayerMessaging.Proofs.EnvFile.Value

namespace LayerMessaging

namespace EnvFile

variable {key key' : KeyDigits}

theorem Lines.length_eq {lines lines' : List Bytes} (h : Lines key key' lines lines') :
    lines.length = lines'.length := by
  induction h with
  | same => rfl
  | keyed => rfl
  | later line h ih => rw [List.length_cons, List.length_cons, ih]

theorem Lines.loadLines {lines lines' : List Bytes} (h : Lines key key' lines lines')
    {env env' : Environment} (henv : env.NulFree) (henv' : env'.NulFree) :
    Agree key key' (· = ·) (loadLines lines env).result (loadLines lines' env').result := by
  -- A logical line takes any number of physical ones, at least one.
  generalize hsize : lines.length = size
  induction size using Nat.strong_induction_on generalizing lines lines' env env' with
  | _ size ih =>
    have hlength := h.length_eq
    cases lines with
    | nil =>
      cases h
      rw [EnvFile.loadLines, EnvFile.loadLines]
      exact .ok rfl
    | cons first more =>
      obtain ⟨first', more', rfl⟩ := List.exists_cons_of_length_eq_add_one hlength.symm
      have hnext := h.nextLine .complete []
      generalize hfirst : EnvFile.nextLine (first :: more) .complete [] = next at hnext
      generalize hfirst' : EnvFile.nextLine (first' :: more') .complete [] = next' at hnext
      cases hnext with
      | error he =>
        rw [loadLines_of_error hfirst, loadLines_of_error hfirst']
        exact .error he
      | ok hpair =>
        obtain ⟨hline, hrest⟩ := hpair
        have hshorter := length_nextLine_lt hfirst
        have hentry := hline.readEntry henv henv'
        rw [loadLines_of_ok hfirst, loadLines_of_ok hfirst']
        generalize readEntry env _ = entry at hentry
        generalize readEntry env' _ = entry' at hentry
        cases hentry with
        | error he => exact .error he
        | ok hentry =>
          cases hentry with
          | none => exact ih _ (by omega) hrest henv henv' rfl
          | @some name value value' hname hvalue =>
            dsimp only
            simp only [List.contains_iff_mem, hvalue]
            -- What cannot be set ends the loading with the name, which is the same in both.
            split
            · exact .error (.same _)
            · rename_i hnul
              have hset := henv.set hname (mt hvalue.mp hnul)
              have hset' := henv'.set hname hnul
              exact (ih _ (by omega) hrest hset hset' rfl).map fun names names' hnames => by
                rw [hnames]

/-- An env file with a line for the signing key: whole lines before that line, and what stands
behind the key. -/
structure KeyFile where
  before : Bytes
  before_whole : before = [] ∨ before.getLast? = some 10
  marked : Bool
  behind : Bytes

namespace KeyFile

def front (file : KeyFile) : List Char :=
  "ACCOUNT_PRIVATE_KEY=".toList ++ if file.marked then ['0', 'x'] else []

def content (file : KeyFile) (key : KeyDigits) : Bytes :=
  file.before ++ (Text.utf8Chars (file.front ++ key.chars) ++ file.behind)

def load (file : KeyFile) (key : KeyDigits) (files : Files) (path : String) (env : Environment) :
    Except ConfigError (List String) :=
  (EnvFile.load (files.withFile path (file.content key)) path env).result

variable (file : KeyFile)

theorem mem_front : '=' ∈ file.front :=
  List.mem_append_left _ (by decide)

theorem lines_content (key : KeyDigits) :
    physicalLines (file.content key) =
      physicalLines file.before ++
        (Text.utf8Chars (file.front ++ key.chars) ++ (physicalLines file.behind).headD []) ::
          (physicalLines file.behind).tail := by
  have hfront : file.front.all (fun c => c.toNat < 128 ∧ c.toNat ≠ 10) = true := by
    unfold front
    cases file.marked <;> decide
  have hascii : ∀ c ∈ file.front ++ key.chars, c.toNat < 128 ∧ c.toNat ≠ 10 := by
    intro c hc
    rcases List.mem_append.mp hc with hc | hc
    · exact of_decide_eq_true (List.all_eq_true.mp hfront c hc)
    · have hcases := (key.isDigit c hc).cases
      omega
  have hbytes := Text.utf8Chars_ascii fun c hc => (hascii c hc).1
  have hbreak : ∀ b ∈ Text.utf8Chars (file.front ++ key.chars), b ≠ 10 := by
    rw [hbytes]
    intro b hb
    obtain ⟨c, hc, rfl⟩ := List.mem_map.mp hb
    obtain ⟨hlt, hne⟩ := hascii c hc
    have hvalue := Text.toNat_toUInt8 hlt
    intro heq
    rw [heq] at hvalue
    exact hne hvalue.symm
  have hne : Text.utf8Chars (file.front ++ key.chars) ≠ [] := by
    rw [hbytes]
    simp [key.ne_nil]
  unfold content
  rw [physicalLines_append file.before_whole, physicalLines_of_no_break hne hbreak]

theorem lines_later {lines lines' : List Bytes} (h : Lines key key' lines lines')
    (before : List Bytes) : Lines key key' (before ++ lines) (before ++ lines') := by
  induction before with
  | nil => exact h
  | cons line before ih => exact .later line ih

theorem loadBytes_agree (key key' : KeyDigits) {env : Environment} (henv : env.NulFree) :
    Agree key key' (· = ·) (loadBytes (file.content key) env).result
      (loadBytes (file.content key') env).result := by
  unfold loadBytes
  rw [lines_content, lines_content]
  exact (lines_later (.keyed file.mem_front _ _) _).loadLines henv henv

theorem load_eq (key : KeyDigits) (files : Files) (path : String) (env : Environment) :
    file.load key files path env =
      (loadBytes (file.content key) env).result.mapError (.envFile path) :=
  congrArg Loading.result (load_withFile_eq_loadBytes files path (file.content key) env)

/-- Two files that differ in the key are both loaded, with the same names, or both not. The errors
are then the same, unless the key stands in a malformed line, which is quoted with the key in it. -/
theorem load_discloses_malformed_line (key key' : KeyDigits) (files : Files) (path : String)
    {env : Environment} (henv : env.NulFree) :
    (∃ names, file.load key files path env = .ok names ∧
      file.load key' files path env = .ok names) ∨
    ∃ error error', file.load key files path env = .error error ∧
      file.load key' files path env = .error error' ∧
      (error = error' ∨ ∃ front back position,
        error = .envFile path
          (.malformedLine (String.ofList (front ++ key.chars ++ back)) position) ∧
        error' = .envFile path
          (.malformedLine (String.ofList (front ++ key'.chars ++ back)) position)) := by
  have hagree := file.loadBytes_agree key key' henv
  rw [load_eq, load_eq]
  generalize (loadBytes (file.content key) env).result = result at hagree
  generalize (loadBytes (file.content key') env).result = result' at hagree
  cases hagree with
  | ok h =>
    subst h
    exact .inl ⟨_, rfl, rfl⟩
  | error h =>
    refine .inr ⟨_, _, rfl, rfl, ?_⟩
    cases h with
    | same e => exact .inl rfl
    | quoted front back position => exact .inr ⟨front, back, position, rfl, rfl⟩

end KeyFile

def labelledFile : KeyFile := ⟨[], .inl rfl, true, Text.utf8 " deployer\n"⟩

/-- Digits outside quotes are taken as they are. -/
theorem readValue_digits (env : Environment) (whole : List Char) {digits : List Char}
    (h : ∀ c ∈ digits, Numeral.IsDigit 16 c) (rest : List Char) (index : Nat)
    (output : List Char) :
    readValue env whole (digits ++ rest) index ⟨false, false, false, false, .none, output⟩ =
      readValue env whole rest (index + digits.length)
        ⟨false, false, false, false, .none, output ++ digits⟩ := by
  induction digits generalizing index output with
  | nil => simp
  | cons c digits ih =>
    obtain ⟨hc, hdigits⟩ := List.forall_mem_cons.mp h
    have hne (d : Char) (hd : ¬Numeral.IsDigit 16 d) : c ≠ d := hc.ne hd
    have hnext : (⟨false, false, false, false, .none, output⟩ : Value).next? env c =
        some ⟨false, false, false, false, .none, output ++ [c]⟩ := by
      simp [Value.next?, Value.push, hne '$' (by decide), hne '\'' (by decide), hne '"' (by decide),
        hne '\\' (by decide), hne ' ' (by decide), hne '\t' (by decide)]
    rw [List.cons_append, readValue_cons, hnext]
    simp only [Bool.false_eq_true, false_and, if_false]
    rw [ih hdigits, List.length_cons, List.append_assoc, List.singleton_append]
    congr 1
    omega

theorem nextLine_labelledFile (key : KeyDigits) :
    nextLine [Text.utf8Chars (labelledFile.front ++ key.chars) ++ labelledFile.behind]
        .complete [] =
      .ok (labelledFile.front ++ key.chars ++ " deployer".toList, []) := by
  have hbehind : Text.ofUtf8? labelledFile.behind = some " deployer\n" := Text.ofUtf8?_utf8 _
  have hsign : (Text.trimStartChars labelledFile.front).head? ≠ some '#' := by decide
  have hfront : (scan .complete labelledFile.front).1 = .complete := by decide
  have hend : (scan .complete " deployer\n".toList).1 = .complete := by decide
  have hbreak : dropBreak " deployer\n".toList = " deployer".toList := by decide
  have hscan := @scan_append_key key .complete labelledFile.front
    (by rw [hfront]; exact LineState.noConfusion) " deployer\n".toList
  rw [hfront, LineState.behindDigit, hend] at hscan
  rw [nextLine, Text.ofUtf8?_append, hbehind, Option.map_some]
  dsimp only
  rw [String.toList_append, String.toList_ofList, List.nil_append,
    head?_trimStartChars labelledFile.mem_front, if_neg hsign, hscan]
  dsimp only
  rw [dropBreak_keyed, hbreak]

/-- The word is found behind a blank, where only a comment may follow. -/
theorem readValue_labelled (env : Environment) (whole : List Char) (key : KeyDigits) :
    readValue env whole ('0' :: 'x' :: (key.chars ++ ' ' :: 'd' :: "eployer".toList)) 0 .start =
      .error (.malformedLine (String.ofList whole) 67) := by
  have hzero : Value.start.next? env '0' = some ⟨false, false, false, false, .none, ['0']⟩ := rfl
  have hx : (⟨false, false, false, false, .none, ['0']⟩ : Value).next? env 'x' =
      some ⟨false, false, false, false, .none, ['0', 'x']⟩ := rfl
  have hblank (output : List Char) :
      (⟨false, false, false, false, .none, output⟩ : Value).next? env ' ' =
        some ⟨false, false, false, true, .none, output⟩ := rfl
  have hword (output : List Char) :
      (⟨false, false, false, true, .none, output⟩ : Value).next? env 'd' = none := rfl
  rw [readValue_cons, if_neg (by decide), hzero]
  dsimp only
  rw [readValue_cons, if_neg (by decide), hx]
  dsimp only
  rw [readValue_digits env whole key.isDigit, key.length_eq, readValue_cons, if_neg (by simp),
    hblank]
  dsimp only
  rw [readValue_cons, if_neg (by simp), hword]

theorem readEntry_labelledFile (key : KeyDigits) (env : Environment) :
    readEntry env (labelledFile.front ++ key.chars ++ " deployer".toList) =
      .error
        (.malformedLine (String.ofList (['0', 'x'] ++ key.chars ++ " deployer".toList)) 67) := by
  have htrim : Text.trimEndChars " deployer".toList = " deployer".toList := by decide
  have hhead : head labelledFile.front = .entry "ACCOUNT_PRIVATE_KEY" ['0', 'x'] := by decide
  have hblank : ['0', 'x'].dropWhile Text.isBlank = ['0', 'x'] := by decide
  rw [readEntry_eq]
  unfold Text.trimEndChars at htrim ⊢
  rw [key.dropEndWhile_append (fun c hc => (key.isDigit c hc).not_blank), htrim, List.append_assoc,
    head_append labelledFile.mem_front, hhead]
  dsimp only [Head.extend, Head.toEntry]
  rw [← List.append_assoc, key.dropWhile_append, hblank]
  have hvalue := readValue_labelled env (['0', 'x'] ++ key.chars ++ " deployer".toList) key
  have htext : '0' :: 'x' :: (key.chars ++ ' ' :: 'd' :: "eployer".toList) =
      ['0', 'x'] ++ key.chars ++ " deployer".toList := by simp
  rw [htext] at hvalue
  unfold assigned
  rw [if_neg (by simp), hvalue]
  rfl

/-- The line is quoted with the key in it. -/
theorem load_labelledFile (key : KeyDigits) (files : Files) (path : String) (env : Environment) :
    labelledFile.load key files path env =
      .error (.envFile path
        (.malformedLine (String.ofList (['0', 'x'] ++ key.chars ++ " deployer".toList)) 67)) := by
  have hlines : physicalLines labelledFile.behind = [labelledFile.behind] := by decide
  have hcontent : physicalLines (labelledFile.content key) =
      [Text.utf8Chars (labelledFile.front ++ key.chars) ++ labelledFile.behind] := by
    rw [KeyFile.lines_content, hlines]
    rfl
  have hnext := nextLine_labelledFile key
  have hentry := readEntry_labelledFile key env
  rw [KeyFile.load_eq, loadBytes, hcontent, loadLines_of_ok hnext]
  dsimp only
  rw [hentry]
  rfl

theorem message_malformedLine_inj {path line line' : String} {position : Nat}
    (h : (Failure.config (.envFile path (.malformedLine line position))).message =
      (Failure.config (.envFile path (.malformedLine line' position))).message) : line = line' := by
  unfold Failure.message ConfigError.message Error.message at h
  have htext := congrArg String.toList h
  simp only [String.toList_append, List.append_cancel_left_eq, List.append_cancel_right_eq]
    at htext
  exact String.toList_inj.mp htext

/-- What is reported of the malformed line tells the keys apart. -/
theorem labelledFile_discloses {key key' : KeyDigits} (h : key.chars ≠ key'.chars) (files : Files)
    (path : String) (env : Environment) :
    ∃ error error', labelledFile.load key files path env = .error error ∧
      labelledFile.load key' files path env = .error error' ∧
      (Failure.config error).message ≠ (Failure.config error').message := by
  have hload := load_labelledFile key files path env
  have hload' := load_labelledFile key' files path env
  refine ⟨_, _, hload, hload', fun heq => h ?_⟩
  have hline := congrArg String.toList (message_malformedLine_inj heq)
  simpa using hline

def firstKey : KeyDigits :=
  ⟨"ac0974bec39a17e36ba4a6b4d238ff944bacb478cbed5efcae784d7bf4f2ff80".toList, by decide,
    List.all_eq_true.mp (by decide)⟩

def secondKey : KeyDigits :=
  ⟨"59c6995e998f97a5a0044966f0945389dc9e86dae88c7a8412f4603b6b78690d".toList, by decide,
    List.all_eq_true.mp (by decide)⟩

theorem labelledFile_fails_alike :
    Environment.NulFree .empty ∧ ∃ error error',
      labelledFile.load firstKey (.ofTree (.directory [])) ".env" .empty = .error error ∧
      labelledFile.load secondKey (.ofTree (.directory [])) ".env" .empty = .error error' ∧
      (error = error' ∨ ∃ front back position,
        error = .envFile ".env"
          (.malformedLine (String.ofList (front ++ firstKey.chars ++ back)) position) ∧
        error' = .envFile ".env"
          (.malformedLine (String.ofList (front ++ secondKey.chars ++ back)) position)) := by
  refine ⟨.empty, ?_⟩
  rcases labelledFile.load_discloses_malformed_line firstKey secondKey (.ofTree (.directory []))
    ".env" .empty with ⟨names, hnames, -⟩ | herrors
  · rw [load_labelledFile] at hnames
    cases hnames
  · exact herrors

/-- The reports for two keys are not the same. -/
theorem labelledFile_reports_differ :
    ∃ error error',
      labelledFile.load firstKey (.ofTree (.directory [])) ".env" .empty = .error error ∧
      labelledFile.load secondKey (.ofTree (.directory [])) ".env" .empty = .error error' ∧
      (Failure.config error).message ≠ (Failure.config error').message :=
  labelledFile_discloses (by decide) _ _ _

end EnvFile

end LayerMessaging
