import LayerMessaging.Proofs.Config.Resolution
import LayerMessaging.Proofs.EnvFile.Load
import LayerMessaging.Proofs.EnvFile.Template

namespace LayerMessaging.EnvFile

open Environment

def statements (lines : List Bytes) : List (Except Error (Option Assignment)) :=
  match lines with
  | [] => []
  | first :: more =>
    match h : nextLine (first :: more) .complete [] with
    | .error e => [.error e]
    | .ok (line, rest) =>
      have : rest.length < (first :: more).length := length_nextLine_lt h
      written line :: statements rest
termination_by lines.length
decreasing_by assumption

theorem statements_of_error {first : Bytes} {more : List Bytes} {e : Error}
    (h : nextLine (first :: more) .complete [] = .error e) :
    statements (first :: more) = [.error e] := by
  rw [statements]
  split <;> rename_i h' <;> rw [h] at h' <;> cases h'
  rfl

theorem statements_of_ok {first : Bytes} {more rest : List Bytes} {line : List Char}
    (h : nextLine (first :: more) .complete [] = .ok (line, rest)) :
    statements (first :: more) = written line :: statements rest := by
  conv_lhs => rw [statements]
  split <;> rename_i h' <;> rw [h] at h' <;> cases h'
  rfl

/-- The assignments before the first fault, all of them if there is none. -/
def assignmentsOf (statements : List (Except Error (Option Assignment))) : List Assignment :=
  (statements.takeWhile Except.isOk).filterMap fun statement => statement.toOption.join

def faultOf? (statements : List (Except Error (Option Assignment))) : Option Error :=
  statements.findSome? fun
    | .error e => some e
    | .ok _ => none

def assignments (content : Bytes) : List Assignment :=
  assignmentsOf (statements (physicalLines content))

def fault? (content : Bytes) : Option Error :=
  faultOf? (statements (physicalLines content))

variable {env : Environment} {entries : List (String × String)}

/-- The value of a variable behind some entries: the one that was assigned last, or else that of the
environment, or else nothing. A text with an equals sign names no variable; it can reach into the
value of one. -/
def valueBehind (env : Environment) (entries : List (String × String)) (name : List Char) :
    List Char :=
  if '=' ∈ name then expand (env.overlay entries) name
  else
    let name := String.ofList name
    (((lastAssigned? entries name).or (env.get? name)).getD "").toList

def evaluate (env : Environment) :
    (entries : List (String × String)) → List Assignment → List (String × String)
  | _, [] => []
  | entries, assignment :: rest =>
    let entry := assignment.entry (valueBehind env entries)
    entry :: evaluate env (entries ++ [entry]) rest

def entriesOf (env : Environment) (content : Bytes) : List (String × String) :=
  evaluate env [] (assignments content)

theorem expand_overlay (h : env.WellFormed) (hentries : ∀ entry ∈ entries, IsName entry.1) :
    expand (env.overlay entries) = valueBehind env entries := by
  funext name
  unfold valueBehind
  split_ifs with hname
  · rfl
  · have hname' : '=' ∉ (String.ofList name).toList := by rwa [String.toList_ofList]
    rw [expand, get?_overlay h hentries hname']

theorem map_fst_evaluate (assignments : List Assignment) :
    (evaluate env entries assignments).map Prod.fst = assignments.map Assignment.name := by
  induction assignments generalizing entries with
  | nil => rfl
  | cons assignment rest ih =>
    rw [evaluate, List.map_cons, List.map_cons, ih]
    rfl

/-- Each assignment is evaluated behind those before it. -/
theorem getElem?_evaluate (assignments : List Assignment) (i : Nat) :
    (evaluate env entries assignments)[i]? = assignments[i]?.map
      (Assignment.entry (valueBehind env
        (entries ++ (evaluate env entries assignments).take i))) := by
  induction assignments generalizing entries i with
  | nil => rfl
  | cons assignment rest ih =>
    cases i with
    | zero => simp [evaluate]
    | succ i => simp [evaluate, ih]

/-- What reading to the end of some lines, or up to a fault, comes to. -/
def outcome (statements : List (Except Error (Option Assignment))) : Except Error (List String) :=
  match faultOf? statements with
  | none => .ok ((assignmentsOf statements).map Assignment.name)
  | some e => .error e

theorem outcome_some (assignment : Assignment)
    (statements : List (Except Error (Option Assignment))) :
    outcome (.ok (some assignment) :: statements) =
      (outcome statements).map (assignment.name :: ·) := by
  have hfault : faultOf? (.ok (some assignment) :: statements) = faultOf? statements := rfl
  unfold outcome
  rw [hfault]
  cases faultOf? statements <;> rfl

/-- Lines that are loaded behind some entries set their own behind those, up to a fault. -/
theorem loadLines_eq (henv : env.WellFormed) (lines : List Bytes)
    (hentries : ∀ entry ∈ entries, IsName entry.1)
    (hnul : ∀ entry ∈ evaluate env entries (assignmentsOf (statements lines)),
      nul ∉ entry.2.toList) :
    loadLines lines (env.overlay entries) =
      ⟨env.overlay (entries ++ evaluate env entries (assignmentsOf (statements lines))),
        outcome (statements lines)⟩ := by
  -- A logical line takes any number of physical ones, at least one.
  generalize hsize : lines.length = size
  induction size using Nat.strong_induction_on generalizing lines entries with
  | _ size ih =>
    cases lines with
    | nil =>
      rw [loadLines, statements]
      exact congrArg (Loading.mk · _) (congrArg _ (List.append_nil _).symm)
    | cons first more =>
      cases hnext : nextLine (first :: more) .complete [] with
      | error e =>
        rw [loadLines_of_error hnext, statements_of_error hnext]
        exact congrArg (Loading.mk · _) (congrArg _ (List.append_nil _).symm)
      | ok next =>
        obtain ⟨line, rest⟩ := next
        have hshorter : rest.length < size := hsize ▸ length_nextLine_lt hnext
        rw [statements_of_ok hnext] at hnul ⊢
        rw [loadLines_of_ok hnext, readEntry_eq_written, expand_overlay henv hentries]
        cases hline : written line with
        | error e => exact congrArg (Loading.mk · _) (congrArg _ (List.append_nil _).symm)
        | ok statement =>
          rw [hline] at hnul
          cases statement with
          | none => exact ih _ hshorter rest hentries hnul rfl
          | some assignment =>
            obtain ⟨hvalue, hrest⟩ := List.forall_mem_cons.mp hnul
            let entry := assignment.entry (valueBehind env entries)
            have hnames : ∀ e ∈ entries ++ [entry], IsName e.1 := by
              refine List.forall_mem_append.mpr ⟨hentries, fun e he => ?_⟩
              rw [List.mem_singleton.mp he]
              exact isName_of_written hline
            have hset : (env.overlay entries).set entry.1 entry.2 =
                env.overlay (entries ++ [entry]) := by
              rw [overlay_append]
              rfl
            have hcontains : entry.2.toList.contains nul = false := by simpa using hvalue
            have hloading := ih _ hshorter rest hnames hrest rfl
            dsimp only [Except.map, Option.map]
            rw [hcontains, hset, hloading]
            rw [if_neg Bool.false_ne_true, outcome_some, List.append_assoc]
            rfl

/-- Loading a file that can be read. -/
theorem load_withFile (files : Files) (path : String) {content : Bytes} (henv : env.WellFormed)
    (hnul : ∀ entry ∈ entriesOf env content, nul ∉ entry.2.toList) :
    load (files.withFile path content) path env =
      ⟨env.overlay (entriesOf env content),
        (outcome (statements (physicalLines content))).mapError (.envFile path)⟩ := by
  have hloading : loadBytes content env = ⟨env.overlay (entriesOf env content),
      outcome (statements (physicalLines content))⟩ :=
    loadLines_eq henv (physicalLines content) (List.forall_mem_nil _) hnul
  rw [load_withFile_eq_loadBytes, hloading]

/-- What is no file is not looked into. -/
theorem load_of_not_isFile {files : Files} {path : String} (h : files.isFile path = false)
    (env : Environment) : load files path env = ⟨env, .error (.envFileNotFound path)⟩ := by
  unfold load
  rw [h]
  rfl

theorem isName_of_mem_statements {lines : List Bytes} {assignment : Assignment}
    (h : .ok (some assignment) ∈ statements lines) : IsName assignment.name := by
  induction lines using statements.induct with
  | case1 =>
    rw [statements] at h
    cases h
  | case2 first more e hnext =>
    rw [statements_of_error hnext] at h
    cases List.mem_singleton.mp h
  | case3 first more line rest hnext _ ih =>
    rw [statements_of_ok hnext] at h
    rcases List.mem_cons.mp h with h | h
    · exact isName_of_written h.symm
    · exact ih h

theorem mem_of_mem_assignmentsOf {statements : List (Except Error (Option Assignment))}
    {assignment : Assignment} (h : assignment ∈ assignmentsOf statements) :
    .ok (some assignment) ∈ statements := by
  obtain ⟨statement, hstatement, hjoin⟩ := List.mem_filterMap.mp h
  have hmem := (List.takeWhile_prefix _).subset hstatement
  match statement, hjoin with
  | .ok (some _), rfl => exact hmem

theorem forall_mem_entriesOf (env : Environment) (content : Bytes) :
    ∀ entry ∈ entriesOf env content, IsName entry.1 := by
  intro entry hentry
  have hname := List.mem_map_of_mem (f := Prod.fst) hentry
  rw [entriesOf, map_fst_evaluate] at hname
  obtain ⟨assignment, hassignment, heq⟩ := List.mem_map.mp hname
  rw [← heq]
  exact isName_of_mem_statements (mem_of_mem_assignmentsOf hassignment)

theorem not_mem_of_mem_keys {requirement : Requirement} {key : String}
    (h : key ∈ Config.keys requirement) : '=' ∉ key.toList := by
  have hall : (Config.keys requirement).all fun key => !key.toList.contains '=' := by
    cases requirement <;> decide
  simpa using List.all_eq_true.mp hall key h

structure Overlaid (env : Environment) (path : String) (content : Bytes)
    (requirement : Requirement) (loading : Loading ConfigError) (loaded : Config.Loaded) :
    Prop where
  entry_eq : ∀ i, (entriesOf env content)[i]? = (assignments content)[i]?.map
    (Assignment.entry (valueBehind env ((entriesOf env content).take i)))
  environment_eq : loading.environment = env.overlay (entriesOf env content)
  get?_eq : ∀ name, '=' ∉ name.toList → loading.environment.get? name =
    (lastAssigned? (entriesOf env content) name).or (env.get? name)
  result_of_whole : fault? content = none →
    loading.result = .ok ((entriesOf env content).map Prod.fst)
  result_of_fault : ∀ e, fault? content = some e → loading.result = .error (.envFile path e)
  loaded_environment : loaded.environment = loading.environment
  config_of_whole : fault? content = none →
    loaded.result = Config.ofLookup requirement loading.environment.get? ∧
      loaded.result = Config.ofLookup requirement fun key =>
        (lastAssigned? (entriesOf env content) key).or (env.get? key)
  config_of_fault : ∀ e, fault? content = some e → loaded.result = .error (.envFile path e)

/-- An env file is laid over the environment in order, up to its first malformed line. The last
assignment of a name wins, and every other variable is as it was; a reference stands for what the
file assigned last before it, or else for what the environment held. The names are given exactly if
no line is malformed, and only then a configuration is read, from the environment that results. What
is no file changes nothing. -/
theorem load_overlays (files : Files) (path : String) (content : Bytes) (env : Environment)
    (requirement : Requirement) (henv : env.WellFormed)
    (hnul : ∀ entry ∈ entriesOf env content, nul ∉ entry.2.toList) :
    Overlaid env path content requirement (load (files.withFile path content) path env)
        (Config.load (files.withFile path content) path requirement env) ∧
      (files.isFile path = false →
        load files path env = ⟨env, .error (.envFileNotFound path)⟩ ∧
          Config.load files path requirement env = ⟨env, .error (.envFileNotFound path)⟩) := by
  have hload := load_withFile files path henv hnul
  have hget (name : String) (hname : '=' ∉ name.toList) :
      (env.overlay (entriesOf env content)).get? name =
        (lastAssigned? (entriesOf env content) name).or (env.get? name) :=
    get?_overlay henv (forall_mem_entriesOf env content) hname
  have hwhole (h : fault? content = none) : outcome (statements (physicalLines content)) =
      .ok ((entriesOf env content).map Prod.fst) := by
    have h' : faultOf? (statements (physicalLines content)) = none := h
    rw [outcome, h', entriesOf, map_fst_evaluate]
    rfl
  have hfault (e : Error) (h : fault? content = some e) :
      outcome (statements (physicalLines content)) = .error e := by
    have h' : faultOf? (statements (physicalLines content)) = some e := h
    rw [outcome, h']
  refine ⟨?_, fun hfile => ?_⟩
  · unfold Config.load
    rw [hload]
    exact {
      entry_eq := fun i => getElem?_evaluate _ i
      environment_eq := rfl
      get?_eq := hget
      result_of_whole := fun h => by rw [hwhole h]; rfl
      result_of_fault := fun e h => by rw [hfault e h]; rfl
      loaded_environment := rfl
      config_of_whole := fun h => by
        rw [hwhole h]
        refine ⟨rfl, Config.ofLookup_congr fun key hkey => ?_⟩
        exact hget key (not_mem_of_mem_keys hkey)
      config_of_fault := fun e h => by rw [hfault e h]; rfl }
  · unfold Config.load
    rw [load_of_not_isFile hfile]
    exact ⟨rfl, rfl⟩

/-- A file that assigns a variable twice, refers to it in between, and ends in a line that assigns
nothing. -/
def twiceAssigned : Bytes := Text.utf8 "A=1\nB=$A$C\nA=2\nD\n"

def settledBefore : Environment := ⟨[("A", "0"), ("C", "c")]⟩

theorem twiceAssigned_overlays :
    entriesOf settledBefore twiceAssigned = [("A", "1"), ("B", "1c"), ("A", "2")] ∧
      fault? twiceAssigned = some (.malformedLine "D" 1) ∧
      (load ((Files.ofTree (.directory [])).withFile ".env" twiceAssigned) ".env"
        settledBefore).environment = ⟨[("A", "2"), ("C", "c"), ("B", "1c")]⟩ ∧
      Overlaid settledBefore ".env" twiceAssigned .target
        (load ((Files.ofTree (.directory [])).withFile ".env" twiceAssigned) ".env" settledBefore)
        (Config.load ((Files.ofTree (.directory [])).withFile ".env" twiceAssigned) ".env" .target
          settledBefore) := by
  have henv : settledBefore.WellFormed := by
    unfold WellFormed
    decide
  have hentries : entriesOf settledBefore twiceAssigned =
      [("A", "1"), ("B", "1c"), ("A", "2")] := by
    decide +kernel
  have hnul : ∀ entry ∈ entriesOf settledBefore twiceAssigned, nul ∉ entry.2.toList := by
    rw [hentries]
    decide
  have hoverlaid :=
    (load_overlays (Files.ofTree (.directory [])) ".env" twiceAssigned settledBefore .target henv
      hnul).1
  refine ⟨hentries, by decide +kernel, ?_, hoverlaid⟩
  rw [hoverlaid.environment_eq, hentries]
  decide

end LayerMessaging.EnvFile
