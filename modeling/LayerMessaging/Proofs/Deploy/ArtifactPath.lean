import LayerMessaging.Deploy.Script
import LayerMessaging.Proofs.Path
import LayerMessaging.Settings.Validation

namespace LayerMessaging.Artifact

open LayerMessaging.Path

variable {projectDir script name : String} {chainId chainId' : Nat}

def scriptFile (script : String) : String := String.ofList (script.toList.takeWhile (· ≠ ':'))

def recordName (script : String) : String :=
  (fileName? (scriptFile script)).getD (scriptFile script)

def recordFolder (projectDir script : String) : String :=
  join (join projectDir "broadcast") (recordName script)

theorem isFileName_broadcast : IsFileName "broadcast" := by constructor <;> decide

theorem isFileName_latestRun : IsFileName "run-latest.json" := by constructor <;> decide

theorem path_eq (projectDir script : String) (chainId : Nat) :
    path projectDir script chainId =
      join (join (recordFolder projectDir script) (toString chainId)) "run-latest.json" :=
  rfl

theorem path_eq_folder (projectDir script : String) (chainId : Nat) :
    path projectDir script chainId =
      folder (recordFolder projectDir script) ++ toString chainId ++ "/" ++ "run-latest.json" := by
  rw [path_eq, isFileName_latestRun.join_eq, (isFileName_toString chainId).folder_join]

theorem parts_path (projectDir script : String) (chainId : Nat) :
    parts (path projectDir script chainId).toList =
      parts (recordFolder projectDir script).toList ++
        [(toString chainId).toList, "run-latest.json".toList] := by
  rw [path_eq, isFileName_latestRun.parts_join, (isFileName_toString chainId).parts_join,
    List.append_assoc]
  rfl

/-- Of one script, the runs on different chains are recorded in different places. -/
theorem path_inj (h : path projectDir script chainId = path projectDir script chainId') :
    chainId = chainId' := by
  rw [path_eq_folder, path_eq_folder] at h
  have htext : toString chainId = toString chainId' := by
    simpa only [String.append_left_inj, String.append_right_inj] using h
  have hdigits := congrArg (fun text => Nat.ofDigitChars 10 (String.toList text) 0) htext
  simpa [Nat.toString_eq_ofList_toDigits] using hdigits

/-- The path leads from the project to its folder of records, to one name of a file in it, to the
chain, and to the record of the latest run. -/
structure InProject (projectDir : String) (chainId : Nat) (name path : String) : Prop where
  isFileName : IsFileName name
  text_eq : path = folder projectDir ++ "broadcast" ++ "/" ++ name ++ "/" ++ toString chainId ++
    "/" ++ "run-latest.json"
  parts_eq : parts path.toList = parts projectDir.toList ++
    ["broadcast".toList, name.toList, (toString chainId).toList, "run-latest.json".toList]

theorem recordName_of_endsIn (h : EndsIn (scriptFile script) name) : recordName script = name := by
  unfold recordName
  rw [fileName?_eq_some_iff.mpr h]
  rfl

theorem recordName_of_nameless (h : ∀ name, ¬ EndsIn (scriptFile script) name) :
    recordName script = scriptFile script := by
  have hnone : fileName? (scriptFile script) = none := by
    rw [Option.eq_none_iff_forall_ne_some]
    intro name hname
    exact h name (fileName?_eq_some_iff.mp hname)
  unfold recordName
  rw [hnone]
  rfl

theorem parts_recordFolder (h : (recordName script).toList.head? ≠ some '/') :
    parts (recordFolder projectDir script).toList =
      parts projectDir.toList ++ "broadcast".toList :: parts (recordName script).toList := by
  unfold recordFolder
  rw [parts_join_of_relative h, isFileName_broadcast.parts_join, List.append_assoc,
    List.singleton_append]

theorem inProject_of_endsIn (h : EndsIn (scriptFile script) name) (projectDir : String)
    (chainId : Nat) : InProject projectDir chainId name (path projectDir script chainId) where
  isFileName := h.isFileName
  text_eq := by
    rw [path_eq_folder, recordFolder, recordName_of_endsIn h, h.isFileName.folder_join,
      isFileName_broadcast.folder_join]
  parts_eq := by
    rw [parts_path, recordFolder, recordName_of_endsIn h, h.isFileName.parts_join,
      isFileName_broadcast.parts_join, List.append_assoc, List.append_assoc]
    rfl

/-- What stands for the script ends in what the path of the script ends in. -/
theorem endsIn_recordName_iff :
    EndsIn (recordName script) name ↔ EndsIn (scriptFile script) name := by
  by_cases hnamed : ∃ other, EndsIn (scriptFile script) other
  · obtain ⟨other, hother⟩ := hnamed
    rw [recordName_of_endsIn hother]
    have hparts := hother.isFileName.parts_eq
    have hlast := hother.1
    unfold EndsIn
    rw [hparts, hlast]
    rfl
  · rw [recordName_of_nameless (not_exists.mp hnamed)]

/-- A record in the project is under the name in which the path of the script ends. -/
theorem endsIn_of_inProject
    (h : InProject projectDir chainId name (path projectDir script chainId)) :
    EndsIn (scriptFile script) name := by
  have hfolder : parts (recordFolder projectDir script).toList =
      parts projectDir.toList ++ ["broadcast".toList, name.toList] := by
    have heq := h.parts_eq
    have hends : ∀ xs : List (List Char), xs ++ ["broadcast".toList, name.toList,
        (toString chainId).toList, "run-latest.json".toList] =
        xs ++ ["broadcast".toList, name.toList] ++
          [(toString chainId).toList, "run-latest.json".toList] := by
      intro xs
      simp
    rw [parts_path, hends] at heq
    exact List.append_cancel_right heq
  apply endsIn_recordName_iff.mp
  refine ⟨?_, h.isFileName.ne_up⟩
  by_cases habsolute : (recordName script).toList.head? = some '/'
  · have hrooted : recordFolder projectDir script = recordName script := join_of_absolute habsolute
    rw [← hrooted, hfolder]
    simp
  · rw [parts_recordFolder habsolute] at hfolder
    have htail := List.append_cancel_left hfolder
    rw [(List.cons_inj_right _).mp htail]
    rfl

/-- Where the runs of a script on a chain are recorded. -/
structure Placed (projectDir script : String) (chainId : Nat) : Prop where
  /-- The record is in the project exactly if the path of the script ends in the name of a file, and
  is then under that name. -/
  inProject_iff : ∀ name, InProject projectDir chainId name (path projectDir script chainId) ↔
    EndsIn (scriptFile script) name
  rooted : (∀ name, ¬ EndsIn (scriptFile script) name) →
    (scriptFile script).toList.head? = some '/' →
    path projectDir script chainId =
      folder (scriptFile script) ++ toString chainId ++ "/" ++ "run-latest.json"
  /-- If a path that is not absolute ends in no name, its parts stand in the place of the name;
  there are none, or they lead upwards. -/
  nameless : (∀ name, ¬ EndsIn (scriptFile script) name) →
    (scriptFile script).toList.head? ≠ some '/' →
    parts (path projectDir script chainId).toList = parts projectDir.toList ++
      "broadcast".toList :: parts (scriptFile script).toList ++
        [(toString chainId).toList, "run-latest.json".toList] ∧
    (parts (scriptFile script).toList = [] ∨
      (parts (scriptFile script).toList).getLast? = some "..".toList)
  chains_apart : ∀ other, path projectDir script chainId = path projectDir script other →
    chainId = other

/-- The runs of a script are recorded in the project, under one name of a file and the chain,
exactly if the path of the script ends in the name of a file. -/
theorem recorded_in_project_iff_script_named (projectDir script : String) (chainId : Nat) :
    Placed projectDir script chainId where
  inProject_iff name := by
    constructor
    · exact endsIn_of_inProject
    · intro h
      exact inProject_of_endsIn h projectDir chainId
  rooted hnameless habsolute := by
    have hname := recordName_of_nameless hnameless
    have hfolder : recordFolder projectDir script = scriptFile script := by
      unfold recordFolder
      rw [hname, join_of_absolute habsolute]
    rw [path_eq_folder, hfolder]
  nameless hnameless hrelative := by
    have hname := recordName_of_nameless hnameless
    rw [← hname] at hrelative
    refine ⟨?_, getLast?_parts_of_nameless hnameless⟩
    rw [parts_path, parts_recordFolder hrelative, hname]
  chains_apart _ := path_inj

def rootScript : Settings :=
  { Settings.default with
    deploy := { Settings.defaultDeploy with
      projectDir := "/work"
      script := "/:LocalSetup" } }

theorem root_script_leaves_project :
    rootScript.violations = [] ∧
    rootScript.deploy.artifactPath 31337 = "/31337/run-latest.json" ∧
    ∀ name, ¬ InProject "/work" 31337 name (rootScript.deploy.artifactPath 31337) := by
  refine ⟨by decide +kernel, by decide +kernel, ?_⟩
  intro name h
  have hends : EndsIn (scriptFile "/:LocalSetup") name := endsIn_of_inProject h
  have hlast := hends.1
  have hnone : parts (scriptFile "/:LocalSetup").toList = [] := by decide +kernel
  rw [hnone] at hlast
  cases hlast

end LayerMessaging.Artifact
