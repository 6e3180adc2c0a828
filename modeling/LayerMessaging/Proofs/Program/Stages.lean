import LayerMessaging.Proofs.Command.ToolUse
import LayerMessaging.Proofs.Config.Resolution
import LayerMessaging.Proofs.EnvFile.Load
import LayerMessaging.Proofs.EnvFile.Template

namespace LayerMessaging

namespace Failure

theorem exitCode_ne_zero (failure : Failure) : failure.exitCode ≠ 0 := by
  unfold exitCode
  split
  · exact Nat.succ_ne_zero 100
  · split
    · split
      · omega
      · exact Nat.one_ne_zero
    · exact Nat.succ_ne_zero 129
    · exact Nat.one_ne_zero

theorem exitCode_toolFailed (tool : String) {code : Int} (hpos : 0 < code) (hlt : code < 256) :
    (Failure.deploy (.toolFailed tool (some code))).exitCode = code.toNat := by
  have hcode : (if 0 < code ∧ code < 256 then code.toNat else generalCode) = code.toNat :=
    if_pos ⟨hpos, hlt⟩
  exact hcode

theorem exitCode_eq_one {failure : Failure}
    (habort : ∀ path name, failure ≠ .config (.envFile path (.unsettable name)))
    (hinterrupted : failure ≠ .interrupted)
    (htool : ∀ tool code, failure = .deploy (.toolFailed tool (some code)) →
      ¬(0 < code ∧ code < 256)) : failure.exitCode = 1 := by
  have hgoes : failure.isAbort = false := by
    unfold isAbort
    split
    · exact absurd rfl (habort _ _)
    · rfl
  unfold exitCode
  rw [if_neg (by simp [hgoes])]
  split
  · exact if_neg (htool _ _ rfl)
  · exact absurd rfl hinterrupted
  · rfl

end Failure

namespace Program

section Endings

variable {environment : Environment} {scene : Scene} {result : Except Failure String}

@[simp] theorem Ending.environment_of : (Ending.of environment scene result).environment =
    environment := by
  cases result <;> rfl

@[simp] theorem Ending.scene_of : (Ending.of environment scene result).scene = scene := by
  cases result <;> rfl

@[simp] theorem Ending.failure_of_eq_some {failure : Failure} :
    (Ending.of environment scene result).failure = some failure ↔ result = .error failure := by
  cases result <;> simp [Ending.of]

theorem Ending.exitCode_of_eq_zero :
    (Ending.of environment scene result).exitCode = 0 ↔ ∃ output, result = .ok output := by
  cases result with
  | ok output => simp [Ending.of]
  | error failure => simp [Ending.of, failure.exitCode_ne_zero]

end Endings

section Interruptions

variable {interrupt : Option Nat} {run : Except Failure (Option String) × Scene}

theorem ended?_eq_some_iff {result : Except Failure (Option String)}
    {result' : Except Failure String} :
    ended? result = some result' ↔ result = result'.map some := by
  rcases result with failure | _ | output <;> rcases result' with failure' | output' <;>
    simp [ended?, Except.map]

theorem ended?_eq_none_iff {result : Except Failure (Option String)} :
    ended? result = none ↔ result = .ok none := by
  rcases result with failure | _ | output <;> simp [ended?]

/-- A command is interrupted while it goes on, or left alone until it ends, or left alone for
ever. -/
theorem interruptedAt_cases (interrupt : Option Nat)
    (run : Except Failure (Option String) × Scene) :
    (∃ moment, interrupt = some moment ∧ (run.1 = .ok none ∨ moment < run.2.world.now) ∧
      interruptedAt interrupt run = some (.error .interrupted, Scene.until run.2 moment)) ∨
    (∃ result, run.1 = result.map some ∧
      (∀ moment, interrupt = some moment → run.2.world.now ≤ moment) ∧
      interruptedAt interrupt run = some (result, run.2)) ∨
    (interrupt = none ∧ run.1 = .ok none ∧ interruptedAt interrupt run = none) := by
  unfold interruptedAt
  cases hended : ended? run.1 with
  | none =>
    have hopen := ended?_eq_none_iff.mp hended
    cases interrupt with
    | none => exact .inr (.inr ⟨rfl, hopen, rfl⟩)
    | some moment => exact .inl ⟨moment, rfl, .inl hopen, rfl⟩
  | some result =>
    have hresult := ended?_eq_some_iff.mp hended
    cases interrupt with
    | none => exact .inr (.inl ⟨result, hresult, nofun, rfl⟩)
    | some moment =>
      by_cases hmoment : moment < run.2.world.now
      · exact .inl ⟨moment, rfl, .inr hmoment, if_pos hmoment⟩
      · refine .inr (.inl ⟨result, hresult, ?_, if_neg hmoment⟩)
        rintro _ ⟨⟩
        exact Nat.le_of_not_lt hmoment

theorem interruptedAt_eq_none_iff :
    interruptedAt interrupt run = none ↔ interrupt = none ∧ run.1 = .ok none := by
  rcases interruptedAt_cases interrupt run with
    ⟨moment, hinterrupt, -, h⟩ | ⟨result, hresult, -, h⟩ | ⟨hinterrupt, hopen, h⟩
  · rw [h, hinterrupt]
    exact iff_of_false nofun fun h => nomatch h.1
  · rw [h, hresult]
    exact iff_of_false nofun fun h => map_some_ne_ok_none h.2
  · exact iff_of_true h ⟨hinterrupt, hopen⟩

end Interruptions

def Invocation.loading (invocation : Invocation) (s : Surroundings) :
    EnvFile.Loading ConfigError :=
  EnvFile.load s.files invocation.envFile s.environment

/-- Settings and configuration are there, and the command is carried out with them. -/
def Invocation.Reaches (invocation : Invocation) (s : Surroundings) (settings : Settings)
    (config : Config) : Prop :=
  settingsOf s.files invocation.settingsFile = .ok settings ∧
    (configOf s.files s.environment invocation).result = .ok config

def Invocation.toolbox (invocation : Invocation) (s : Surroundings) : Toolbox :=
  s.toolbox (configOf s.files s.environment invocation).environment

/-- What comes of the command if nobody interrupts it. -/
def Invocation.performed (invocation : Invocation) (s : Surroundings) (settings : Settings)
    (config : Config) : Except Failure (Option String) × Scene :=
  (perform s.network (invocation.toolbox s) settings config invocation.action).run .start

def Invocation.outcome (invocation : Invocation) (s : Surroundings) (settings : Settings)
    (config : Config) : Option (Except Failure String × Scene) :=
  interruptedAt s.interrupt (invocation.performed s settings config)

variable {invocation : Invocation} {s : Surroundings} {settings : Settings} {config : Config}
  {ending : Ending} {result : Except Failure String} {scene : Scene}

theorem run_of_settings_error {e : ConfigError}
    (h : settingsOf s.files invocation.settingsFile = .error e) :
    run invocation s = some (.of s.environment .start (.error (.config e))) := by
  unfold run
  rw [h]

theorem run_of_config_error {e : ConfigError}
    (hsettings : settingsOf s.files invocation.settingsFile = .ok settings)
    (h : (configOf s.files s.environment invocation).result = .error e) :
    run invocation s = some (.of (configOf s.files s.environment invocation).environment .start
      (.error (.config e))) := by
  unfold run
  rw [hsettings]
  dsimp only
  rw [h]

theorem run_of_reaches (h : invocation.Reaches s settings config) :
    run invocation s = (invocation.outcome s settings config).map fun (result, scene) =>
      .of (configOf s.files s.environment invocation).environment scene result := by
  unfold run
  rw [h.1]
  dsimp only
  rw [h.2]
  rfl

theorem ending_of_reaches (hrun : run invocation s = some ending)
    (h : invocation.Reaches s settings config) : ∃ result scene,
      invocation.outcome s settings config = some (result, scene) ∧
        ending = .of (configOf s.files s.environment invocation).environment scene result := by
  rw [run_of_reaches h, Option.map_eq_some_iff] at hrun
  obtain ⟨⟨result, scene⟩, houtcome, rfl⟩ := hrun
  exact ⟨result, scene, houtcome, rfl⟩

theorem stage_cases (invocation : Invocation) (s : Surroundings) :
    (∃ e, settingsOf s.files invocation.settingsFile = .error e) ∨
    (∃ settings e, settingsOf s.files invocation.settingsFile = .ok settings ∧
      (configOf s.files s.environment invocation).result = .error e) ∨
    ∃ settings config, invocation.Reaches s settings config := by
  cases hsettings : settingsOf s.files invocation.settingsFile with
  | error e => exact .inl ⟨e, rfl⟩
  | ok settings =>
    cases hconfig : (configOf s.files s.environment invocation).result with
    | error e => exact .inr (.inl ⟨settings, e, rfl, rfl⟩)
    | ok config => exact .inr (.inr ⟨settings, config, hsettings, hconfig⟩)

theorem run_inv (h : run invocation s = some ending) :
    (∃ e, settingsOf s.files invocation.settingsFile = .error e ∧
      ending = .of s.environment .start (.error (.config e))) ∨
    (∃ settings e, settingsOf s.files invocation.settingsFile = .ok settings ∧
      (configOf s.files s.environment invocation).result = .error e ∧
      ending = .of (configOf s.files s.environment invocation).environment .start
        (.error (.config e))) ∨
    ∃ settings config result scene, invocation.Reaches s settings config ∧
      invocation.outcome s settings config = some (result, scene) ∧
      ending = .of (configOf s.files s.environment invocation).environment scene result := by
  rcases stage_cases invocation s with ⟨e, hsettings⟩ | ⟨settings, e, hsettings, hconfig⟩ |
    ⟨settings, config, hreaches⟩
  · rw [run_of_settings_error hsettings] at h
    exact .inl ⟨e, hsettings, (Option.some.inj h).symm⟩
  · rw [run_of_config_error hsettings hconfig] at h
    exact .inr (.inl ⟨settings, e, hsettings, hconfig, (Option.some.inj h).symm⟩)
  · obtain ⟨result, scene, houtcome, hending⟩ := ending_of_reaches h hreaches
    exact .inr (.inr ⟨settings, config, result, scene, hreaches, houtcome, hending⟩)

theorem exists_ending_eq_of (h : run invocation s = some ending) :
    ∃ environment scene result, ending = .of environment scene result := by
  rcases run_inv h with ⟨_, -, h⟩ | ⟨_, _, -, -, h⟩ | ⟨_, _, _, _, -, -, h⟩ <;> exact ⟨_, _, _, h⟩

theorem configOf_of_requirement {requirement : Requirement}
    (h : invocation.action.requirement = some requirement) :
    configOf s.files s.environment invocation = ⟨(invocation.loading s).environment, do
      let _ ← (invocation.loading s).result
      Config.ofLookup requirement (invocation.loading s).environment.get?⟩ := by
  unfold configOf
  rw [h]
  rfl

/-- What works alone needs no env file, and no configuration. -/
theorem configOf_alone (h : invocation.action.requirement = none) :
    configOf s.files s.environment invocation = ⟨s.environment, .ok .empty⟩ := by
  unfold configOf
  rw [h]

theorem settingsOf_ne_envFile (files : Files) (path? : Option String) (path : String)
    (cause : EnvFile.Error) : settingsOf files path? ≠ .error (.envFile path cause) := by
  intro h
  cases path? with
  | none => cases h
  | some path' =>
    change Settings.load files path' = _ at h
    unfold Settings.load at h
    cases hread : files.readText path' with
    | error e =>
      rw [hread] at h
      cases h
    | ok content =>
      rw [hread] at h
      cases hsettings : Settings.ofText content with
      | none =>
        simp only [hsettings, pure, bind, Except.bind, Except.pure] at h
        cases h
      | some settings =>
        simp only [hsettings, pure, bind, Except.bind, Except.pure] at h
        split at h <;> cases h

theorem configOf_envFile_iff {path : String} {cause : EnvFile.Error} :
    (configOf s.files s.environment invocation).result = .error (.envFile path cause) ↔
      invocation.action.requirement.isSome ∧
        (invocation.loading s).result = .error (.envFile path cause) := by
  cases hrequirement : invocation.action.requirement with
  | none => simp [configOf_alone hrequirement]
  | some requirement =>
    rw [configOf_of_requirement hrequirement]
    cases hloading : (invocation.loading s).result with
    | error e => simp [bind, Except.bind]
    | ok names =>
      have hlookup : Config.ofLookup requirement (invocation.loading s).environment.get? ≠
          .error (.envFile path cause) := by
        intro h
        have hresolution := Config.resolution_ofLookup requirement
          (invocation.loading s).environment.get?
        rw [h] at hresolution
        cases hresolution
      simpa [bind, Except.bind] using hlookup

theorem performed_toolUse (invocation : Invocation) (s : Surroundings) (settings : Settings)
    (config : Config) : Command.ToolUse (invocation.toolbox s)
      (invocation.performed s settings config).1 (invocation.performed s settings config).2 :=
  perform_toolUse s.network (invocation.toolbox s) settings config invocation.action

/-- The command as it ends by itself, or up to the moment of an interruption. -/
theorem outcome_cases (h : invocation.outcome s settings config = some (result, scene)) :
    (∃ moment, s.interrupt = some moment ∧
      ((invocation.performed s settings config).1 = .ok none ∨
        moment < (invocation.performed s settings config).2.world.now) ∧
      result = .error .interrupted ∧
      scene = Scene.until (invocation.performed s settings config).2 moment) ∨
    ((invocation.performed s settings config).1 = result.map some ∧
      (invocation.performed s settings config).2 = scene ∧
      ∀ moment, s.interrupt = some moment → scene.world.now ≤ moment) := by
  unfold Invocation.outcome at h
  rcases interruptedAt_cases s.interrupt (invocation.performed s settings config) with
    ⟨moment, hinterrupt, hmoment, houtcome⟩ | ⟨result', hresult, hlate, houtcome⟩ | ⟨-, -, houtcome⟩
  · rw [houtcome] at h
    cases h
    exact .inl ⟨moment, hinterrupt, hmoment, rfl, rfl⟩
  · rw [houtcome] at h
    cases h
    exact .inr ⟨hresult, rfl, hlate⟩
  · rw [houtcome] at h
    cases h

theorem outcome_interrupted_iff (h : invocation.outcome s settings config = some (result, scene)) :
    result = .error .interrupted ↔ ∃ moment, s.interrupt = some moment ∧
      ((invocation.performed s settings config).1 = .ok none ∨
        moment < (invocation.performed s settings config).2.world.now) := by
  rcases outcome_cases h with
    ⟨moment, hinterrupt, hmoment, hresult, -⟩ | ⟨hresult, hscene, hlate⟩
  · exact iff_of_true hresult ⟨moment, hinterrupt, hmoment⟩
  · refine iff_of_false (fun h => ?_) ?_
    · rw [h] at hresult
      exact (performed_toolUse invocation s settings config).ne_interrupted hresult
    · rintro ⟨moment, hinterrupt, hopen | hmoment⟩
      · exact map_some_ne_ok_none (hresult.symm.trans hopen)
      · rw [hscene] at hmoment
        exact Nat.not_lt.mpr (hlate moment hinterrupt) hmoment

theorem outcome_ne_envFile (h : invocation.outcome s settings config = some (result, scene))
    (path : String) (cause : EnvFile.Error) : result ≠ .error (.config (.envFile path cause)) := by
  rintro rfl
  rcases outcome_cases h with ⟨_, -, -, hresult, -⟩ | ⟨hresult, -⟩
  · cases hresult
  · exact (performed_toolUse invocation s settings config).ne_envFile path cause hresult

/-- The failures with a code are those of tools that ended with it before anybody interrupted
them. -/
theorem outcome_toolFailed_iff (h : invocation.outcome s settings config = some (result, scene))
    {code : Int} (hcode : code ≠ 0) :
    (∃ tool, result = .error (.deploy (.toolFailed tool (some code)))) ↔
      result ≠ .error .interrupted ∧ ∃ start ∈ scene.tools, ∃ seconds files,
        (invocation.toolbox s).run start.2 = .ended (some code) seconds files := by
  rcases outcome_cases h with ⟨_, -, -, hresult, -⟩ | ⟨hresult, hscene, -⟩
  · simp [hresult]
  · have htool := performed_toolUse invocation s settings config
    have hne := htool.ne_interrupted
    have hiff := htool.toolFailed_iff code hcode
    rw [hresult, hscene] at hiff
    rw [hresult, ne_eq, map_some_eq_error_iff] at hne
    simp only [map_some_eq_error_iff] at hiff
    rw [hiff, and_iff_right hne]

/-- A tool that is still at work when the user interrupts has the command end with it. -/
theorem outcome_interrupted_of_tool
    (h : invocation.outcome s settings config = some (result, scene)) {moment : Nat}
    (hmoment : s.interrupt = some moment) {start : Nat × ToolCall} (hstart : start ∈ scene.tools)
    (hruns : (invocation.toolbox s).run start.2 = .endless ∨
      moment < start.1 + ((invocation.toolbox s).run start.2).seconds) :
    result = .error .interrupted := by
  rcases outcome_cases h with ⟨_, -, -, hresult, -⟩ | ⟨hresult, hscene, hlate⟩
  · exact hresult
  · have htool := performed_toolUse invocation s settings config
    rw [hresult, hscene] at htool
    rcases hruns with hendless | hruns
    · exact absurd (htool.endless_iff.mpr ⟨start, hstart, hendless⟩) map_some_ne_ok_none
    · rw [htool.ends start hstart] at hruns
      exact absurd hruns (Nat.not_lt.mpr (hlate moment hmoment))

def Action.IsAlone (action : Action) : Prop :=
  (∃ name, action = .selector name) ∨ action = .usage

theorem Action.IsAlone.requirement_eq {action : Action} (h : action.IsAlone) :
    action.requirement = none := by
  rcases h with ⟨name, rfl⟩ | rfl <;> rfl

/-- Actions that work alone make no request and take no time, so that they are never interrupted. -/
theorem exists_outcome_of_isAlone (h : invocation.action.IsAlone) :
    ∃ result, ∀ s settings config,
      invocation.outcome s settings config = some (result, .start) := by
  have hperform : ∃ result : Except Failure String, ∀ network toolbox settings config,
      (perform network toolbox settings config invocation.action).run .start =
        (result.map some, .start) := by
    rcases h with ⟨name, h⟩ | h <;> rw [h] <;> unfold perform <;> dsimp only
    · cases Selector.ofName name with
      | ok selector => exact ⟨.ok _, fun _ _ _ _ => rfl⟩
      | error fault => exact ⟨.error _, fun _ _ _ _ => rfl⟩
    · exact ⟨.ok _, fun _ _ _ _ => rfl⟩
  obtain ⟨result, hperform⟩ := hperform
  refine ⟨result, fun s settings config => ?_⟩
  have hperformed : invocation.performed s settings config = (result.map some, .start) :=
    hperform ..
  unfold Invocation.outcome
  rw [hperformed]
  rcases interruptedAt_cases s.interrupt (result.map some, .start) with
    ⟨moment, -, hopen | hmoment, -⟩ | ⟨result', hresult, -, houtcome⟩ | ⟨-, hopen, -⟩
  · exact absurd hopen map_some_ne_ok_none
  · exact absurd hmoment (Nat.not_lt_zero moment)
  · rw [houtcome]
    cases result <;> cases result' <;> cases hresult <;> rfl
  · exact absurd hopen map_some_ne_ok_none

theorem settingsOf_congr {files files' : Files} {path? : Option String}
    (h : ∀ path, path? = some path → files'.readText path = files.readText path) :
    settingsOf files' path? = settingsOf files path? := by
  cases path? with
  | none => rfl
  | some path =>
    change Settings.load files' path = Settings.load files path
    unfold Settings.load
    rw [h path rfl]

/-- The settings decide how they end, and leave the environment as it is. -/
theorem exists_run_eq_of_isAlone (h : invocation.action.IsAlone) :
    ∃ result : Except ConfigError Settings → Except Failure String, ∀ s, run invocation s =
      some (.of s.environment .start (result (settingsOf s.files invocation.settingsFile))) := by
  obtain ⟨result, houtcome⟩ := exists_outcome_of_isAlone h
  refine ⟨fun settings => (settings.mapError Failure.config).bind fun _ => result, fun s => ?_⟩
  cases hsettings : settingsOf s.files invocation.settingsFile with
  | error e =>
    rw [run_of_settings_error hsettings]
    rfl
  | ok settings =>
    have hconfig := configOf_alone (s := s) h.requirement_eq
    have hreaches : invocation.Reaches s settings .empty :=
      ⟨hsettings, congrArg Config.Loaded.result hconfig⟩
    rw [run_of_reaches hreaches, houtcome, hconfig]
    rfl

theorem exitCode_of_failure (hrun : run invocation s = some ending) {failure : Failure}
    (h : ending.failure = some failure) : ending.exitCode = failure.exitCode := by
  obtain ⟨environment, scene, result, rfl⟩ := exists_ending_eq_of hrun
  rw [Ending.failure_of_eq_some] at h
  rw [h]
  rfl

/-- A failure is one of the settings, one of the configuration, or one of the command. -/
theorem failure_inv (hrun : run invocation s = some ending) {failure : Failure}
    (h : ending.failure = some failure) :
    (∃ e, settingsOf s.files invocation.settingsFile = .error e ∧ failure = .config e) ∨
    (∃ settings e, settingsOf s.files invocation.settingsFile = .ok settings ∧
      (configOf s.files s.environment invocation).result = .error e ∧ failure = .config e) ∨
    ∃ settings config, invocation.Reaches s settings config ∧
      invocation.outcome s settings config = some (.error failure, ending.scene) := by
  rcases run_inv hrun with ⟨e, hsettings, rfl⟩ | ⟨settings, e, hsettings, hconfig, rfl⟩ |
    ⟨settings, config, result, scene, hreaches, houtcome, rfl⟩
  · rw [Ending.failure_of_eq_some] at h
    cases h
    exact .inl ⟨e, hsettings, rfl⟩
  · rw [Ending.failure_of_eq_some] at h
    cases h
    exact .inr (.inl ⟨settings, e, hsettings, hconfig, rfl⟩)
  · rw [Ending.failure_of_eq_some] at h
    rw [Ending.scene_of, ← h]
    exact .inr (.inr ⟨settings, config, hreaches, houtcome⟩)

theorem exitCode_eq_zero_iff (hrun : run invocation s = some ending) : ending.exitCode = 0 ↔
    ∃ settings config output, invocation.Reaches s settings config ∧
      invocation.outcome s settings config = some (.ok output, ending.scene) := by
  constructor
  · intro hzero
    rcases run_inv hrun with ⟨e, -, rfl⟩ | ⟨settings, e, -, -, rfl⟩ |
      ⟨settings, config, result, scene, hreaches, houtcome, rfl⟩
    · exact absurd hzero (Failure.exitCode_ne_zero _)
    · exact absurd hzero (Failure.exitCode_ne_zero _)
    · obtain ⟨output, rfl⟩ := Ending.exitCode_of_eq_zero.mp hzero
      exact ⟨settings, config, output, hreaches, houtcome⟩
  · rintro ⟨settings, config, output, hreaches, houtput⟩
    obtain ⟨result, scene, houtcome, hending⟩ := ending_of_reaches hrun hreaches
    rw [houtcome] at houtput
    cases houtput
    rw [hending]
    rfl

theorem failure_interrupted_iff (hrun : run invocation s = some ending) :
    ending.failure = some .interrupted ↔ ∃ settings config moment,
      invocation.Reaches s settings config ∧ s.interrupt = some moment ∧
        ((invocation.performed s settings config).1 = .ok none ∨
          moment < (invocation.performed s settings config).2.world.now) := by
  constructor
  · intro h
    rcases failure_inv hrun h with
      ⟨_, -, h⟩ | ⟨_, _, -, -, h⟩ | ⟨settings, config, hreaches, houtcome⟩
    · cases h
    · cases h
    · obtain ⟨moment, hmoment⟩ := (outcome_interrupted_iff houtcome).mp rfl
      exact ⟨settings, config, moment, hreaches, hmoment⟩
  · rintro ⟨settings, config, moment, hreaches, hmoment⟩
    obtain ⟨result, scene, houtcome, rfl⟩ := ending_of_reaches hrun hreaches
    rw [Ending.failure_of_eq_some]
    exact (outcome_interrupted_iff houtcome).mpr ⟨moment, hmoment⟩

/-- Errors of the env file are those of loading it, and of nothing else. -/
theorem failure_envFile_iff (hrun : run invocation s = some ending) {path : String}
    {cause : EnvFile.Error} : ending.failure = some (.config (.envFile path cause)) ↔
      (∃ settings, settingsOf s.files invocation.settingsFile = .ok settings) ∧
        invocation.action.requirement.isSome ∧
        (invocation.loading s).result = .error (.envFile path cause) := by
  constructor
  · intro h
    rcases failure_inv hrun h with
      ⟨e, hsettings, h⟩ | ⟨settings, e, hsettings, hconfig, h⟩ | ⟨_, _, -, houtcome⟩
    · cases h
      exact absurd hsettings (settingsOf_ne_envFile _ _ _ _)
    · cases h
      exact ⟨⟨settings, hsettings⟩, configOf_envFile_iff.mp hconfig⟩
    · exact absurd rfl (outcome_ne_envFile houtcome path cause)
  · rintro ⟨⟨settings, hsettings⟩, h⟩
    rw [run_of_config_error hsettings (configOf_envFile_iff.mpr h)] at hrun
    cases hrun
    rfl

theorem exists_of_mem_tools (hrun : run invocation s = some ending) {start : Nat × ToolCall}
    (h : start ∈ ending.scene.tools) : ∃ settings config result,
      invocation.Reaches s settings config ∧
        invocation.outcome s settings config = some (result, ending.scene) ∧
        ∀ failure, ending.failure = some failure ↔ result = .error failure := by
  rcases run_inv hrun with ⟨e, -, rfl⟩ | ⟨settings, e, -, -, rfl⟩ |
    ⟨settings, config, result, scene, hreaches, houtcome, rfl⟩
  · cases h
  · cases h
  · refine ⟨settings, config, result, hreaches, ?_, fun failure => Ending.failure_of_eq_some⟩
    rw [Ending.scene_of]
    exact houtcome

/-- A run has the failure of a tool that ended with a code, and with none else's. -/
theorem failure_toolFailed_iff (hrun : run invocation s = some ending) {code : Int}
    (hcode : code ≠ 0) :
    (∃ tool, ending.failure = some (.deploy (.toolFailed tool (some code)))) ↔
      ending.failure ≠ some .interrupted ∧ ∃ start ∈ ending.scene.tools, ∃ seconds files,
        (invocation.toolbox s).run start.2 = .ended (some code) seconds files := by
  constructor
  · rintro ⟨tool, h⟩
    rcases failure_inv hrun h with ⟨_, -, h⟩ | ⟨_, _, -, -, h⟩ | ⟨settings, config, -, houtcome⟩
    · cases h
    · cases h
    · have htool := ((outcome_toolFailed_iff houtcome hcode).mp ⟨tool, rfl⟩).2
      exact ⟨by simp [h], htool⟩
  · rintro ⟨hne, start, hstart, htool⟩
    obtain ⟨settings, config, result, -, houtcome, hfailure⟩ := exists_of_mem_tools hrun hstart
    rw [ne_eq, hfailure] at hne
    obtain ⟨tool, h⟩ := (outcome_toolFailed_iff houtcome hcode).mpr ⟨hne, start, hstart, htool⟩
    exact ⟨tool, (hfailure _).mpr h⟩

/-- A run goes on for ever when its tool does and nobody interrupts it. -/
theorem run_eq_none_iff : run invocation s = none ↔
    s.interrupt = none ∧ ∃ settings config, invocation.Reaches s settings config ∧
      ∃ start ∈ (invocation.performed s settings config).2.tools,
        (invocation.toolbox s).run start.2 = .endless := by
  have hreached {settings config} (hreaches : invocation.Reaches s settings config) :
      run invocation s = none ↔ s.interrupt = none ∧
        ∃ start ∈ (invocation.performed s settings config).2.tools,
          (invocation.toolbox s).run start.2 = .endless := by
    rw [run_of_reaches hreaches, Option.map_eq_none_iff, Invocation.outcome,
      interruptedAt_eq_none_iff, (performed_toolUse invocation s settings config).endless_iff]
  constructor
  · intro h
    rcases stage_cases invocation s with ⟨e, hsettings⟩ | ⟨settings, e, hsettings, hconfig⟩ |
      ⟨settings, config, hreaches⟩
    · rw [run_of_settings_error hsettings] at h
      cases h
    · rw [run_of_config_error hsettings hconfig] at h
      cases h
    · obtain ⟨hinterrupt, hendless⟩ := (hreached hreaches).mp h
      exact ⟨hinterrupt, settings, config, hreaches, hendless⟩
  · rintro ⟨hinterrupt, settings, config, hreaches, hendless⟩
    exact (hreached hreaches).mpr ⟨hinterrupt, hendless⟩

structure Staged (invocation : Invocation) (s : Surroundings) (ending : Ending) : Prop where
  settings_error : ∀ e, settingsOf s.files invocation.settingsFile = .error e →
    ending.failure = some (.config e) ∧ ending.environment = s.environment ∧
      ending.scene = .start
  envFile_error : ∀ settings requirement e,
    settingsOf s.files invocation.settingsFile = .ok settings →
    invocation.action.requirement = some requirement →
    (invocation.loading s).result = .error e →
      ending.failure = some (.config e) ∧
        ending.environment = (invocation.loading s).environment ∧ ending.scene = .start
  config_error : ∀ settings requirement names e,
    settingsOf s.files invocation.settingsFile = .ok settings →
    invocation.action.requirement = some requirement →
    (invocation.loading s).result = .ok names →
    Config.ofLookup requirement (invocation.loading s).environment.get? = .error e →
      ending.failure = some (.config e) ∧
        ending.environment = (invocation.loading s).environment ∧ ending.scene = .start
  command : ∀ settings config, invocation.Reaches s settings config → ∃ result scene,
    invocation.outcome s settings config = some (result, scene) ∧
      ending = .of (configOf s.files s.environment invocation).environment scene result
  alone : invocation.action.IsAlone →
    ending.environment = s.environment ∧ ending.scene = .start ∧
      ∀ s' : Surroundings, s'.environment = s.environment →
        (∀ path, invocation.settingsFile = some path →
          s'.files.readText path = s.files.readText path) → run invocation s' = some ending
  exitCode_eq_zero_iff : ending.exitCode = 0 ↔ ∃ settings config output,
    invocation.Reaches s settings config ∧
      invocation.outcome s settings config = some (.ok output, ending.scene)
  failed : ending.exitCode ≠ 0 →
    ending.output = "" ∧ ∃ failure, ending.failure = some failure
  /-- A tool that fails passes its code on, unless the user interrupts before it has ended. -/
  tool_exitCode : ∀ start ∈ ending.scene.tools, ∀ code seconds files,
    (invocation.toolbox s).run start.2 = .ended (some code) seconds files →
    ending.failure ≠ some .interrupted → 0 < code → code < 256 → ending.exitCode = code.toNat
  /-- A tool that is still at work when the user interrupts passes nothing on. -/
  tool_interrupted : ∀ start ∈ ending.scene.tools, ∀ moment, s.interrupt = some moment →
    ((invocation.toolbox s).run start.2 = .endless ∨
      moment < start.1 + ((invocation.toolbox s).run start.2).seconds) →
      ending.failure = some .interrupted
  interrupted_iff : ending.failure = some .interrupted ↔ ∃ settings config moment,
    invocation.Reaches s settings config ∧ s.interrupt = some moment ∧
      ((invocation.performed s settings config).1 = .ok none ∨
        moment < (invocation.performed s settings config).2.world.now)
  interrupted_exitCode : ending.failure = some .interrupted → ending.exitCode = 130
  aborted_iff : ∀ path name,
    ending.failure = some (.config (.envFile path (.unsettable name))) ↔
      (∃ settings, settingsOf s.files invocation.settingsFile = .ok settings) ∧
        invocation.action.requirement.isSome ∧
        (invocation.loading s).result = .error (.envFile path (.unsettable name))
  aborted_exitCode : ∀ path name,
    ending.failure = some (.config (.envFile path (.unsettable name))) → ending.exitCode = 101
  /-- The program stops at once only for a line of the env file that gives a variable a value with a
  NUL character. -/
  aborted_inv : ∀ path name,
    ending.failure = some (.config (.envFile path (.unsettable name))) →
      path = invocation.envFile ∧ ∃ environment line value,
        EnvFile.readEntry environment line = .ok (some (name, value)) ∧ '\x00' ∈ value.toList
  other_exitCode : ∀ failure, ending.failure = some failure → failure ≠ .interrupted →
    (∀ path name, failure ≠ .config (.envFile path (.unsettable name))) →
    (∀ start ∈ ending.scene.tools, ∀ code seconds files,
      (invocation.toolbox s).run start.2 = .ended (some code) seconds files →
        ¬(0 < code ∧ code < 256)) →
      ending.exitCode = 1

theorem staged_run (hrun : run invocation s = some ending) : Staged invocation s ending where
  settings_error e h := by
    rw [run_of_settings_error h] at hrun
    cases hrun
    exact ⟨rfl, rfl, rfl⟩
  envFile_error settings requirement e hsettings hrequirement h := by
    have hconfig := configOf_of_requirement (s := s) hrequirement
    rw [h] at hconfig
    rw [run_of_config_error hsettings (congrArg Config.Loaded.result hconfig), hconfig] at hrun
    cases hrun
    exact ⟨rfl, rfl, rfl⟩
  config_error settings requirement names e hsettings hrequirement hnames h := by
    have hconfig := configOf_of_requirement (s := s) hrequirement
    rw [hnames] at hconfig
    have hresult := congrArg Config.Loaded.result hconfig
    rw [run_of_config_error hsettings (hresult.trans h), hconfig] at hrun
    cases hrun
    exact ⟨rfl, rfl, rfl⟩
  command settings config h := ending_of_reaches hrun h
  alone h := by
    obtain ⟨result, halone⟩ := exists_run_eq_of_isAlone h
    have hending := Option.some.inj (hrun.symm.trans (halone s))
    refine ⟨?_, ?_, fun s' henvironment hfiles => ?_⟩
    · rw [hending, Ending.environment_of]
    · rw [hending, Ending.scene_of]
    · rw [halone, hending, henvironment, settingsOf_congr hfiles]
  exitCode_eq_zero_iff := exitCode_eq_zero_iff hrun
  failed h := by
    obtain ⟨environment, scene, result, rfl⟩ := exists_ending_eq_of hrun
    cases result with
    | ok output => exact absurd rfl h
    | error failure => exact ⟨rfl, failure, rfl⟩
  tool_exitCode start hstart code seconds files htool hne hpos hlt := by
    obtain ⟨tool, h⟩ := (failure_toolFailed_iff hrun (Int.ne_of_gt hpos)).mpr
      ⟨hne, start, hstart, seconds, files, htool⟩
    rw [exitCode_of_failure hrun h, Failure.exitCode_toolFailed tool hpos hlt]
  tool_interrupted start hstart moment hmoment hruns := by
    obtain ⟨settings, config, result, -, houtcome, hfailure⟩ := exists_of_mem_tools hrun hstart
    exact (hfailure _).mpr (outcome_interrupted_of_tool houtcome hmoment hstart hruns)
  interrupted_iff := failure_interrupted_iff hrun
  interrupted_exitCode h := exitCode_of_failure hrun h
  aborted_iff path name := failure_envFile_iff hrun
  aborted_exitCode path name h := exitCode_of_failure hrun h
  aborted_inv path name h := EnvFile.load_unsettable_inv ((failure_envFile_iff hrun).mp h).2.2
  other_exitCode failure h hinterrupted habort htools := by
    rw [exitCode_of_failure hrun h]
    refine Failure.exitCode_eq_one habort hinterrupted ?_
    rintro tool code rfl hcode
    obtain ⟨-, start, hstart, seconds, files, htool⟩ :=
      (failure_toolFailed_iff hrun (Int.ne_of_gt hcode.1)).mp ⟨tool, h⟩
    exact htools start hstart code seconds files htool hcode

/-- The stages of a run come in order, and the first that fails decides how the run ends: rejected
settings leave the environment as it is, behind a failed env file or configuration no node is asked
and no tool is started, and `selector` and `usage` have no use for an env file. The exit code is
zero exactly if the command came to its output. Otherwise nothing is printed, and the exit code is
that of a tool that failed with one in 1..255, 130 for an interruption, also of a tool that is at
work, 101 if the env file gives a variable a value with a NUL character, and 1 for every other
failure. A run comes to its end unless its tool never ends and nobody interrupts it. -/
theorem first_failing_stage_decides {arguments : List String} {invocation : Invocation}
    (h : Request.ofArguments arguments = .run invocation) (s : Surroundings) :
    (∀ ending, answer arguments s = some ending → Staged invocation s ending) ∧
      (answer arguments s = none ↔ s.interrupt = none ∧ ∃ settings config,
        invocation.Reaches s settings config ∧
          ∃ start ∈ (invocation.performed s settings config).2.tools,
            (invocation.toolbox s).run start.2 = .endless) := by
  have hanswer : answer arguments s = run invocation s := by
    unfold answer
    rw [h]
  rw [hanswer]
  exact ⟨fun ending hrun => staged_run hrun, run_eq_none_iff⟩

def failingTool (interrupt : Option Nat) : Surroundings where
  files := (Files.ofTree (.directory [])).withFile ".env" []
  environment := ⟨[(Config.rpcUrlKey, "http://node"), (Config.privateKeyKey, "0x2a")]⟩
  network := Rpc.unreachable
  toolbox _ _ := .ended (some 3) 60 (.ofTree (.directory []))
  interrupt := interrupt

def failingTool.node : Url :=
  ⟨"http", some ⟨"", none, some (.name "node"), none⟩, "/", none, none⟩

theorem failingTool_reaches (interrupt : Option Nat) :
    Invocation.Reaches ⟨".env", none, .deploy⟩ (failingTool interrupt) .default
      ⟨some ⟨failingTool.node, [], ⟨"0x2a"⟩, none⟩, none⟩ := by
  have hloading : Invocation.loading ⟨".env", none, .deploy⟩ (failingTool interrupt) =
      ⟨(failingTool none).environment, .ok []⟩ := by
    have hlines : EnvFile.physicalLines [] = [] := rfl
    refine (EnvFile.load_withFile_eq_loadBytes _ _ _ _).trans ?_
    rw [EnvFile.loadBytes, hlines, EnvFile.loadLines]
    rfl
  have hlookup : Config.ofLookup .endpoint (failingTool none).environment.get? =
      .ok ⟨some ⟨failingTool.node, [], ⟨"0x2a"⟩, none⟩, none⟩ := by decide +kernel
  refine ⟨rfl, ?_⟩
  rw [configOf_of_requirement rfl, hloading]
  exact hlookup

/-- The code of the tool is that of the program, unless the user interrupts the tool. -/
theorem failing_tool_passes_code_on :
    Request.ofArguments ["deploy-messaging-contracts"] = .run ⟨".env", none, .deploy⟩ ∧
      (∃ ending, answer ["deploy-messaging-contracts"] (failingTool none) = some ending ∧
        Staged ⟨".env", none, .deploy⟩ (failingTool none) ending ∧ ending.exitCode = 3) ∧
      ∃ ending, answer ["deploy-messaging-contracts"] (failingTool (some 10)) = some ending ∧
        Staged ⟨".env", none, .deploy⟩ (failingTool (some 10)) ending ∧
        ending.scene.tools.length = 1 ∧ ending.exitCode = 130 := by
  have hrequest : Request.ofArguments ["deploy-messaging-contracts"] =
      .run ⟨".env", none, .deploy⟩ := by decide +kernel
  have hanswer (interrupt : Option Nat) :
      answer ["deploy-messaging-contracts"] (failingTool interrupt) =
        run ⟨".env", none, .deploy⟩ (failingTool interrupt) := by
    unfold answer
    rw [hrequest]
  have hstaged (interrupt : Option Nat) :=
    (first_failing_stage_decides hrequest (failingTool interrupt)).1
  let call := Settings.default.deploy.toolCall failingTool.node
  have hpassable : call.isPassable = true := by decide +kernel
  have htools (interrupt : Option Nat) (hlate : interrupt = none ∨ interrupt = some 10) :
      ((Invocation.outcome ⟨".env", none, .deploy⟩ (failingTool interrupt) .default
        ⟨some ⟨failingTool.node, [], ⟨"0x2a"⟩, none⟩, none⟩).map fun end' => end'.2.tools) =
        some [(0, call)] := by
    rcases hlate with rfl | rfl <;> decide +kernel
  have hending (interrupt : Option Nat) (hlate : interrupt = none ∨ interrupt = some 10) :
      ∃ ending, answer ["deploy-messaging-contracts"] (failingTool interrupt) = some ending ∧
        ending.scene.tools = [(0, call)] := by
    obtain ⟨⟨result, scene⟩, houtcome, hscene⟩ := Option.map_eq_some_iff.mp (htools _ hlate)
    rw [hanswer, run_of_reaches (failingTool_reaches interrupt), houtcome]
    exact ⟨_, rfl, Ending.scene_of ▸ hscene⟩
  obtain ⟨alone, halone, htoolsAlone⟩ := hending none (.inl rfl)
  obtain ⟨cut, hcut, htoolsCut⟩ := hending (some 10) (.inr rfl)
  have hmem : (0, call) ∈ [(0, call)] := List.mem_singleton_self _
  have h := hstaged none alone halone
  have h' := hstaged (some 10) cut hcut
  refine ⟨hrequest, ⟨alone, halone, h, ?_⟩, cut, hcut, h', by rw [htoolsCut]; rfl, ?_⟩
  · refine h.tool_exitCode (0, call) (htoolsAlone ▸ hmem) 3 60 _ (if_pos hpassable) ?_
      (by decide) (by decide)
    intro hinterrupted
    obtain ⟨_, _, _, -, hinterrupt, -⟩ := h.interrupted_iff.mp hinterrupted
    cases hinterrupt
  · refine h'.interrupted_exitCode (h'.tool_interrupted (0, call) (htoolsCut ▸ hmem) 10 rfl ?_)
    have htool : (Invocation.toolbox ⟨".env", none, .deploy⟩ (failingTool (some 10))).run call =
        .ended (some 3) 60 _ := if_pos hpassable
    rw [htool]
    exact .inr (by decide)

def nulFile : Surroundings where
  files := (Files.ofTree (.directory [])).withFile ".env" (Text.utf8 "A=\x00\n")
  environment := .empty
  network := Rpc.unreachable
  toolbox _ _ := .ended (some 0) 0 (.ofTree (.directory []))
  interrupt := none

/-- The program stops at once, with another code than the general one and without a report. No tool
was started and nobody interrupted it. -/
theorem nul_in_env_file_ends_with_101 :
    Request.ofArguments ["deploy-messaging-contracts"] = .run ⟨".env", none, .deploy⟩ ∧
      nulFile.interrupt = none ∧ ∃ ending,
        answer ["deploy-messaging-contracts"] nulFile = some ending ∧ ending.scene.tools = [] ∧
        ending.failure = some (.config (.envFile ".env" (.unsettable "A"))) ∧
        ending.exitCode = 101 ∧ ending.report? = none := by
  have hrequest : Request.ofArguments ["deploy-messaging-contracts"] =
      .run ⟨".env", none, .deploy⟩ := by decide +kernel
  have hentry : EnvFile.readEntry .empty "A=\x00".toList = .ok (some ("A", "\x00")) := by
    rw [EnvFile.readEntry_eq_written]
    decide +kernel
  have hloading : Invocation.loading ⟨".env", none, .deploy⟩ nulFile =
      ⟨.empty, .error (.envFile ".env" (.unsettable "A"))⟩ := by
    have hlines : EnvFile.physicalLines (Text.utf8 "A=\x00\n") = [Text.utf8 "A=\x00\n"] := by
      decide +kernel
    have hnext : EnvFile.nextLine [Text.utf8 "A=\x00\n"] .complete [] =
        .ok ("A=\x00".toList, []) := by decide +kernel
    refine (EnvFile.load_withFile_eq_loadBytes _ _ _ _).trans ?_
    rw [EnvFile.loadBytes, hlines, EnvFile.loadLines_of_ok hnext]
    dsimp only [nulFile]
    rw [hentry]
    rfl
  have hconfig : configOf nulFile.files nulFile.environment ⟨".env", none, .deploy⟩ =
      ⟨.empty, .error (.envFile ".env" (.unsettable "A"))⟩ := by
    rw [configOf_of_requirement rfl, hloading]
    rfl
  have hanswer : answer ["deploy-messaging-contracts"] nulFile =
      some (.of .empty .start (.error (.config (.envFile ".env" (.unsettable "A"))))) := by
    have hrun := @run_of_config_error ⟨".env", none, .deploy⟩ nulFile .default _ rfl
      (congrArg Config.Loaded.result hconfig)
    rw [hconfig] at hrun
    unfold answer
    rw [hrequest]
    exact hrun
  exact ⟨hrequest, rfl, _, hanswer, rfl, rfl, rfl, rfl⟩

end Program

end LayerMessaging
