import LayerMessaging.Program.Run
import LayerMessaging.Proofs.Command.Deployment

namespace LayerMessaging

open Rpc

/-- A failure to which neither the env file nor the tool nor the user has led. -/
def Failure.IsOrdinary : Failure → Prop
  | .config (.envFile _ _) => False
  | .deploy _ => False
  | .interrupted => False
  | _ => True

namespace Command

variable {α β : Type}

/-- A command that leaves the tool alone, and whose failures are ordinary. -/
structure WithoutTool (command : Command α) : Prop where
  tools_eq : ∀ scene, (command.run scene).2.tools = scene.tools
  isOrdinary : ∀ scene failure, (command.run scene).1 = .error failure → failure.IsOrdinary

namespace WithoutTool

theorem ok (a : α) : WithoutTool (pure a : Command α) where
  tools_eq _ := rfl
  isOrdinary _ _ h := by cases h

theorem error {failure : Failure} (hfailure : failure.IsOrdinary) :
    WithoutTool (throw failure : Command α) where
  tools_eq _ := rfl
  isOrdinary _ _ h := by
    cases h
    exact hfailure

theorem ofConfig {result : Except ConfigError α}
    (hresult : ∀ e, result = .error e → (Failure.config e).IsOrdinary) :
    WithoutTool (Command.ofConfig result) := by
  cases result with
  | ok a => exact .ok a
  | error e => exact .error (hresult e rfl)

theorem ofRun {fail : ChainError → Failure} (run : Run α) (hfail : ∀ e, (fail e).IsOrdinary) :
    WithoutTool (Command.ofRun fail run) where
  tools_eq _ := rfl
  isOrdinary scene failure h := by
    change (run.run scene.world).1.mapError fail = .error failure at h
    cases hresult : (run.run scene.world).1 with
    | ok a =>
      rw [hresult] at h
      cases h
    | error e =>
      rw [hresult] at h
      cases h
      exact hfail e

theorem bind {command : Command α} {f : α → Command β} (h : WithoutTool command)
    (hf : ∀ a, WithoutTool (f a)) : WithoutTool (command >>= f) where
  tools_eq scene := by
    have htools := h.tools_eq scene
    rcases hrun : command.run scene with ⟨_ | a, scene'⟩ <;> rw [hrun] at htools
    · rw [run_bind_of_error hrun, htools]
    · rw [run_bind_of_ok hrun, (hf a).tools_eq, htools]
  isOrdinary scene failure hfailure := by
    rcases error_inv_of_bind hfailure with hfirst | ⟨a, scene', -, hsecond⟩
    · exact h.isOrdinary scene failure hfirst
    · exact (hf a).isOrdinary scene' failure hsecond

end WithoutTool

theorem isOrdinary_of_requireEndpoint {config : Config} {e : ConfigError}
    (h : config.requireEndpoint = .error e) : (Failure.config e).IsOrdinary := by
  unfold Config.requireEndpoint at h
  split at h <;> cases h
  exact trivial

theorem isOrdinary_of_requireTarget {config : Config} {e : ConfigError}
    (h : config.requireTarget = .error e) : (Failure.config e).IsOrdinary := by
  unfold Config.requireTarget at h
  split at h <;> cases h
  exact trivial

section Messages

variable (network : Network) (settings : Settings) (config : Config)

theorem withoutTool_submit (message : Message) :
    WithoutTool (submit network settings config message) := by
  refine .bind (.ofConfig fun e h => isOrdinary_of_requireEndpoint h) fun endpoint => ?_
  refine .bind (.ofRun _ fun _ => trivial) fun submitter => ?_
  exact .ofRun _ fun _ => trivial

theorem withoutTool_finish (message : Message) (dryRun : Bool) :
    WithoutTool (finish network settings config message dryRun) := by
  cases dryRun with
  | true => exact .ok _
  | false => exact .bind (withoutTool_submit network settings config message) fun _ => .ok _

theorem withoutTool_send (name : String) (payload : Payload) (dryRun : Bool) :
    WithoutTool (send network settings config name payload dryRun) := by
  refine .bind (.ofConfig fun e h => isOrdinary_of_requireTarget h) fun target => ?_
  cases Message.toSend target name payload with
  | error fault => exact .error trivial
  | ok message => exact withoutTool_finish network settings config message dryRun

theorem withoutTool_consume (payload : Payload) (dryRun : Bool) :
    WithoutTool (consume network settings config payload dryRun) :=
  .bind (.ofConfig fun _ h => isOrdinary_of_requireTarget h) fun _ =>
    withoutTool_finish network settings config _ dryRun

end Messages

/-- What a command did with the tool. -/
structure ToolUse (toolbox : Toolbox) (result : Except Failure (Option α)) (scene : Scene) :
    Prop where
  /-- No time passes behind the tool. -/
  ends : ∀ start ∈ scene.tools, start.1 + (toolbox.run start.2).seconds = scene.world.now
  toolFailed_iff : ∀ code ≠ 0,
    (∃ tool, result = .error (.deploy (.toolFailed tool (some code)))) ↔
      ∃ start ∈ scene.tools, ∃ seconds files,
        toolbox.run start.2 = .ended (some code) seconds files
  /-- A command is left open by a tool that never ends, and by nothing else. -/
  endless_iff : result = .ok none ↔ ∃ start ∈ scene.tools, toolbox.run start.2 = .endless
  ne_interrupted : result ≠ .error .interrupted
  ne_envFile : ∀ path cause, result ≠ .error (.config (.envFile path cause))

/-- What is made of a result does not count. -/
theorem ToolUse.map {toolbox : Toolbox} {result : Except Failure (Option α)} {scene : Scene}
    (h : ToolUse toolbox result scene) (f : α → β) :
    ToolUse toolbox (result.map (Option.map f)) scene := by
  have herror (failure : Failure) :
      result.map (Option.map f) = .error failure ↔ result = .error failure := by
    cases result <;> simp [Except.map]
  have hopen : result.map (Option.map f) = .ok none ↔ result = .ok none := by
    cases result <;> simp [Except.map]
  constructor
  · exact h.ends
  · simpa only [herror] using h.toolFailed_iff
  · simpa only [hopen] using h.endless_iff
  · simpa only [ne_eq, herror] using h.ne_interrupted
  · simpa only [ne_eq, herror] using h.ne_envFile

theorem ToolUse.of_isOrdinary {toolbox : Toolbox} {result : Except Failure (Option α)}
    {scene : Scene} (htools : scene.tools = []) (hresult : result ≠ .ok none)
    (h : ∀ failure, result = .error failure → failure.IsOrdinary) :
    ToolUse toolbox result scene where
  ends := by simp [htools]
  toolFailed_iff code _ := by
    rw [htools]
    exact ⟨fun ⟨_, hresult⟩ => (h _ hresult).elim, nofun⟩
  endless_iff := by simpa [htools] using hresult
  ne_interrupted hresult := h _ hresult
  ne_envFile _ _ hresult := h _ hresult

theorem WithoutTool.toolUse {command : Command α} (h : WithoutTool command) (f : α → β)
    (toolbox : Toolbox) {scene : Scene} (htools : scene.tools = []) :
    ToolUse toolbox ((command >>= fun a => pure (some (f a))).run scene).1
      ((command >>= fun a => pure (some (f a))).run scene).2 := by
  have hbound := h.bind fun a => .ok (some (f a))
  refine .of_isOrdinary (by rw [hbound.tools_eq, htools]) ?_ (hbound.isOrdinary scene)
  rcases hrun : command.run scene with ⟨failure | a, scene'⟩
  · rw [run_bind_of_error hrun]
    intro hopen
    cases hopen
  · rw [run_bind_of_ok hrun]
    intro hopen
    cases hopen

/-- Reading the record fails for the record, or for the contract that is looked for in it. -/
theorem readReport_ne_toolFailed (settings : DeploySettings) (files : Files) (chainId : Nat)
    (tool : String) (code : Option Int) :
    settings.readReport files chainId ≠ .error (.toolFailed tool code) := by
  intro h
  unfold DeploySettings.readReport at h
  dsimp only at h
  cases hload : Artifact.load files (settings.artifactPath chainId) with
  | error e =>
    rw [hload] at h
    cases h
    unfold Artifact.load at hload
    split at hload
    · cases hload
    · split at hload <;> cases hload
  | ok artifact =>
    rw [hload] at h
    change artifact.report settings.contractName (settings.artifactPath chainId) = _ at h
    unfold Artifact.report at h
    split at h <;> cases h

section Deployments

variable {network : Network} {toolbox : Toolbox} {settings : Settings} {config : Config}
  {endpoint : Endpoint} {es : List Exchange} {calls : List ToolCall}
  {result : Except Failure (Option DeploymentReport)}

/-- Behind the tool a deployment fails with the code of the tool, unless that is zero. -/
theorem reported_toolFailed_iff {settings : DeploySettings} {chainId : Nat} {run : ToolRun}
    {code : Int} (hcode : code ≠ 0) :
    (∃ tool, reported settings chainId run =
      .error (.deploy (.toolFailed tool (some code)))) ↔
      ∃ seconds files, run = .ended (some code) seconds files := by
  unfold reported
  cases run with
  | notStarted cause => simp [DeploySettings.outcome, Except.mapError]
  | endless => simp [DeploySettings.outcome, Except.mapError]
  | ended actual seconds files =>
    by_cases hactual : actual = some 0
    · subst hactual
      rw [DeploySettings.outcome_ended_zero]
      have hread := readReport_ne_toolFailed settings files chainId
      cases hresult : settings.readReport files chainId with
      | ok report => simp [Except.map, Except.mapError, hcode.symm]
      | error e =>
        have hne (tool : String) : e ≠ .toolFailed tool (some code) :=
          fun h => hread tool (some code) (hresult.trans (congrArg Except.error h))
        simp [Except.map, Except.mapError, hne, hcode.symm]
    · rw [DeploySettings.outcome_ended hactual]
      simp [Except.mapError]

theorem reported_error_inv {settings : DeploySettings} {chainId : Nat} {run : ToolRun}
    {failure : Failure} (h : reported settings chainId run = .error failure) :
    ∃ error, failure = .deploy error := by
  unfold reported at h
  cases houtcome : settings.outcome chainId run <;> rw [houtcome] at h <;> cases h
  exact ⟨_, rfl⟩

theorem Deployment.toolFailed_iff
    (h : Deployment network toolbox settings config endpoint es calls result) {code : Int}
    (hcode : code ≠ 0) :
    (∃ tool, result = .error (.deploy (.toolFailed tool (some code)))) ↔
      ∃ call ∈ calls, ∃ seconds files, toolbox.run call = .ended (some code) seconds files := by
  cases h with
  | noClient | otherChain => simp
  | run => simp [reported_toolFailed_iff hcode]

/-- A deployment that has an endpoint fails for the chain or for the tool and its record. -/
theorem Deployment.error_inv {failure : Failure}
    (h : Deployment network toolbox settings config endpoint es calls (.error failure)) :
    (∃ error, failure = .chain error) ∨ ∃ error, failure = .deploy error := by
  generalize hresult : Except.error failure = result at h
  cases h with
  | noClient | otherChain =>
    cases hresult
    exact .inl ⟨_, rfl⟩
  | run => exact .inr (reported_error_inv hresult.symm)

end Deployments

/-- A deployment that starts the tool at all goes through it last. -/
theorem deploy_toolUse (network : Network) (toolbox : Toolbox) (settings : Settings)
    (config : Config) {scene : Scene} (htools : scene.tools = []) :
    ToolUse toolbox ((deploy network toolbox settings config).run scene).1
      ((deploy network toolbox settings config).run scene).2 := by
  cases hendpoint : config.requireEndpoint with
  | error e =>
    have hrun : (deploy network toolbox settings config).run scene =
        (.error (.config e), scene) := by
      unfold deploy
      rw [hendpoint]
      rfl
    rw [hrun]
    refine .of_isOrdinary htools nofun fun failure h => ?_
    cases h
    exact isOrdinary_of_requireEndpoint hendpoint
  | ok endpoint =>
    obtain ⟨es, starts, result, scene', hrun, -, hstarts, hlast, h⟩ :=
      Deployment.exists_run network toolbox settings hendpoint scene
    rw [htools, List.nil_append] at hstarts
    rw [hrun]
    constructor
    · exact fun start hstart => hlast start (hstarts ▸ hstart)
    · intro code hcode
      dsimp only
      rw [h.toolFailed_iff hcode, hstarts]
      simp only [List.mem_map, exists_exists_and_eq_and]
    · dsimp only
      rw [h.endless_iff, hstarts]
    · rintro rfl
      rcases h.error_inv with ⟨_, h⟩ | ⟨_, h⟩ <;> cases h
    · rintro path cause rfl
      rcases h.error_inv with ⟨_, h⟩ | ⟨_, h⟩ <;> cases h

end Command

theorem Program.perform_toolUse (network : Network) (toolbox : Toolbox) (settings : Settings)
    (config : Config) (action : Action) :
    Command.ToolUse toolbox ((perform network toolbox settings config action).run .start).1
      ((perform network toolbox settings config action).run .start).2 := by
  have htools : Scene.start.tools = [] := rfl
  cases action with
  | deploy =>
    have h := Command.deploy_toolUse network toolbox settings config htools
    rcases hrun : (Command.deploy network toolbox settings config).run .start with ⟨result, scene⟩
    have hperform : (perform network toolbox settings config .deploy).run .start =
        (result.map (Option.map fun report => line report.json.pretty), scene) := by
      unfold perform
      cases result with
      | error failure => exact run_bind_of_error hrun
      | ok report? => exact run_bind_of_ok hrun
    rw [hrun] at h
    rw [hperform]
    exact h.map _
  | send name payload dryRun =>
    have h := Command.withoutTool_send network settings config name payload dryRun
    exact h.toolUse _ toolbox htools
  | consume payload dryRun =>
    have h := Command.withoutTool_consume network settings config payload dryRun
    exact h.toolUse _ toolbox htools
  | selector name =>
    unfold perform
    dsimp only
    cases Selector.ofName name with
    | ok selector => exact .of_isOrdinary htools nofun nofun
    | error fault =>
      refine .of_isOrdinary htools nofun fun failure h => ?_
      cases h
      exact trivial
  | usage => exact .of_isOrdinary htools nofun nofun

end LayerMessaging
