import LayerMessaging.Program.Run
import LayerMessaging.Proofs.Command.LiveRun
import LayerMessaging.Proofs.Config.Resolution

namespace LayerMessaging

namespace Command

variable {α β : Type}

/-- Whatever the scene, the command reports no fault of the configuration. -/
def IsConfigured (command : Command α) : Prop :=
  ∀ scene error, (command.run scene).1 ≠ .error (.config error)

namespace IsConfigured

theorem pure (a : α) : IsConfigured (Pure.pure a) := by
  rintro scene error ⟨⟩

theorem throw {failure : Failure} (h : ∀ error, failure ≠ .config error) :
    IsConfigured (throw failure : Command α) := by
  intro scene error heq
  exact h error (Except.error.inj heq)

theorem bind {command : Command α} {f : α → Command β} (hcommand : IsConfigured command)
    (hf : ∀ a, IsConfigured (f a)) : IsConfigured (command >>= f) := by
  intro scene error h
  rcases error_inv_of_bind h with hfirst | ⟨a, scene', -, hsecond⟩
  · exact hcommand scene error hfirst
  · exact hf a scene' error hsecond

theorem attempt (run : Rpc.Run α) : IsConfigured (attempt run) := by
  rintro scene error ⟨⟩

theorem startTool (toolbox : Toolbox) (call : ToolCall) :
    IsConfigured (startTool toolbox call) := by
  rintro scene error ⟨⟩

theorem ofRun {fail : ChainError → Failure} (h : ∀ e error, fail e ≠ .config error)
    (run : Rpc.Run α) : IsConfigured (ofRun fail run) := by
  intro scene error heq
  change (run scene.world).1.mapError fail = _ at heq
  cases hrun : (run scene.world).1 with
  | ok a =>
    rw [hrun] at heq
    cases heq
  | error e =>
    rw [hrun] at heq
    exact h e error (Except.error.inj heq)

theorem ofConfig_bind {result : Except ConfigError α} {f : α → Command β}
    (hresult : ∃ a, result = .ok a) (hf : ∀ a, IsConfigured (f a)) :
    IsConfigured (ofConfig result >>= f) := by
  obtain ⟨a, rfl⟩ := hresult
  exact hf a

end IsConfigured

variable (network : Rpc.Network) (settings : Settings) {config : Config}

theorem isConfigured_deploymentChain (settings : ChainSettings) (client : Rpc.Client) :
    IsConfigured (deploymentChain network settings client) := by
  refine .bind (.attempt _) fun result => ?_
  cases result with
  | ok chainId => exact .pure chainId
  | error error =>
    cases error with
    | chainMismatch => exact .throw fun _ => nofun
    | _ => exact .pure _

theorem isConfigured_deploy (toolbox : Toolbox)
    (h : ∃ endpoint, config.requireEndpoint = .ok endpoint) :
    IsConfigured (deploy network toolbox settings config) := by
  unfold deploy
  refine .ofConfig_bind h fun endpoint => ?_
  refine .bind (.ofRun (by rintro _ _ ⟨⟩) _) fun client => ?_
  refine .bind (isConfigured_deploymentChain network _ client) fun chainId => ?_
  refine .bind (.startTool toolbox _) fun run => ?_
  cases settings.deploy.outcome chainId run with
  | ok report? => exact .pure report?
  | error error => exact .throw fun _ => nofun

theorem isConfigured_submit (h : ∃ endpoint, config.requireEndpoint = .ok endpoint)
    (message : Message) : IsConfigured (submit network settings config message) := by
  unfold submit
  refine .ofConfig_bind h fun endpoint => ?_
  exact .bind (.ofRun (by rintro _ _ ⟨⟩) _) fun submitter => .ofRun (by rintro _ _ ⟨⟩) _

/-- Only a live run needs the endpoint. -/
theorem isConfigured_finish {dryRun : Bool}
    (h : dryRun = false → ∃ endpoint, config.requireEndpoint = .ok endpoint) (message : Message) :
    IsConfigured (finish network settings config message dryRun) := by
  cases dryRun with
  | true => exact .pure _
  | false => exact .bind (isConfigured_submit network settings (h rfl) message) fun _ => .pure _

theorem isConfigured_message (command : MessageCommand) {dryRun : Bool}
    (htarget : ∃ target, config.requireTarget = .ok target)
    (hendpoint : dryRun = false → ∃ endpoint, config.requireEndpoint = .ok endpoint) :
    IsConfigured (command.run network settings config dryRun) := by
  have hfinish := isConfigured_finish network settings hendpoint
  cases command with
  | send name payload =>
    unfold MessageCommand.run send
    refine .ofConfig_bind htarget fun target => ?_
    split
    · exact .throw fun _ => nofun
    · exact hfinish _
  | consume payload =>
    unfold MessageCommand.run consume
    exact .ofConfig_bind htarget fun target => hfinish _

end Command

namespace Config

variable {config : Config} {requirement : Requirement} {lookup : Lookup}

theorem Names.exists_endpoint (h : config.Names requirement lookup)
    (hneeded : requirement.needsEndpoint = true) :
    ∃ endpoint, config.requireEndpoint = .ok endpoint := by
  obtain ⟨endpoint, hendpoint⟩ := Option.isSome_iff_exists.mp (h.endpoint_isSome.trans hneeded)
  refine ⟨endpoint, ?_⟩
  unfold requireEndpoint
  rw [hendpoint]

theorem Names.exists_target (h : config.Names requirement lookup)
    (hneeded : requirement.needsTarget = true) :
    ∃ target, config.requireTarget = .ok target := by
  obtain ⟨target, htarget⟩ := Option.isSome_iff_exists.mp (h.target_isSome.trans hneeded)
  refine ⟨target, ?_⟩
  unfold requireTarget
  rw [htarget]

/-- An action with the configuration it requires. -/
theorem Names.isConfigured_perform (h : config.Names requirement lookup)
    (network : Rpc.Network) (toolbox : Toolbox) (settings : Settings) {action : Program.Action}
    (haction : action.requirement = some requirement) :
    Command.IsConfigured (Program.perform network toolbox settings config action) := by
  have message_configured (command : MessageCommand) (dryRun : Bool)
      (hrequirement : requirement = if dryRun then .target else .endpointAndTarget) :
      Command.IsConfigured (command.run network settings config dryRun) := by
    subst hrequirement
    refine Command.isConfigured_message network settings command (h.exists_target ?_)
      fun hlive => ?_
    · cases dryRun <;> rfl
    · subst hlive
      exact h.exists_endpoint rfl
  cases action with
  | deploy =>
    cases haction
    have hendpoint := h.exists_endpoint rfl
    exact .bind (Command.isConfigured_deploy network settings toolbox hendpoint) fun _ => .pure _
  | send name payload dryRun =>
    have hsend := message_configured (.send name payload) dryRun (Option.some.inj haction).symm
    exact .bind hsend fun _ => .pure _
  | consume payload dryRun =>
    have hconsume := message_configured (.consume payload) dryRun (Option.some.inj haction).symm
    exact .bind hconsume fun _ => .pure _
  | selector | usage => cases haction

/-- Resolving a configuration reports the blank keys that are required, all of them and in order. If
there is none it reports the first key with a malformed text, and without one it comes to the parts
that are required, with what the texts mean. An action with the configuration that it requires
reports no fault of the configuration. -/
theorem resolves_in_order (requirement : Requirement) (lookup : Lookup) :
    (∀ keys, ofLookup requirement lookup = .error (.missingKeys keys) ↔
      keys ≠ [] ∧ keys = blankKeys requirement lookup) ∧
    (∀ key, (∃ reason, ofLookup requirement lookup = .error (.invalidValue key reason)) ↔
      blankKeys requirement lookup = [] ∧ firstMalformed? requirement lookup = some key) ∧
    ((∃ config, ofLookup requirement lookup = .ok config) ↔
      blankKeys requirement lookup = [] ∧ firstMalformed? requirement lookup = none) ∧
    (∀ config, ofLookup requirement lookup = .ok config →
      config.Names requirement lookup ∧
      ∀ action network toolbox settings scene error,
        Program.Action.requirement action = some requirement →
        (Program.perform network toolbox settings config action scene).1 ≠
          .error (.config error)) := by
  have hresolution := resolution_ofLookup requirement lookup
  generalize ofLookup requirement lookup = result at hresolution
  cases hresolution with
  | missing hblank =>
    refine ⟨fun keys => ⟨?_, ?_⟩, fun key => ⟨?_, ?_⟩, ⟨?_, ?_⟩, ?_⟩
    · rintro ⟨⟩
      exact ⟨hblank, rfl⟩
    · rintro ⟨-, rfl⟩
      rfl
    · rintro ⟨reason, ⟨⟩⟩
    · exact fun h => (hblank h.1).elim
    · rintro ⟨config, ⟨⟩⟩
    · exact fun h => (hblank h.1).elim
    · rintro config ⟨⟩
  | @malformed key' reason' hblank hfirst =>
    refine ⟨fun keys => ⟨nofun, ?_⟩, fun key => ⟨?_, ?_⟩, ⟨?_, ?_⟩, ?_⟩
    · rintro ⟨hne, rfl⟩
      exact (hne hblank).elim
    · rintro ⟨reason, ⟨⟩⟩
      exact ⟨hblank, hfirst⟩
    · rintro ⟨-, hkey⟩
      cases hfirst.symm.trans hkey
      exact ⟨reason', rfl⟩
    · rintro ⟨config, ⟨⟩⟩
    · rintro ⟨-, hwell⟩
      cases hfirst.symm.trans hwell
    · rintro config ⟨⟩
  | @resolved config hblank hwell hnames =>
    refine ⟨fun keys => ⟨nofun, ?_⟩, fun key => ⟨?_, ?_⟩, ⟨fun _ => ⟨hblank, hwell⟩, ?_⟩, ?_⟩
    · rintro ⟨hne, rfl⟩
      exact (hne hblank).elim
    · rintro ⟨reason, ⟨⟩⟩
    · rintro ⟨-, hkey⟩
      cases hwell.symm.trans hkey
    · exact fun _ => ⟨config, rfl⟩
    · rintro _ ⟨⟩
      refine ⟨hnames, fun action network toolbox settings scene error haction => ?_⟩
      exact hnames.isConfigured_perform network toolbox settings haction scene error

def contractTexts : Lookup := fun key =>
  if key = l1ContractKey then some "0xde29d060D45901Fb19ED6C6e959EB22d8626708e"
  else if key = l2ContractKey then some "0x2a"
  else none

/-- The two contracts are enough for a dry run, which then reports no fault of the configuration,
and a live run asks for what else it requires. -/
theorem contractTexts_suffice_for_dry_run :
    ofLookup .endpointAndTarget contractTexts =
      .error (.missingKeys ["ETH_RPC_URL", "ACCOUNT_PRIVATE_KEY"]) ∧
    ∃ config, ofLookup .target contractTexts = .ok config ∧
      config.Names .target contractTexts ∧
      ∀ network toolbox settings scene error,
        (Program.perform network toolbox settings config (.consume ⟨[]⟩ true) scene).1 ≠
          .error (.config error) := by
  obtain ⟨hmissing, -⟩ := resolves_in_order .endpointAndTarget contractTexts
  obtain ⟨-, -, hresolved, hnamed⟩ := resolves_in_order .target contractTexts
  refine ⟨(hmissing _).mpr ⟨by decide, by decide +kernel⟩, ?_⟩
  obtain ⟨config, hconfig⟩ := hresolved.mpr ⟨by decide +kernel, by decide +kernel⟩
  obtain ⟨hnames, hconfigured⟩ := hnamed config hconfig
  exact ⟨config, hconfig, hnames, fun network toolbox settings scene error =>
    hconfigured (.consume ⟨[]⟩ true) network toolbox settings scene error rfl⟩

end Config

end LayerMessaging
