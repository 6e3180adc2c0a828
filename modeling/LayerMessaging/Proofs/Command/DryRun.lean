import LayerMessaging.Proofs.Command.Configured

namespace LayerMessaging

def Program.Action.configFrom (action : Program.Action) (lookup : Config.Lookup) :
    Except ConfigError Config :=
  match action.requirement with
  | some requirement => Config.ofLookup requirement lookup
  | none => .ok .empty

namespace MessageCommand

def action (command : MessageCommand) (dryRun : Bool) : Program.Action :=
  match command with
  | .send name payload => .send name payload dryRun
  | .consume payload => .consume payload dryRun

/-- Builds the configuration that the command requires and runs the command with it. -/
def runFrom (command : MessageCommand) (lookup : Config.Lookup) (network : Rpc.Network)
    (settings : Settings) (dryRun : Bool) : Command Command.Result := do
  let config ← Command.ofConfig ((command.action dryRun).configFrom lookup)
  command.run network settings config dryRun

def messageFrom (command : MessageCommand) (lookup : Config.Lookup) : Except Failure Message :=
  match Config.ofLookup .target lookup with
  | .ok config => command.message config
  | .error error => .error (.config error)

variable (command : MessageCommand) {lookup lookup' : Config.Lookup}

theorem configFrom_dry (lookup : Config.Lookup) :
    (command.action true).configFrom lookup = Config.ofLookup .target lookup := by
  cases command <;> rfl

/-- A dry run shows the message, and leaves nothing behind. -/
theorem runFrom_dry (lookup : Config.Lookup) (network : Rpc.Network) (settings : Settings)
    (scene : Scene) :
    command.runFrom lookup network settings true scene =
      ((command.messageFrom lookup).map .prepared, scene) := by
  unfold runFrom messageFrom
  rw [configFrom_dry]
  cases Config.ofLookup .target lookup with
  | error error => rfl
  | ok config => exact command.run_dry network settings config scene

/-- The message is settled by the texts of the contracts and of the value. -/
theorem messageFrom_congr
    (h : ∀ key ∈ Config.keys .target, lookup key = lookup' key) :
    command.messageFrom lookup = command.messageFrom lookup' := by
  unfold messageFrom
  rw [Config.ofLookup_congr h]

/-- Of two dry runs of a command, with the same texts for the contracts and the value, both show the
same message or both fail with the same error, whatever the other keys, the settings and the nodes
are. Neither makes a call or leaves anything else behind. -/
theorem dry_run_depends_on_contracts_alone
    (hl1 : lookup Config.l1ContractKey = lookup' Config.l1ContractKey)
    (hl2 : lookup Config.l2ContractKey = lookup' Config.l2ContractKey)
    (hvalue : lookup Config.messageValueKey = lookup' Config.messageValueKey) :
    ∃ result : Except Failure Message,
      (∀ network settings scene, command.runFrom lookup network settings true scene =
        (result.map .prepared, scene)) ∧
      ∀ network settings scene, command.runFrom lookup' network settings true scene =
        (result.map .prepared, scene) := by
  have hkeys : ∀ key ∈ Config.keys .target, lookup key = lookup' key := by
    have htarget : Config.keys .target = [Config.l1ContractKey, Config.l2ContractKey,
      Config.l1ContractKey, Config.l2ContractKey, Config.messageValueKey] := rfl
    rw [htarget]
    simp [hl1, hl2, hvalue]
  refine ⟨command.messageFrom lookup, command.runFrom_dry lookup, fun network settings scene => ?_⟩
  rw [command.messageFrom_congr hkeys]
  exact command.runFrom_dry lookup' network settings scene

def crowdedTexts : Config.Lookup := fun key =>
  if key = Config.rpcUrlKey then some "nowhere"
  else if key = Config.chainIdKey then some "-1"
  else if key = Config.failoverUrlsKey then some "http://"
  else if key = Config.privateKeyKey then some "secret"
  else Config.contractTexts key

/-- The texts of the two contracts make a message, which a dry run shows no matter what the other
keys hold. -/
theorem crowded_dry_run_shows_same_message :
    Config.contractTexts Config.l1ContractKey = crowdedTexts Config.l1ContractKey ∧
    Config.contractTexts Config.l2ContractKey = crowdedTexts Config.l2ContractKey ∧
    Config.contractTexts Config.messageValueKey = crowdedTexts Config.messageValueKey ∧
    ∃ message : Message,
      (∀ network settings scene,
        (consume ⟨[]⟩).runFrom Config.contractTexts network settings true scene =
          (.ok (.prepared message), scene)) ∧
      ∀ network settings scene,
        (consume ⟨[]⟩).runFrom crowdedTexts network settings true scene =
          (.ok (.prepared message), scene) := by
  refine ⟨rfl, rfl, rfl, ?_⟩
  obtain ⟨result, hresult, hresult'⟩ := @dry_run_depends_on_contracts_alone (consume ⟨[]⟩)
    Config.contractTexts crowdedTexts rfl rfl rfl
  have hsome : ((consume ⟨[]⟩).messageFrom Config.contractTexts).toBool = true := by decide +kernel
  have hshown := (consume ⟨[]⟩).runFrom_dry Config.contractTexts Rpc.unreachable .default .start
  rw [hresult] at hshown
  cases hmessage : (consume ⟨[]⟩).messageFrom Config.contractTexts with
  | error failure =>
    rw [hmessage] at hsome
    cases hsome
  | ok message =>
    rw [hmessage] at hshown
    cases result with
    | error failure => cases hshown
    | ok message' => exact ⟨message', hresult, hresult'⟩

end MessageCommand

end LayerMessaging
