import LayerMessaging.Command
import LayerMessaging.Config.Description

namespace LayerMessaging

def Endpoint.withKey (endpoint : Endpoint) (key : KeyText) : Endpoint :=
  { endpoint with privateKey := key }

namespace Config

def withKey (config : Config) (key : KeyText) : Config :=
  { config with endpoint := config.endpoint.map (·.withKey key) }

/-- The configurations are the same once they are given the same key, whichever it is. -/
def SameButKey (a b : Config) : Prop := ∀ key, a.withKey key = b.withKey key

variable {a b : Config} (config : Config) (key : KeyText)

theorem withKey_withKey (key' : KeyText) :
    (config.withKey key).withKey key' = config.withKey key' := by
  unfold withKey
  cases config.endpoint <;> rfl

theorem sameButKey_withKey (key' : KeyText) :
    SameButKey (config.withKey key) (config.withKey key') := by
  intro other
  rw [withKey_withKey, withKey_withKey]

theorem shown_withKey : (config.withKey key).shown = config.shown := by
  unfold withKey shown
  cases config.endpoint <;> rfl

theorem applyTo_withKey (settings : ChainSettings) :
    (config.withKey key).applyTo settings = config.applyTo settings := by
  unfold withKey applyTo
  cases config.endpoint <;> rfl

theorem requireEndpoint_withKey :
    (config.withKey key).requireEndpoint = config.requireEndpoint.map (·.withKey key) := by
  unfold withKey requireEndpoint
  cases config.endpoint <;> rfl

end Config

namespace Command

/-- What a command goes on with after it asked for the endpoint, if that needs no key. -/
theorem ofConfig_map_bind {α β γ : Type} (result : Except ConfigError α) (f : α → β)
    (g : β → Command γ) : ofConfig (result.map f) >>= g = ofConfig result >>= fun a => g (f a) := by
  cases result <;> rfl

theorem deploy_withKey (network : Rpc.Network) (toolbox : Toolbox) (settings : Settings)
    (config : Config) (key : KeyText) :
    deploy network toolbox settings (config.withKey key) =
      deploy network toolbox settings config := by
  unfold deploy
  rw [Config.requireEndpoint_withKey, ofConfig_map_bind]
  simp only [Config.applyTo_withKey]
  rfl

/-- Whatever the two keys are, the configurations describe themselves alike, and a deployment makes
the same requests, starts the tool alike and comes to the same report or the same failure. -/
theorem deployment_ignores_key {a b : Config} (h : a.SameButKey b) :
    a.shown = b.shown ∧
      ∀ (network : Rpc.Network) (toolbox : Toolbox) (settings : Settings) (scene : Scene),
        (deploy network toolbox settings a).run scene =
          (deploy network toolbox settings b).run scene := by
  have hsame := h ⟨""⟩
  constructor
  · rw [← a.shown_withKey ⟨""⟩, hsame, b.shown_withKey]
  · intro network toolbox settings scene
    rw [← deploy_withKey network toolbox settings a ⟨""⟩, hsame, deploy_withKey]

/-- A key and a text that is none, with no node in reach and a tool that fails. -/
theorem malformed_key_deploys_alike :
    let node : Url :=
      ⟨"http", some ⟨"", none, some (.name "localhost"), some 8545⟩, "/", none, none⟩
    let a : Config := ⟨some ⟨node, [], ⟨"0x2a"⟩, none⟩, none⟩
    let b : Config := ⟨some ⟨node, [], ⟨"none\n"⟩, none⟩, none⟩
    let toolbox : Toolbox := fun _ =>
      .ended (some 3) 60 ⟨fun _ => .error .notFound, fun _ => false⟩
    a ≠ b ∧ a.SameButKey b ∧ a.shown = b.shown ∧
      (deploy Rpc.unreachable toolbox Settings.default a).run .start =
        (deploy Rpc.unreachable toolbox Settings.default b).run .start := by
  intro node a b toolbox
  have h : a.SameButKey b := @Config.sameButKey_withKey a ⟨"0x2a"⟩ ⟨"none\n"⟩
  obtain ⟨hshown, hdeploy⟩ := deployment_ignores_key h
  exact ⟨by decide, h, hshown, hdeploy Rpc.unreachable toolbox Settings.default .start⟩

end Command

end LayerMessaging
