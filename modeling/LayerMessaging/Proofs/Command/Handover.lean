import LayerMessaging.Proofs.Command.LiveRun
import LayerMessaging.Proofs.Submission.Handover

namespace LayerMessaging

open Rpc

/-- The results that say that a transaction was handed over. -/
def SaysHandedOver : Except Failure Command.Result → Prop
  | .ok (.submitted _) => True
  | .error (.messaging (.chain (.timeout _))) => True
  | .error (.messaging (.chain (.reverted _))) => True
  | .error (.messaging (.chain (.confirmationTimeout _))) => True
  | _ => False

def SaysNotHandedOver : Except Failure Command.Result → Prop
  | .error (.config _) => True
  | .error (.messaging (.invalidSelectorName ..)) => True
  | .error (.messaging (.chain (.gasPriceTooHigh ..))) => True
  | .error (.chain _) => True
  | _ => False

namespace MessageCommand

variable {command : MessageCommand} {network : Network} {settings : Settings} {config : Config}
  {es : List Exchange} {result : Except Failure Command.Result}

theorem messageTo_error_inv {target : Target} {failure : Failure}
    (h : command.messageTo target = .error failure) :
    ∃ name fault, failure = .messaging (.invalidSelectorName name fault) := by
  cases command with
  | send name payload =>
    simp only [messageTo] at h
    cases hsend : Message.toSend target name payload <;> rw [hsend] at h <;> cases h
    exact ⟨_, _, rfl⟩
  | consume payload => cases h

theorem message_error_inv {failure : Failure} (h : command.message config = .error failure) :
    (∃ error, failure = .config error) ∨
      ∃ name fault, failure = .messaging (.invalidSelectorName name fault) := by
  unfold message at h
  split at h
  · cases h
    exact .inl ⟨_, rfl⟩
  · exact .inr (messageTo_error_inv h)

/-- What a live run says of the handover is so. -/
theorem LiveRun.handovers_cases (h : command.LiveRun network settings config es result) :
    (handovers es = [] ∧ ¬SaysHandedOver result) ∨
      ((∃ e url, handovers es = [e] ∧ e.provider = ⟨0, url⟩ ∧
        Url.parse (config.applyTo settings.chain).rpcUrl = .ok url) ∧
        ¬SaysNotHandedOver result) := by
  cases h with
  | unprepared h =>
    refine .inl ⟨rfl, ?_⟩
    rcases message_error_inv h with ⟨_, rfl⟩ | ⟨_, _, rfl⟩ <;> exact id
  | prepared _ h =>
    cases h with
    | noEndpoint => exact .inl ⟨rfl, id⟩
    | notConnected _ h => exact .inl ⟨h.handovers_eq, id⟩
    | @connected _ _ _ _ outcome _ hconnected h =>
      rw [handovers_append, hconnected.handovers_eq, List.nil_append]
      rcases h.handovers_cases with ⟨hnil, error, rfl, hbefore⟩ | ⟨⟨e, he, hprovider⟩, hbehind⟩
      · refine .inl ⟨hnil, ?_⟩
        cases error <;> first | exact id | exact hbefore.elim
      · cases hconnected with
        | connected _ hclient _ =>
          obtain ⟨-, url, hurl, hprimary⟩ := Client.ofSettings_inv hclient
          refine .inr ⟨⟨e, url, he, hprovider.trans hprimary, hurl⟩, ?_⟩
          cases outcome with
          | ok submission => exact id
          | error error =>
            have hbehind := hbehind error rfl
            cases error <;> first | exact id | exact hbehind.elim

/-- A failure that is not about the message is about the key, a node or the chain. -/
theorem LiveRun.chain_error_inv {error : ChainError}
    (h : command.LiveRun network settings config es (.error (.chain error))) :
    (∃ text, error = .wallet text) ∨ (∃ text, error = .rpc text) ∨
      ∃ expected actual, error = .chainMismatch expected actual := by
  generalize hr : Except.error (Failure.chain error) = result at h
  cases h with
  | unprepared h =>
    cases hr
    rcases message_error_inv h with ⟨_, h⟩ | ⟨_, _, h⟩ <;> cases h
  | prepared _ h =>
    cases h with
    | noEndpoint => cases hr
    | notConnected _ h =>
      cases hr
      exact h.error_inv
    | @connected _ _ _ _ outcome => cases outcome <;> cases hr

/-- A live run tries once at most to hand a transaction over, and only to the first node. It does
when the result says so and does not when the result says that, and a failure that is not about the
message is about the key, a node or the chain. -/
theorem live_run_hands_over_once (command : MessageCommand) (network : Network)
    (settings : Settings) (config : Config) :
    Leaves (command.run network settings config false).run fun es result =>
      (handovers es).length ≤ 1 ∧
      (∀ e ∈ handovers es, ∃ url,
        Url.parse (config.applyTo settings.chain).rpcUrl = .ok url ∧ e.provider = ⟨0, url⟩) ∧
      (SaysHandedOver result → (handovers es).length = 1) ∧
      (SaysNotHandedOver result → (handovers es).length = 0) ∧
      (∀ error, result = .error (.chain error) →
        (∃ text, error = .wallet text) ∨ (∃ text, error = .rpc text) ∨
          ∃ expected actual, error = .chainMismatch expected actual) := by
  refine (command.leaves_run_live network settings config).mono fun es result h => ?_
  have hchain : ∀ error, result = .error (.chain error) →
      (∃ text, error = .wallet text) ∨ (∃ text, error = .rpc text) ∨
        ∃ expected actual, error = .chainMismatch expected actual := by
    rintro error rfl
    exact h.chain_error_inv
  rcases h.handovers_cases with ⟨hnil, hsaid⟩ | ⟨⟨e, url, he, hprovider, hurl⟩, hsaid⟩
  · refine ⟨?_, ?_, fun h => (hsaid h).elim, fun _ => ?_, hchain⟩ <;> simp [hnil]
  · refine ⟨?_, ?_, fun _ => ?_, fun h => (hsaid h).elim, hchain⟩
    · simp [he]
    · rw [he]
      intro e' he'
      rw [List.mem_singleton.mp he']
      exact ⟨url, hurl, hprovider⟩
    · simp [he]

end MessageCommand

end LayerMessaging
