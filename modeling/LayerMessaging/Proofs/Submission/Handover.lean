import LayerMessaging.Proofs.Submission.Course

namespace LayerMessaging

open Rpc

def Rpc.Call.handsOver : Call → Bool
  | .sendRawTransaction _ => true
  | _ => false

def handovers (es : List Exchange) : List Exchange := es.filter (·.call.handsOver)

/-- The failures that can come before anything is handed over. -/
def ChainError.Before : ChainError → Prop
  | .rpc _ | .wallet _ | .gasPriceTooHigh .. => True
  | _ => False

/-- The failures that can come behind an attempt to hand something over. -/
def ChainError.Behind : ChainError → Prop
  | .rpc _ | .timeout _ | .reverted _ | .confirmationTimeout _ => True
  | _ => False

@[simp] theorem handovers_nil : handovers [] = [] := rfl

@[simp] theorem handovers_append (es es' : List Exchange) :
    handovers (es ++ es') = handovers es ++ handovers es' :=
  List.filter_append ..

theorem handovers_eq_nil {es : List Exchange} {call : Call} (hcall : call.handsOver = false)
    (h : ∀ e ∈ es, e.call = call) : handovers es = [] := by
  apply List.filter_eq_nil_iff.mpr
  intro e he
  rw [h e he, hcall]
  exact Bool.false_ne_true

namespace Rpc.Client

variable {α : Type} {client : Client} {network : Network} {es : List Exchange}

theorem Asked.handovers_eq {call : Call} {decode : Json → Option α}
    {result : Except ChainError α} (h : client.Asked network call decode es result)
    (hcall : call.handsOver = false) : handovers es = [] := by
  cases h with
  | value h | failed h => exact handovers_eq_nil hcall h.call_eq

theorem Asked.error_inv {call : Call} {decode : Json → Option α} {error : ChainError}
    (h : client.Asked network call decode es (.error error)) : ∃ text, error = .rpc text := by
  cases h
  exact ⟨_, rfl⟩

theorem Identified.handovers_eq {result : Except ChainError Nat}
    (h : client.Identified network es result) : handovers es = [] := by
  cases h with
  | unknown h | other h | known h => exact h.handovers_eq rfl

theorem Handed.inv {raw : Bytes} {result : Except ChainError Hash}
    (h : client.Handed network raw es result) :
    (∃ e, es = [e] ∧ e.provider = client.primary ∧ e.call = .sendRawTransaction raw) ∧
      ∀ error, result = .error error → error.Behind := by
  cases h with
  | accepted he => exact ⟨⟨_, rfl, he.provider_eq, he.call_eq⟩, by simp⟩
  | rejected he | unanswered he =>
    refine ⟨⟨_, rfl, he.provider_eq, he.call_eq⟩, ?_⟩
    rintro error ⟨⟩
    trivial

end Rpc.Client

namespace Confirmation

variable {client : Client} {network : Network} {hash : Hash} {deadline : Nat} {es : List Exchange}

theorem Polling.handovers_eq {poll : Poll} (h : Polling client network hash deadline es poll) :
    handovers es = [] := by
  cases h with
  | receiptFailed h | receiptExpired h | unmined h | reverted h =>
    exact handovers_eq_nil rfl h.call_eq
  | blockFailed h _ h' | blockExpired h _ h' | deep h _ h' | shallow h _ h' =>
    rw [handovers_append, handovers_eq_nil rfl h.call_eq, handovers_eq_nil rfl h'.call_eq,
      List.append_nil]

theorem Waiting.handovers_eq {result : Except ChainError Status}
    (h : Waiting client network hash deadline es result) : handovers es = [] := by
  induction h with
  | ended => rfl
  | decided h | failed h | expired h => exact h.handovers_eq
  | pending h _ ih => rw [handovers_append, h.handovers_eq, ih, List.append_nil]

end Confirmation

theorem Transaction.sign_error_inv {tx : Transaction} {wallet : Wallet} {error : ChainError}
    (h : tx.sign wallet = .error error) : ∃ text, error = .wallet text := by
  unfold Transaction.sign at h
  split at h
  · cases h
    exact ⟨_, rfl⟩
  · split at h
    · cases h
      exact ⟨_, rfl⟩
    · split at h
      · cases h
      · cases h
        exact ⟨_, rfl⟩

theorem Pricing.checkCap_error_inv {settings : ChainSettings} {price : Nat} {error : ChainError}
    (h : checkCap settings price = .error error) :
    settings.maxGasPriceGwei < inGwei price ∧
      error = .gasPriceTooHigh (inGwei price % Bytes.limit 8) settings.maxGasPriceGwei := by
  unfold checkCap at h
  split at h
  · cases h
    exact ⟨‹_›, rfl⟩
  · cases h

namespace Submitter

variable {s : Submitter} {network : Network} {recipient : Address} {value : Uint256} {data : Bytes}
  {es : List Exchange}

/-- Connecting hands nothing over, and fails for the key, a node or the chain. -/
theorem Connection.handovers_eq {settings : ChainSettings} {endpoint : Endpoint}
    {result : Except ChainError Submitter} (h : Connection network settings endpoint es result) :
    handovers es = [] := by
  cases h with
  | noKey | noClient => rfl
  | noChain _ _ h | connected _ _ h => exact h.handovers_eq

theorem Connection.error_inv {settings : ChainSettings} {endpoint : Endpoint} {error : ChainError}
    (h : Connection network settings endpoint es (.error error)) :
    (∃ text, error = .wallet text) ∨ (∃ text, error = .rpc text) ∨
      ∃ expected actual, error = .chainMismatch expected actual := by
  cases h with
  | noKey h =>
    unfold Wallet.ofText at h
    split at h
    · cases h
    · cases h
      exact .inl ⟨_, rfl⟩
  | noClient h =>
    unfold Client.ofSettings at h
    split at h
    · cases h
      exact .inr (.inl ⟨_, rfl⟩)
    · cases h
  | noChain _ _ h =>
    cases h with
    | unknown h => exact .inr (.inl h.error_inv)
    | other => exact .inr (.inr ⟨_, _, rfl⟩)

theorem Preparation.handovers_eq {result : Except ChainError Transaction}
    (h : s.Preparation network recipient value data es result) : handovers es = [] := by
  cases h with
  | noNonce h => exact h.handovers_eq rfl
  | noPrice h h' | tooDear h h' =>
    rw [handovers_append, h.handovers_eq rfl, h'.handovers_eq rfl, List.append_nil]
  | noEstimate h h' _ h'' | built h h' _ h'' =>
    rw [handovers_append, handovers_append, h.handovers_eq rfl, h'.handovers_eq rfl,
      h''.handovers_eq rfl]
    rfl

theorem Preparation.before {error : ChainError}
    (h : s.Preparation network recipient value data es (.error error)) : error.Before := by
  cases h with
  | noNonce h | noPrice _ h | noEstimate _ _ _ h =>
    obtain ⟨_, rfl⟩ := h.error_inv
    trivial
  | tooDear _ _ h =>
    obtain ⟨-, rfl⟩ := Pricing.checkCap_error_inv h
    trivial

theorem Delivery.handovers_cases {tx : Transaction} {result : Except ChainError Hash}
    (h : s.Delivery network tx es result) :
    (handovers es = [] ∧ ∃ error, result = .error error ∧ error.Before) ∨
      ((∃ e, handovers es = [e] ∧ e.provider = s.client.primary) ∧
        ∀ error, result = .error error → error.Behind) := by
  cases h with
  | unsigned h =>
    obtain ⟨_, rfl⟩ := Transaction.sign_error_inv h
    exact .inl ⟨rfl, _, rfl, trivial⟩
  | signed _ h =>
    obtain ⟨⟨e, rfl, hprovider, hcall⟩, herror⟩ := h.inv
    refine .inr ⟨⟨e, ?_, hprovider⟩, herror⟩
    exact List.filter_eq_self.mpr (by simp [hcall, Call.handsOver])

/-- A course ends before the delivery, or what it hands over is handed over there. -/
theorem Course.delivery_inv {result : Except ChainError Submission}
    (h : s.Course network recipient value data es result) :
    (handovers es = [] ∧ ∃ error, result = .error error ∧ error.Before) ∨
      ∃ tx es₁ es₂ outcome, s.Preparation network recipient value data es₁ (.ok tx) ∧
        s.Delivery network tx es₂ outcome ∧ handovers es = handovers es₂ ∧
        (∀ error, result = .error error →
          outcome = .error error ∨ (error.Behind ∧ ∃ hash, outcome = .ok hash)) ∧
        ∀ submission, result = .ok submission →
          outcome = .ok submission.hash ∧ submission.nonce = tx.nonce := by
  cases h with
  | notBuilt h => exact .inl ⟨h.handovers_eq, _, rfl, h.before⟩
  | @notDelivered es₁ es₂ tx error hbuilt h =>
    refine .inr ⟨tx, es₁, es₂, _, hbuilt, h, ?_, ?_, by simp⟩
    · rw [handovers_append, hbuilt.handovers_eq, List.nil_append]
    · rintro _ ⟨⟩
      exact .inl rfl
  | @notAwaited es₁ es₂ tx hash hbuilt hdelivered =>
    refine .inr ⟨tx, es₁, es₂, _, hbuilt, hdelivered, ?_, by simp, ?_⟩
    · rw [handovers_append, hbuilt.handovers_eq, List.nil_append]
    · rintro _ ⟨⟩
      exact ⟨rfl, rfl⟩
  | @notConfirmed es₁ es₂ _ tx hash _ error hbuilt hdelivered _ h =>
    refine .inr ⟨tx, es₁, es₂, _, hbuilt, hdelivered, ?_, ?_, by simp⟩
    · rw [handovers_append, handovers_append, hbuilt.handovers_eq, h.handovers_eq,
        List.nil_append, List.append_nil]
    · rintro _ ⟨⟩
      refine .inr ⟨?_, hash, rfl⟩
      rcases h.error_inv with ⟨_, rfl⟩ | rfl <;> trivial
  | @reverted es₁ es₂ _ tx hash _ _ hbuilt hdelivered _ h =>
    refine .inr ⟨tx, es₁, es₂, _, hbuilt, hdelivered, ?_, ?_, by simp⟩
    · rw [handovers_append, handovers_append, hbuilt.handovers_eq, h.handovers_eq,
        List.nil_append, List.append_nil]
    · rintro _ ⟨⟩
      exact .inr ⟨trivial, hash, rfl⟩
  | @confirmed es₁ es₂ _ tx hash _ _ hbuilt hdelivered _ h =>
    refine .inr ⟨tx, es₁, es₂, _, hbuilt, hdelivered, ?_, by simp, ?_⟩
    · rw [handovers_append, handovers_append, hbuilt.handovers_eq, h.handovers_eq,
        List.nil_append, List.append_nil]
    · rintro _ ⟨⟩
      exact ⟨rfl, rfl⟩

/-- Either nothing was handed over and the failure is one of those that come before, or one
transaction was, to the first node, and a failure is one of those that come behind. -/
theorem Course.handovers_cases {result : Except ChainError Submission}
    (h : s.Course network recipient value data es result) :
    (handovers es = [] ∧ ∃ error, result = .error error ∧ error.Before) ∨
      ((∃ e, handovers es = [e] ∧ e.provider = s.client.primary) ∧
        ∀ error, result = .error error → error.Behind) := by
  rcases h.delivery_inv with h | ⟨tx, _, es₂, outcome, hbuilt, hdelivered, hes, herror, hok⟩
  · exact .inl h
  rw [hes]
  -- What the delivery came to tells on which side of it the course ended.
  rcases hdelivered.handovers_cases with ⟨hnil, e, rfl, hbefore⟩ | ⟨hone, hbehind⟩
  · refine .inl ⟨hnil, e, ?_, hbefore⟩
    cases result with
    | error e' =>
      rcases herror e' rfl with he | ⟨-, _, he⟩ <;> cases he
      rfl
    | ok submission => cases (hok submission rfl).1
  · refine .inr ⟨hone, fun e he => ?_⟩
    rcases herror e he with he | ⟨h, -⟩
    · exact hbehind e he
    · exact h

end Submitter

end LayerMessaging
