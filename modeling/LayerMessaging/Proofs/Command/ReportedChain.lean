import LayerMessaging.Proofs.Command.Broadcast
import LayerMessaging.Proofs.Rpc.FirstValue

namespace LayerMessaging

open Rpc

def reportedChain? (es : List Exchange) : Option Nat :=
  firstValue? .chainId (quantity? (Bytes.limit 8)) es

def Config.expectedChain? (config : Config) (settings : Settings) : Option Nat :=
  (config.endpoint.bind Endpoint.chainId).or settings.chain.chainId

/-- The chain that a signed transaction names in its `v`. -/
def SignedTransaction.chainId? (signed : SignedTransaction) : Option Nat :=
  if 35 ≤ signed.v then some ((signed.v - 35) / 2) else none

theorem Config.applyTo_chainId (config : Config) (settings : Settings) :
    (config.applyTo settings.chain).chainId = config.expectedChain? settings := by
  unfold applyTo expectedChain?
  cases config.endpoint with
  | none => rfl
  | some endpoint => cases hchain : endpoint.chainId <;> simp [hchain]

theorem SignedTransaction.Carries.chainId?_eq {signed : SignedTransaction} {tx : Transaction}
    {chainId : Nat} (h : signed.Carries tx chainId) : signed.chainId? = some chainId := by
  have hv := h.v_eq
  unfold chainId?
  rw [if_pos (by omega)]
  congr 1
  omega

namespace Rpc.Client

variable {client : Client} {network : Network} {es : List Exchange}

theorem Identified.call_eq {result : Except ChainError Nat}
    (h : client.Identified network es result) : ∀ e ∈ es, e.call = .chainId := by
  cases h with
  | unknown h | other h | known h => exact h.call_eq

/-- A chain that is accepted was reported, and is the expected one if there is one. -/
theorem Identified.ok_inv {actual : Nat} (h : client.Identified network es (.ok actual)) :
    reportedChain? es = some actual ∧
      ∀ expected, client.settings.chainId = some expected → actual = expected := by
  cases h with
  | known h hexpected => exact ⟨h.firstValue?_eq, hexpected⟩

/-- Where a chain was reported, the failure is that another one is expected. -/
theorem Identified.error_inv {error : ChainError} {actual : Nat}
    (h : client.Identified network es (.error error))
    (hreported : reportedChain? es = some actual) :
    ∃ expected, client.settings.chainId = some expected ∧
      error = .chainMismatch expected actual := by
  cases h with
  | unknown h =>
    have hnone : reportedChain? es = none := h.firstValue?_eq
    rw [hnone] at hreported
    cases hreported
  | @other actual' expected h hexpected _ =>
    have hsome : reportedChain? es = some actual' := h.firstValue?_eq
    rw [hsome] at hreported
    cases hreported
    exact ⟨expected, hexpected, rfl⟩

end Rpc.Client

namespace Submitter

variable {network : Network} {settings : ChainSettings} {endpoint : Endpoint} {es : List Exchange}

theorem Connection.ok_inv {s : Submitter} (h : Connection network settings endpoint es (.ok s)) :
    reportedChain? es = some s.wallet.chainId ∧
      ∀ expected, settings.chainId = some expected → s.wallet.chainId = expected := by
  cases h with
  | connected _ hclient h =>
    obtain ⟨hsettings, -⟩ := Client.ofSettings_inv hclient
    rw [← hsettings]
    exact h.ok_inv

/-- A connection that fails behind a reported chain fails for the chain, and asks for nothing
else. -/
theorem Connection.mismatch {error : ChainError} {actual : Nat}
    (h : Connection network settings endpoint es (.error error))
    (hreported : reportedChain? es = some actual) :
    (∀ e ∈ es, e.call = .chainId) ∧ ∃ expected, settings.chainId = some expected ∧
      error = .chainMismatch expected actual := by
  cases h with
  | noKey | noClient => cases hreported
  | noChain _ hclient h =>
    obtain ⟨hsettings, -⟩ := Client.ofSettings_inv hclient
    rw [← hsettings]
    exact ⟨h.call_eq, h.error_inv hreported⟩

end Submitter

namespace MessageCommand

variable {command : MessageCommand} {network : Network} {settings : Settings} {config : Config}
  {es : List Exchange} {result : Except Failure Command.Result}

theorem LiveRun.signed_for_reported_chain {e : Exchange} {raw : Bytes}
    (h : command.LiveRun network settings config es result) (he : e ∈ es)
    (hcall : e.call = .sendRawTransaction raw) :
    ∃ (tx : Transaction) (wallet : Wallet), tx.sign wallet = .ok raw ∧
      tx.chainId = wallet.chainId ∧ reportedChain? es = some wallet.chainId ∧
      ∀ expected, config.expectedChain? settings = some expected → wallet.chainId = expected := by
  obtain ⟨_, _, s, tx, es₁, es₂, rfl, -, hconnected, -, hchain, hsign⟩ := h.broadcast_inv he hcall
  obtain ⟨hreported, hexpected⟩ := hconnected.ok_inv
  rw [Config.applyTo_chainId] at hexpected
  refine ⟨tx, s.wallet, hsign, hchain, ?_, hexpected⟩
  have hfirst : firstValue? .chainId (quantity? (Bytes.limit 8)) es₁ = some s.wallet.chainId :=
    hreported
  rw [reportedChain?, firstValue?_append, hfirst, Option.some_or]

/-- Where another chain is reported than the expected one, the run fails for it, and has asked for
nothing else. -/
theorem LiveRun.mismatch {expected actual : Nat}
    (h : command.LiveRun network settings config es result)
    (hexpected : config.expectedChain? settings = some expected)
    (hreported : reportedChain? es = some actual) (hne : actual ≠ expected) :
    result = .error (.chain (.chainMismatch expected actual)) ∧ ∀ e ∈ es, e.call = .chainId := by
  rw [← Config.applyTo_chainId] at hexpected
  cases h with
  | unprepared => cases hreported
  | prepared _ h =>
    cases h with
    | noEndpoint => cases hreported
    | notConnected _ h =>
      obtain ⟨hcall, expected', hexpected', rfl⟩ := h.mismatch hreported
      rw [hexpected] at hexpected'
      cases hexpected'
      exact ⟨rfl, hcall⟩
    | @connected _ es₁ es₂ s _ _ hconnected h =>
      -- The connection stood, so that the reported chain was the expected one.
      obtain ⟨hreported', hexpected'⟩ := hconnected.ok_inv
      have hfirst : firstValue? .chainId (quantity? (Bytes.limit 8)) es₁ = some s.wallet.chainId :=
        hreported'
      rw [reportedChain?, firstValue?_append, hfirst, Option.some_or] at hreported
      cases hreported
      exact absurd (hexpected' expected hexpected) hne

/-- Transactions are signed only for the chain that was verified. What a live run broadcasts names
the chain that was reported first, was signed by a wallet bound to that chain, and the chain is the
expected one where one is expected. Where the nodes report another one, the run fails with both
numbers, and has asked for nothing but the chain. -/
theorem live_run_signs_for_reported_chain (command : MessageCommand) (network : Network)
    (settings : Settings) (config : Config) :
    Leaves (command.run network settings config false).run fun es result =>
      (∀ e ∈ es, ∀ raw, e.call = .sendRawTransaction raw →
        ∃ (signed : SignedTransaction) (tx : Transaction) (wallet : Wallet),
          SignedTransaction.decode? raw = some signed ∧
          signed.chainId? = reportedChain? es ∧
          reportedChain? es = some wallet.chainId ∧
          tx.chainId = wallet.chainId ∧ tx.sign wallet = .ok raw ∧
          ∀ expected, config.expectedChain? settings = some expected →
            wallet.chainId = expected) ∧
      ∀ expected actual, config.expectedChain? settings = some expected →
        reportedChain? es = some actual → actual ≠ expected →
          result = .error (.chain (.chainMismatch expected actual)) ∧
            ∀ e ∈ es, e.call = .chainId := by
  refine (command.leaves_run_live network settings config).mono fun es result h => ⟨?_, ?_⟩
  · intro e he raw hcall
    obtain ⟨tx, wallet, hsign, hchain, hreported, hexpected⟩ :=
      h.signed_for_reported_chain he hcall
    obtain ⟨signed, hdecode, hcarries⟩ := Transaction.exists_decode?_of_sign hsign
    refine ⟨signed, tx, wallet, hdecode, ?_, hreported, hchain, hsign, hexpected⟩
    rw [hcarries.chainId?_eq, hchain, hreported]
  · intro expected actual hexpected hreported hne
    exact h.mismatch hexpected hreported hne

end MessageCommand

end LayerMessaging
