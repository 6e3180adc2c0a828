import LayerMessaging.Proofs.Submission.Pricing
import LayerMessaging.Proofs.Submission.Verdict

namespace LayerMessaging

open Rpc

def Rpc.Call.isOffer : Call → Bool
  | .estimateGas _ | .sendRawTransaction _ => true
  | _ => false

namespace Rpc.Client

variable {α : Type} {client : Client} {network : Network} {call : Call}
  {decode : Json → Option α} {provider : Provider} {providers : List Provider}
  {es : List Exchange}

theorem Stage.exists_call {reading : Reading α}
    (h : Stage network none call decode (provider :: providers) es reading) :
    ∃ e ∈ es, e.call = call := by
  cases h with
  | overdue h => cases h
  | value he | refused he | cut he | next he => exact ⟨_, List.mem_cons_self, he.call_eq⟩

theorem Asked.exists_call {result : Except ChainError α}
    (h : client.Asked network call decode es result) : ∃ e ∈ es, e.call = call := by
  cases h with
  | value h | failed h => exact h.exists_call

end Rpc.Client

namespace Pricing

variable {α β : Type} {cap price : Nat} {es : List Exchange} {result : Except ChainError α}

/-- Whole gwei above the cap are a gwei or more above it. -/
theorem cap_lt_inGwei_iff : cap < inGwei price ↔ (cap + 1) * gwei ≤ price := by
  have hgwei : 0 < gwei := by decide
  exact Nat.le_div_iff_mul_le hgwei

theorem lt_of_checkCap {settings : ChainSettings} (h : checkCap settings price = .ok ()) :
    price < (settings.maxGasPriceGwei + 1) * gwei := by
  unfold checkCap at h
  split at h
  · cases h
  · apply Nat.lt_of_not_le
    rwa [← cap_lt_inGwei_iff]

def firstPrice? (es : List Exchange) : Option Nat :=
  firstValue? .gasPrice (quantity? (Bytes.limit 16)) es

/-- What comes of the price that the nodes first answered, in calls and in a result. -/
inductive Priced (cap : Nat) : List Exchange → Except ChainError α → Prop
  | unpriced {es : List Exchange} {text : String} (hprice : firstPrice? es = none)
      (hquiet : ∀ e ∈ es, e.call.isOffer = false) : Priced cap es (.error (.rpc text))
  | refused {es : List Exchange} {price : Nat} (hprice : firstPrice? es = some price)
      (habove : (cap + 1) * gwei ≤ price) (hquiet : ∀ e ∈ es, e.call.isOffer = false) :
      Priced cap es (.error (.gasPriceTooHigh (price / gwei % Bytes.limit 8) cap))
  | passed {es : List Exchange} {price : Nat} {result : Except ChainError α}
      (hprice : firstPrice? es = some price) (hbelow : price < (cap + 1) * gwei)
      (hestimated : ∃ e ∈ es, ∃ request, e.call = .estimateGas request)
      (hresult : ∀ current limit, result ≠ .error (.gasPriceTooHigh current limit)) :
      Priced cap es result

namespace Priced

theorem append {a : β} (h : Priced cap es (.ok a)) (es' : List Exchange)
    (hresult : ∀ current limit, result ≠ .error (.gasPriceTooHigh current limit)) :
    Priced cap (es ++ es') result := by
  cases h with
  | passed hprice hbelow hestimated =>
    obtain ⟨e, he, hrequest⟩ := hestimated
    refine .passed ?_ hbelow ⟨e, List.mem_append_left es' he, hrequest⟩ hresult
    unfold firstPrice? at hprice ⊢
    rw [firstValue?_append, hprice]
    rfl

theorem error {error : ChainError} (h : Priced cap es (.error error : Except ChainError β)) :
    Priced cap es (.error error : Except ChainError α) := by
  cases h with
  | unpriced hprice hquiet => exact .unpriced hprice hquiet
  | refused hprice habove hquiet => exact .refused hprice habove hquiet
  | passed hprice hbelow hestimated hresult =>
    refine .passed hprice hbelow hestimated ?_
    rintro current limit ⟨⟩
    exact hresult current limit rfl

end Priced

structure Capped (cap : Nat) (es : List Exchange) (result : Except ChainError α) : Prop where
  offers_below : ((∃ e ∈ es, e.call.isOffer = true) ∨ ∃ a, result = .ok a) →
    ∃ price, firstPrice? es = some price ∧ price < (cap + 1) * gwei
  refuses_above : ∀ price, firstPrice? es = some price → (cap + 1) * gwei ≤ price →
    result = .error (.gasPriceTooHigh (price / gwei % Bytes.limit 8) cap) ∧
      ∀ e ∈ es, e.call.isOffer = false
  passes_below : ∀ price, firstPrice? es = some price → price < (cap + 1) * gwei →
    (∃ e ∈ es, ∃ request, e.call = .estimateGas request) ∧
      ∀ current limit, result ≠ .error (.gasPriceTooHigh current limit)

/-- Calls among which there is no offer, and a failure, offer nothing. -/
theorem not_offered {error : ChainError} (hquiet : ∀ e ∈ es, e.call.isOffer = false) :
    ¬ ((∃ e ∈ es, e.call.isOffer = true) ∨ ∃ a : α, Except.error error = .ok a) := by
  rintro (⟨e, he, hoffer⟩ | ⟨a, ha⟩)
  · rw [hquiet e he] at hoffer
    cases hoffer
  · cases ha

theorem Priced.capped (h : Priced cap es result) : Capped cap es result := by
  cases h with
  | unpriced hprice hquiet =>
    constructor
    · exact fun h => absurd h (not_offered hquiet)
    all_goals
      intro price h
      rw [hprice] at h
      cases h
  | refused hprice habove hquiet =>
    constructor
    · exact fun h => absurd h (not_offered hquiet)
    · intro price h _
      rw [hprice] at h
      cases h
      exact ⟨rfl, hquiet⟩
    · intro price h hbelow
      rw [hprice] at h
      cases h
      omega
  | passed hprice hbelow hestimated hresult =>
    constructor
    · exact fun _ => ⟨_, hprice, hbelow⟩
    · intro price h habove
      rw [hprice] at h
      cases h
      omega
    · exact fun _ _ _ => ⟨hestimated, hresult⟩

end Pricing

namespace Submitter

open Pricing

variable {s : Submitter} {network : Network} {recipient : Address} {value : Uint256} {data : Bytes}
  {es es' : List Exchange} {nonce : Nat}

section

variable (hnonce : s.client.Asked network (.transactionCount s.wallet.address)
  (quantity? (Bytes.limit 8)) es (.ok nonce))

include hnonce

/-- The count gives no price, so that the price that is asked for behind it is the first one. -/
theorem firstPrice?_behind_count {result : Except ChainError Nat}
    (h : s.client.Asked network .gasPrice (quantity? (Bytes.limit 16)) es' result) :
    firstPrice? (es ++ es') = result.toOption := by
  unfold firstPrice?
  rw [firstValue?_append, hnonce.firstValue?_of_ne Call.noConfusion, h.firstValue?_eq]
  rfl

theorem isOffer_behind_count {result : Except ChainError Nat}
    (h : s.client.Asked network .gasPrice (quantity? (Bytes.limit 16)) es' result) :
    ∀ e ∈ es ++ es', e.call.isOffer = false := by
  intro e he
  rcases List.mem_append.mp he with he | he
  · rw [hnonce.call_eq e he]
    rfl
  · rw [h.call_eq e he]
    rfl

theorem priced_of_estimate {α : Type} {es'' : List Exchange} {price : Nat}
    {request : CallRequest} {estimated : Except ChainError Nat} {result : Except ChainError α}
    (hprice : s.client.Asked network .gasPrice (quantity? (Bytes.limit 16)) es' (.ok price))
    (hcap : checkCap s.client.settings price = .ok ())
    (h : s.client.Asked network (.estimateGas request) (quantity? (Bytes.limit 8)) es'' estimated)
    (hresult : ∀ current limit, result ≠ .error (.gasPriceTooHigh current limit)) :
    Priced s.client.settings.maxGasPriceGwei (es ++ es' ++ es'') result := by
  obtain ⟨e, he, hcall⟩ := h.exists_call
  have hfirst : firstPrice? (es ++ es') = some price := firstPrice?_behind_count hnonce hprice
  refine .passed ?_ (lt_of_checkCap hcap) ⟨e, List.mem_append_right _ he, request, hcall⟩ hresult
  unfold firstPrice? at hfirst ⊢
  rw [firstValue?_append, hfirst]
  rfl

end

theorem Preparation.priced {result : Except ChainError Transaction}
    (h : s.Preparation network recipient value data es result) :
    Priced s.client.settings.maxGasPriceGwei es result := by
  cases h with
  | noNonce h =>
    obtain ⟨text, rfl⟩ := h.error_inv
    refine .unpriced (h.firstValue?_of_ne Call.noConfusion) fun e he => ?_
    rw [h.call_eq e he]
    rfl
  | noPrice hnonce h =>
    obtain ⟨text, rfl⟩ := h.error_inv
    exact .unpriced (firstPrice?_behind_count hnonce h) (isOffer_behind_count hnonce h)
  | tooDear hnonce hprice hcap =>
    obtain ⟨habove, rfl⟩ := checkCap_error_inv hcap
    exact .refused (firstPrice?_behind_count hnonce hprice) (cap_lt_inGwei_iff.mp habove)
      (isOffer_behind_count hnonce hprice)
  | noEstimate hnonce hprice hcap h =>
    obtain ⟨text, rfl⟩ := h.error_inv
    exact priced_of_estimate hnonce hprice hcap h (by simp)
  | built hnonce hprice hcap h => exact priced_of_estimate hnonce hprice hcap h (by simp)

/-- The price decides before a submission goes on, and nothing behind it fails on its account. -/
theorem Course.priced {result : Except ChainError Submission}
    (h : s.Course network recipient value data es result) :
    Priced s.client.settings.maxGasPriceGwei es result := by
  cases h with
  | notBuilt h => exact h.priced.error
  | notDelivered hbuilt h =>
    refine hbuilt.priced.append _ ?_
    rintro current limit ⟨⟩
    rcases h.error_inv with ⟨_, h⟩ | ⟨_, h⟩ | ⟨_, h⟩ <;> cases h
  | notAwaited hbuilt => exact hbuilt.priced.append _ (by simp)
  | notConfirmed hbuilt _ _ h =>
    rw [List.append_assoc]
    refine hbuilt.priced.append _ ?_
    rintro current limit ⟨⟩
    rcases h.error_inv with ⟨_, h⟩ | h <;> cases h
  | reverted hbuilt | confirmed hbuilt =>
    rw [List.append_assoc]
    exact hbuilt.priced.append _ (by simp)

/-- Building and submitting keep the cap in whole gwei. -/
theorem price_cap_holds_in_whole_gwei (s : Submitter) (network : Network) (recipient : Address)
    (value : Uint256) (data : Bytes) :
    Leaves (s.build network recipient value data).run
        (Capped s.client.settings.maxGasPriceGwei) ∧
      Leaves (s.submit network recipient value data).run
        (Capped s.client.settings.maxGasPriceGwei) := by
  constructor
  · exact (s.leaves_build network recipient value data).mono fun _ _ h => h.priced.capped
  · exact (s.leaves_submit network recipient value data).mono fun _ _ h => h.priced.capped

def dearAnswer : Call → Json
  | .gasPrice => .string "0x746a528801"
  | call => reportingAnswer call

/-- A wei above a cap of five hundred gwei a transaction is built. -/
theorem price_above_cap_is_let_through :
    (reportedTo Settings.default).client.settings.maxGasPriceGwei = 500 ∧
    ∃ tx world, ((reportedTo Settings.default).build (answering dearAnswer) default Uint256.zero
        []).run .start = (.ok tx, world) ∧
      firstPrice? world.trace = some (500 * gwei + 1) ∧
      ∃ e ∈ world.trace, ∃ request, e.call = .estimateGas request := by
  have hcount : quantity? (Bytes.limit 8) (.string "0x0") = some 0 := by decide +kernel
  have hprice : quantity? (Bytes.limit 16) (.string "0x746a528801") = some (500 * gwei + 1) := by
    decide +kernel
  have hestimate : quantity? (Bytes.limit 8) (.string "0x186a0") = some 100000 := by
    decide +kernel
  have hcap : checkCap (reportedTo Settings.default).client.settings (500 * gwei + 1) = .ok () := by
    unfold checkCap
    exact if_neg (by decide +kernel)
  refine ⟨by decide, _, _, build_answering hcount hprice hcap hestimate, ?_, ?_⟩
  · simp [firstPrice?, firstValue?, Client.afterCalls, World.start, Client.value?_answered,
      dearAnswer, hprice]
  · simp [Client.afterCalls, World.start, Client.answered]

end Submitter

end LayerMessaging
