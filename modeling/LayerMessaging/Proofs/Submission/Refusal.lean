import LayerMessaging.Proofs.Submission.PriceCap

namespace LayerMessaging

open Rpc

theorem Rpc.quantity?_lt {bound n : Nat} {json : Json} (hbound : 0 < bound)
    (h : quantity? bound json = some n) : n < bound := by
  unfold quantity? at h
  split at h
  · split at h
    · rename_i hlt
      cases h
      omega
    · cases h
  · rename_i text
    cases hread : Numeral.prefixed bound text with
    | error e =>
      rw [hread] at h
      cases h
    | ok m =>
      rw [hread] at h
      cases h
      exact Numeral.lt_of_prefixed hbound hread
  · cases h

theorem Rpc.exists_of_firstValue? {α : Type} {call : Call} {decode : Json → Option α}
    {es : List Exchange} {v : α} (h : firstValue? call decode es = some v) :
    ∃ json, decode json = some v := by
  obtain ⟨e, -, hvalue⟩ := List.exists_of_findSome?_eq_some h
  unfold Exchange.value? at hvalue
  split at hvalue
  · split at hvalue
    · exact ⟨_, hvalue⟩
    · cases hvalue
  · cases hvalue

namespace Pricing

variable {α : Type} {cap price current limit : Nat} {es : List Exchange}
  {result : Except ChainError α}

theorem firstPrice?_lt (h : firstPrice? es = some price) : price < Bytes.limit 16 := by
  obtain ⟨json, hjson⟩ := exists_of_firstValue? h
  exact quantity?_lt (Bytes.limit_pos 16) hjson

structure Tells (cap price current limit : Nat) : Prop where
  limit_eq : limit = cap
  above : cap < inGwei price
  current_eq : current = inGwei price % Bytes.limit 8
  /-- All of the whole gwei are told exactly if the price is below 2 ^ 64 gwei. -/
  current_eq_iff : current = inGwei price ↔ price < Bytes.limit 8 * gwei
  exceeds : price < Bytes.limit 8 * gwei → limit < current
  understates : Bytes.limit 8 * gwei ≤ price → current < inGwei price

theorem inGwei_lt_limit_iff : inGwei price < Bytes.limit 8 ↔ price < Bytes.limit 8 * gwei := by
  apply Nat.div_lt_iff_lt_mul
  decide

theorem tells_of_above (h : cap < inGwei price) :
    Tells cap price (inGwei price % Bytes.limit 8) cap := by
  have hlimit : Bytes.limit 8 ≠ 0 := Nat.ne_of_gt (Bytes.limit_pos 8)
  have heq : inGwei price % Bytes.limit 8 = inGwei price ↔ price < Bytes.limit 8 * gwei :=
    (Nat.mod_eq_iff_lt hlimit).trans inGwei_lt_limit_iff
  refine ⟨rfl, h, rfl, heq, ?_, ?_⟩
  · intro hlt
    rw [heq.mpr hlt]
    exact h
  · intro hle
    have hmod : inGwei price % Bytes.limit 8 < Bytes.limit 8 := Nat.mod_lt _ (Bytes.limit_pos 8)
    have hge : ¬ inGwei price < Bytes.limit 8 := by
      rw [inGwei_lt_limit_iff]
      omega
    omega

/-- If a run fails on account of the price, the nodes answered a price of 128 bits, and the failure
tells of it and of the cap. -/
def Told (cap : Nat) (es : List Exchange) (result : Except ChainError α) : Prop :=
  ∀ current limit, result = .error (.gasPriceTooHigh current limit) →
    ∃ price, firstPrice? es = some price ∧ price < Bytes.limit 16 ∧ Tells cap price current limit

theorem Priced.told (h : Priced cap es result) : Told cap es result := by
  intro current limit hresult
  cases h with
  | unpriced => cases hresult
  | refused hprice habove =>
    cases hresult
    exact ⟨_, hprice, firstPrice?_lt hprice, tells_of_above (cap_lt_inGwei_iff.mpr habove)⟩
  | passed _ _ _ hpassed => exact absurd hresult (hpassed current limit)

end Pricing

namespace Submitter

open Pricing

variable {s : Submitter} {answer : Call → Json} {recipient : Address} {value : Uint256}
  {data : Bytes} {w : World}

/-- When building or submitting fails on account of the price, the failure tells the cap as it is
and the whole gwei of the price in 64 bits. -/
theorem refusal_tells_price_in_64_bits (s : Submitter) (network : Network) (recipient : Address)
    (value : Uint256) (data : Bytes) :
    Leaves (s.build network recipient value data).run
        (Told s.client.settings.maxGasPriceGwei) ∧
      Leaves (s.submit network recipient value data).run
        (Told s.client.settings.maxGasPriceGwei) := by
  constructor
  · apply (s.leaves_build network recipient value data).mono
    intro es result h
    exact h.priced.told
  · apply (s.leaves_submit network recipient value data).mono
    intro es result h
    exact h.priced.told

/-- Where the nodes answer a price that is refused, building asks for the count and the price
alone. -/
theorem build_refused {count price : Nat} {error : ChainError}
    (hcount : quantity? (Bytes.limit 8) (answer (.transactionCount s.wallet.address)) = some count)
    (hprice : quantity? (Bytes.limit 16) (answer .gasPrice) = some price)
    (hcap : checkCap s.client.settings price = .error error) :
    (s.build (answering answer) recipient value data).run w =
      (.error error,
        s.client.afterCalls answer w [.transactionCount s.wallet.address, .gasPrice]) := by
  unfold build Client.transactionCount Client.gasPrice
  dsimp only
  rw [run_bind_of_ok (Client.query_answered (Client.answers_answering _) hcount),
    run_bind_of_ok (Client.query_answered (Client.answers_answering _) hprice), hcap,
    Client.afterCalls_afterCalls]
  exact run_bind_of_error rfl

def hugeAnswer : Call → Json
  | .gasPrice => .string "0x3b9aca000000000000000000"
  | call => reportingAnswer call

/-- A price of 2 ^ 64 gwei is refused, and what is told of it is below the cap that it exceeds. -/
theorem refusal_tells_price_below_cap :
    (reportedTo Settings.default).client.settings.maxGasPriceGwei = 500 ∧
    (∃ world, ((reportedTo Settings.default).build (answering hugeAnswer) default Uint256.zero
        []).run .start = (.error (.gasPriceTooHigh 0 500), world) ∧
      firstPrice? world.trace = some (18446744073709551616 * gwei)) ∧
    inGwei (18446744073709551616 * gwei) = 18446744073709551616 ∧
    (ChainError.gasPriceTooHigh 0 500).message =
      "Gas price 0 gwei exceeds maximum 500 gwei" := by
  have hcount : quantity? (Bytes.limit 8) (.string "0x0") = some 0 := by decide +kernel
  have hprice : quantity? (Bytes.limit 16) (.string "0x3b9aca000000000000000000") =
      some (18446744073709551616 * gwei) := by
    decide +kernel
  have hcap : checkCap (reportedTo Settings.default).client.settings
      (18446744073709551616 * gwei) = .error (.gasPriceTooHigh 0 500) := by
    unfold checkCap
    exact if_pos (by decide +kernel)
  refine ⟨by decide, ⟨_, build_refused hcount hprice hcap, ?_⟩, by decide +kernel,
    by decide +kernel⟩
  simp [firstPrice?, firstValue?, Client.afterCalls, World.start, Client.value?_answered,
    hugeAnswer, hprice]

end Submitter

end LayerMessaging
