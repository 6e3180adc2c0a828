import LayerMessaging.Proofs.Chain.SignedTransaction
import LayerMessaging.Proofs.Submission.Handover

namespace LayerMessaging

open Rpc

theorem mem_handovers {es : List Exchange} {e : Exchange} {raw : Bytes} (he : e ∈ es)
    (hcall : e.call = .sendRawTransaction raw) : e ∈ handovers es :=
  List.mem_filter.mpr ⟨he, by rw [hcall]; rfl⟩

namespace Submitter

variable {s : Submitter} {network : Network} {recipient : Address} {value : Uint256} {data : Bytes}
  {es : List Exchange}

/-- What is built is what was asked for, on the chain of the wallet. -/
theorem Preparation.ok_inv {tx : Transaction}
    (h : s.Preparation network recipient value data es (.ok tx)) :
    tx.recipient = recipient ∧ tx.value = value ∧ tx.data = data ∧
      tx.chainId = s.wallet.chainId := by
  cases h
  exact ⟨rfl, rfl, rfl, rfl⟩

theorem Delivery.sign_eq {tx : Transaction} {result : Except ChainError Hash} {e : Exchange}
    {raw : Bytes} (h : s.Delivery network tx es result) (he : e ∈ es)
    (hcall : e.call = .sendRawTransaction raw) : tx.sign s.wallet = .ok raw := by
  cases h with
  | unsigned => cases he
  | signed hraw h =>
    rw [h.call_eq e he] at hcall
    cases hcall
    exact hraw

theorem Delivery.ok_inv {tx : Transaction} {hash : Hash}
    (h : s.Delivery network tx es (.ok hash)) :
    ∃ raw e json, tx.sign s.wallet = .ok raw ∧ es = [e] ∧ e.call = .sendRawTransaction raw ∧
      e.outcome = .result json ∧ hash? json = some hash := by
  cases h with
  | signed hraw h =>
    obtain ⟨e, json, hes, hcall, ho, hhash⟩ := h.ok_inv
    exact ⟨_, e, json, hraw, hes, hcall, ho, hhash⟩

/-- What is handed over in the course of a submission is what was built for it. -/
theorem Course.sign_eq {result : Except ChainError Submission} {e : Exchange} {raw : Bytes}
    (h : s.Course network recipient value data es result) (he : e ∈ es)
    (hcall : e.call = .sendRawTransaction raw) :
    ∃ tx : Transaction, (tx.recipient = recipient ∧ tx.value = value ∧ tx.data = data) ∧
      tx.chainId = s.wallet.chainId ∧ tx.sign s.wallet = .ok raw := by
  have hmem := mem_handovers he hcall
  rcases h.delivery_inv with ⟨hnil, -⟩ | ⟨tx, _, es₂, _, hbuilt, hdelivered, hes, -⟩
  · rw [hnil] at hmem
    cases hmem
  · rw [hes] at hmem
    obtain ⟨hrecipient, hvalue, hdata, hchain⟩ := hbuilt.ok_inv
    exact ⟨tx, ⟨hrecipient, hvalue, hdata⟩, hchain,
      hdelivered.sign_eq (List.mem_filter.mp hmem).1 hcall⟩

/-- Whatever is built, the bytes that sending it hands over read back as a signed transaction with
its fields, on the chain of the wallet. So the bytes of two transactions differ where a field or the
chain does, whoever sends them. -/
theorem send_hands_over_what_was_built (s : Submitter) (network : Network) (recipient : Address)
    (value : Uint256) (data : Bytes) :
    Leaves (s.build network recipient value data).run fun _ built => ∀ tx, built = .ok tx →
      tx.recipient = recipient ∧ tx.value = value ∧ tx.data = data ∧
        tx.chainId = s.wallet.chainId ∧
      ∀ network, Leaves (s.send network tx).run fun es _ =>
        ∀ e ∈ es, ∀ raw, e.call = .sendRawTransaction raw →
          (∃ signed, SignedTransaction.decode? raw = some signed ∧
            signed.Carries tx s.wallet.chainId) ∧
          ∀ (s' : Submitter) (network' : Network) (tx' : Transaction),
            Leaves (s'.send network' tx').run fun es' _ =>
              ∀ e' ∈ es', e'.call = .sendRawTransaction raw →
                tx.nonce = tx'.nonce ∧ tx.gasPrice = tx'.gasPrice ∧
                  tx.gasLimit = tx'.gasLimit ∧ tx.recipient = tx'.recipient ∧
                  tx.value = tx'.value ∧ tx.data = tx'.data ∧ tx.chainId = tx'.chainId := by
  refine (s.leaves_build network recipient value data).mono fun _ built hbuilt => ?_
  rintro tx rfl
  obtain ⟨hrecipient, hvalue, hdata, hchain⟩ := hbuilt.ok_inv
  refine ⟨hrecipient, hvalue, hdata, hchain, fun network => ?_⟩
  refine (s.leaves_send network tx).mono fun es _ hdelivered e he raw hcall => ?_
  obtain ⟨signed, hdecode, hcarries⟩ :=
    Transaction.exists_decode?_of_sign (hdelivered.sign_eq he hcall)
  refine ⟨⟨signed, hdecode, hchain ▸ hcarries⟩, fun s' network' tx' => ?_⟩
  refine (s'.leaves_send network' tx').mono fun es' _ hdelivered' e' he' hcall' => ?_
  obtain ⟨signed', hdecode', hcarries'⟩ :=
    Transaction.exists_decode?_of_sign (hdelivered'.sign_eq he' hcall')
  obtain rfl : signed = signed' := Option.some.inj (hdecode.symm.trans hdecode')
  exact hcarries.unique hcarries'

end Submitter

end LayerMessaging
