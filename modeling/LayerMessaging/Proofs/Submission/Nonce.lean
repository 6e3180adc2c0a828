import LayerMessaging.Proofs.Chain.Ledger
import LayerMessaging.Proofs.Submission.Verdict

namespace LayerMessaging

open Rpc Client

namespace Rpc

variable {α : Type} {call : Call} {decode : Json → Option α} {es : List Exchange} {v : α}

theorem Exchange.value?_of_result {e : Exchange} {json : Json} (hcall : e.call = call)
    (ho : e.outcome = .result json) : e.value? call decode = decode json := by
  rw [value?, ho]
  exact if_pos hcall

theorem Client.Answered.last_value? (h : Answered call decode es v) :
    ∃ tried e, es = tried ++ [e] ∧ e.value? call decode = some v := by
  obtain ⟨tried, e, json, rfl, hcall, -, ho, hv⟩ := h
  refine ⟨tried, e, rfl, ?_⟩
  rw [Exchange.value?_of_result (hcall e (by simp)) ho, hv]

end Rpc

theorem Confirmation.Settles.exists_receipt {client : Client} {network : Network} {hash : Hash}
    {es : List Exchange} {block : Nat}
    (h : Settles client network hash es (.confirmed block)) :
    ∃ e ∈ es, ∃ receipt,
      e.value? (.transactionReceipt hash) network.receipt? = some (some receipt) := by
  obtain ⟨polls, last, rfl, -, hlast⟩ := h
  cases hlast with
  | confirmed hreceipt =>
    obtain ⟨tried, e, rfl, hvalue⟩ := hreceipt.last_value?
    exact ⟨e, by simp, _, hvalue⟩

/-- The calls of a submission: the transactions of the account are counted, one with the count as
its nonce is accepted under the hash, and whoever waits gets a receipt for the hash. -/
inductive Submission.Submits (submission : Submission)
    (receipt? : Json → Option (Option Receipt)) (account : Address) (waits : Bool) :
    List Exchange → Prop
  | mk {front middle behind : List Exchange} {c e : Exchange} {raw : Bytes}
      (hcount : c.value? (.transactionCount account) (quantity? (Bytes.limit 8)) =
        some submission.nonce)
      (hcall : e.call = .sendRawTransaction raw)
      (hhash : e.value? (.sendRawTransaction raw) hash? = some submission.hash)
      (hnonce : SignedTransaction.nonce? raw = some submission.nonce)
      (hwaited : waits = true → ∃ r ∈ behind, ∃ receipt,
        r.value? (.transactionReceipt submission.hash) receipt? = some (some receipt)) :
      Submits submission receipt? account waits (front ++ c :: (middle ++ e :: behind))

namespace Submitter

variable {s : Submitter} {network : Network} {recipient : Address} {value : Uint256} {data : Bytes}
  {es : List Exchange}

theorem Preparation.exists_count {tx : Transaction}
    (h : s.Preparation network recipient value data es (.ok tx)) :
    ∃ front c behind, es = front ++ c :: behind ∧
      c.value? (.transactionCount s.wallet.address) (quantity? (Bytes.limit 8)) =
        some tx.nonce := by
  cases h with
  | @built es₁ es₂ es₃ nonce _ _ hnonce _ _ _ =>
    cases hnonce with
    | value hstage =>
      obtain ⟨tried, c, rfl, hvalue⟩ := hstage.value_inv.last_value?
      exact ⟨tried, c, es₂ ++ es₃, by simp, hvalue⟩

theorem Delivery.nonce?_eq {tx : Transaction} {hash : Hash}
    (h : s.Delivery network tx es (.ok hash)) :
    ∃ raw e, es = [e] ∧ e.call = .sendRawTransaction raw ∧
      e.value? (.sendRawTransaction raw) hash? = some hash ∧
      SignedTransaction.nonce? raw = some tx.nonce := by
  obtain ⟨raw, e, json, hsign, rfl, hcall, ho, hhash⟩ := h.ok_inv
  obtain ⟨signed, hdecode, hcarries⟩ := Transaction.exists_decode?_of_sign hsign
  refine ⟨raw, e, rfl, hcall, ?_, ?_⟩
  · rw [Exchange.value?_of_result hcall ho, hhash]
  · rw [SignedTransaction.nonce?, hdecode, Option.map_some, hcarries.nonce_eq]

theorem Course.submits {submission : Submission}
    (h : s.Course network recipient value data es (.ok submission)) :
    submission.Submits network.receipt? s.wallet.address s.client.settings.waitForReceipt es := by
  cases h with
  | notAwaited hbuilt hdelivered hwait =>
    obtain ⟨front, c, middle, rfl, hcount⟩ := hbuilt.exists_count
    obtain ⟨raw, e, rfl, hcall, hhash, hnonce⟩ := hdelivered.nonce?_eq
    rw [List.append_assoc, List.cons_append, hwait]
    exact .mk hcount hcall hhash hnonce nofun
  | confirmed hbuilt hdelivered _ h =>
    obtain ⟨front, c, middle, rfl, hcount⟩ := hbuilt.exists_count
    obtain ⟨raw, e, rfl, hcall, hhash, hnonce⟩ := hdelivered.nonce?_eq
    simp only [List.append_assoc, List.cons_append, List.nil_append]
    exact .mk hcount hcall hhash hnonce fun _ => h.settles.exists_receipt

/-- Whatever a submission hands over carries its nonce. -/
theorem Course.nonce?_eq {submission : Submission} {e : Exchange} {raw : Bytes}
    (h : s.Course network recipient value data es (.ok submission)) (he : e ∈ es)
    (hcall : e.call = .sendRawTransaction raw) :
    SignedTransaction.nonce? raw = some submission.nonce := by
  obtain ⟨_, e', _, raw', _, signed, -, hone, hcall', -, -, hdecode, hnonce, -⟩ := h.ok_inv
  have hmem := mem_handovers he hcall
  rw [hone, List.mem_singleton] at hmem
  rw [hmem, hcall'] at hcall
  cases hcall
  rw [SignedTransaction.nonce?, hdecode, Option.map_some, hnonce]

end Submitter

namespace Submission.Submits

variable {submission : Submission} {receipt? : Json → Option (Option Receipt)}
  {account : Address} {waits : Bool} {es : List Exchange}
  {ledger ledger' : Ledger} {events : List Ledger.Event}

theorem append_left (h : submission.Submits receipt? account waits es) (earlier : List Exchange) :
    submission.Submits receipt? account waits (earlier ++ es) := by
  cases h with
  | mk hcount hcall hhash hnonce hwaited =>
    rw [← List.append_assoc]
    exact .mk hcount hcall hhash hnonce hwaited

/-- Who does not wait has no use for receipts. -/
theorem unawaited (h : submission.Submits receipt? account waits es)
    (receipt?' : Json → Option (Option Receipt)) :
    submission.Submits receipt?' account false es := by
  cases h with
  | mk hcount hcall hhash hnonce _ => exact .mk hcount hcall hhash hnonce nofun

/-- The nonce of a submission is the count of the transactions that were mined at one moment of it,
and whoever waits leaves it used. -/
theorem counted (h : submission.Submits receipt? account waits (Ledger.calls events))
    (hhistory : Ledger.History receipt? account ledger events ledger') :
    ∃ before c after counted, events = before ++ .called c :: after ∧
      c.value? (.transactionCount account) (quantity? (Bytes.limit 8)) = some submission.nonce ∧
      Ledger.History receipt? account ledger before counted ∧
      submission.nonce = counted.mined.length ∧
      Ledger.History receipt? account (counted.record c) after ledger' ∧
      (waits = true → ledger'.Used submission.nonce) := by
  generalize hes : Ledger.calls events = es at h
  cases h with
  | mk hcount hcall hhash hnonce hwaited =>
    obtain ⟨before, after, counted, rfl, hafter, hbefore, heq, hrest⟩ :=
      hhistory.counted hes hcount
    refine ⟨before, _, after, counted, rfl, hcount, hbefore, heq, hrest, fun hwaits => ?_⟩
    obtain ⟨r, hr, receipt, hreceipt⟩ := hwaited hwaits
    exact ⟨_, hrest.mined_of_receipt hafter hcall hhash hr hreceipt, hnonce⟩

end Submission.Submits

end LayerMessaging
