import LayerMessaging.Proofs.Submission.Broadcast

namespace LayerMessaging

open Rpc Client

namespace Confirmation

theorem depth_le (current block : Nat) : depth current block ≤ current - block + 1 :=
  Nat.le_trans (Nat.mod_le _ _) (Nat.add_le_add_right (Nat.mod_le _ _) 1)

/-- What the exchanges of one poll say of a transaction. -/
inductive Decides (client : Client) (network : Network) (hash : Hash) :
    List Exchange → Status → Prop
  | confirmed {receipts blocks : List Exchange} {receipt : Receipt} {current : Nat}
      (hreceipt : Answered (.transactionReceipt hash) network.receipt? receipts (some receipt))
      (hstatus : receipt.succeeded = true)
      (hblock : Answered .blockNumber (quantity? (Bytes.limit 8)) blocks current)
      (hdepth : client.settings.confirmations ≤
        current - receipt.blockNumber.getD current + 1) :
      Decides client network hash (receipts ++ blocks)
        (.confirmed (receipt.blockNumber.getD current))
  | failed {receipts : List Exchange} {receipt : Receipt}
      (hreceipt : Answered (.transactionReceipt hash) network.receipt? receipts (some receipt))
      (hstatus : receipt.succeeded = false) :
      Decides client network hash receipts (.failed receipt.blockNumber)

/-- The exchanges are those of polls that decide nothing and of a last one that decides. -/
def Settles (client : Client) (network : Network) (hash : Hash) (es : List Exchange)
    (status : Status) : Prop :=
  ∃ polls last, es = List.flatten polls ++ last ∧
    (∀ poll ∈ polls, ∃ deadline, Polling client network hash deadline poll .pending) ∧
    Decides client network hash last status

variable {client : Client} {network : Network} {hash : Hash} {deadline : Nat}
  {es : List Exchange} {status : Status}

theorem Polling.decides (h : Polling client network hash deadline es (.decided status)) :
    Decides client network hash es status := by
  cases h with
  | reverted h hstatus => exact .failed h.value_inv hstatus
  | deep h hstatus h' hdepth =>
    exact .confirmed h.value_inv hstatus h'.value_inv (Nat.le_trans hdepth (depth_le _ _))

theorem Waiting.settles (h : Waiting client network hash deadline es (.ok status)) :
    Settles client network hash es status := by
  obtain ⟨polls, last, hes, hpolls, hlast⟩ := h.ok_inv
  exact ⟨polls, last, hes, fun poll hpoll => ⟨deadline, hpolls poll hpoll⟩, hlast.decides⟩

end Confirmation

namespace Submitter

variable {s : Submitter} {network : Network} {recipient : Address} {value : Uint256} {data : Bytes}
  {es : List Exchange}

theorem Delivery.error_inv {tx : Transaction} {error : ChainError}
    (h : s.Delivery network tx es (.error error)) :
    (∃ text, error = .wallet text) ∨ (∃ text, error = .rpc text) ∨
      ∃ seconds, error = .timeout seconds := by
  cases h with
  | unsigned h => exact .inl (Transaction.sign_error_inv h)
  | signed _ h =>
    cases h with
    | unanswered => exact .inr (.inr ⟨_, rfl⟩)
    | rejected => exact .inr (.inl ⟨_, rfl⟩)

/-- A submission names the hash that the node answered and the nonce of the bytes that it got. What
comes behind the handover is the wait, if there is one. -/
theorem Course.ok_inv {submission : Submission}
    (h : s.Course network recipient value data es (.ok submission)) :
    ∃ (before : List Exchange) (e : Exchange) (behind : List Exchange) (raw : Bytes) (json : Json)
      (signed : SignedTransaction),
      es = before ++ [e] ++ behind ∧ handovers es = [e] ∧
      e.call = .sendRawTransaction raw ∧ e.outcome = .result json ∧
      hash? json = some submission.hash ∧
      SignedTransaction.decode? raw = some signed ∧ signed.nonce = submission.nonce ∧
      (s.client.settings.waitForReceipt = true → ∃ block, submission.status = .confirmed block ∧
        Confirmation.Settles s.client network submission.hash behind submission.status) := by
  have delivered {es₁ es₂ : List Exchange} {tx : Transaction} {hash : Hash}
      (hbuilt : s.Preparation network recipient value data es₁ (.ok tx))
      (hdelivered : s.Delivery network tx es₂ (.ok hash)) :
      ∃ e raw json signed, es₂ = [e] ∧ handovers es₁ = [] ∧ handovers es₂ = [e] ∧
        e.call = .sendRawTransaction raw ∧ e.outcome = .result json ∧ hash? json = some hash ∧
        SignedTransaction.decode? raw = some signed ∧ signed.nonce = tx.nonce := by
    obtain ⟨raw, e, json, hsign, rfl, hcall, ho, hhash⟩ := hdelivered.ok_inv
    obtain ⟨signed, hdecode, hcarries⟩ := Transaction.exists_decode?_of_sign hsign
    refine ⟨e, raw, json, signed, rfl, hbuilt.handovers_eq, ?_, hcall, ho, hhash, hdecode,
      hcarries.nonce_eq⟩
    exact List.filter_eq_self.mpr (by simp [hcall, Call.handsOver])
  cases h with
  | @notAwaited es₁ _ _ _ hbuilt hdelivered hwait =>
    obtain ⟨e, raw, json, signed, rfl, hnil, hone, hcall, ho, hhash, hdecode, hnonce⟩ :=
      delivered hbuilt hdelivered
    refine ⟨es₁, e, [], raw, json, signed, (List.append_nil _).symm, ?_, hcall, ho, hhash, hdecode,
      hnonce, ?_⟩
    · rw [handovers_append, hnil, hone, List.nil_append]
    · rw [hwait]
      exact fun h => Bool.noConfusion h
  | @confirmed es₁ _ es₃ _ _ _ block hbuilt hdelivered _ h =>
    obtain ⟨e, raw, json, signed, rfl, hnil, hone, hcall, ho, hhash, hdecode, hnonce⟩ :=
      delivered hbuilt hdelivered
    refine ⟨es₁, e, es₃, raw, json, signed, rfl, ?_, hcall, ho, hhash, hdecode, hnonce, ?_⟩
    · rw [handovers_append, handovers_append, hnil, hone, h.handovers_eq, List.nil_append,
        List.append_nil]
    · exact fun _ => ⟨block, rfl, h.settles⟩

/-- A submission that is waited for is reported as reverted exactly where the wait for it ends in
failure. -/
theorem submit_reverted_iff (hwait : s.client.settings.waitForReceipt = true) (w : World)
    (hash : Hash) :
    ((s.submit network recipient value data).run w).1 = .error (.reverted hash) ↔
      ∃ tx w₁ w₂ block, (s.build network recipient value data).run w = (.ok tx, w₁) ∧
        (s.send network tx).run w₁ = (.ok hash, w₂) ∧
        ((Confirmation.await s.client network hash s.client.settings.receiptTimeout).run w₂).1 =
          .ok (.failed block) := by
  constructor
  · intro h
    -- Building, handing over and waiting fail in kinds of their own, so that the last step failed.
    unfold submit at h
    rcases error_inv_of_bind h with h | ⟨tx, w₁, hbuild, h⟩
    · obtain ⟨_, -, hes⟩ := s.leaves_build network recipient value data w
      rw [h] at hes
      exact hes.before.elim
    rcases error_inv_of_bind h with h | ⟨hash', w₂, hsend, h⟩
    · obtain ⟨_, -, hes⟩ := s.leaves_send network tx w₁
      rw [h] at hes
      rcases hes.error_inv with ⟨_, h⟩ | ⟨_, h⟩ | ⟨_, h⟩ <;> cases h
    dsimp only at h
    rw [if_pos hwait] at h
    rcases error_inv_of_bind h with h | ⟨status, w₃, hawait, h⟩
    · obtain ⟨_, -, _, hes⟩ := Confirmation.leaves_await s.client network hash' _ w₂
      rw [h] at hes
      rcases hes.error_inv with ⟨_, h⟩ | h <;> cases h
    · cases status with
      | submitted | confirmed => cases h
      | failed block =>
        cases h
        exact ⟨tx, w₁, w₂, block, hbuild, hsend, by rw [hawait]⟩
  · rintro ⟨tx, w₁, w₂, block, hbuild, hsend, hawait⟩
    unfold submit
    rw [run_bind_of_ok hbuild, run_bind_of_ok hsend]
    dsimp only
    rw [if_pos hwait]
    rcases hrun : (Confirmation.await s.client network hash
      s.client.settings.receiptTimeout).run w₂ with ⟨result, w₃⟩
    rw [hrun] at hawait
    cases hawait
    rw [run_bind_of_ok hrun]
    rfl

end Submitter

/-- What is reported of a transaction that was waited for is what the last poll found. A submission
names the hash that the node gave for the one transaction that was handed over, with the nonce that
its bytes carry; it is never given as failed, and is reported as reverted exactly where the wait
ends in failure. -/
theorem reported_status_is_what_last_poll_found :
    (∀ (client : Client) (network : Network) (hash : Hash) (timeout : Nat),
      Leaves (Confirmation.await client network hash timeout).run fun es result =>
        ∀ status, result = .ok status → Confirmation.Settles client network hash es status) ∧
    ∀ (s : Submitter) (network : Network) (recipient : Address) (value : Uint256) (data : Bytes),
      (Leaves (s.submit network recipient value data).run fun es result =>
        ∀ submission, result = .ok submission →
          ∃ (before : List Exchange) (e : Exchange) (behind : List Exchange) (raw : Bytes)
            (json : Json) (signed : SignedTransaction),
            es = before ++ [e] ++ behind ∧ handovers es = [e] ∧
            e.call = .sendRawTransaction raw ∧ e.outcome = .result json ∧
            hash? json = some submission.hash ∧
            SignedTransaction.decode? raw = some signed ∧ signed.nonce = submission.nonce ∧
            (s.client.settings.waitForReceipt = true →
              ∃ block, submission.status = .confirmed block ∧
                Confirmation.Settles s.client network submission.hash behind
                  submission.status)) ∧
      (s.client.settings.waitForReceipt = true → ∀ (w : World) (hash : Hash),
        ((s.submit network recipient value data).run w).1 = .error (.reverted hash) ↔
          ∃ tx w₁ w₂ block, (s.build network recipient value data).run w = (.ok tx, w₁) ∧
            (s.send network tx).run w₁ = (.ok hash, w₂) ∧
            ((Confirmation.await s.client network hash
              s.client.settings.receiptTimeout).run w₂).1 = .ok (.failed block)) := by
  refine ⟨fun client network hash timeout => ?_, fun s network recipient value data => ⟨?_, ?_⟩⟩
  · refine (Confirmation.leaves_await client network hash timeout).mono ?_
    rintro es _ ⟨deadline, h⟩ status rfl
    exact h.settles
  · refine (s.leaves_submit network recipient value data).mono ?_
    rintro es _ h submission rfl
    exact h.ok_inv
  · exact fun hwait w hash => Submitter.submit_reverted_iff hwait w hash

end LayerMessaging
