import LayerMessaging.Proofs.Rpc.Stage

namespace LayerMessaging.Confirmation

open Rpc Client

abbrev ReceiptStage (client : Client) (network : Network) (hash : Hash) (deadline : Nat) :
    List Exchange → Reading (Option Receipt) → Prop :=
  Stage network (some deadline) (.transactionReceipt hash) network.receipt? client.providers

abbrev BlockStage (client : Client) (network : Network) (deadline : Nat) :
    List Exchange → Reading Nat → Prop :=
  Stage network (some deadline) .blockNumber (quantity? (Bytes.limit 8)) client.providers

/-- What a poll leaves behind: the current block is asked for behind a receipt of success. -/
inductive Polling (client : Client) (network : Network) (hash : Hash) (deadline : Nat) :
    List Exchange → Poll → Prop
  | receiptFailed {es : List Exchange} {error : ChainError}
      (h : ReceiptStage client network hash deadline es (.failed error)) :
      Polling client network hash deadline es (.failed error)
  | receiptExpired {es : List Exchange}
      (h : ReceiptStage client network hash deadline es .expired) :
      Polling client network hash deadline es .expired
  | unmined {es : List Exchange}
      (h : ReceiptStage client network hash deadline es (.value none)) :
      Polling client network hash deadline es .pending
  | reverted {es : List Exchange} {receipt : Receipt}
      (h : ReceiptStage client network hash deadline es (.value (some receipt)))
      (hstatus : receipt.succeeded = false) :
      Polling client network hash deadline es (.decided (.failed receipt.blockNumber))
  | blockFailed {es es' : List Exchange} {receipt : Receipt} {error : ChainError}
      (h : ReceiptStage client network hash deadline es (.value (some receipt)))
      (hstatus : receipt.succeeded = true)
      (h' : BlockStage client network deadline es' (.failed error)) :
      Polling client network hash deadline (es ++ es') (.failed error)
  | blockExpired {es es' : List Exchange} {receipt : Receipt}
      (h : ReceiptStage client network hash deadline es (.value (some receipt)))
      (hstatus : receipt.succeeded = true)
      (h' : BlockStage client network deadline es' .expired) :
      Polling client network hash deadline (es ++ es') .expired
  | deep {es es' : List Exchange} {receipt : Receipt} {current : Nat}
      (h : ReceiptStage client network hash deadline es (.value (some receipt)))
      (hstatus : receipt.succeeded = true)
      (h' : BlockStage client network deadline es' (.value current))
      (hdepth : client.settings.confirmations ≤
        depth current (receipt.blockNumber.getD current)) :
      Polling client network hash deadline (es ++ es')
        (.decided (.confirmed (receipt.blockNumber.getD current)))
  | shallow {es es' : List Exchange} {receipt : Receipt} {current : Nat}
      (h : ReceiptStage client network hash deadline es (.value (some receipt)))
      (hstatus : receipt.succeeded = true)
      (h' : BlockStage client network deadline es' (.value current))
      (hdepth : depth current (receipt.blockNumber.getD current) <
        client.settings.confirmations) :
      Polling client network hash deadline (es ++ es') .pending

theorem leaves_poll (client : Client) (network : Network) (hash : Hash) (deadline : Nat) :
    Leaves (poll client network hash deadline) (Polling client network hash deadline) := by
  unfold poll
  dsimp only
  refine (leaves_read network client.settings.rpcTimeout (some deadline) (.transactionReceipt hash)
    network.receipt? client.providers "").bind fun es reading h => ?_
  cases reading with
  | failed error => exact .pure_last (.receiptFailed h)
  | expired => exact .pure_last (.receiptExpired h)
  | value found =>
    cases found with
    | none => exact .pure_last (.unmined h)
    | some receipt =>
      dsimp only
      cases hstatus : receipt.succeeded with
      | false => exact .pure_last (.reverted h hstatus)
      | true =>
        refine (leaves_read network client.settings.rpcTimeout (some deadline) .blockNumber
          (quantity? (Bytes.limit 8)) client.providers "").bind fun es' reading h' => .regroup ?_
        cases reading with
        | failed error => exact .pure_last (.blockFailed h hstatus h')
        | expired => exact .pure_last (.blockExpired h hstatus h')
        | value current =>
          dsimp only
          split
          · exact .pure_last (.deep h hstatus h' ‹_›)
          · exact .pure_last (.shallow h hstatus h' (Nat.lt_of_not_le ‹_›))

/-- What a run of polls leaves behind, and what waiting comes to. -/
inductive Waiting (client : Client) (network : Network) (hash : Hash) (deadline : Nat) :
    List Exchange → Except ChainError Status → Prop
  | ended :
      Waiting client network hash deadline []
        (.error (.confirmationTimeout client.settings.confirmations))
  | decided {es : List Exchange} {status : Status}
      (h : Polling client network hash deadline es (.decided status)) :
      Waiting client network hash deadline es (.ok status)
  | failed {es : List Exchange} {error : ChainError}
      (h : Polling client network hash deadline es (.failed error)) :
      Waiting client network hash deadline es (.error error)
  | expired {es : List Exchange} (h : Polling client network hash deadline es .expired) :
      Waiting client network hash deadline es
        (.error (.confirmationTimeout client.settings.confirmations))
  | pending {es es' : List Exchange} {result : Except ChainError Status}
      (h : Polling client network hash deadline es .pending)
      (h' : Waiting client network hash deadline es' result) :
      Waiting client network hash deadline (es ++ es') result

section

variable {client : Client} {network : Network} {hash : Hash} {deadline : Nat}
  {es : List Exchange}

theorem Polling.failed_inv {error : ChainError}
    (h : Polling client network hash deadline es (.failed error)) : ∃ text, error = .rpc text := by
  cases h with
  | receiptFailed h => exact h.failed_inv
  | blockFailed _ _ h => exact h.failed_inv

/-- Behind polls that decide nothing, the last one decides. -/
theorem Waiting.ok_inv {status : Status}
    (h : Waiting client network hash deadline es (.ok status)) :
    ∃ (earlier : List (List Exchange)) (last : List Exchange), es = earlier.flatten ++ last ∧
      (∀ poll ∈ earlier, Polling client network hash deadline poll .pending) ∧
      Polling client network hash deadline last (.decided status) := by
  -- By induction on the run: a poll that decides nothing goes in front of the earlier ones.
  generalize hr : Except.ok status = result at h
  induction h with
  | ended | failed | expired => cases hr
  | decided h =>
    cases hr
    exact ⟨[], _, rfl, by simp, h⟩
  | @pending poll _ _ h _ ih =>
    obtain ⟨earlier, last, rfl, hearlier, hlast⟩ := ih hr
    refine ⟨poll :: earlier, last, ?_, ?_, hlast⟩
    · rw [List.flatten_cons, List.append_assoc]
    · simpa using ⟨h, hearlier⟩

theorem Waiting.error_inv {error : ChainError}
    (h : Waiting client network hash deadline es (.error error)) :
    (∃ text, error = .rpc text) ∨ error = .confirmationTimeout client.settings.confirmations := by
  generalize hr : Except.error error = result at h
  induction h with
  | ended | expired =>
    cases hr
    exact .inr rfl
  | decided => cases hr
  | failed h =>
    cases hr
    exact .inl h.failed_inv
  | pending _ _ ih => exact ih hr

end

theorem leaves_pollUntil (client : Client) (network : Network) (hash : Hash)
    (deadline left due : Nat) :
    Leaves (pollUntil client network hash deadline left due).run
      (Waiting client network hash deadline) := by
  -- By induction on the polls that are left; each moves the moment at which the next is due.
  induction left generalizing due with
  | zero => exact .andThen_modify (fun _ => rfl) (.error .ended)
  | succ left ih =>
    refine .andThen_modify (fun _ => rfl) ?_
    refine (leaves_poll client network hash deadline).andThen_lift fun es poll h => ?_
    cases poll with
    | decided status => exact .ok_last (.decided h)
    | pending => exact (ih _).mono fun es' result h' => .pending h h'
    | failed error => exact .error_last (.failed h)
    | expired => exact .error_last (.expired h)

theorem leaves_await (client : Client) (network : Network) (hash : Hash) (timeout : Nat) :
    Leaves (await client network hash timeout).run fun es result =>
      ∃ deadline, Waiting client network hash deadline es result := by
  refine .andThen_get fun w => ?_
  exact (leaves_pollUntil client network hash (w.now + timeout) _ w.now).mono
    fun es result h => ⟨_, h⟩

end LayerMessaging.Confirmation
