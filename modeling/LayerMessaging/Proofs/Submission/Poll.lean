import LayerMessaging.Proofs.Rpc.Answering
import LayerMessaging.Proofs.Submission.Waiting

namespace LayerMessaging.Confirmation

open Rpc Client

variable {client : Client} {network : Network} {hash : Hash} {deadline : Nat} {w w₁ w₂ : World}
  {es : List Exchange} {receipt : Receipt}

/-- What a poll makes of the answer for the receipt, if that does not tell of success. -/
def Poll.ofReceipt : Reading (Option Receipt) → Poll
  | .failed error => .failed error
  | .expired => .expired
  | .value none => .pending
  | .value (some receipt) => .decided (.failed receipt.blockNumber)

def Poll.ofBlock (client : Client) (receipt : Receipt) : Reading Nat → Poll
  | .failed error => .failed error
  | .expired => .expired
  | .value current =>
    if client.settings.confirmations ≤ depth current (receipt.blockNumber.getD current) then
      .decided (.confirmed (receipt.blockNumber.getD current))
    else .pending

theorem Poll.ofReceipt_expired_iff {reading : Reading (Option Receipt)} :
    Poll.ofReceipt reading = .expired ↔ reading = .expired := by
  rcases reading with (_ | _) | _ | _ <;> simp [Poll.ofReceipt]

theorem Poll.ofBlock_expired_iff {reading : Reading Nat} :
    Poll.ofBlock client receipt reading = .expired ↔ reading = .expired := by
  cases reading with
  | failed | expired => simp [Poll.ofBlock]
  | value current =>
    unfold Poll.ofBlock
    dsimp only
    split <;> simp

theorem poll_of_success {reading : Reading Nat}
    (hreceipt : read network client.settings.rpcTimeout (some deadline) (.transactionReceipt hash)
      network.receipt? client.providers "" w = (.value (some receipt), w₁))
    (hstatus : receipt.succeeded = true)
    (hblock : read network client.settings.rpcTimeout (some deadline) .blockNumber
      (quantity? (Bytes.limit 8)) client.providers "" w₁ = (reading, w₂)) :
    poll client network hash deadline w = (.ofBlock client receipt reading, w₂) := by
  unfold poll
  dsimp only
  rw [bind_of_run hreceipt]
  dsimp only
  rw [hstatus, Bool.not_true, if_neg Bool.false_ne_true, bind_of_run hblock]
  cases reading with
  | failed | expired => rfl
  | value current =>
    unfold Poll.ofBlock
    dsimp only
    split <;> rfl

theorem poll_of_receipt {reading : Reading (Option Receipt)}
    (hreceipt : read network client.settings.rpcTimeout (some deadline) (.transactionReceipt hash)
      network.receipt? client.providers "" w = (reading, w₁))
    (hstatus : ∀ receipt, reading = .value (some receipt) → receipt.succeeded = false) :
    poll client network hash deadline w = (.ofReceipt reading, w₁) := by
  unfold poll
  dsimp only
  rw [bind_of_run hreceipt]
  cases reading with
  | failed | expired => rfl
  | value found =>
    cases found with
    | none => rfl
    | some receipt =>
      dsimp only
      rw [hstatus receipt rfl, Bool.not_false, if_pos rfl]
      rfl

theorem poll_answered {answer : Call → Json} {current : Nat}
    (hanswers : ∀ call, client.Answers network answer call) (hnow : w.now < deadline)
    (hreceipt : network.receipt? (answer (.transactionReceipt hash)) = some (some receipt))
    (hstatus : receipt.succeeded = true)
    (hcurrent : quantity? (Bytes.limit 8) (answer .blockNumber) = some current) :
    poll client network hash deadline w = (.ofBlock client receipt (.value current),
      client.afterCalls answer w [.transactionReceipt hash, .blockNumber]) := by
  have hopen : ∀ d ∈ some deadline, w.now < d := by simpa using hnow
  have hfirst := read_answered client.settings.rpcTimeout (hanswers (.transactionReceipt hash))
    hopen hreceipt ""
  have hopen' : ∀ d ∈ some deadline,
      (client.afterCalls answer w [.transactionReceipt hash]).now < d := hopen
  have hsecond := read_answered client.settings.rpcTimeout (hanswers .blockNumber) hopen'
    hcurrent ""
  rw [poll_of_success hfirst hstatus hsecond, afterCalls_afterCalls]
  rfl

/-- The count of confirmations is the true one, cut to 32 bits. -/
theorem depth_eq (current block : Nat) :
    depth current block = (current - block + 1) % Nat.pow 2 32 :=
  Nat.mod_add_mod ..

theorem firstValue?_stages {es' : List Exchange} {reading : Reading (Option Receipt)}
    {reading' : Reading Nat} (h : ReceiptStage client network hash deadline es reading)
    (h' : BlockStage client network deadline es' reading') :
    firstValue? (.transactionReceipt hash) network.receipt? (es ++ es') = reading.value? ∧
      firstValue? .blockNumber (quantity? (Bytes.limit 8)) (es ++ es') = reading'.value? := by
  rw [firstValue?_append, firstValue?_append, h.firstValue?_eq, h'.firstValue?_eq,
    h.firstValue?_of_ne Call.noConfusion, h'.firstValue?_of_ne Call.noConfusion]
  exact ⟨Option.or_none, Option.none_or⟩

/-- A poll that sees a receipt of success and the current block makes of them what it must. -/
theorem Polling.eq_ofBlock {outcome : Poll} {current : Nat}
    (h : Polling client network hash deadline es outcome)
    (hreceipt : firstValue? (.transactionReceipt hash) network.receipt? es = some (some receipt))
    (hstatus : receipt.succeeded = true)
    (hcurrent : firstValue? .blockNumber (quantity? (Bytes.limit 8)) es = some current) :
    outcome = .ofBlock client receipt (.value current) := by
  cases h with
  | receiptFailed h | receiptExpired h | unmined h =>
    rw [h.firstValue?_eq] at hreceipt
    simp [Reading.value?] at hreceipt
  | reverted h hfailed =>
    rw [h.firstValue?_eq] at hreceipt
    cases hreceipt
    rw [hstatus] at hfailed
    cases hfailed
  | blockFailed h _ h' | blockExpired h _ h' =>
    rw [(firstValue?_stages h h').2] at hcurrent
    cases hcurrent
  | deep h _ h' hdepth | shallow h _ h' hdepth =>
    rw [(firstValue?_stages h h').1] at hreceipt
    rw [(firstValue?_stages h h').2] at hcurrent
    cases hreceipt
    cases hcurrent
    simp [Poll.ofBlock, hdepth]

/-- A poll that sees a receipt of success from some block, and the current block, confirms the
transaction exactly if the blocks from the one to the other, both counted, are enough in 32 bits,
and goes on waiting otherwise. So a depth that is reached counts wherever it has 32 bits, and is
missed exactly where what is left of it in 32 bits is too small. -/
theorem reached_depth_counts_in_32_bits (client : Client) (network : Network) (hash : Hash)
    (deadline : Nat) :
    Leaves (poll client network hash deadline) fun es outcome =>
      ∀ receipt block current,
        firstValue? (.transactionReceipt hash) network.receipt? es = some (some receipt) →
        receipt.succeeded = true → receipt.blockNumber = some block →
        firstValue? .blockNumber (quantity? (Bytes.limit 8)) es = some current →
        (outcome = .decided (.confirmed block) ↔
          client.settings.confirmations ≤ (current - block + 1) % Nat.pow 2 32) ∧
        (outcome = .pending ↔
          (current - block + 1) % Nat.pow 2 32 < client.settings.confirmations) ∧
        (current - block + 1 < Nat.pow 2 32 →
          client.settings.confirmations ≤ current - block + 1 →
          outcome = .decided (.confirmed block)) := by
  refine (leaves_poll client network hash deadline).mono fun es outcome h => ?_
  intro receipt block current hreceipt hstatus hblock hcurrent
  have houtcome := h.eq_ofBlock hreceipt hstatus hcurrent
  rw [Poll.ofBlock, hblock, Option.getD_some, depth_eq] at houtcome
  have hconfirmed : outcome = .decided (.confirmed block) ↔
      client.settings.confirmations ≤ (current - block + 1) % Nat.pow 2 32 := by
    rw [houtcome]
    split <;> simp_all
  refine ⟨hconfirmed, ?_, ?_⟩
  · rw [houtcome]
    split <;> simp_all
  · intro hlt hreached
    rw [hconfirmed, Nat.mod_eq_of_lt hlt]
    exact hreached

/-- What a node answers that mined every transaction in block 16, four billion blocks ago. -/
def buriedAnswer : Call → Json
  | .transactionReceipt hash => .object
    [("type", .string "0x0"), ("status", .string "0x1"),
      ("cumulativeGasUsed", .string "0x5208"),
      ("logsBloom", .string ("0x" ++ String.ofList (List.replicate 512 '0'))),
      ("logs", .array []), ("transactionHash", .string hash.hex),
      ("transactionIndex", .string "0x0"),
      ("blockHash", .string ("0x" ++ String.ofList (List.replicate 64 '1'))),
      ("blockNumber", .string "0x10"), ("gasUsed", .string "0x5208"),
      ("effectiveGasPrice", .string "0x3b9aca00"),
      ("from", .string "0xf39fd6e51aad88f6f4ce6ab8827279cfffb92266"),
      ("to", .string "0xde29d060d45901fb19ed6c6e959eb22d8626708e"),
      ("contractAddress", .null)]
  | _ => .string "0x100000010"

/-- The fields of a complete receipt that count, as the library reads them. -/
def completeReceipt? (json : Json) : Option Receipt := do
  let hash ← hash? (← json.get? "transactionHash")
  let status ← quantity? 2 (← json.get? "status")
  let block ← quantity? (Bytes.limit 8) (← json.get? "blockNumber")
  return ⟨hash, status = 1, some block⟩

def buriedNetwork : Network := { answering buriedAnswer with receiptOf? := completeReceipt? }

def patientClient : Client :=
  ⟨namedProvider 0 "node0", [], { Settings.defaultChain with confirmations := 2 }⟩

/-- Two confirmations are waited for, and there are four billion and one: they are taken for one,
and the poll goes on waiting. -/
theorem buried_transaction_is_taken_for_fresh :
    ∃ w', poll patientClient buriedNetwork default 60 .start = (.pending, w') ∧
      firstValue? (.transactionReceipt default) buriedNetwork.receipt? w'.trace =
        some (some ⟨default, true, some 16⟩) ∧
      firstValue? .blockNumber (quantity? (Bytes.limit 8)) w'.trace =
        some (16 + Nat.pow 2 32) ∧
      patientClient.settings.confirmations = 2 ∧ 2 ≤ 16 + Nat.pow 2 32 - 16 + 1 := by
  have hreceipt : buriedNetwork.receipt? (buriedAnswer (.transactionReceipt default)) =
      some (some ⟨default, true, some 16⟩) := by
    decide +kernel
  have hcurrent : quantity? (Bytes.limit 8) (buriedAnswer .blockNumber) =
      some (16 + Nat.pow 2 32) := by
    decide +kernel
  have hshallow : ¬ 2 ≤ depth (16 + Nat.pow 2 32) 16 := by decide +kernel
  have hanswers (call : Call) : patientClient.Answers buriedNetwork buriedAnswer call :=
    fun _ _ => rfl
  have hnow : World.start.now < 60 := by decide
  have hpoll := poll_answered hanswers hnow hreceipt rfl hcurrent
  have hpending : Poll.ofBlock patientClient ⟨default, true, some 16⟩
      (.value (16 + Nat.pow 2 32)) = .pending := by
    unfold Poll.ofBlock
    exact if_neg hshallow
  rw [hpending] at hpoll
  refine ⟨_, hpoll, ?_, ?_, rfl, ?_⟩
  · simp [firstValue?, afterCalls, World.start, value?_answered, hreceipt]
  · simp [firstValue?, afterCalls, World.start, value?_answered, hcurrent]
  · decide +kernel

end LayerMessaging.Confirmation
