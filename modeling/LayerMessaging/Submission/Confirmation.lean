import LayerMessaging.Rpc.Client
import LayerMessaging.Submission.Basic

namespace LayerMessaging.Confirmation

open Rpc

def interval : Nat := 2

/-- How many blocks confirm a transaction, its own counted: the count has 32 bits. -/
def depth (current block : Nat) : Nat := ((current - block) % Bytes.limit 4 + 1) % Bytes.limit 4

/-- What a poll comes to. -/
inductive Poll where
  | decided (status : Status)
  | pending
  | failed (error : ChainError)
  | expired

/-- Asks for the receipt, and for the current block if the transaction succeeded. A receipt without
a block number counts as one of the current block. -/
def poll (client : Client) (network : Network) (hash : Hash) (deadline : Nat) :
    StateM World Poll := do
  let ask {α : Type} (call : Call) (decode : Json → Option α) : StateM World (Client.Reading α) :=
    Client.read network client.settings.rpcTimeout (some deadline) call decode client.providers ""
  match ← ask (.transactionReceipt hash) network.receipt? with
  | .failed error => return .failed error
  | .expired => return .expired
  | .value none => return .pending
  | .value (some receipt) =>
    if !receipt.succeeded then return .decided (.failed receipt.blockNumber)
    else
      match ← ask .blockNumber (quantity? (Bytes.limit 8)) with
      | .failed error => return .failed error
      | .expired => return .expired
      | .value current =>
        let block := receipt.blockNumber.getD current
        if client.settings.confirmations ≤ depth current block then
          return .decided (.confirmed block)
        else return .pending

/-- Polls until the deadline. The next poll is due at a moment, or starts at once if that has
passed; at most `left` more are due before the deadline. -/
def pollUntil (client : Client) (network : Network) (hash : Hash) (deadline : Nat) :
    (left due : Nat) → Run Status
  | 0, _ => do
    modify fun w => { w with now := max w.now deadline }
    throw (.confirmationTimeout client.settings.confirmations)
  | left + 1, due => do
    modify fun w => { w with now := max w.now due }
    match ← (poll client network hash deadline) with
    | .decided status => return status
    | .pending => pollUntil client network hash deadline left (due + interval)
    | .failed error => throw error
    | .expired => throw (.confirmationTimeout client.settings.confirmations)

/-- Waits for a transaction, from now on and for at most `timeout` seconds. Polls are due at every
multiple of the interval before the time is up. The wait counts as dropped the moment its time is
up: a poll that falls due just then is left out, though a timer that looks at the poll first would
still begin it, and so is the first one if there is no time at all. -/
def await (client : Client) (network : Network) (hash : Hash) (timeout : Nat) : Run Status := do
  let start := (← get).now
  pollUntil client network hash (start + timeout) ((timeout + interval - 1) / interval) start

end LayerMessaging.Confirmation
