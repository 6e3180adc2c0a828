import LayerMessaging.Proofs.Bytes.Hex
import LayerMessaging.Proofs.Rpc.Failover
import LayerMessaging.Proofs.Rpc.FirstValue

namespace LayerMessaging

namespace Rpc

/-- A network in which every node answers every call, and the answer depends on the call alone. -/
def answering (answer : Call → Json) : Network where
  respond _ _ _ call := .result (answer call)
  receiptOf? _ := none
  complaint _ _ := ""

theorem hash?_hex (hash : Hash) : hash? (.string hash.hex) = some hash := by
  unfold hash?
  dsimp only
  rw [FixedBytes.ofHex_hex]
  rfl

namespace Client

def answered (client : Client) (answer : Call → Json) (now : Nat) (call : Call) : Exchange :=
  ⟨client.primary, call, now, .result (answer call)⟩

def afterCalls (client : Client) (answer : Call → Json) (w : World) (calls : List Call) : World :=
  ⟨w.now, w.trace ++ calls.map (client.answered answer w.now)⟩

/-- The first node answers the call, whenever it is made. -/
def Answers (client : Client) (network : Network) (answer : Call → Json) (call : Call) : Prop :=
  ∀ trace time, network trace time client.primary call = .result (answer call)

variable {α : Type} {client : Client} {network : Network} {answer : Call → Json} {call : Call}
  {w : World}

theorem answers_answering (call : Call) : client.Answers (answering answer) answer call :=
  fun _ _ => rfl

theorem afterCalls_afterCalls (calls calls' : List Call) :
    client.afterCalls answer (client.afterCalls answer w calls) calls' =
      client.afterCalls answer w (calls ++ calls') := by
  simp [afterCalls]

theorem value?_answered (now : Nat) (call call' : Call) (decode : Json → Option α) :
    (client.answered answer now call).value? call' decode =
      if call = call' then decode (answer call) else none :=
  rfl

theorem ask_answered (h : client.Answers network answer call) (limit : Nat) :
    ask network client.primary call limit w =
      (.result (answer call), client.afterCalls answer w [call]) := by
  unfold ask
  rw [h w.trace w.now]
  rfl

theorem exchange_answered (h : client.Answers network answer call) (w : World) :
    network.exchange w client.primary call = client.answered answer w.now call := by
  rw [Network.exchange, h w.trace w.now]
  rfl

/-- A call that the first node answers goes to it alone, if that is before the deadline. -/
theorem read_answered (timeout : Nat) {deadline : Option Nat} {decode : Json → Option α} {v : α}
    (h : client.Answers network answer call)
    (hopen : ∀ d ∈ deadline, w.now < d) (hv : decode (answer call) = some v) (reason : String) :
    read network timeout deadline call decode client.providers reason w =
      (.value v, client.afterCalls answer w [call]) :=
  read_value hopen reason (exchange_answered h w) rfl hv

theorem query_answered {decode : Json → Option α} {v : α} (h : client.Answers network answer call)
    (hv : decode (answer call) = some v) :
    (client.query network call decode).run w = (.ok v, client.afterCalls answer w [call]) :=
  query_of_read (read_answered _ h (by simp) hv "")

/-- The chain that is reported is accepted if no other one is expected. -/
theorem verifyChainId_of_chainId {chainId : Nat} {w' : World}
    (h : (client.chainId network).run w = (.ok chainId, w'))
    (hexpected : client.settings.chainId = none ∨ client.settings.chainId = some chainId) :
    (client.verifyChainId network).run w = (.ok chainId, w') := by
  unfold verifyChainId
  rw [run_bind_of_ok h]
  rcases hexpected with hexpected | hexpected <;> rw [hexpected]
  · rfl
  · dsimp only
    rw [if_pos rfl]
    rfl

theorem sendRawTransaction_answered {raw : Bytes} {hash : Hash}
    (h : client.Answers network answer (.sendRawTransaction raw))
    (hhash : hash? (answer (.sendRawTransaction raw)) = some hash) :
    (client.sendRawTransaction network raw).run w =
      (.ok hash, client.afterCalls answer w [.sendRawTransaction raw]) := by
  unfold sendRawTransaction
  have hget : (get : Run World).run w = (.ok w, w) := rfl
  rw [run_bind_of_ok hget, run_bind_of_lift (ask_answered h _)]
  dsimp only
  rw [hhash]
  rfl

end Client

end Rpc

end LayerMessaging
