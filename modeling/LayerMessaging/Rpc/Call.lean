import LayerMessaging.Chain.Transaction
import LayerMessaging.Json.Printer
import LayerMessaging.Url.Parser

namespace LayerMessaging.Rpc

inductive Call where
  | chainId
  | blockNumber
  | gasPrice
  | transactionCount (account : Address)
  | estimateGas (call : CallRequest)
  | sendRawTransaction (raw : Bytes)
  | transactionReceipt (hash : Hash)
  deriving DecidableEq

namespace Call

def method : Call → String
  | .chainId => "eth_chainId"
  | .blockNumber => "eth_blockNumber"
  | .gasPrice => "eth_gasPrice"
  | .transactionCount _ => "eth_getTransactionCount"
  | .estimateGas _ => "eth_estimateGas"
  | .sendRawTransaction _ => "eth_sendRawTransaction"
  | .transactionReceipt _ => "eth_getTransactionReceipt"

/-- The arguments of the call. Accounts are asked as of the latest block, and estimates are made on
top of the pending one. -/
def params : Call → Option (List Json)
  | .chainId => none
  | .blockNumber => none
  | .gasPrice => none
  | .transactionCount account => some [.string account.hex, .string "latest"]
  | .estimateGas call => some [call.json, .string "pending"]
  | .sendRawTransaction raw => some [.string (Hex.encodeMarked raw)]
  | .transactionReceipt hash => some [.string hash.hex]

end Call

inductive Outcome where
  | result (value : Json)
  | refusal (code : Int) (message : String) (data : Option String)
  /-- No answer of the protocol: the connection fails, or something else is sent. -/
  | failure (reason : String)
  /-- No answer ever. -/
  | silence
  deriving Inhabited

def refusalText (code : Int) (message : String) (data : Option String) : String :=
  "server returned an error response: error code " ++ toString code ++ ": " ++ message
    ++ (match data with
      | some data => ", data: " ++ data
      | none => "")

structure Provider where
  position : Nat
  url : Url
  deriving DecidableEq

structure Exchange where
  provider : Provider
  call : Call
  time : Nat
  outcome : Outcome

/-- The clock, in seconds, and the calls that were made, in order. -/
structure World where
  now : Nat
  trace : List Exchange

def World.start : World := ⟨0, []⟩

structure Receipt where
  hash : Hash
  succeeded : Bool
  blockNumber : Option Nat
  deriving DecidableEq

/-- How nodes behave, and what the protocol library makes of answers whose form is up to it. -/
structure Network where
  /-- What comes back to a call. It may depend on the calls before it and on the time. -/
  respond : List Exchange → Nat → Provider → Call → Outcome
  /-- The receipt that a result holds. There is none if it is not one. -/
  receiptOf? : Json → Option Receipt
  /-- What is wrong with a result that is not of the kind that the call has. -/
  complaint : Call → Json → String

namespace Network

instance : CoeFun Network fun _ => List Exchange → Nat → Provider → Call → Outcome := ⟨respond⟩

/-- A receipt, or nothing while the transaction is not mined. -/
def receipt? (network : Network) (json : Json) : Option (Option Receipt) :=
  match json with
  | .null => some none
  | json => (network.receiptOf? json).map some

end Network

/-- The network of a machine on which every connection is refused, so that no result is ever
read. -/
def unreachable : Network where
  respond _ _ provider _ :=
    let url := provider.url.withoutCredentials
    let cause := if url.isRequestable then "error sending request" else "builder error"
    .failure (cause ++ " for url (" ++ url.text ++ ")")
  receiptOf? _ := none
  complaint _ _ := ""

/-- A run that makes calls and can fail. -/
abbrev Run (α : Type) := ExceptT ChainError (StateM World) α

/-- Makes one call and waits for the answer, at most until a moment. By convention the clock moves
on for those who keep silent alone: an answer that comes in time counts as one that comes at
once. -/
def ask (network : Network) (provider : Provider) (call : Call) (limit : Nat) :
    StateM World Outcome := fun w =>
  let outcome := network w.trace w.now provider call
  let trace := w.trace ++ [⟨provider, call, w.now, outcome⟩]
  match outcome with
  | .silence => (.silence, ⟨max w.now limit, trace⟩)
  | outcome => (outcome, ⟨w.now, trace⟩)

end LayerMessaging.Rpc
