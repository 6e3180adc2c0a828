import LayerMessaging.Rpc.Answer
import LayerMessaging.Settings.Basic
import LayerMessaging.Text.Quoted

namespace LayerMessaging.Rpc

structure Client where
  primary : Provider
  failovers : List Provider
  settings : ChainSettings

namespace Client

def providers (client : Client) : List Provider := client.primary :: client.failovers

/-- The URLs among some texts, in order. -/
def validUrls (texts : List String) : List Url :=
  texts.filterMap fun text => (Url.parse text).toOption

/-- The client of some settings. The first URL must be one; further texts that are none are left
out. No call is made. -/
def ofSettings (settings : ChainSettings) : Except ChainError Client :=
  match Url.parse settings.rpcUrl with
  | .error e =>
    .error (.rpc ("Invalid RPC URL '" ++ settings.rpcUrl ++ "': " ++ e.message))
  | .ok url =>
    let failovers := (validUrls settings.failoverUrls).mapIdx fun i url => ⟨i + 1, url⟩
    .ok ⟨⟨0, url⟩, failovers, settings⟩

def shown (client : Client) : String :=
  "BlockchainClient \x7b rpc_url: " ++ Text.quote client.settings.rpcUrl ++ ", chain_id: "
    ++ Text.describeOption (client.settings.chainId.map toString)
    ++ ", timeout_secs: " ++ toString client.settings.rpcTimeout ++ " \x7d"

inductive Reading (α : Type) where
  | value (value : α)
  | failed (error : ChainError)
  /-- The moment came until which anything was waited for. -/
  | expired

def silenceText (seconds : Nat) : String := "timed out after " ++ toString seconds ++ "s"

def malformedText (network : Network) (call : Call) (json : Json) : String :=
  "deserialization error: " ++ network.complaint call json

/-- Asks one node after the other until one gives a value or says that the call failed. The text is
why the last one that was asked did neither. Whoever does not answer costs the timeout, but nothing
is waited for beyond the deadline, if there is one. -/
def read {α : Type} (network : Network) (timeout : Nat) (deadline : Option Nat) (call : Call)
    (decode : Json → Option α) : List Provider → String → StateM World (Reading α)
  | [], reason =>
    pure (.failed (.rpc ("All RPC providers failed: " ++ call.method ++ ": " ++ reason)))
  | provider :: providers, _ => do
    let start := (← get).now
    if deadline.any (· ≤ start) then return .expired
    let limit := min (start + timeout) (deadline.getD (start + timeout))
    match ← ask network provider call limit with
    | .result json =>
      match decode json with
      | some value => return .value value
      | none =>
        read network timeout deadline call decode providers (malformedText network call json)
    | .refusal code message data =>
      return .failed (.rpc (call.method ++ ": " ++ refusalText code message data))
    | .failure reason => read network timeout deadline call decode providers reason
    | .silence =>
      if deadline.any (· < start + timeout) then return .expired
      else read network timeout deadline call decode providers (silenceText timeout)

def query {α : Type} (client : Client) (network : Network) (call : Call)
    (decode : Json → Option α) : Run α := do
  match ← (read network client.settings.rpcTimeout none call decode client.providers "") with
  | .value value => return value
  | .failed error => throw error
  | .expired => throw (.rpc "")

def chainId (client : Client) (network : Network) : Run Nat :=
  client.query network .chainId (quantity? (Bytes.limit 8))

def blockNumber (client : Client) (network : Network) : Run Nat :=
  client.query network .blockNumber (quantity? (Bytes.limit 8))

def gasPrice (client : Client) (network : Network) : Run Nat :=
  client.query network .gasPrice (quantity? (Bytes.limit 16))

def transactionCount (client : Client) (network : Network) (account : Address) : Run Nat :=
  client.query network (.transactionCount account) (quantity? (Bytes.limit 8))

def estimateGas (client : Client) (network : Network) (call : CallRequest) : Run Nat :=
  client.query network (.estimateGas call) (quantity? (Bytes.limit 8))

def transactionReceipt (client : Client) (network : Network) (hash : Hash) : Run (Option Receipt) :=
  client.query network (.transactionReceipt hash) network.receipt?

/-- The chain of the nodes, which must be the expected one. -/
def verifyChainId (client : Client) (network : Network) : Run Nat := do
  let actual ← client.chainId network
  match client.settings.chainId with
  | some expected =>
    if actual = expected then return actual else throw (.chainMismatch expected actual)
  | none => return actual

/-- Hands a signed transaction to the first node, once. -/
def sendRawTransaction (client : Client) (network : Network) (raw : Bytes) : Run Hash := do
  let timeout := client.settings.rpcTimeout
  let start := (← get).now
  match ← ask network client.primary (.sendRawTransaction raw) (start + timeout) with
  | .result json =>
    match hash? json with
    | some hash => return hash
    | none => throw (.rpc (malformedText network (.sendRawTransaction raw) json))
  | .refusal code message data => throw (.rpc (refusalText code message data))
  | .failure reason => throw (.rpc reason)
  | .silence => throw (.timeout timeout)

end Client

end LayerMessaging.Rpc
