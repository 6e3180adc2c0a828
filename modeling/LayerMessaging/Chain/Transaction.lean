import LayerMessaging.Chain.Wallet
import LayerMessaging.Json.Basic
import LayerMessaging.Number.Uint256
import LayerMessaging.Rlp

namespace LayerMessaging

/-- A call as it is asked to be estimated; what is absent is left to the node. -/
structure CallRequest where
  sender : Option Address
  recipient : Option Address
  value : Option Uint256
  data : Option Bytes
  deriving DecidableEq

structure Transaction where
  sender : Address
  recipient : Address
  value : Uint256
  data : Bytes
  nonce : Nat
  gasPrice : Nat
  gasLimit : Nat
  chainId : Nat
  deriving DecidableEq

namespace CallRequest

def fields (call : CallRequest) : List (String × Json) :=
  (call.sender.map fun a => ("from", Json.string a.hex)).toList
    ++ (call.recipient.map fun a => ("to", Json.string a.hex)).toList
    ++ (call.value.map fun v => ("value", Json.string v.hex)).toList
    ++ (call.data.map fun d => ("input", Json.string (Hex.encodeMarked d))).toList

def json (call : CallRequest) : Json := .object call.fields

end CallRequest

namespace Transaction

def call (tx : Transaction) : CallRequest :=
  ⟨some tx.sender, some tx.recipient, some tx.value, some tx.data⟩

def json (tx : Transaction) : Json :=
  .object (tx.call.fields ++
    [("nonce", .string (Hex.quantity tx.nonce)), ("gasPrice", .string (Hex.quantity tx.gasPrice)),
     ("gas", .string (Hex.quantity tx.gasLimit)), ("chainId", .string (Hex.quantity tx.chainId))])

def ownFields (tx : Transaction) : List Rlp.Item :=
  [.ofNat tx.nonce, .ofNat tx.gasPrice, .ofNat tx.gasLimit, .string tx.recipient.bytes,
    .ofNat tx.value.val, .string tx.data]

/-- What is signed: the transaction and its chain. -/
def signingBytes (tx : Transaction) : Bytes :=
  Rlp.encode (.list (tx.ownFields ++ [.ofNat tx.chainId, .ofNat 0, .ofNat 0]))

/-- The first number of the signature: the chain, and the parity of the nonce's point. -/
def recovery (tx : Transaction) (signature : Secp256k1.Signature) : Nat :=
  35 + 2 * tx.chainId + (if signature.oddY then 1 else 0)

/-- The nine fields of a signed transaction. -/
def signedItem (tx : Transaction) (signature : Secp256k1.Signature) : Rlp.Item :=
  .list (tx.ownFields ++
    [.ofNat (tx.recovery signature), .ofNat signature.r, .ofNat signature.s])

def sign (tx : Transaction) (wallet : Wallet) : Except ChainError Bytes :=
  if tx.sender ≠ wallet.address then
    .error (.wallet "Signing failed: the sender is another account")
  else
    match Secp256k1.sign wallet.key (Keccak.digest tx.signingBytes) with
    | none => .error (.wallet "Signing failed: no signature")
    | some signature =>
      match Rlp.encode? (tx.signedItem signature) with
      | some bytes => .ok bytes
      | none => .error (.wallet "Signing failed: the transaction has no form")

end Transaction

end LayerMessaging
