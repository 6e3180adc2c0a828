import LayerMessaging.Abi
import LayerMessaging.Json.Printer
import LayerMessaging.Message.Payload
import LayerMessaging.Message.Selector

namespace LayerMessaging

structure Target where
  /-- The messaging contract on the first layer, which receives the transaction. -/
  l1Contract : Address
  l2Contract : Uint256
  /-- What is attached to a message that is sent. -/
  messageValue : Uint256
  deriving DecidableEq

inductive Message.Action where
  | send (selector : Selector) (value : Uint256)
  | consume
  deriving DecidableEq

/-- A message, ready to be signed and submitted. -/
structure Message where
  action : Message.Action
  recipient : Address
  contract : Uint256
  payload : Payload
  deriving DecidableEq

namespace Message

def toSend (target : Target) (name : String) (payload : Payload) :
    Except Selector.Error Message := do
  let selector ← Selector.ofName name
  return ⟨.send selector target.messageValue, target.l1Contract, target.l2Contract, payload⟩

def toConsume (target : Target) (payload : Payload) : Message :=
  ⟨.consume, target.l1Contract, target.l2Contract, payload⟩

def kindName (message : Message) : String :=
  match message.action with
  | .send .. => "send"
  | .consume => "consume"

def function (message : Message) : String :=
  match message.action with
  | .send .. => "sendMessage(uint256,uint256,uint256[])"
  | .consume => "consumeMessage(uint256,uint256[])"

def selector? (message : Message) : Option Selector :=
  match message.action with
  | .send selector _ => some selector
  | .consume => none

def value (message : Message) : Uint256 :=
  match message.action with
  | .send _ value => value
  | .consume => Uint256.zero

def arguments (message : Message) : List Abi.Argument :=
  match message.action with
  | .send selector _ => [.word message.contract, .word selector.word, .words message.payload.words]
  | .consume => [.word message.contract, .words message.payload.words]

def calldata (message : Message) : Bytes := Abi.encodeCall message.function message.arguments

/-- The printed form; the selector is left out of a message to be consumed. -/
def json (message : Message) : Json :=
  .object <|
    [("kind", .string message.kindName), ("function", .string message.function),
     ("to", .string message.recipient.hex), ("value", .string message.value.hex),
     ("contract_address", .string message.contract.hex)]
    ++ (message.selector?.map fun selector => ("selector", Json.string selector.word.hex)).toList
    ++ [("payload", .array (message.payload.words.map fun word => .string word.hex)),
        ("calldata", .string (Hex.encodeMarked message.calldata))]

end Message

end LayerMessaging
