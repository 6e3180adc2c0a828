import LayerMessaging.Deploy.Artifact
import LayerMessaging.Json.Leftover

namespace LayerMessaging.Artifact

open Json.Reader

def byte : Json.Reader UInt8 := fun cs => do
  match ← number (skipSpace cs) with
  | (.natural n, rest) => if n < 256 then return (UInt8.ofNat n, rest) else throw .malformed
  | _ => throw .malformed

/-- The next field of a record that is written as a list. -/
def element {α : Type} (first : Bool) (reader : Json.Reader α) : Json.Reader α := fun cs =>
  match first, skipSpace cs with
  | true, ']' :: _ => throw .malformed
  | true, cs => reader cs
  | false, ',' :: rest => reader rest
  | false, _ => throw .malformed

def closeList : Json.Reader Unit := fun cs =>
  match skipSpace cs with
  | ']' :: rest => return ((), rest)
  | _ => throw .malformed

/-- The end of a list of bytes that are all read. An item too many is overlooked if it is no byte,
and so is a comma with nothing behind it. -/
def closeBytes : Json.Reader Unit := fun cs =>
  match skipSpace cs with
  | ',' :: rest =>
    match Json.Leftover.ofNoByte? (skipSpace rest) with
    | some rest => closeList rest
    | none => throw .malformed
  | cs => closeList cs

/-- A list of a fixed number of bytes, up to its end. -/
def byteItems : (count : Nat) → (first : Bool) → Json.Reader Bytes
  | 0, _, cs => do
    let (_, rest) ← closeBytes cs
    return ([], rest)
  | count + 1, first, cs => do
    let (b, rest) ← element first byte cs
    let (bytes, rest) ← byteItems count false rest
    return (b :: bytes, rest)

def fixedBytes (size : Nat) : Json.Reader (FixedBytes size) := fun cs =>
  match skipSpace cs with
  | '[' :: rest => do
    let (bytes, rest) ← byteItems size true rest
    match FixedBytes.ofBytes? bytes with
    | some value => return (value, rest)
    | none => throw .malformed
  | _ => do
    let (text, rest) ← string cs
    match FixedBytes.ofHex text with
    | .ok value => return (value, rest)
    | .error _ => throw .malformed

/-- A number of 64 bits: a JSON number, or a numeral of any radix in a string. -/
def quantity : Json.Reader Nat := fun cs =>
  match skipSpace cs with
  | '"' :: _ => do
    let (text, rest) ← string cs
    match Numeral.prefixed (Bytes.limit 8) text with
    | .ok n => return (n, rest)
    | .error _ => throw .malformed
  | cs => do
    match ← number cs with
    | (.natural n, rest) => if n < Bytes.limit 8 then return (n, rest) else throw .malformed
    | _ => throw .malformed

structure EntryPart where
  hash : Option (Option Hash)
  kind : Option String
  contractName : Option (Option String)
  contractAddress : Option (Option Address)

def entryField : FieldReader EntryPart := fun part key cs =>
  if key = "hash" then
    once key part.hash (nullable (fixedBytes 32)) (fun v => { part with hash := some v }) cs
  else if key = "transactionType" then
    once key part.kind string (fun v => { part with kind := some v }) cs
  else if key = "contractName" then
    once key part.contractName (nullable string) (fun v => { part with contractName := some v }) cs
  else if key = "contractAddress" then
    once key part.contractAddress (nullable (fixedBytes 20))
      (fun v => { part with contractAddress := some v }) cs
  else ignored part cs

def entry : Json.Reader Entry := fun cs =>
  match skipSpace cs with
  | '[' :: rest => do
    let (hash, rest) ← element true (nullable (fixedBytes 32)) rest
    let (kind, rest) ← element false string rest
    let (contractName, rest) ← element false (nullable string) rest
    let (contractAddress, rest) ← element false (nullable (fixedBytes 20)) rest
    let (_, rest) ← closeList rest
    return (⟨hash, kind, contractName, contractAddress⟩, rest)
  | cs => do
    let (part, rest) ← fields entryField ⟨none, none, none, none⟩ cs
    let kind ← required "transactionType" part.kind
    return (⟨part.hash.getD none, kind, part.contractName.getD none,
      part.contractAddress.getD none⟩, rest)

structure ReceiptPart where
  hash : Option Hash
  blockNumber : Option (Option Nat)
  status : Option (Option Nat)
  contractAddress : Option (Option Address)

def receiptField : FieldReader ReceiptPart := fun part key cs =>
  if key = "transactionHash" then
    once key part.hash (fixedBytes 32) (fun v => { part with hash := some v }) cs
  else if key = "blockNumber" then
    once key part.blockNumber (nullable quantity) (fun v => { part with blockNumber := some v }) cs
  else if key = "status" then
    once key part.status (nullable quantity) (fun v => { part with status := some v }) cs
  else if key = "contractAddress" then
    once key part.contractAddress (nullable (fixedBytes 20))
      (fun v => { part with contractAddress := some v }) cs
  else ignored part cs

def receipt : Json.Reader Receipt := fun cs =>
  match skipSpace cs with
  | '[' :: rest => do
    let (hash, rest) ← element true (fixedBytes 32) rest
    let (blockNumber, rest) ← element false (nullable quantity) rest
    let (status, rest) ← element false (nullable quantity) rest
    let (contractAddress, rest) ← element false (nullable (fixedBytes 20)) rest
    let (_, rest) ← closeList rest
    return (⟨hash, blockNumber, status, contractAddress⟩, rest)
  | cs => do
    let (part, rest) ← fields receiptField ⟨none, none, none, none⟩ cs
    let hash ← required "transactionHash" part.hash
    return (⟨hash, part.blockNumber.getD none, part.status.getD none,
      part.contractAddress.getD none⟩, rest)

structure Part where
  transactions : Option (List Entry)
  receipts : Option (List Receipt)

def field : FieldReader Part := fun part key cs =>
  if key = "transactions" then
    once key part.transactions (list entry) (fun v => { part with transactions := some v }) cs
  else if key = "receipts" then
    once key part.receipts (list receipt) (fun v => { part with receipts := some v }) cs
  else ignored part cs

/-- The record; its receipts may be left out. -/
def reader : Json.Reader Artifact := fun cs =>
  match skipSpace cs with
  | '[' :: rest => do
    let (transactions, rest) ← element true (list entry) rest
    match skipSpace rest with
    | ']' :: rest => return (⟨transactions, []⟩, rest)
    | rest =>
      let (receipts, rest) ← element false (list receipt) rest
      let (_, rest) ← closeList rest
      return (⟨transactions, receipts⟩, rest)
  | cs => do
    let (part, rest) ← fields field ⟨none, none⟩ cs
    let transactions ← required "transactions" part.transactions
    return (⟨transactions, part.receipts.getD []⟩, rest)

def load (files : Files) (path : String) : Except DeployError Artifact :=
  match files.readText path with
  | .error cause => .error (.unreadableArtifact path cause.message)
  | .ok content =>
    match Json.Reader.ofText reader content with
    | .ok artifact => .ok artifact
    | .error fault => .error (.unreadableArtifact path fault.message)

end LayerMessaging.Artifact
