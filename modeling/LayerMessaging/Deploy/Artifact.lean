import LayerMessaging.Bytes.Fixed
import LayerMessaging.Deploy.Error
import LayerMessaging.Json.Printer
import LayerMessaging.Json.Reader
import LayerMessaging.Number.Numeral
import LayerMessaging.Path

namespace LayerMessaging

structure Artifact.Entry where
  hash : Option Hash
  kind : String
  contractName : Option String
  contractAddress : Option Address
  deriving DecidableEq

structure Artifact.Receipt where
  hash : Hash
  blockNumber : Option Nat
  status : Option Nat
  contractAddress : Option Address
  deriving DecidableEq

structure Artifact where
  transactions : List Artifact.Entry
  receipts : List Artifact.Receipt
  deriving DecidableEq

structure DeployedContract where
  name : String
  address : Address
  deriving DecidableEq

structure ReceiptSummary where
  hash : Hash
  blockNumber : Option Nat
  success : Bool
  deriving DecidableEq

structure DeploymentReport where
  /-- The contract that counts. -/
  address : Address
  contracts : List DeployedContract
  receipts : List ReceiptSummary
  artifactPath : String
  deriving DecidableEq

namespace Artifact

def creations : List String := ["CREATE", "CREATE2"]

/-- The contract of a transaction that creates one and gives its name and address. -/
def Entry.created? (entry : Entry) : Option DeployedContract :=
  if entry.kind ∈ creations then
    match entry.contractName, entry.contractAddress with
    | some name, some address => some ⟨name, address⟩
    | _, _ => none
  else none

def contracts (artifact : Artifact) : List DeployedContract :=
  artifact.transactions.filterMap Entry.created?

/-- A receipt without a status counts as one of a failure. -/
def Receipt.summary (receipt : Receipt) : ReceiptSummary :=
  ⟨receipt.hash, receipt.blockNumber, receipt.status = some 1⟩

def summaries (artifact : Artifact) : List ReceiptSummary := artifact.receipts.map Receipt.summary

/-- The last of the created contracts that has the wanted name, or the last of all. -/
def primary? (artifact : Artifact) (name : Option String) : Option DeployedContract :=
  match name with
  | some name => artifact.contracts.reverse.find? fun contract => contract.name = name
  | none => artifact.contracts.getLast?

def report (artifact : Artifact) (name : Option String) (path : String) :
    Except DeployError DeploymentReport :=
  match artifact.primary? name with
  | some contract => .ok ⟨contract.address, artifact.contracts, artifact.summaries, path⟩
  | none => .error (.contractNotFound (name.getD "<any>") path)

/-- Where the tool records the latest run of a script on a chain. -/
def path (projectDir script : String) (chainId : Nat) : String :=
  let file := String.ofList (script.toList.takeWhile (· ≠ ':'))
  let name := (Path.fileName? file).getD file
  Path.join (Path.join (Path.join (Path.join projectDir "broadcast") name) (toString chainId))
    "run-latest.json"

end Artifact

namespace DeployedContract

def json (contract : DeployedContract) : Json :=
  .object [("name", .string contract.name), ("address", .string contract.address.hex)]

end DeployedContract

namespace ReceiptSummary

def json (summary : ReceiptSummary) : Json :=
  .object [("tx_hash", .string summary.hash.hex),
    ("block_number", Json.ofOption .natural summary.blockNumber),
    ("success", .bool summary.success)]

end ReceiptSummary

namespace DeploymentReport

def json (report : DeploymentReport) : Json :=
  .object [("address", .string report.address.hex),
    ("contracts", .array (report.contracts.map DeployedContract.json)),
    ("receipts", .array (report.receipts.map ReceiptSummary.json)),
    ("broadcast_file", .string report.artifactPath)]

end DeploymentReport

end LayerMessaging
