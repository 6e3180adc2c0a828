import LayerMessaging.Program.Run
import LayerMessaging.Proofs.Json.Fields

namespace LayerMessaging

open Json

theorem Selector.word_injective : Function.Injective word := by
  rintro ⟨val, _⟩ ⟨val', _⟩ h
  cases congrArg Uint256.val h
  rfl

namespace Message

structure Shown where
  kind : String
  function : String
  recipient : Address
  value : Uint256
  contract : Uint256
  selector? : Option Uint256
  payload : List Uint256
  calldata : Bytes
  deriving DecidableEq

namespace Shown

def json (shown : Shown) : Json :=
  .object <|
    [("kind", .string shown.kind), ("function", .string shown.function),
     ("to", .string shown.recipient.hex), ("value", .string shown.value.hex),
     ("contract_address", .string shown.contract.hex)]
    ++ (shown.selector?.map fun word => ("selector", Json.string word.hex)).toList
    ++ [("payload", .array (shown.payload.map fun word => .string word.hex)),
        ("calldata", .string (Hex.encodeMarked shown.calldata))]

def ofJson? (json : Json) : Option Shown := do
  let kind ← json.field? "kind" text?
  let function ← json.field? "function" text?
  let recipient ← json.field? "to" fixedBytes?
  let value ← json.field? "value" word?
  let contract ← json.field? "contract_address" word?
  let selector? ← json.optionalField? "selector" word?
  let payload ← json.field? "payload" (list? word?)
  let calldata ← json.field? "calldata" bytes?
  return ⟨kind, function, recipient, value, contract, selector?, payload, calldata⟩

theorem plain_json (shown : Shown) : Plain shown.json := by
  obtain ⟨kind, function, recipient, value, contract, selector?, payload, calldata⟩ := shown
  cases selector? <;> simp [json]

theorem ofJson?_json (shown : Shown) : ofJson? shown.json = some shown := by
  obtain ⟨kind, function, recipient, value, contract, selector?, payload, calldata⟩ := shown
  have hpayload := list?_map word?_hex payload
  cases selector? <;>
    simp [ofJson?, field?, optionalField?, json, get?, List.lookup_cons, text?, fixedBytes?_hex,
      word?_hex, bytes?_encodeMarked, hpayload]

end Shown

def shown (message : Message) : Shown :=
  ⟨message.kindName, message.function, message.recipient, message.value, message.contract,
    message.selector?.map Selector.word, message.payload.words, message.calldata⟩

theorem json_shown (message : Message) : message.shown.json = message.json := by
  obtain ⟨action, recipient, contract, payload⟩ := message
  cases action <;> rfl

def keys (message : Message) : List String :=
  match message.action with
  | .send .. => ["kind", "function", "to", "value", "contract_address", "selector", "payload",
      "calldata"]
  | .consume => ["kind", "function", "to", "value", "contract_address", "payload", "calldata"]

/-- No two messages share all their fields. -/
theorem shown_injective : Function.Injective shown := by
  intro a b h
  obtain ⟨action, recipient, contract, ⟨words⟩⟩ := a
  obtain ⟨action', recipient', contract', ⟨words'⟩⟩ := b
  have hrecipient : recipient = recipient' := congrArg Shown.recipient h
  have hcontract : contract = contract' := congrArg Shown.contract h
  have hwords : words = words' := congrArg Shown.payload h
  have haction : action = action' := by
    have hselector := congrArg Shown.selector? h
    have hvalue := congrArg Shown.value h
    cases action with
    | send selector value =>
      cases action' with
      | send selector' value' =>
        have hword : selector.word = selector'.word := Option.some.inj hselector
        have hattached : value = value' := hvalue
        rw [Selector.word_injective hword, hattached]
      | consume => cases hselector
    | consume =>
      cases action' with
      | send selector' value' => cases hselector
      | consume => rfl
  rw [haction, hrecipient, hcontract, hwords]

theorem keys_json (message : Message) : message.json.keys = message.keys := by
  obtain ⟨action, recipient, contract, payload⟩ := message
  cases action <;> rfl

theorem ofJson?_json (message : Message) : Shown.ofJson? message.json = some message.shown := by
  rw [← json_shown]
  exact message.shown.ofJson?_json

theorem ofText_resultText (message : Message) :
    Reader.ofText Reader.value (Program.resultText (.prepared message)) = .ok message.json := by
  have hplain := message.shown.plain_json
  rw [json_shown] at hplain
  exact ofText_pretty hplain

theorem resultText_injective :
    Function.Injective fun message => Program.resultText (.prepared message) := by
  intro a b h
  have hjson : a.json = b.json :=
    Except.ok.inj (a.ofText_resultText.symm.trans ((congrArg _ h).trans b.ofText_resultText))
  have hshown := a.ofJson?_json
  rw [hjson, ofJson?_json] at hshown
  exact (shown_injective (Option.some.inj hshown)).symm

end Message

def DeployedContract.ofJson? (json : Json) : Option DeployedContract := do
  let name ← json.field? "name" text?
  let address ← json.field? "address" fixedBytes?
  return ⟨name, address⟩

def ReceiptSummary.ofJson? (json : Json) : Option ReceiptSummary := do
  let hash ← json.field? "tx_hash" fixedBytes?
  let blockNumber ← json.field? "block_number" (nullable? natural?)
  let success ← json.field? "success" flag?
  return ⟨hash, blockNumber, success⟩

theorem DeployedContract.ofJson?_json (contract : DeployedContract) :
    ofJson? contract.json = some contract := by
  simp [ofJson?, json, field?, get?, List.lookup_cons, text?, fixedBytes?_hex]

theorem ReceiptSummary.ofJson?_json (summary : ReceiptSummary) :
    ofJson? summary.json = some summary := by
  have hblock : nullable? natural? (ofOption Json.natural summary.blockNumber) =
      some summary.blockNumber :=
    @nullable?_ofOption Nat natural? Json.natural (fun _ => rfl) (fun _ => nofun) _
  simp [ofJson?, json, field?, get?, List.lookup_cons, flag?, fixedBytes?_hex, hblock]

namespace DeploymentReport

def ofJson? (json : Json) : Option DeploymentReport := do
  let address ← json.field? "address" fixedBytes?
  let contracts ← json.field? "contracts" (list? DeployedContract.ofJson?)
  let receipts ← json.field? "receipts" (list? ReceiptSummary.ofJson?)
  let artifactPath ← json.field? "broadcast_file" text?
  return ⟨address, contracts, receipts, artifactPath⟩

theorem plain_json (report : DeploymentReport) : Plain report.json := by
  have hcontract (contract : DeployedContract) : Plain contract.json := by
    simp [DeployedContract.json]
  have hreceipt (summary : ReceiptSummary) : Plain summary.json := by
    cases hblock : summary.blockNumber <;> simp [ReceiptSummary.json, ofOption, hblock]
  simp [json, hcontract, hreceipt]

theorem ofJson?_json (report : DeploymentReport) : ofJson? report.json = some report := by
  have hcontracts := list?_map DeployedContract.ofJson?_json report.contracts
  have hreceipts := list?_map ReceiptSummary.ofJson?_json report.receipts
  simp [ofJson?, json, field?, get?, List.lookup_cons, text?, fixedBytes?_hex, hcontracts,
    hreceipts]

theorem ofText_pretty_json (report : DeploymentReport) :
    Reader.ofText Reader.value report.json.pretty = .ok report.json :=
  ofText_pretty report.plain_json

theorem pretty_json_injective :
    Function.Injective fun report : DeploymentReport => report.json.pretty := by
  intro a b h
  have hjson : a.json = b.json :=
    Except.ok.inj (a.ofText_pretty_json.symm.trans ((congrArg _ h).trans b.ofText_pretty_json))
  have hreport := a.ofJson?_json
  rw [hjson, ofJson?_json] at hreport
  exact (Option.some.inj hreport).symm

end DeploymentReport

/-- What is printed for a message or a deployment report is one JSON value that holds every field
under its key, so that no two messages, and no two reports, print the same. -/
theorem printed_results_read_back :
    (∀ message : Message,
      Reader.ofText Reader.value (Program.resultText (.prepared message)) = .ok message.json ∧
        message.json.keys = message.keys ∧
          Message.Shown.ofJson? message.json = some message.shown) ∧
    (∀ report : DeploymentReport,
      Reader.ofText Reader.value report.json.pretty = .ok report.json ∧
        report.json.keys = ["address", "contracts", "receipts", "broadcast_file"] ∧
          DeploymentReport.ofJson? report.json = some report) ∧
    (Function.Injective fun message => Program.resultText (.prepared message)) ∧
    Function.Injective fun report : DeploymentReport => report.json.pretty := by
  refine ⟨?messages, ?reports, Message.resultText_injective,
    DeploymentReport.pretty_json_injective⟩
  case messages =>
    exact fun message => ⟨message.ofText_resultText, message.keys_json, message.ofJson?_json⟩
  case reports =>
    exact fun report => ⟨report.ofText_pretty_json, rfl, report.ofJson?_json⟩

end LayerMessaging
