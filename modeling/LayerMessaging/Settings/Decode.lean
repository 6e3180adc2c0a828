import LayerMessaging.Settings.Basic
import LayerMessaging.Toml.Document

namespace LayerMessaging.Settings

/-- A field: its value in a table, or at its place in a list. -/
abbrev FieldOf := (name : String) → (place : Nat) → Option Toml

/-- The fields of a part. A date counts as a table without any known name. -/
def fieldsOf (part : Toml) : Option FieldOf :=
  match part with
  | .table entries => some fun name _ => entries.lookup name
  | .array items => some fun _ place => items[place]?
  | .dateTime => some fun _ _ => none
  | _ => none

/-- The value of a field, or its default. -/
def field {α : Type} (fields : FieldOf) (name : String) (place : Nat) (decode : Toml → Option α)
    (default : α) : Option α :=
  match fields name place with
  | none => some default
  | some value => decode value

def text : Toml → Option String
  | .string value => some value
  | _ => none

def boolean : Toml → Option Bool
  | .boolean value => some value
  | _ => none

def natural (bound : Nat) : Toml → Option Nat
  | .integer value => if 0 ≤ value ∧ value < bound then some value.toNat else none
  | _ => none

/-- A number; an integer is rounded to the nearest double. -/
def float : Toml → Option Binary64
  | .float value => some value
  | .integer value => some (.ofInt value)
  | _ => none

def texts : Toml → Option (List String)
  | .array items => items.mapM text
  | _ => none

def chainOf (part : Toml) : Option ChainSettings := do
  let fields ← fieldsOf part
  let d := defaultChain
  let word := natural (Bytes.limit 8)
  return {
    rpcUrl := ← field fields "rpc_url" 0 text d.rpcUrl
    failoverUrls := ← field fields "failover_urls" 1 texts d.failoverUrls
    chainId := ← field fields "chain_id" 2 (fun v => some <$> word v) d.chainId
    rpcTimeout := ← field fields "rpc_timeout_secs" 3 word d.rpcTimeout
    confirmations :=
      ← field fields "confirmation_blocks" 4 (natural (Bytes.limit 4)) d.confirmations
    gasPriceMultiplier := ← field fields "gas_price_multiplier" 5 float d.gasPriceMultiplier
    maxGasPriceGwei := ← field fields "max_gas_price_gwei" 6 word d.maxGasPriceGwei
    gasLimitMultiplier := ← field fields "gas_limit_multiplier" 7 float d.gasLimitMultiplier
    waitForReceipt := ← field fields "wait_for_receipt" 8 boolean d.waitForReceipt
    receiptTimeout := ← field fields "receipt_timeout_secs" 9 word d.receiptTimeout }

def deployOf (part : Toml) : Option DeploySettings := do
  let fields ← fieldsOf part
  let d := defaultDeploy
  return {
    tool := ← field fields "forge_bin" 0 text d.tool
    projectDir := ← field fields "project_dir" 1 text d.projectDir
    script := ← field fields "script" 2 text d.script
    contractName := ← field fields "contract_name" 3 (fun v => some <$> text v) d.contractName }

def logLevelOf (part : Toml) : Option String := do
  field (← fieldsOf part) "log_level" 0 text defaultLogLevel

def ofText (content : String) : Option Settings := do
  let entries ← Toml.Document.parse content
  let fields ← fieldsOf (.table entries)
  return {
    chain := ← field fields "blockchain" 0 chainOf defaultChain
    deploy := ← field fields "deploy" 1 deployOf defaultDeploy
    logLevel := ← field fields "observability" 2 logLevelOf defaultLogLevel }

end LayerMessaging.Settings
