import LayerMessaging.Number.Shortest
import LayerMessaging.Settings.Basic
import LayerMessaging.Text.Blank
import LayerMessaging.Url.Parser

namespace LayerMessaging.Settings

structure Violation where
  field : String
  message : String
  deriving DecidableEq, Repr

def Violation.text (v : Violation) : String := v.field ++ ": " ++ v.message

def check (holds : Bool) (field message : String) : List Violation :=
  if holds then [] else [⟨field, message⟩]

def isUrl (text : String) : Bool :=
  match Url.parse text with
  | .ok _ => true
  | .error _ => false

/-- Everything that is wrong with settings. A multiplier that is no number is not below one. -/
def violations (s : Settings) : List Violation :=
  check (isUrl s.chain.rpcUrl) "blockchain.rpc_url" ("invalid URL '" ++ s.chain.rpcUrl ++ "'")
  ++ check (s.chain.rpcTimeout ≠ 0) "blockchain.rpc_timeout_secs" "must be greater than 0"
  ++ check (!s.chain.gasPriceMultiplier.ltOne) "blockchain.gas_price_multiplier"
      ("must be >= 1.0, got " ++ s.chain.gasPriceMultiplier.text)
  ++ check (!s.chain.gasLimitMultiplier.ltOne) "blockchain.gas_limit_multiplier"
      ("must be >= 1.0, got " ++ s.chain.gasLimitMultiplier.text)
  ++ check (!(s.chain.waitForReceipt && s.chain.receiptTimeout = 0))
      "blockchain.receipt_timeout_secs" "must be greater than 0 when waiting for receipts"
  ++ check (!Text.isBlankText s.deploy.tool) "deploy.forge_bin" "must not be empty"
  ++ check (s.deploy.script.toList.contains ':') "deploy.script"
      ("expected 'path:Contract', got '" ++ s.deploy.script ++ "'")

end LayerMessaging.Settings
