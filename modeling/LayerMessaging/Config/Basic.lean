import LayerMessaging.Chain.Address
import LayerMessaging.Config.Error
import LayerMessaging.Message.Basic
import LayerMessaging.Text.Quoted
import LayerMessaging.Url.Parser

namespace LayerMessaging

/-- The text of a signing key, which no description of a value shows. -/
structure KeyText where
  text : String
  deriving DecidableEq

def KeyText.shown (_ : KeyText) : String := "SecretKey(<redacted>)"

structure Endpoint where
  rpcUrl : Url
  failoverUrls : List Url
  privateKey : KeyText
  chainId : Option Nat
  deriving DecidableEq

structure Config where
  endpoint : Option Endpoint
  target : Option Target
  deriving DecidableEq

inductive Requirement where
  | endpoint
  | target
  | endpointAndTarget
  deriving DecidableEq, Repr

def Requirement.needsEndpoint : Requirement → Bool
  | .target => false
  | _ => true

def Requirement.needsTarget : Requirement → Bool
  | .endpoint => false
  | _ => true

namespace Config

def rpcUrlKey : String := "ETH_RPC_URL"

def privateKeyKey : String := "ACCOUNT_PRIVATE_KEY"

def l1ContractKey : String := "L1_CONTRACT_ADDRESS"

def l2ContractKey : String := "L2_CONTRACT_ADDRESS"

def chainIdKey : String := "ETH_CHAIN_ID"

def failoverUrlsKey : String := "ETH_FAILOVER_RPC_URLS"

def messageValueKey : String := "MESSAGE_VALUE_WEI"

def defaultMessageValue : Uint256 := Uint256.one

/-- The chain of local development, assumed when nothing else is known. -/
def defaultChainId : Nat := 31337

def endpointKeys : List String := [rpcUrlKey, privateKeyKey]

def targetKeys : List String := [l1ContractKey, l2ContractKey]

def empty : Config := ⟨none, none⟩

abbrev Lookup := String → Option String

/-- The value of a key that is not blank. -/
def given (lookup : Lookup) (key : String) : Option String :=
  (lookup key).filter fun value => !Text.isBlankText value

def requiredKeys (requirement : Requirement) : List String :=
  (if requirement.needsEndpoint then endpointKeys else [])
    ++ (if requirement.needsTarget then targetKeys else [])

def missingKeys (requirement : Requirement) (lookup : Lookup) : List String :=
  (requiredKeys requirement).filter fun key => (given lookup key).isNone

def url (key text : String) : Except ConfigError Url :=
  match Url.parse (Text.trim text) with
  | .ok url => .ok url
  | .error e => .error (.invalidValue key e.message)

/-- The URLs of a list with commas, blank items left out. -/
def urls (key text : String) : Except ConfigError (List Url) :=
  let items := (Text.splitChars (· = ',') text.toList).map Text.trimChars
  (items.filter (! ·.isEmpty)).mapM fun item => url key (String.ofList item)

def numeralFault : Numeral.Error → String
  | .empty => "cannot parse integer from empty string"
  | .invalidDigit _ => "invalid digit found in string"
  | .overflow => "number too large to fit in target type"

def chainId (text : String) : Except ConfigError Nat :=
  match Numeral.plain (Bytes.limit 8) (Text.trim text) with
  | .ok n => .ok n
  | .error e => .error (.invalidValue chainIdKey (numeralFault e))

def word (key text : String) : Except ConfigError Uint256 :=
  match Uint256.ofText (Text.trim text) with
  | .ok n => .ok n
  | .error e => .error (.invalidValue key (Uint256.faultText e))

def address (key text : String) : Except ConfigError Address :=
  match FixedBytes.ofHex (Text.trim text) with
  | .ok address => .ok address
  | .error e => .error (.invalidValue key e.message)

def readEndpoint (lookup : Lookup) : Except ConfigError Endpoint := do
  let rpcUrl ← url rpcUrlKey ((given lookup rpcUrlKey).getD "")
  let failoverUrls ← match given lookup failoverUrlsKey with
    | some text => urls failoverUrlsKey text
    | none => pure []
  let chainId ← match given lookup chainIdKey with
    | some text => some <$> chainId text
    | none => pure none
  return ⟨rpcUrl, failoverUrls, ⟨(given lookup privateKeyKey).getD ""⟩, chainId⟩

def readTarget (lookup : Lookup) : Except ConfigError Target := do
  let l1Contract ← address l1ContractKey ((given lookup l1ContractKey).getD "")
  let l2Contract ← word l2ContractKey ((given lookup l2ContractKey).getD "")
  let messageValue ← match given lookup messageValueKey with
    | some text => word messageValueKey text
    | none => pure defaultMessageValue
  return ⟨l1Contract, l2Contract, messageValue⟩

/-- The configuration that a command requires. All missing keys are reported together, before any
value is looked at; of several malformed values the first is reported. -/
def ofLookup (requirement : Requirement) (lookup : Lookup) : Except ConfigError Config := do
  let missing := missingKeys requirement lookup
  if missing ≠ [] then throw (.missingKeys missing)
  let endpoint ← if requirement.needsEndpoint then some <$> readEndpoint lookup else pure none
  let target ← if requirement.needsTarget then some <$> readTarget lookup else pure none
  return ⟨endpoint, target⟩

def requireEndpoint (config : Config) : Except ConfigError Endpoint :=
  match config.endpoint with
  | some endpoint => .ok endpoint
  | none => .error (.missingKeys endpointKeys)

def requireTarget (config : Config) : Except ConfigError Target :=
  match config.target with
  | some target => .ok target
  | none => .error (.missingKeys targetKeys)

/-- The settings with the endpoint over them: its URL, its failover URLs if it has any, and its
chain if it names one. -/
def applyTo (config : Config) (settings : ChainSettings) : ChainSettings :=
  match config.endpoint with
  | none => settings
  | some endpoint =>
    { settings with
      rpcUrl := endpoint.rpcUrl.text
      failoverUrls :=
        if endpoint.failoverUrls = [] then settings.failoverUrls
        else endpoint.failoverUrls.map Url.text
      chainId := endpoint.chainId <|> settings.chainId }

end Config

end LayerMessaging
