import LayerMessaging.Number.Binary64

namespace LayerMessaging

structure ChainSettings where
  rpcUrl : String
  failoverUrls : List String
  /-- The chain that is expected; without one, whatever the endpoint reports is used. -/
  chainId : Option Nat
  rpcTimeout : Nat
  confirmations : Nat
  gasPriceMultiplier : Binary64
  maxGasPriceGwei : Nat
  gasLimitMultiplier : Binary64
  waitForReceipt : Bool
  receiptTimeout : Nat
  deriving DecidableEq

structure DeploySettings where
  tool : String
  projectDir : String
  script : String
  /-- The contract that counts as the deployed one; without one, the last that was created. -/
  contractName : Option String
  deriving DecidableEq

structure Settings where
  chain : ChainSettings
  deploy : DeploySettings
  logLevel : String
  deriving DecidableEq

namespace Settings

def defaultChain : ChainSettings where
  rpcUrl := "http://localhost:8545"
  failoverUrls := []
  chainId := none
  rpcTimeout := 10
  confirmations := 1
  gasPriceMultiplier := .ofDecimal false 12 (-1)
  maxGasPriceGwei := 500
  gasLimitMultiplier := .ofDecimal false 13 (-1)
  waitForReceipt := true
  receiptTimeout := 60

def defaultDeploy : DeploySettings where
  tool := "forge"
  projectDir := "."
  script := "script/LocalTesting.s.sol:LocalSetup"
  contractName := none

def defaultLogLevel : String := "info"

/-- The settings without a settings file. -/
def default : Settings := ⟨defaultChain, defaultDeploy, defaultLogLevel⟩

instance : Inhabited Settings := ⟨default⟩

def logFilter (level : String) : String := "messaging_bridge=" ++ level ++ ",warn"

end Settings

end LayerMessaging
