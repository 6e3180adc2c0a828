import LayerMessaging.Bytes.Fixed

namespace LayerMessaging

inductive ChainError where
  | rpc (text : String)
  | timeout (seconds : Nat)
  | confirmationTimeout (blocks : Nat)
  | reverted (hash : Hash)
  | wallet (text : String)
  | gasPriceTooHigh (currentGwei maxGwei : Nat)
  | chainMismatch (expected actual : Nat)
  deriving DecidableEq

def ChainError.message : ChainError → String
  | .rpc text => "RPC error: " ++ text
  | .timeout seconds => "RPC timeout after " ++ toString seconds ++ " seconds"
  | .confirmationTimeout blocks =>
    "Transaction not confirmed after " ++ toString blocks ++ " blocks"
  | .reverted hash => "Transaction reverted: " ++ hash.hex
  | .wallet text => "Wallet error: " ++ text
  | .gasPriceTooHigh currentGwei maxGwei =>
    "Gas price " ++ toString currentGwei ++ " gwei exceeds maximum " ++ toString maxGwei ++ " gwei"
  | .chainMismatch expected actual =>
    "Chain ID mismatch: expected " ++ toString expected ++ ", got " ++ toString actual

end LayerMessaging
