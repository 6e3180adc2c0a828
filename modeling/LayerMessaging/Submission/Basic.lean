import LayerMessaging.Bytes.Fixed

namespace LayerMessaging

inductive Status where
  | submitted
  /-- Mined in a block that lies deep enough. -/
  | confirmed (block : Nat)
  /-- Mined and reverted. -/
  | failed (block : Option Nat)
  deriving DecidableEq

structure Submission where
  hash : Hash
  nonce : Nat
  status : Status
  deriving DecidableEq

end LayerMessaging
