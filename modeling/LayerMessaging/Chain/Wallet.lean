import LayerMessaging.Chain.Address
import LayerMessaging.Chain.Error
import LayerMessaging.Curve.Secp256k1
import LayerMessaging.Text.Blank

namespace LayerMessaging

structure Wallet where
  key : Secp256k1.SecretKey
  chainId : Nat
  deriving DecidableEq

namespace Wallet

inductive KeyFault where
  | hex (fault : Hex.Error)
  | outOfRange
  deriving DecidableEq, Repr

def KeyFault.message : KeyFault → String
  | .hex fault => fault.message
  | .outOfRange => "signature error"

/-- The key of a text: 32 bytes in hexadecimal. Blanks around it and one marker `0x` are dropped
before the digits are read, which may start with a marker of their own. -/
def readKey (text : String) : Except KeyFault Secp256k1.SecretKey :=
  let trimmed := Text.trimChars text.toList
  let digits := match trimmed with
    | '0' :: 'x' :: rest => rest
    | digits => digits
  match Hex.decodeExact 32 (String.ofList digits) with
  | .error fault => .error (.hex fault)
  | .ok bytes =>
    match Secp256k1.SecretKey.ofBytes? bytes with
    | some key => .ok key
    | none => .error .outOfRange

def ofText (text : String) (chainId : Nat) : Except ChainError Wallet :=
  match readKey text with
  | .ok key => .ok ⟨key, chainId⟩
  | .error fault =>
    .error (.wallet ("Invalid private key format in ACCOUNT_PRIVATE_KEY: " ++ fault.message))

/-- The same key, signing for another chain. -/
def withChainId (wallet : Wallet) (chainId : Nat) : Wallet := { wallet with chainId }

theorem length_addressBytes (digest : Hash) : (digest.bytes.drop 12).length = 20 := by
  simp [digest.length_eq]

/-- The address of a key: the last 20 bytes of the digest of its public point. -/
def address (wallet : Wallet) : Address :=
  let digest := Keccak.digest wallet.key.publicBytes
  ⟨digest.bytes.drop 12, length_addressBytes digest⟩

end Wallet

end LayerMessaging
