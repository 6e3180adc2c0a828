import LayerMessaging.Chain.Transaction
import LayerMessaging.Proofs.Rlp.Reader

namespace LayerMessaging

structure SignedTransaction where
  nonce : Nat
  gasPrice : Nat
  gasLimit : Nat
  recipient : Address
  value : Uint256
  data : Bytes
  v : Nat
  r : Nat
  s : Nat
  deriving DecidableEq

namespace SignedTransaction

def natural? : Rlp.Item → Option Nat
  | .string bytes => if bytes.head? = some 0 then none else some bytes.toNat
  | .list _ => none

def word? (item : Rlp.Item) : Option Uint256 := do
  let n ← natural? item
  if h : n < Bytes.limit 32 then some ⟨n, h⟩ else none

def address? : Rlp.Item → Option Address
  | .string bytes => FixedBytes.ofBytes? bytes
  | .list _ => none

def bytes? : Rlp.Item → Option Bytes
  | .string bytes => some bytes
  | .list _ => none

def ofItem? : Rlp.Item → Option SignedTransaction
  | .list [nonce, gasPrice, gasLimit, recipient, value, data, v, r, s] => do
    return {
      nonce := ← natural? nonce
      gasPrice := ← natural? gasPrice
      gasLimit := ← natural? gasLimit
      recipient := ← address? recipient
      value := ← word? value
      data := ← bytes? data
      v := ← natural? v
      r := ← natural? r
      s := ← natural? s }
  | _ => none

/-- Reads a signed transaction behind which nothing follows. -/
def decode? (raw : Bytes) : Option SignedTransaction :=
  (Rlp.decode? raw).bind ofItem?

@[simp] theorem natural?_ofNat (n : Nat) : natural? (.ofNat n) = some n := by
  rw [Rlp.Item.ofNat, natural?, if_neg (Bytes.head?_minimal n), Bytes.toNat_minimal]

@[simp] theorem word?_ofNat (word : Uint256) : word? (.ofNat word.val) = some word := by
  simp [word?, word.lt]

@[simp] theorem address?_string (address : Address) :
    address? (.string address.bytes) = some address := by
  simp [address?, FixedBytes.ofBytes?, address.length_eq]

@[simp] theorem bytes?_string (bytes : Bytes) : bytes? (.string bytes) = some bytes := rfl

/-- The fields are those of the transaction, for the chain that is named. -/
structure Carries (signed : SignedTransaction) (tx : Transaction) (chainId : Nat) : Prop where
  nonce_eq : signed.nonce = tx.nonce
  gasPrice_eq : signed.gasPrice = tx.gasPrice
  gasLimit_eq : signed.gasLimit = tx.gasLimit
  recipient_eq : signed.recipient = tx.recipient
  value_eq : signed.value = tx.value
  data_eq : signed.data = tx.data
  v_eq : signed.v = 35 + 2 * chainId ∨ signed.v = 36 + 2 * chainId
  low : signed.s ≤ Secp256k1.order / 2

end SignedTransaction

namespace Transaction

def signed (tx : Transaction) (signature : Secp256k1.Signature) : SignedTransaction where
  nonce := tx.nonce
  gasPrice := tx.gasPrice
  gasLimit := tx.gasLimit
  recipient := tx.recipient
  value := tx.value
  data := tx.data
  v := tx.recovery signature
  r := signature.r
  s := signature.s

theorem ofItem?_signedItem (tx : Transaction) (signature : Secp256k1.Signature) :
    SignedTransaction.ofItem? (tx.signedItem signature) = some (tx.signed signature) := by
  simp [signedItem, ownFields, SignedTransaction.ofItem?, signed]

/-- The first number of a signature is one of two, whatever the size of the chain's number. -/
theorem recovery_cases (tx : Transaction) (signature : Secp256k1.Signature) :
    tx.recovery signature = 35 + 2 * tx.chainId ∨ tx.recovery signature = 36 + 2 * tx.chainId := by
  unfold recovery
  split
  · exact .inr (by omega)
  · exact .inl rfl

theorem carries_signed (tx : Transaction) (signature : Secp256k1.Signature) :
    (tx.signed signature).Carries tx tx.chainId where
  nonce_eq := rfl
  gasPrice_eq := rfl
  gasLimit_eq := rfl
  recipient_eq := rfl
  value_eq := rfl
  data_eq := rfl
  v_eq := tx.recovery_cases signature
  low := signature.low

/-- What signing gives is the form of the transaction with some signature. -/
theorem sign_ok_inv {tx : Transaction} {wallet : Wallet} {raw : Bytes}
    (h : tx.sign wallet = .ok raw) :
    ∃ signature, Rlp.encode? (tx.signedItem signature) = some raw := by
  unfold sign at h
  split at h
  · cases h
  split at h
  · cases h
  split at h
  · cases h
    exact ⟨_, ‹_›⟩
  · cases h

/-- What signing gives reads back. -/
theorem exists_decode?_of_sign {tx : Transaction} {wallet : Wallet} {raw : Bytes}
    (h : tx.sign wallet = .ok raw) :
    ∃ signed, SignedTransaction.decode? raw = some signed ∧ signed.Carries tx tx.chainId := by
  obtain ⟨signature, hform⟩ := sign_ok_inv h
  refine ⟨tx.signed signature, ?_, tx.carries_signed signature⟩
  rw [SignedTransaction.decode?, Rlp.decode?_encode? hform, Option.bind_some,
    ofItem?_signedItem]

end Transaction

/-- Bytes carry one transaction, for one chain. -/
theorem SignedTransaction.Carries.unique {signed : SignedTransaction} {tx tx' : Transaction}
    {chainId chainId' : Nat} (h : signed.Carries tx chainId) (h' : signed.Carries tx' chainId') :
    tx.nonce = tx'.nonce ∧ tx.gasPrice = tx'.gasPrice ∧ tx.gasLimit = tx'.gasLimit ∧
      tx.recipient = tx'.recipient ∧ tx.value = tx'.value ∧ tx.data = tx'.data ∧
      chainId = chainId' := by
  refine ⟨h.nonce_eq.symm.trans h'.nonce_eq, h.gasPrice_eq.symm.trans h'.gasPrice_eq,
    h.gasLimit_eq.symm.trans h'.gasLimit_eq, h.recipient_eq.symm.trans h'.recipient_eq,
    h.value_eq.symm.trans h'.value_eq, h.data_eq.symm.trans h'.data_eq, ?_⟩
  -- The two forms of `v` differ in parity, so that the chain is its half.
  have hv := h.v_eq
  have hv' := h'.v_eq
  omega

end LayerMessaging
