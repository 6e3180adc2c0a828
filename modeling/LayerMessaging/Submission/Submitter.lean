import LayerMessaging.Config.Basic
import LayerMessaging.Submission.Confirmation
import LayerMessaging.Submission.Pricing

namespace LayerMessaging

open Rpc

structure Submitter where
  client : Client
  wallet : Wallet

namespace Submitter

/-- Connects an endpoint's key to the nodes of the settings. The key is read before any call is
made, and is bound to the chain that the nodes report. -/
def connect (network : Network) (settings : ChainSettings) (endpoint : Endpoint) :
    Run Submitter := do
  let wallet ← Wallet.ofText endpoint.privateKey.text (settings.chainId.getD 0)
  let client ← Client.ofSettings settings
  let chainId ← client.verifyChainId network
  return ⟨client, wallet.withChainId chainId⟩

def build (s : Submitter) (network : Network) (recipient : Address) (value : Uint256)
    (data : Bytes) : Run Transaction := do
  let sender := s.wallet.address
  let nonce ← s.client.transactionCount network sender
  let price ← s.client.gasPrice network
  let _ ← Pricing.checkCap s.client.settings price
  let estimate ← s.client.estimateGas network ⟨some sender, some recipient, some value, some data⟩
  return {
    sender, recipient, value, data, nonce
    gasPrice := Pricing.offeredPrice s.client.settings price
    gasLimit := Pricing.offeredGas s.client.settings estimate
    chainId := s.wallet.chainId }

def send (s : Submitter) (network : Network) (tx : Transaction) : Run Hash := do
  let raw ← tx.sign s.wallet
  s.client.sendRawTransaction network raw

/-- Builds, signs and hands over a transaction, and waits for it if the settings say so. -/
def submit (s : Submitter) (network : Network) (recipient : Address) (value : Uint256)
    (data : Bytes) : Run Submission := do
  let tx ← s.build network recipient value data
  let hash ← s.send network tx
  let settings := s.client.settings
  let status ←
    if settings.waitForReceipt then
      Confirmation.await s.client network hash settings.receiptTimeout
    else pure .submitted
  match status with
  | .failed _ => throw (.reverted hash)
  | status => return ⟨hash, tx.nonce, status⟩

end Submitter

end LayerMessaging
