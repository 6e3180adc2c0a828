import LayerMessaging.Proofs.Rpc.Client
import LayerMessaging.Proofs.Submission.Waiting

namespace LayerMessaging

open Rpc

namespace Rpc.Client

/-- The first node of the client of some settings is that of the first URL. -/
theorem ofSettings_inv {settings : ChainSettings} {client : Client}
    (h : Client.ofSettings settings = .ok client) :
    client.settings = settings ∧
      ∃ url, Url.parse settings.rpcUrl = .ok url ∧ client.primary = ⟨0, url⟩ := by
  unfold Client.ofSettings at h
  split at h
  · cases h
  · cases h
    exact ⟨rfl, _, ‹_›, rfl⟩

end Rpc.Client

namespace Submitter

/-- What connecting leaves behind: the key and the URL are read before the nodes are asked. -/
inductive Connection (network : Network) (settings : ChainSettings) (endpoint : Endpoint) :
    List Exchange → Except ChainError Submitter → Prop
  | noKey {error : ChainError}
      (h : Wallet.ofText endpoint.privateKey.text (settings.chainId.getD 0) = .error error) :
      Connection network settings endpoint [] (.error error)
  | noClient {error : ChainError} (h : Client.ofSettings settings = .error error) :
      Connection network settings endpoint [] (.error error)
  | noChain {wallet : Wallet} {client : Client} {es : List Exchange} {error : ChainError}
      (hwallet : Wallet.ofText endpoint.privateKey.text (settings.chainId.getD 0) = .ok wallet)
      (hclient : Client.ofSettings settings = .ok client)
      (h : client.Identified network es (.error error)) :
      Connection network settings endpoint es (.error error)
  | connected {wallet : Wallet} {client : Client} {es : List Exchange} {chainId : Nat}
      (hwallet : Wallet.ofText endpoint.privateKey.text (settings.chainId.getD 0) = .ok wallet)
      (hclient : Client.ofSettings settings = .ok client)
      (h : client.Identified network es (.ok chainId)) :
      Connection network settings endpoint es (.ok ⟨client, wallet.withChainId chainId⟩)

theorem leaves_connect (network : Network) (settings : ChainSettings) (endpoint : Endpoint) :
    Leaves (connect network settings endpoint).run (Connection network settings endpoint) := by
  refine .andThen_except (fun error h => .noKey h) fun wallet hwallet => ?_
  refine .andThen_except (fun error h => .noClient h) fun client hclient => ?_
  refine (client.leaves_verifyChainId network).andThen
    (fun es error h => .noChain hwallet hclient h) fun es chainId h => ?_
  exact .ok_last (.connected hwallet hclient h)

/-- What building a transaction leaves behind: the price is refused before gas is estimated. -/
inductive Preparation (s : Submitter) (network : Network) (recipient : Address) (value : Uint256)
    (data : Bytes) : List Exchange → Except ChainError Transaction → Prop
  | noNonce {es : List Exchange} {error : ChainError}
      (h : s.client.Asked network (.transactionCount s.wallet.address)
        (quantity? (Bytes.limit 8)) es (.error error)) :
      Preparation s network recipient value data es (.error error)
  | noPrice {es es' : List Exchange} {nonce : Nat} {error : ChainError}
      (hnonce : s.client.Asked network (.transactionCount s.wallet.address)
        (quantity? (Bytes.limit 8)) es (.ok nonce))
      (h : s.client.Asked network .gasPrice (quantity? (Bytes.limit 16)) es' (.error error)) :
      Preparation s network recipient value data (es ++ es') (.error error)
  | tooDear {es es' : List Exchange} {nonce price : Nat} {error : ChainError}
      (hnonce : s.client.Asked network (.transactionCount s.wallet.address)
        (quantity? (Bytes.limit 8)) es (.ok nonce))
      (hprice : s.client.Asked network .gasPrice (quantity? (Bytes.limit 16)) es' (.ok price))
      (h : Pricing.checkCap s.client.settings price = .error error) :
      Preparation s network recipient value data (es ++ es') (.error error)
  | noEstimate {es es' es'' : List Exchange} {nonce price : Nat} {error : ChainError}
      (hnonce : s.client.Asked network (.transactionCount s.wallet.address)
        (quantity? (Bytes.limit 8)) es (.ok nonce))
      (hprice : s.client.Asked network .gasPrice (quantity? (Bytes.limit 16)) es' (.ok price))
      (hcap : Pricing.checkCap s.client.settings price = .ok ())
      (h : s.client.Asked network
        (.estimateGas ⟨some s.wallet.address, some recipient, some value, some data⟩)
        (quantity? (Bytes.limit 8)) es'' (.error error)) :
      Preparation s network recipient value data (es ++ es' ++ es'') (.error error)
  | built {es es' es'' : List Exchange} {nonce price estimate : Nat}
      (hnonce : s.client.Asked network (.transactionCount s.wallet.address)
        (quantity? (Bytes.limit 8)) es (.ok nonce))
      (hprice : s.client.Asked network .gasPrice (quantity? (Bytes.limit 16)) es' (.ok price))
      (hcap : Pricing.checkCap s.client.settings price = .ok ())
      (hestimate : s.client.Asked network
        (.estimateGas ⟨some s.wallet.address, some recipient, some value, some data⟩)
        (quantity? (Bytes.limit 8)) es'' (.ok estimate)) :
      Preparation s network recipient value data (es ++ es' ++ es'')
        (.ok ⟨s.wallet.address, recipient, value, data, nonce,
          Pricing.offeredPrice s.client.settings price,
          Pricing.offeredGas s.client.settings estimate, s.wallet.chainId⟩)

theorem leaves_build (s : Submitter) (network : Network) (recipient : Address) (value : Uint256)
    (data : Bytes) :
    Leaves (s.build network recipient value data).run
      (Preparation s network recipient value data) := by
  refine (s.client.leaves_query network _ _).andThen (fun es error h => .noNonce h)
    fun es nonce hnonce => ?_
  refine (s.client.leaves_query network _ _).andThen (fun es' error h => .noPrice hnonce h)
    fun es' price hprice => .regroup ?_
  refine .andThen_except (fun error h => ?_) fun _ hcap => ?_
  · rw [List.append_nil]
    exact .tooDear hnonce hprice h
  refine (s.client.leaves_query network _ _).andThen
    (fun es'' error h => .noEstimate hnonce hprice hcap h) fun es'' estimate hestimate => ?_
  exact .regroup (.ok_last (.built hnonce hprice hcap hestimate))

inductive Delivery (s : Submitter) (network : Network) (tx : Transaction) :
    List Exchange → Except ChainError Hash → Prop
  | unsigned {error : ChainError} (h : tx.sign s.wallet = .error error) :
      Delivery s network tx [] (.error error)
  | signed {raw : Bytes} {es : List Exchange} {result : Except ChainError Hash}
      (hraw : tx.sign s.wallet = .ok raw) (h : s.client.Handed network raw es result) :
      Delivery s network tx es result

theorem leaves_send (s : Submitter) (network : Network) (tx : Transaction) :
    Leaves (s.send network tx).run (Delivery s network tx) := by
  refine .andThen_except (fun error h => .unsigned h) fun raw hraw => ?_
  exact (s.client.leaves_sendRawTransaction network raw).mono fun es result h => .signed hraw h

/-- What submitting leaves behind: the transaction is built, handed over, and waited for if the
settings say so. -/
inductive Course (s : Submitter) (network : Network) (recipient : Address) (value : Uint256)
    (data : Bytes) : List Exchange → Except ChainError Submission → Prop
  | notBuilt {es : List Exchange} {error : ChainError}
      (h : s.Preparation network recipient value data es (.error error)) :
      Course s network recipient value data es (.error error)
  | notDelivered {es es' : List Exchange} {tx : Transaction} {error : ChainError}
      (hbuilt : s.Preparation network recipient value data es (.ok tx))
      (h : s.Delivery network tx es' (.error error)) :
      Course s network recipient value data (es ++ es') (.error error)
  | notAwaited {es es' : List Exchange} {tx : Transaction} {hash : Hash}
      (hbuilt : s.Preparation network recipient value data es (.ok tx))
      (hdelivered : s.Delivery network tx es' (.ok hash))
      (hwait : s.client.settings.waitForReceipt = false) :
      Course s network recipient value data (es ++ es') (.ok ⟨hash, tx.nonce, .submitted⟩)
  | notConfirmed {es es' es'' : List Exchange} {tx : Transaction} {hash : Hash} {deadline : Nat}
      {error : ChainError}
      (hbuilt : s.Preparation network recipient value data es (.ok tx))
      (hdelivered : s.Delivery network tx es' (.ok hash))
      (hwait : s.client.settings.waitForReceipt = true)
      (h : Confirmation.Waiting s.client network hash deadline es'' (.error error)) :
      Course s network recipient value data (es ++ es' ++ es'') (.error error)
  | reverted {es es' es'' : List Exchange} {tx : Transaction} {hash : Hash} {deadline : Nat}
      {block : Option Nat}
      (hbuilt : s.Preparation network recipient value data es (.ok tx))
      (hdelivered : s.Delivery network tx es' (.ok hash))
      (hwait : s.client.settings.waitForReceipt = true)
      (h : Confirmation.Waiting s.client network hash deadline es'' (.ok (.failed block))) :
      Course s network recipient value data (es ++ es' ++ es'') (.error (.reverted hash))
  | confirmed {es es' es'' : List Exchange} {tx : Transaction} {hash : Hash} {deadline block : Nat}
      (hbuilt : s.Preparation network recipient value data es (.ok tx))
      (hdelivered : s.Delivery network tx es' (.ok hash))
      (hwait : s.client.settings.waitForReceipt = true)
      (h : Confirmation.Waiting s.client network hash deadline es'' (.ok (.confirmed block))) :
      Course s network recipient value data (es ++ es' ++ es'')
        (.ok ⟨hash, tx.nonce, .confirmed block⟩)

theorem leaves_submit (s : Submitter) (network : Network) (recipient : Address) (value : Uint256)
    (data : Bytes) :
    Leaves (s.submit network recipient value data).run (Course s network recipient value data) := by
  refine (s.leaves_build network recipient value data).andThen (fun es error h => .notBuilt h)
    fun es tx hbuilt => ?_
  refine (s.leaves_send network tx).andThen (fun es' error h => .notDelivered hbuilt h)
    fun es' hash hdelivered => .regroup ?_
  dsimp only
  by_cases hwait : s.client.settings.waitForReceipt = true
  · rw [if_pos hwait]
    refine (Confirmation.leaves_await s.client network hash _).andThen
      (fun es'' error ⟨_, h⟩ => .notConfirmed hbuilt hdelivered hwait h)
      fun es'' status ⟨deadline, h⟩ => .regroup ?_
    obtain ⟨_, _, -, -, hlast⟩ := h.ok_inv
    cases status with
    | submitted => cases hlast
    | confirmed block => exact .ok_last (.confirmed hbuilt hdelivered hwait h)
    | failed block => exact .error_last (.reverted hbuilt hdelivered hwait h)
  · rw [if_neg hwait]
    exact .ok_last (.notAwaited hbuilt hdelivered (eq_false_of_ne_true hwait))

end Submitter

end LayerMessaging
