import LayerMessaging.Proofs.Command.LiveRun
import LayerMessaging.Proofs.Rpc.Answering

namespace LayerMessaging

open Rpc

namespace Submitter

def transaction (s : Submitter) (message : Message) (count price estimate : Nat) : Transaction where
  sender := s.wallet.address
  recipient := message.recipient
  value := message.value
  data := message.calldata
  nonce := count
  gasPrice := Pricing.offeredPrice s.client.settings price
  gasLimit := Pricing.offeredGas s.client.settings estimate
  chainId := s.wallet.chainId

def callsFor (s : Submitter) (message : Message) (raw : Bytes) : List Call :=
  [.transactionCount s.wallet.address, .gasPrice,
    .estimateGas ⟨some s.wallet.address, some message.recipient, some message.value,
      some message.calldata⟩,
    .sendRawTransaction raw]

/-- The answers let a submission through: they are of the right kind, the price is below the cap,
and the transaction that is built from them has a signature. -/
structure Accepts (s : Submitter) (answer : Call → Json) (message : Message) (count : Nat)
    (raw : Bytes) (hash : Hash) : Prop where
  quiet : s.client.settings.waitForReceipt = false
  count_eq : quantity? (Bytes.limit 8) (answer (.transactionCount s.wallet.address)) = some count
  signed : ∃ price estimate,
    quantity? (Bytes.limit 16) (answer .gasPrice) = some price ∧
    Pricing.checkCap s.client.settings price = .ok () ∧
    quantity? (Bytes.limit 8) (answer (.estimateGas ⟨some s.wallet.address,
      some message.recipient, some message.value, some message.calldata⟩)) = some estimate ∧
    (s.transaction message count price estimate).sign s.wallet = .ok raw
  hash_eq : hash? (answer (.sendRawTransaction raw)) = some hash

variable {s : Submitter} {network : Network} {answer : Call → Json} {message : Message}
  {count : Nat} {raw : Bytes} {hash : Hash} {w : World}

/-- Answers of the right kind to the three calls that read, with a price below the cap, let a
transaction be built. -/
theorem build_answered {recipient : Address} {value : Uint256} {data : Bytes}
    {price estimate : Nat} (hanswers : ∀ call ≠ .chainId, s.client.Answers network answer call)
    (hcount : quantity? (Bytes.limit 8) (answer (.transactionCount s.wallet.address)) = some count)
    (hprice : quantity? (Bytes.limit 16) (answer .gasPrice) = some price)
    (hcap : Pricing.checkCap s.client.settings price = .ok ())
    (hestimate : quantity? (Bytes.limit 8) (answer (.estimateGas ⟨some s.wallet.address,
      some recipient, some value, some data⟩)) = some estimate) :
    (s.build network recipient value data).run w =
      (.ok ⟨s.wallet.address, recipient, value, data, count,
          Pricing.offeredPrice s.client.settings price,
          Pricing.offeredGas s.client.settings estimate, s.wallet.chainId⟩,
        s.client.afterCalls answer w [.transactionCount s.wallet.address, .gasPrice,
          .estimateGas ⟨some s.wallet.address, some recipient, some value, some data⟩]) := by
  have hcounted := hanswers (.transactionCount s.wallet.address) nofun
  have hpriced := hanswers .gasPrice nofun
  have hestimated := hanswers (.estimateGas ⟨some s.wallet.address, some recipient, some value,
    some data⟩) nofun
  unfold build Client.transactionCount Client.gasPrice Client.estimateGas
  dsimp only
  rw [run_bind_of_ok (Client.query_answered hcounted hcount),
    run_bind_of_ok (Client.query_answered hpriced hprice), hcap]
  have hquiet : (liftM (Except.ok () : Except ChainError Unit) : Run Unit).run
      (s.client.afterCalls answer (s.client.afterCalls answer w
        [.transactionCount s.wallet.address]) [.gasPrice]) = (.ok (), _) := rfl
  rw [run_bind_of_ok hquiet, run_bind_of_ok (Client.query_answered hestimated hestimate),
    Client.afterCalls_afterCalls, Client.afterCalls_afterCalls]
  rfl

theorem build_answering {recipient : Address} {value : Uint256} {data : Bytes}
    {price estimate : Nat}
    (hcount : quantity? (Bytes.limit 8) (answer (.transactionCount s.wallet.address)) = some count)
    (hprice : quantity? (Bytes.limit 16) (answer .gasPrice) = some price)
    (hcap : Pricing.checkCap s.client.settings price = .ok ())
    (hestimate : quantity? (Bytes.limit 8) (answer (.estimateGas ⟨some s.wallet.address,
      some recipient, some value, some data⟩)) = some estimate) :
    (s.build (answering answer) recipient value data).run w =
      (.ok ⟨s.wallet.address, recipient, value, data, count,
          Pricing.offeredPrice s.client.settings price,
          Pricing.offeredGas s.client.settings estimate, s.wallet.chainId⟩,
        s.client.afterCalls answer w [.transactionCount s.wallet.address, .gasPrice,
          .estimateGas ⟨some s.wallet.address, some recipient, some value, some data⟩]) :=
  build_answered (fun call _ => Client.answers_answering call) hcount hprice hcap hestimate

theorem submit_answered (hanswers : ∀ call ≠ .chainId, s.client.Answers network answer call)
    (h : s.Accepts answer message count raw hash) :
    (s.submit network message.recipient message.value message.calldata).run w =
      (.ok ⟨hash, count, .submitted⟩, s.client.afterCalls answer w (s.callsFor message raw)) := by
  obtain ⟨price, estimate, hprice, hcap, hestimate, hsign⟩ := h.signed
  have hbuild : (s.build network message.recipient message.value message.calldata).run w =
      (.ok (s.transaction message count price estimate),
        s.client.afterCalls answer w ((s.callsFor message raw).take 3)) :=
    build_answered hanswers h.count_eq hprice hcap hestimate
  have hsend : (s.send network (s.transaction message count price estimate)).run
      (s.client.afterCalls answer w ((s.callsFor message raw).take 3)) =
      (.ok hash, s.client.afterCalls answer w (s.callsFor message raw)) := by
    unfold send
    rw [hsign]
    have hanswered := hanswers (.sendRawTransaction raw) nofun
    refine (Client.sendRawTransaction_answered hanswered h.hash_eq).trans ?_
    rw [Client.afterCalls_afterCalls]
    rfl
  unfold submit
  rw [run_bind_of_ok hbuild, run_bind_of_ok hsend]
  dsimp only
  rw [h.quiet]
  rfl

theorem connect_of_verifyChainId {settings : ChainSettings} {endpoint : Endpoint} {wallet : Wallet}
    {client : Client} {chainId : Nat} {w' : World}
    (hwallet : Wallet.ofText endpoint.privateKey.text (settings.chainId.getD 0) = .ok wallet)
    (hclient : Client.ofSettings settings = .ok client)
    (hverify : (client.verifyChainId network).run w = (.ok chainId, w')) :
    (connect network settings endpoint).run w = (.ok ⟨client, wallet.withChainId chainId⟩, w') := by
  unfold connect
  rw [hwallet, hclient]
  exact (run_bind_of_ok hverify).trans rfl

end Submitter

theorem Command.run_ofRun_of_ok {α : Type} {fail : ChainError → Failure} {run : Run α} {a : α}
    {scene : Scene} {w : World} (h : run.run scene.world = (.ok a, w)) :
    (Command.ofRun fail run).run scene = (.ok a, { scene with world := w }) := by
  change (((run.run scene.world).1.mapError fail, { scene with world := (run.run scene.world).2 }) :
    Except Failure α × Scene) = _
  rw [h]
  rfl

namespace MessageCommand

variable {command : MessageCommand} {network : Network} {answer : Call → Json} {settings : Settings}
  {config : Config} {message : Message} {endpoint : Endpoint} {count : Nat} {raw : Bytes}
  {hash : Hash}

/-- A live run that is connected submits its message if the answers let it through. -/
theorem run_of_connect {s : Submitter} {scene : Scene} {w : World}
    (hmessage : command.message config = .ok message)
    (hendpoint : config.requireEndpoint = .ok endpoint)
    (hconnect : (Submitter.connect network (config.applyTo settings.chain) endpoint).run
      scene.world = (.ok s, w))
    (hanswers : ∀ call ≠ .chainId, s.client.Answers network answer call)
    (h : s.Accepts answer message count raw hash) :
    (command.run network settings config false).run scene =
      (.ok (.submitted ⟨hash, count, .submitted⟩),
        { scene with world := s.client.afterCalls answer w (s.callsFor message raw) }) := by
  have hsubmit := Submitter.submit_answered (w := w) hanswers h
  have hrun : (Command.submit network settings config message).run scene =
      (.ok ⟨hash, count, .submitted⟩,
        { scene with world := s.client.afterCalls answer w (s.callsFor message raw) }) := by
    unfold Command.submit
    rw [hendpoint]
    have hquiet : (Command.ofConfig (.ok endpoint)).run scene = (.ok endpoint, scene) := rfl
    rw [run_bind_of_ok hquiet, run_bind_of_ok (Command.run_ofRun_of_ok hconnect),
      Command.run_ofRun_of_ok hsubmit]
  rw [run_eq, hmessage]
  exact (run_bind_of_ok hrun).trans rfl

/-- A live run whose key and nodes are in order submits its message if the answers let it
through. -/
theorem run_answering {wallet : Wallet} {client : Client} {chainId : Nat}
    (hmessage : command.message config = .ok message)
    (hendpoint : config.requireEndpoint = .ok endpoint)
    (hwallet : Wallet.ofText endpoint.privateKey.text
      ((config.applyTo settings.chain).chainId.getD 0) = .ok wallet)
    (hclient : Client.ofSettings (config.applyTo settings.chain) = .ok client)
    (hchain : quantity? (Bytes.limit 8) (answer .chainId) = some chainId)
    (hexpected : client.settings.chainId = none ∨ client.settings.chainId = some chainId)
    (h : Submitter.Accepts ⟨client, wallet.withChainId chainId⟩ answer message count raw hash)
    (scene : Scene) :
    (command.run (answering answer) settings config false).run scene =
      (.ok (.submitted ⟨hash, count, .submitted⟩),
        { scene with
          world := client.afterCalls answer scene.world
            (.chainId ::
              Submitter.callsFor ⟨client, wallet.withChainId chainId⟩ message raw) }) := by
  have hidentified : (client.chainId (answering answer)).run scene.world =
      (.ok chainId, client.afterCalls answer scene.world [.chainId]) :=
    Client.query_answered (Client.answers_answering _) hchain
  have hconnect := Submitter.connect_of_verifyChainId hwallet hclient
    (Client.verifyChainId_of_chainId hidentified hexpected)
  rw [run_of_connect hmessage hendpoint hconnect (fun _ _ => Client.answers_answering _) h,
    Client.afterCalls_afterCalls]
  rfl

end MessageCommand

end LayerMessaging
