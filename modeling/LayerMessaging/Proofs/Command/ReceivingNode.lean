import LayerMessaging.Proofs.Command.Handover
import LayerMessaging.Proofs.Command.ReportedChain
import LayerMessaging.Proofs.Command.Repetition

namespace LayerMessaging

open Rpc

/-- Whenever a node answers which chain it is on, it names the same one. -/
def Rpc.Network.KeepsChains (network : Network) (chainOf : Provider → Nat) : Prop :=
  ∀ trace time provider json chain, network trace time provider .chainId = .result json →
    quantity? (Bytes.limit 8) json = some chain → chain = chainOf provider

namespace Rpc.Client

variable {α : Type} {client : Client} {network : Network} {es : List Exchange}

/-- A node gives the value, and those before it were asked in vain. -/
structure AnsweredBy (network : Network) (call : Call) (decode : Json → Option α) (v : α)
    (es : List Exchange) (skipped : List Provider) (answering : Provider) : Prop where
  skipped_failed : ∀ provider ∈ skipped, ∃ e ∈ es, e.IsOf network provider call ∧
    Inconclusive decode e.outcome
  answered : ∃ e ∈ es, ∃ json, e.IsOf network answering call ∧ e.outcome = .result json ∧
    decode json = some v

theorem Stage.exists_answering {deadline : Option Nat} {call : Call}
    {decode : Json → Option α} {providers : List Provider} {v : α}
    (h : Stage network deadline call decode providers es (.value v)) :
    ∃ skipped answering rest, providers = skipped ++ answering :: rest ∧
      AnsweredBy network call decode v es skipped answering := by
  generalize hr : Reading.value v = reading at h
  induction h with
  | exhausted | overdue | refused | cut => cases hr
  | @value provider providers e json _ he ho hv =>
    cases hr
    exact ⟨[], provider, providers, rfl, List.forall_mem_nil _, e, List.mem_singleton_self e, json,
      he, ho, hv⟩
  | @next provider _ e es _ he hvain _ ih =>
    obtain ⟨skipped, answering, rest, rfl, hskipped, e', he', hanswered⟩ := ih hr
    refine ⟨provider :: skipped, answering, rest, rfl, ?_, e', List.mem_cons_of_mem e he',
      hanswered⟩
    refine List.forall_mem_cons.mpr ⟨⟨e, List.mem_cons_self .., he, hvain⟩, ?_⟩
    intro other hother
    obtain ⟨e', he', hfailed⟩ := hskipped other hother
    exact ⟨e', List.mem_cons_of_mem e he', hfailed⟩

theorem AnsweredBy.append {call : Call} {decode : Json → Option α} {v : α}
    {skipped : List Provider} {answering : Provider}
    (h : AnsweredBy network call decode v es skipped answering) (es' : List Exchange) :
    AnsweredBy network call decode v (es ++ es') skipped answering where
  skipped_failed provider hprovider := by
    obtain ⟨e, he, hfailed⟩ := h.skipped_failed provider hprovider
    exact ⟨e, List.mem_append_left es' he, hfailed⟩
  answered := by
    obtain ⟨e, he, hanswered⟩ := h.answered
    exact ⟨e, List.mem_append_left es' he, hanswered⟩

/-- The chain that is accepted is that of the node that answered. -/
theorem Identified.exists_answering {chainId : Nat}
    (h : client.Identified network es (.ok chainId)) :
    ∃ skipped answering rest, client.providers = skipped ++ answering :: rest ∧
      AnsweredBy network .chainId (quantity? (Bytes.limit 8)) chainId es skipped answering := by
  cases h with
  | known h _ =>
    cases h with
    | value h => exact h.exists_answering

theorem AnsweredBy.chain_eq {chainOf : Provider → Nat} {chainId : Nat} {skipped : List Provider}
    {answering : Provider} (hchains : network.KeepsChains chainOf)
    (h : AnsweredBy network .chainId (quantity? (Bytes.limit 8)) chainId es skipped answering) :
    chainId = chainOf answering := by
  obtain ⟨e, -, json, he, ho, hchain⟩ := h.answered
  obtain ⟨trace, houtcome⟩ := he.answered
  exact hchains trace e.time answering json chainId (houtcome.symm.trans ho) hchain

end Rpc.Client

namespace MessageCommand

variable {command : MessageCommand} {network : Network} {settings : Settings} {config : Config}
  {es : List Exchange} {result : Except Failure Command.Result}

/-- What a live run hands over goes to the first node of the client. -/
theorem LiveRun.provider_eq {client : Client} {e : Exchange} {raw : Bytes}
    (h : command.LiveRun network settings config es result)
    (hclient : Client.ofSettings (config.applyTo settings.chain) = .ok client) (he : e ∈ es)
    (hcall : e.call = .sendRawTransaction raw) : e.provider = client.primary := by
  have hmem := mem_handovers he hcall
  obtain ⟨-, url, hurl, hprimary⟩ := Client.ofSettings_inv hclient
  rcases h.handovers_cases with ⟨hnil, -⟩ | ⟨⟨e', url', hone, hprovider, hurl'⟩, -⟩
  · rw [hnil] at hmem
    cases hmem
  · rw [hone] at hmem
    rw [hurl] at hurl'
    cases hurl'
    rw [List.mem_singleton.mp hmem, hprovider, hprimary]

/-- What a live run hands over is signed for the chain of the node that answered for it. -/
theorem LiveRun.exists_answering {e : Exchange} {raw : Bytes}
    (h : command.LiveRun network settings config es result) (he : e ∈ es)
    (hcall : e.call = .sendRawTransaction raw) :
    ∃ signed client skipped answering rest chainId,
      SignedTransaction.decode? raw = some signed ∧
      Client.ofSettings (config.applyTo settings.chain) = .ok client ∧
      client.providers = skipped ++ answering :: rest ∧
      Client.AnsweredBy network .chainId (quantity? (Bytes.limit 8)) chainId es skipped answering ∧
      signed.chainId? = some chainId ∧
      ∀ expected, config.expectedChain? settings = some expected → chainId = expected := by
  obtain ⟨_, _, _, tx, es₁, es₂, rfl, -, hconnected, -, hchain, hsign⟩ := h.broadcast_inv he hcall
  obtain ⟨-, hexpected⟩ := hconnected.ok_inv
  rw [Config.applyTo_chainId] at hexpected
  obtain ⟨signed, hdecode, hcarries⟩ := Transaction.exists_decode?_of_sign hsign
  cases hconnected with
  | @connected wallet client _ chainId _ hclient h =>
    obtain ⟨skipped, answering, rest, hproviders, hanswered⟩ := h.exists_answering
    refine ⟨signed, client, skipped, answering, rest, chainId, hdecode, hclient, hproviders,
      hanswered.append es₂, ?_, hexpected⟩
    rw [hcarries.chainId?_eq, hchain]
    rfl

/-- Where every node keeps to one chain, what a live run hands over goes to the first node, and is
signed for the chain of the first one that answered for it, which is the expected chain if there is
one. So it is signed for the chain of the node that receives it, unless that one was asked for its
chain and did not answer. -/
theorem signed_for_chain_of_answering_node (command : MessageCommand) (network : Network)
    (chainOf : Provider → Nat) (hchains : network.KeepsChains chainOf) (settings : Settings)
    (config : Config) :
    Leaves (command.run network settings config false).run fun es _ =>
      ∀ e ∈ es, ∀ raw, e.call = .sendRawTransaction raw →
        ∃ signed client skipped answering rest,
          SignedTransaction.decode? raw = some signed ∧
          Client.ofSettings (config.applyTo settings.chain) = .ok client ∧
          e.provider = client.primary ∧
          client.providers = skipped ++ answering :: rest ∧
          (∀ provider ∈ skipped, ∃ e' ∈ es, e'.IsOf network provider .chainId ∧
            Client.Inconclusive (quantity? (Bytes.limit 8)) e'.outcome) ∧
          signed.chainId? = some (chainOf answering) ∧
          (∀ expected, config.expectedChain? settings = some expected →
            chainOf answering = expected) ∧
          ((∀ e' ∈ es, e'.IsOf network client.primary .chainId →
              ¬Client.Inconclusive (quantity? (Bytes.limit 8)) e'.outcome) →
            signed.chainId? = some (chainOf client.primary)) := by
  refine (command.leaves_run_live network settings config).mono fun es result h => ?_
  intro e he raw hcall
  obtain ⟨signed, client, skipped, answering, rest, chainId, hdecode, hclient, hproviders,
    hanswered, hsigned, hexpected⟩ := h.exists_answering he hcall
  obtain rfl := hanswered.chain_eq hchains
  refine ⟨signed, client, skipped, answering, rest, hdecode, hclient,
    h.provider_eq hclient he hcall, hproviders, hanswered.skipped_failed, hsigned, hexpected, ?_⟩
  intro hprimary
  cases skipped with
  | nil =>
    have hfirst : client.primary = answering := (List.cons.inj hproviders).1
    rw [hfirst, hsigned]
  | cons provider skipped =>
    have hfirst : client.primary = provider := (List.cons.inj hproviders).1
    obtain ⟨e', he', hof, hvain⟩ := hanswered.skipped_failed provider (List.mem_cons_self ..)
    rw [← hfirst] at hof
    exact absurd hvain (hprimary e' he' hof)

theorem quantity?_one : quantity? (Bytes.limit 8) (.string "0x1") = some 1 := by decide +kernel

theorem idle_run_signs_for_chain_one :
    (answering idleAnswer).KeepsChains (fun _ => 1) ∧
      Leaves ((consume ⟨[]⟩).run (answering idleAnswer) hastySettings idleConfig false).run
        fun es _ => ∀ e ∈ es, ∀ raw, e.call = .sendRawTransaction raw →
          ∃ signed, SignedTransaction.decode? raw = some signed ∧ signed.chainId? = some 1 := by
  have hchains : (answering idleAnswer).KeepsChains (fun _ => 1) := by
    intro trace time provider json chain hresult hchain
    have hjson : Json.string "0x1" = json := Outcome.result.inj hresult
    rw [← hjson] at hchain
    exact Option.some.inj (hchain.symm.trans quantity?_one)
  refine ⟨hchains, ?_⟩
  refine (signed_for_chain_of_answering_node (consume ⟨[]⟩) (answering idleAnswer) (fun _ => 1)
    hchains hastySettings idleConfig).mono fun es _ h e he raw hcall => ?_
  obtain ⟨signed, _, _, _, _, hdecode, -, -, -, -, hchain, -⟩ := h e he raw hcall
  exact ⟨signed, hdecode, hchain⟩

/-- Two nodes on different chains, which answer as idle ones do, but that the first one fails to
answer the very first call. -/
def lapsingNetwork : Network where
  respond trace _ provider call :=
    match call with
    | .chainId =>
      if provider.position = 0 then
        if trace.isEmpty then .failure "connection closed" else .result (.string "0x2")
      else .result (.string "0x1")
    | call => .result (idleAnswer call)
  receiptOf? _ := none
  complaint _ _ := ""

def lapsingChain (provider : Provider) : Nat := if provider.position = 0 then 2 else 1

def secondUrl : Url := ⟨"http", some ⟨"", none, some (.name "node1"), none⟩, "/", none, none⟩

def pairedEndpoint : Endpoint := { idleEndpoint with failoverUrls := [secondUrl] }

def pairedConfig : Config := ⟨some pairedEndpoint, some idleTarget⟩

theorem quantity?_two : quantity? (Bytes.limit 8) (.string "0x2") = some 2 := by decide +kernel

theorem lapsingNetwork_keepsChains : lapsingNetwork.KeepsChains lapsingChain := by
  intro trace time provider json chain hresult hchain
  unfold lapsingChain
  change (if provider.position = 0 then
    if trace.isEmpty then Outcome.failure "connection closed" else .result (.string "0x2")
    else .result (.string "0x1")) = .result json at hresult
  split at hresult
  · rw [if_pos ‹_›]
    split at hresult <;> cases hresult
    exact Option.some.inj (hchain.symm.trans quantity?_two)
  · rw [if_neg ‹_›]
    cases hresult
    exact Option.some.inj (hchain.symm.trans quantity?_one)

theorem exists_pairedClient :
    ∃ client, Client.ofSettings (pairedConfig.applyTo hastySettings.chain) = .ok client ∧
      client.providers = [⟨0, idleEndpoint.rpcUrl⟩, ⟨1, secondUrl⟩] ∧
      client.settings =
        { idleConfig.applyTo hastySettings.chain with failoverUrls := [secondUrl.text] } := by
  have hurl : (Url.parse (pairedConfig.applyTo hastySettings.chain).rpcUrl).toOption =
      some idleEndpoint.rpcUrl := by
    decide +kernel
  have hurls : Client.validUrls (pairedConfig.applyTo hastySettings.chain).failoverUrls =
      [secondUrl] := by
    decide +kernel
  unfold Client.ofSettings
  rw [eq_ok_of_toOption hurl]
  dsimp only
  rw [hurls]
  exact ⟨_, rfl, rfl, rfl⟩

/-- The first node lapses, and the second one names its chain. -/
theorem chainId_lapsing {client : Client}
    (hproviders : client.providers = [⟨0, idleEndpoint.rpcUrl⟩, ⟨1, secondUrl⟩]) :
    ∃ w, (client.chainId lapsingNetwork).run .start = (.ok 1, w) := by
  have hlapse : Client.Fault lapsingNetwork client.settings.rpcTimeout .chainId
      (quantity? (Bytes.limit 8))
      (lapsingNetwork.exchange .start ⟨0, idleEndpoint.rpcUrl⟩ .chainId).outcome
      "connection closed" := .failed _
  have hanswer (w : World) : (lapsingNetwork.exchange w ⟨1, secondUrl⟩ .chainId).outcome =
      .result (.string "0x1") := rfl
  have hread : ∃ w, Client.read lapsingNetwork client.settings.rpcTimeout none .chainId
      (quantity? (Bytes.limit 8)) client.providers "" .start = (.value 1, w) := by
    rw [hproviders, Client.read_fault (by simp) "" rfl hlapse (by simp)]
    exact ⟨_, Client.read_value (by simp) _ rfl (hanswer _) quantity?_one⟩
  obtain ⟨w, hread⟩ := hread
  exact ⟨w, Client.query_of_read hread⟩

/-- Every node keeps to its chain, and still a transaction for chain 1 is handed to a node of chain
2: that one did not answer when it was asked for its chain, so that another one was. -/
theorem lapse_sends_to_other_chain :
    lapsingNetwork.KeepsChains lapsingChain ∧
    ∃ submission scene client signed raw, ∃ e ∈ scene.world.trace,
      ((consume ⟨[]⟩).run lapsingNetwork hastySettings pairedConfig false).run .start =
        (.ok (.submitted submission), scene) ∧
      Client.ofSettings (pairedConfig.applyTo hastySettings.chain) = .ok client ∧
      e.call = .sendRawTransaction raw ∧ e.provider = client.primary ∧
      SignedTransaction.decode? raw = some signed ∧ signed.chainId? = some 1 ∧
      lapsingChain client.primary = 2 := by
  refine ⟨lapsingNetwork_keepsChains, ?_⟩
  obtain ⟨raw, hsign⟩ := exists_sign_idleTransaction
  obtain ⟨signed, hdecode, hcarries⟩ := Transaction.exists_decode?_of_sign hsign
  obtain ⟨client, hclient, hproviders, hsettings⟩ := exists_pairedClient
  have hprimary : client.primary = ⟨0, idleEndpoint.rpcUrl⟩ := (List.cons.inj hproviders).1
  have haccepts : Submitter.Accepts ⟨client, (idleWallet.withChainId 0).withChainId 1⟩ idleAnswer
      (Message.toConsume idleTarget ⟨[]⟩) 0 raw (Keccak.digest raw) :=
    idle_accepts hsettings hsign
  have hexpected : client.settings.chainId = none ∨ client.settings.chainId = some 1 := by
    rw [hsettings]
    exact .inl rfl
  obtain ⟨w, hchain⟩ := chainId_lapsing hproviders
  have hwallet : Wallet.ofText pairedEndpoint.privateKey.text
      ((pairedConfig.applyTo hastySettings.chain).chainId.getD 0) =
        .ok (idleWallet.withChainId 0) := idle_wallet
  have hconnect := Submitter.connect_of_verifyChainId hwallet hclient
    (Client.verifyChainId_of_chainId hchain hexpected)
  have hanswers (call : Call) (hcall : call ≠ .chainId) :
      client.Answers lapsingNetwork idleAnswer call := by
    intro trace time
    cases call with
    | chainId => exact absurd rfl hcall
    | _ => rfl
  have hmessage : (consume ⟨[]⟩).message pairedConfig = .ok (Message.toConsume idleTarget ⟨[]⟩) :=
    rfl
  have hendpoint : pairedConfig.requireEndpoint = .ok pairedEndpoint := rfl
  have hrun := @run_of_connect _ _ _ _ _ _ _ _ _ _ _ .start w hmessage hendpoint hconnect hanswers
    haccepts
  have hsent : .sendRawTransaction raw ∈ Submitter.callsFor ⟨client, idleWallet⟩
      (Message.toConsume idleTarget ⟨[]⟩) raw := by
    simp [Submitter.callsFor]
  refine ⟨_, _, client, signed, raw, client.answered idleAnswer w.now (.sendRawTransaction raw), ?_,
    hrun, hclient, rfl, rfl, hdecode, hcarries.chainId?_eq, ?_⟩
  · exact List.mem_append_right _ (List.mem_map_of_mem hsent)
  · rw [hprimary]
    rfl

end MessageCommand

end LayerMessaging
