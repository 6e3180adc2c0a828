import LayerMessaging.Proofs.Command.Answering
import LayerMessaging.Proofs.Command.Conversation
import LayerMessaging.Proofs.Message.Calldata
import LayerMessaging.Proofs.Submission.Nonce

namespace LayerMessaging

open Rpc

theorem eq_ok_of_toOption {ε α : Type} {result : Except ε α} {a : α}
    (h : result.toOption = some a) : result = .ok a := by
  cases result with
  | error => cases h
  | ok => cases h; rfl

theorem Config.applyTo_waitForReceipt (config : Config) (settings : ChainSettings) :
    (config.applyTo settings).waitForReceipt = settings.waitForReceipt := by
  unfold applyTo
  split <;> rfl

namespace MessageCommand

variable {command : MessageCommand} {network : Network} {settings : Settings} {config : Config}
  {es : List Exchange} {submission : Submission}

/-- A live run that submits connects, and then takes the course of a submission. -/
theorem LiveRun.submitted_inv
    (h : command.LiveRun network settings config es (.ok (.submitted submission))) :
    ∃ (message : Message) (endpoint : Endpoint) (s : Submitter) (es₁ es₂ : List Exchange),
      es = es₁ ++ es₂ ∧ config.requireEndpoint = .ok endpoint ∧
      Submitter.Connection network (config.applyTo settings.chain) endpoint es₁ (.ok s) ∧
      s.Course network message.recipient message.value message.calldata es₂ (.ok submission) := by
  generalize hr : Except.ok (Command.Result.submitted submission) = result at h
  cases h with
  | unprepared => cases hr
  | @prepared message _ result _ h =>
    cases result with
    | error => cases hr
    | ok =>
      cases hr
      generalize hr' : Except.ok submission = result' at h
      cases h with
      | noEndpoint | notConnected => cases hr'
      | @connected endpoint es₁ es₂ s result hendpoint hconnected h =>
        cases result with
        | error => cases hr'
        | ok =>
          cases hr'
          exact ⟨message, endpoint, s, es₁, es₂, rfl, hendpoint, hconnected, h⟩

/-- A live run that submits does so for the account of the configuration's key. -/
theorem LiveRun.submits
    (h : command.LiveRun network settings config es (.ok (.submitted submission))) :
    ∃ account, config.account? = some account ∧
      submission.Submits network.receipt? account settings.chain.waitForReceipt es := by
  obtain ⟨_, endpoint, s, es₁, es₂, rfl, hendpoint, hconnected, h⟩ := h.submitted_inv
  cases hconnected with
  | @connected wallet client _ chainId hwallet hclient _ =>
    have hsubmits := h.submits.append_left es₁
    obtain ⟨hsettings, -⟩ := Client.ofSettings_inv hclient
    rw [hsettings, Config.applyTo_waitForReceipt] at hsubmits
    exact ⟨wallet.address, Submitter.account?_eq hendpoint hwallet, hsubmits⟩

/-- Whatever a live run that submits hands over carries the nonce of the submission. -/
theorem LiveRun.nonce?_eq {e : Exchange} {raw : Bytes}
    (h : command.LiveRun network settings config es (.ok (.submitted submission))) (he : e ∈ es)
    (hcall : e.call = .sendRawTransaction raw) :
    SignedTransaction.nonce? raw = some submission.nonce := by
  obtain ⟨_, _, _, es₁, es₂, rfl, -, hconnected, h⟩ := h.submitted_inv
  have hmem := mem_handovers he hcall
  rw [handovers_append, hconnected.handovers_eq, List.nil_append] at hmem
  exact h.nonce?_eq (List.mem_filter.mp hmem).1 hcall

end MessageCommand

section

variable {submission submission' : Submission} {receipt? receipt?' : Json → Option (Option Receipt)}
  {account : Address} {waits waits' : Bool} {ledger ledger' : Ledger}
  {events events' : List Ledger.Event}

/-- Of two submissions from one account the second one reuses the nonce, unless a transaction with
it was mined before the second count. -/
theorem Submission.Submits.reuses_unless_used
    (h : submission.Submits receipt? account waits (Ledger.calls events))
    (h' : submission'.Submits receipt?' account waits' (Ledger.calls events'))
    (hordered : ledger.Ordered)
    (hhistory : Ledger.History receipt? account ledger (events ++ events') ledger') :
    (∃ before c after counted, events' = before ++ .called c :: after ∧
      c.value? (.transactionCount account) (quantity? (Bytes.limit 8)) = some submission'.nonce ∧
      Ledger.History receipt? account ledger (events ++ before) counted ∧
      (submission.nonce ≠ submission'.nonce ↔ counted.Used submission.nonce)) ∧
    ((∀ raw, .mined raw ∉ events ++ events') → submission.nonce = submission'.nonce) ∧
    (waits = true → submission.nonce ≠ submission'.nonce) := by
  obtain ⟨between, hfirst, hsecond⟩ := hhistory.append_inv
  obtain ⟨before, c, after, counted, rfl, -, hbefore, hnonce, hrest, hwaited⟩ := h.counted hfirst
  obtain ⟨before', c', after', counted', rfl, hcount', hbefore', hnonce', -, -⟩ :=
    (h'.unawaited receipt?).counted hsecond
  have hordered' : counted'.Ordered := hbefore'.ordered (hfirst.ordered hordered)
  have hgrown : counted.mined <+: counted'.mined := by
    have hgrown := hrest.grows.1.trans hbefore'.grows.1
    rwa [Ledger.mined_record] at hgrown
  have hle : submission.nonce ≤ submission'.nonce := by
    rw [hnonce, hnonce']
    exact hgrown.length_le
  have hiff : submission.nonce ≠ submission'.nonce ↔ counted'.Used submission.nonce := by
    rw [hordered'.used_iff, ← hnonce']
    omega
  refine ⟨⟨before', c', after', counted', rfl, hcount', hfirst.append hbefore', hiff⟩, ?_, ?_⟩
  · intro hquiet
    have hquiet₁ : ∀ raw, .mined raw ∉ after := fun raw hraw => hquiet raw (by simp [hraw])
    have hquiet₂ : ∀ raw, .mined raw ∉ before' := fun raw hraw => hquiet raw (by simp [hraw])
    rw [hnonce, hnonce', hbefore'.mined_eq hquiet₂, hrest.mined_eq hquiet₁, Ledger.mined_record]
  · intro hwaits
    exact hiff.mpr ((hwaited hwaits).mono hbefore'.grows.1)

end

namespace MessageCommand

/-- Two live runs with the same key, one behind the other. The nonces differ just where a
transaction with the first one's nonce was mined before the transactions were counted for the second
one. So they are the same while nothing is mined, and differ where the first run waits for its
receipt. Where they differ, the bytes do. -/
theorem repeated_runs_share_nonce_until_mined (command command' : MessageCommand)
    (network network' : Network) (settings settings' : Settings) (config config' : Config) :
    Leaves (command.run network settings config false).run fun es result =>
      Leaves (command'.run network' settings' config' false).run fun es' result' =>
        ∀ (submission submission' : Submission) (account : Address) (ledger ledger' : Ledger)
          (events events' : List Ledger.Event),
          result = .ok (.submitted submission) → result' = .ok (.submitted submission') →
          config.account? = some account → config'.account? = some account →
          Ledger.calls events = es → Ledger.calls events' = es' → ledger.Ordered →
          Ledger.History network.receipt? account ledger (events ++ events') ledger' →
            (∃ before c after counted, events' = before ++ .called c :: after ∧
              c.value? (.transactionCount account) (quantity? (Bytes.limit 8)) =
                some submission'.nonce ∧
              Ledger.History network.receipt? account ledger (events ++ before) counted ∧
              (submission.nonce ≠ submission'.nonce ↔ counted.Used submission.nonce)) ∧
            ((∀ raw, .mined raw ∉ events ++ events') → submission.nonce = submission'.nonce) ∧
            (settings.chain.waitForReceipt = true → submission.nonce ≠ submission'.nonce) ∧
            (submission.nonce ≠ submission'.nonce → ∀ e ∈ es, ∀ e' ∈ es', ∀ raw raw',
              e.call = .sendRawTransaction raw → e'.call = .sendRawTransaction raw' →
                raw ≠ raw') := by
  refine (command.leaves_run_live network settings config).mono fun es result h => ?_
  refine (command'.leaves_run_live network' settings' config').mono fun es' result' h' => ?_
  rintro submission submission' account ledger ledger' events events' rfl rfl haccount haccount'
    hes hes' hordered hhistory
  obtain ⟨_, hfirst, hsubmits⟩ := h.submits
  obtain ⟨_, hsecond, hsubmits'⟩ := h'.submits
  rw [haccount] at hfirst
  rw [haccount'] at hsecond
  cases hfirst
  cases hsecond
  rw [← hes] at hsubmits
  rw [← hes'] at hsubmits'
  obtain ⟨hiff, hquiet, hwaited⟩ := hsubmits.reuses_unless_used hsubmits' hordered hhistory
  refine ⟨hiff, hquiet, hwaited, ?_⟩
  rintro hne e he e' he' raw raw' hcall hcall' rfl
  have hnonce := h.nonce?_eq he hcall
  rw [h'.nonce?_eq he' hcall'] at hnonce
  exact hne (Option.some.inj hnonce).symm

/-- What nodes answer on which nothing is mined: there is no transaction and no receipt, and what is
handed over is accepted under its digest. -/
def idleAnswer : Call → Json
  | .chainId => .string "0x1"
  | .blockNumber => .string "0x0"
  | .gasPrice => .string "0x1"
  | .transactionCount _ => .string "0x0"
  | .estimateGas _ => .string "0x1"
  | .sendRawTransaction raw => .string (Keccak.digest raw).hex
  | .transactionReceipt _ => .null

def hastySettings : Settings :=
  { Settings.default with chain := { Settings.defaultChain with waitForReceipt := false } }

def idleTarget : Target := ⟨FixedBytes.ofNat 0, Uint256.one, Uint256.one⟩

def idleEndpoint : Endpoint where
  rpcUrl := ⟨"http", some ⟨"", none, some (.name "node0"), none⟩, "/", none, none⟩
  failoverUrls := []
  privateKey := ⟨"0x0000000000000000000000000000000000000000000000000000000000000001"⟩
  chainId := none

def idleConfig : Config := ⟨some idleEndpoint, some idleTarget⟩

def idleWallet : Wallet := ⟨⟨1, by decide, by decide⟩, 1⟩

def idleTransaction (sender : Address) : Transaction where
  sender := sender
  recipient := FixedBytes.ofNat 0
  value := Uint256.zero
  data := [0xc5, 0x78, 0x0d, 0x62] ++ Abi.encodeArguments [.word Uint256.one, .words []]
  nonce := 0
  gasPrice := 1
  gasLimit := 2
  chainId := 1

theorem exists_signature_of_idle : ∃ signature raw,
    Secp256k1.sign idleWallet.key (Keccak.digest (idleTransaction default).signingBytes) =
      some signature ∧
    Rlp.encode? ((idleTransaction default).signedItem signature) = some raw := by
  have hform : ((Secp256k1.sign idleWallet.key
      (Keccak.digest (idleTransaction default).signingBytes)).bind fun signature =>
        Rlp.encode? ((idleTransaction default).signedItem signature)).isSome = true := by
    decide +kernel
  obtain ⟨raw, hraw⟩ := Option.isSome_iff_exists.mp hform
  obtain ⟨signature, hsignature, hform⟩ := Option.bind_eq_some_iff.mp hraw
  exact ⟨signature, raw, hsignature, hform⟩

theorem exists_sign_idleTransaction :
    ∃ raw, (idleTransaction idleWallet.address).sign idleWallet = .ok raw := by
  obtain ⟨signature, raw, hsignature, hform⟩ := exists_signature_of_idle
  refine ⟨raw, ?_⟩
  -- The sender stands neither in what is signed nor in the signed form.
  have hbytes (sender : Address) : (idleTransaction sender).signingBytes =
      (idleTransaction default).signingBytes := rfl
  have hitem (sender : Address) : (idleTransaction sender).signedItem signature =
      (idleTransaction default).signedItem signature := rfl
  generalize haddress : idleWallet.address = sender
  have hsender : (idleTransaction sender).sender = idleWallet.address := haddress.symm
  unfold Transaction.sign
  rw [if_neg (not_not_intro hsender), hbytes, hsignature]
  dsimp only
  rw [hitem, hform]

theorem exists_idleClient :
    ∃ client, Client.ofSettings (idleConfig.applyTo hastySettings.chain) = .ok client ∧
      client.settings = idleConfig.applyTo hastySettings.chain := by
  have hurl : (Url.parse (idleConfig.applyTo hastySettings.chain).rpcUrl).toOption =
      some idleEndpoint.rpcUrl := by
    decide +kernel
  unfold Client.ofSettings
  rw [eq_ok_of_toOption hurl]
  exact ⟨_, rfl, rfl⟩

theorem idle_wallet :
    Wallet.ofText idleEndpoint.privateKey.text 0 = .ok (idleWallet.withChainId 0) := by
  have hkey : (Wallet.readKey idleEndpoint.privateKey.text).toOption = some idleWallet.key := by
    decide +kernel
  unfold Wallet.ofText
  rw [eq_ok_of_toOption hkey]
  rfl

theorem idle_transaction {client : Client} {urls : List String}
    (hsettings : client.settings =
      { idleConfig.applyTo hastySettings.chain with failoverUrls := urls }) :
    Submitter.transaction ⟨client, idleWallet⟩ (Message.toConsume idleTarget ⟨[]⟩) 0 1 1 =
      idleTransaction idleWallet.address := by
  have hprice : Pricing.offeredPrice client.settings 1 = 1 := by
    have hoffered : Pricing.offeredPrice (idleConfig.applyTo hastySettings.chain) 1 = 1 := by
      decide +kernel
    rw [hsettings]
    exact hoffered
  have hgas : Pricing.offeredGas client.settings 1 = 2 := by
    have hoffered : Pricing.offeredGas (idleConfig.applyTo hastySettings.chain) 1 = 2 := by
      decide +kernel
    rw [hsettings]
    exact hoffered
  have hdata : (Message.toConsume idleTarget ⟨[]⟩).calldata =
      (idleTransaction idleWallet.address).data := by
    unfold Message.calldata Abi.encodeCall Message.function
    dsimp only [Message.toConsume]
    rw [Message.functionId_consume]
    rfl
  unfold Submitter.transaction
  dsimp only
  rw [hprice, hgas, hdata]
  rfl

/-- The answers let the message through, whichever further nodes there are. -/
theorem idle_accepts {client : Client} {urls : List String} {raw : Bytes}
    (hsettings : client.settings =
      { idleConfig.applyTo hastySettings.chain with failoverUrls := urls })
    (hsign : (idleTransaction idleWallet.address).sign idleWallet = .ok raw) :
    Submitter.Accepts ⟨client, idleWallet⟩ idleAnswer (Message.toConsume idleTarget ⟨[]⟩) 0 raw
      (Keccak.digest raw) where
  quiet := by
    rw [hsettings]
    rfl
  count_eq := by
    change quantity? (Bytes.limit 8) (.string "0x0") = some 0
    decide +kernel
  signed := by
    refine ⟨1, 1, ?_, ?_, ?_, ?_⟩
    · change quantity? (Bytes.limit 16) (.string "0x1") = some 1
      decide +kernel
    · dsimp only
      rw [hsettings]
      rfl
    · change quantity? (Bytes.limit 8) (.string "0x1") = some 1
      decide +kernel
    · rw [idle_transaction hsettings]
      exact hsign
  hash_eq := hash?_hex (Keccak.digest raw)

/-- Idle nodes answer every call as nodes do on which nothing is mined. -/
theorem exists_idle_history (client : Client) (account : Address) (now : Nat) (calls : List Call) :
    ∃ ledger, Ledger.History (answering idleAnswer).receipt? account ⟨[], []⟩
      ((calls.map (client.answered idleAnswer now)).map .called) ledger := by
  apply Ledger.exists_history_of_unmined
  · intro e he count hcount
    obtain ⟨call, -, rfl⟩ := List.mem_map.mp he
    rw [Client.value?_answered] at hcount
    split at hcount
    · rename_i hcall
      have hzero : quantity? (Bytes.limit 8) (.string "0x0") = some 0 := by decide +kernel
      rw [hcall] at hcount
      exact Option.some.inj (hcount.symm.trans hzero)
    · cases hcount
  · intro e he hash receipt hreceipt
    obtain ⟨call, -, rfl⟩ := List.mem_map.mp he
    rw [Client.value?_answered] at hreceipt
    split at hreceipt
    · rename_i hcall
      rw [hcall] at hreceipt
      cases hreceipt
    · cases hreceipt

/-- On nodes that answer as they should and mine nothing for the while, a command that is run twice
submits twice, under one hash: both runs hand over the same bytes, with the same nonce. -/
theorem repeated_run_reuses_nonce_and_bytes :
    ∃ (submission : Submission) (first second : Scene) (account : Address) (ledger : Ledger)
      (es es' : List Exchange) (raw : Bytes),
      idleConfig.account? = some account ∧
      ((consume ⟨[]⟩).run (answering idleAnswer) hastySettings idleConfig false).run .start =
        (.ok (.submitted submission), first) ∧
      ((consume ⟨[]⟩).run (answering idleAnswer) hastySettings idleConfig false).run first =
        (.ok (.submitted submission), second) ∧
      first.world.trace = es ∧ second.world.trace = es ++ es' ∧
      Ledger.History (answering idleAnswer).receipt? account ⟨[], []⟩
        ((es ++ es').map .called) ledger ∧
      (∃ e ∈ es, e.call = .sendRawTransaction raw) ∧
      ∃ e ∈ es', e.call = .sendRawTransaction raw := by
  obtain ⟨raw, hsign⟩ := exists_sign_idleTransaction
  obtain ⟨client, hclient, hsettings⟩ := exists_idleClient
  have hchain : quantity? (Bytes.limit 8) (idleAnswer .chainId) = some 1 := by decide +kernel
  have hexpected : client.settings.chainId = none ∨ client.settings.chainId = some 1 := by
    rw [hsettings]
    exact .inl rfl
  have haddress (wallet : Wallet) : (wallet.withChainId 0).address = wallet.address := rfl
  have haccount : idleConfig.account? = some idleWallet.address := by
    rw [← haddress]
    exact Submitter.account?_eq rfl idle_wallet
  have hwallet : Wallet.ofText idleEndpoint.privateKey.text
      ((idleConfig.applyTo hastySettings.chain).chainId.getD 0) =
        .ok (idleWallet.withChainId 0) := idle_wallet
  have haccepts : Submitter.Accepts ⟨client, (idleWallet.withChainId 0).withChainId 1⟩ idleAnswer
      (Message.toConsume idleTarget ⟨[]⟩) 0 raw (Keccak.digest raw) :=
    idle_accepts hsettings hsign
  have hmessage : (consume ⟨[]⟩).message idleConfig = .ok (Message.toConsume idleTarget ⟨[]⟩) := rfl
  have hrun := run_answering hmessage rfl hwallet hclient hchain hexpected haccepts
  -- Both runs make the same calls, from the first one on.
  let calls : List Call := .chainId ::
    Submitter.callsFor ⟨client, idleWallet⟩ (Message.toConsume idleTarget ⟨[]⟩) raw
  have hsent : .sendRawTransaction raw ∈ calls := by simp [calls, Submitter.callsFor]
  obtain ⟨ledger, hhistory⟩ := exists_idle_history client idleWallet.address 0 (calls ++ calls)
  rw [List.map_append] at hhistory
  refine ⟨_, _, _, _, ledger, calls.map (client.answered idleAnswer 0),
    calls.map (client.answered idleAnswer 0), raw, haccount, hrun .start, hrun _, rfl, rfl,
    hhistory, ⟨_, List.mem_map_of_mem hsent, rfl⟩, _, List.mem_map_of_mem hsent, rfl⟩

end MessageCommand

end LayerMessaging
