import LayerMessaging.Proofs.Command.LiveRun
import LayerMessaging.Proofs.Submission.Conversation

namespace LayerMessaging

open Rpc

theorem Rpc.Client.positions_ofSettings {settings : ChainSettings} {client : Client}
    (h : Client.ofSettings settings = .ok client) :
    client.providers.map Provider.position = List.range client.providers.length := by
  unfold Client.ofSettings at h
  split at h
  · cases h
  · cases h
    apply List.ext_getElem
    · simp
    · intro i hi hi'
      cases i <;> simp [Client.providers]

theorem Wallet.ofText_ok_inv {text : String} {chainId : Nat} {wallet : Wallet}
    (h : Wallet.ofText text chainId = .ok wallet) :
    ∃ key, Wallet.readKey text = .ok key ∧ wallet = ⟨key, chainId⟩ := by
  unfold Wallet.ofText at h
  split at h
  · cases h
    exact ⟨_, ‹_›, rfl⟩
  · cases h

def Config.account? (config : Config) : Option Address :=
  config.endpoint.bind fun endpoint =>
    (Wallet.readKey endpoint.privateKey.text).toOption.map fun key => (⟨key, 0⟩ : Wallet).address

theorem Config.requireEndpoint_ok_inv {config : Config} {endpoint : Endpoint}
    (h : config.requireEndpoint = .ok endpoint) : config.endpoint = some endpoint := by
  unfold Config.requireEndpoint at h
  split at h
  · cases h
    assumption
  · cases h

/-- The conversation is about the command's message, under the configuration's key and over the
settings with the configuration laid over them. -/
structure Conversation.IsOf (c : Conversation) (command : MessageCommand) (network : Network)
    (settings : Settings) (config : Config) : Prop where
  network_eq : c.network = network
  account_eq : config.account? = some c.account
  message_eq : command.message config = .ok c.message
  client_eq : Client.ofSettings (config.applyTo settings.chain) = .ok c.client

namespace Submitter

variable {network : Network} {config : Config} {endpoint : Endpoint} {es : List Exchange}

theorem account?_eq (hendpoint : config.requireEndpoint = .ok endpoint) {chainId : Nat}
    {wallet : Wallet} (hwallet : Wallet.ofText endpoint.privateKey.text chainId = .ok wallet) :
    config.account? = some wallet.address := by
  obtain ⟨key, hkey, rfl⟩ := Wallet.ofText_ok_inv hwallet
  rw [Config.account?, Config.requireEndpoint_ok_inv hendpoint, Option.bind_some, hkey]
  rfl

end Submitter

namespace MessageCommand

variable {command : MessageCommand} {network : Network} {settings : Settings} {config : Config}
  {es : List Exchange}

/-- Whoever is asked anything is asked in the conversation of the command. -/
theorem LiveRun.follows {result : Except Failure Command.Result}
    (h : command.LiveRun network settings config es result) :
    es = [] ∨ ∃ c : Conversation, c.IsOf command network settings config ∧
      c.Follows .identifying es := by
  cases h with
  | unprepared => exact .inl rfl
  | @prepared message _ _ hmessage h =>
    cases h with
    | noEndpoint => exact .inl rfl
    | notConnected hendpoint h =>
      cases h with
      | noKey | noClient => exact .inl rfl
      | @noChain wallet client _ _ hwallet hclient h =>
        refine .inr ⟨⟨client, network, wallet.address, message⟩,
          ⟨rfl, Submitter.account?_eq hendpoint hwallet, hmessage, hclient⟩, ?_⟩
        exact Conversation.follows_of_identified h
    | connected hendpoint hconnected h =>
      cases hconnected with
      | @connected wallet client _ chainId hwallet hclient hidentified =>
        refine .inr ⟨⟨client, network, wallet.address, message⟩,
          ⟨rfl, Submitter.account?_eq hendpoint hwallet, hmessage, hclient⟩, ?_⟩
        exact Conversation.follows_append_of_identified hidentified h.follows

theorem message_of_no_target (h : config.target = none) :
    ∃ failure, command.message config = .error failure := by
  refine ⟨.config (.missingKeys Config.targetKeys), ?_⟩
  rw [message, Config.requireTarget, h]

theorem message_of_bad_name {name : String} {payload : Payload} {fault : Selector.Error}
    (h : Selector.ofName name = .error fault) (config : Config) :
    ∃ failure, (MessageCommand.send name payload).message config = .error failure := by
  unfold message
  cases config.requireTarget with
  | error error => exact ⟨_, rfl⟩
  | ok target =>
    refine ⟨.messaging (.invalidSelectorName name fault), ?_⟩
    dsimp only [messageTo, Message.toSend]
    rw [h]
    rfl

/-- A live run talks with the nodes as its conversation has it: about the command's message, for the
account of the configuration's key, and with the nodes of the settings in the order of their places.
It says nothing at all where an entry point's name is refused, where the contracts or the endpoint
are not configured, or where the key cannot be read. -/
theorem live_run_keeps_to_conversation (command : MessageCommand) (network : Network)
    (settings : Settings) (config : Config) :
    Leaves (command.run network settings config false).run fun es _ =>
      (es = [] ∨ ∃ c : Conversation, c.IsOf command network settings config ∧
        c.client.providers.map Provider.position = List.range c.client.providers.length ∧
        c.Follows .identifying es) ∧
      (∀ name payload fault, command = .send name payload → Selector.ofName name = .error fault →
        es = []) ∧
      (config.target = none → es = []) ∧ (config.endpoint = none → es = []) ∧
      (∀ endpoint fault, config.endpoint = some endpoint →
        Wallet.readKey endpoint.privateKey.text = .error fault → es = []) := by
  refine (command.leaves_run_live network settings config).mono fun es _ h => ?_
  -- Without a message or an account there is no conversation, and so no exchange.
  have silent_of_message (hmessage : ∃ failure, command.message config = .error failure) :
      es = [] := by
    rcases h.follows with hes | ⟨c, hc, -⟩
    · exact hes
    · obtain ⟨failure, hfailure⟩ := hmessage
      have hok := hc.message_eq
      rw [hfailure] at hok
      cases hok
  have silent_of_account (haccount : config.account? = none) : es = [] := by
    rcases h.follows with hes | ⟨c, hc, -⟩
    · exact hes
    · have hsome := hc.account_eq
      rw [haccount] at hsome
      cases hsome
  refine ⟨?_, ?_, ?_, ?_, ?_⟩
  · rcases h.follows with hes | ⟨c, hc, hfollows⟩
    · exact .inl hes
    · exact .inr ⟨c, hc, Client.positions_ofSettings hc.client_eq, hfollows⟩
  · rintro name payload fault rfl hname
    exact silent_of_message (message_of_bad_name hname config)
  · intro htarget
    exact silent_of_message (message_of_no_target htarget)
  · intro hendpoint
    apply silent_of_account
    rw [Config.account?, hendpoint, Option.bind_none]
  · intro endpoint fault hendpoint hkey
    apply silent_of_account
    rw [Config.account?, hendpoint, Option.bind_some, hkey]
    rfl

end MessageCommand

end LayerMessaging
