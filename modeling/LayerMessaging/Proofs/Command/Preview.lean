import LayerMessaging.Proofs.Command.Broadcast

namespace LayerMessaging.MessageCommand

open Rpc

def attached (command : MessageCommand) (target : Target) : Uint256 :=
  match command with
  | .send .. => target.messageValue
  | .consume _ => .zero

variable {command : MessageCommand} {network : Network} {settings : Settings} {config : Config}
  {es : List Exchange} {result : Except Failure Command.Result}

theorem messageTo_value {target : Target} {message : Message}
    (h : command.messageTo target = .ok message) : message.value = command.attached target := by
  cases command with
  | send name payload =>
    simp only [messageTo, Message.toSend] at h
    cases hselector : Selector.ofName name <;> rw [hselector] at h <;> cases h
    rfl
  | consume payload =>
    cases h
    rfl

theorem message_ok_inv {message : Message} (h : command.message config = .ok message) :
    ∃ target, config.target = some target ∧ command.messageTo target = .ok message := by
  unfold MessageCommand.message Config.requireTarget at h
  cases htarget : config.target with
  | none =>
    rw [htarget] at h
    cases h
  | some target =>
    rw [htarget] at h
    exact ⟨target, rfl, h⟩

/-- Of the configuration only the contracts matter to the message. -/
theorem message_congr {config' : Config} (h : config'.target = config.target) :
    command.message config' = command.message config := by
  unfold MessageCommand.message Config.requireTarget
  rw [h]

/-- Where a live run hands over a transaction, every dry run of the command with the same contracts
succeeds, and the transaction goes where the shown message goes, with its value and its call data.
The value is the one that is configured for a message that is sent, and nothing for one that is
consumed. -/
theorem live_run_sends_what_dry_run_shows (command : MessageCommand) (network : Network)
    (settings : Settings) (config : Config) :
    Leaves (command.run network settings config false).run fun es _ =>
      ∀ e ∈ es, ∀ raw, e.call = .sendRawTransaction raw →
        ∃ (message : Message) (signed : SignedTransaction) (target : Target),
          (∀ (network' : Network) (settings' : Settings) (config' : Config) (scene : Scene),
            config'.target = config.target →
              command.run network' settings' config' true scene =
                (.ok (.prepared message), scene)) ∧
          SignedTransaction.decode? raw = some signed ∧
          signed.recipient = message.recipient ∧ signed.value = message.value ∧
          signed.data = message.calldata ∧
          config.target = some target ∧ signed.value = command.attached target := by
  refine (command.leaves_run_live network settings config).mono fun es _ h e he raw hcall => ?_
  obtain ⟨message, _, _, tx, _, _, -, hmessage, -, ⟨hrecipient, hvalue, hdata⟩, -, hsign⟩ :=
    h.broadcast_inv he hcall
  obtain ⟨target, htarget, hto⟩ := message_ok_inv hmessage
  obtain ⟨signed, hdecode, hcarries⟩ := Transaction.exists_decode?_of_sign hsign
  have hsigned : signed.value = message.value := hcarries.value_eq.trans hvalue
  refine ⟨message, signed, target, ?_, hdecode, hcarries.recipient_eq.trans hrecipient, hsigned,
    hcarries.data_eq.trans hdata, htarget, hsigned.trans (messageTo_value hto)⟩
  intro network' settings' config' scene hconfig
  rw [run_dry, message_congr hconfig, hmessage]
  rfl

end LayerMessaging.MessageCommand
