import LayerMessaging.Proofs.Command.LiveRun
import LayerMessaging.Proofs.Submission.Broadcast

namespace LayerMessaging.MessageCommand

open Rpc

variable {command : MessageCommand} {network : Network} {settings : Settings} {config : Config}
  {es : List Exchange} {result : Except Failure Command.Result}

/-- What a live run hands over was signed for the message that was prepared, behind the
connection. -/
theorem LiveRun.broadcast_inv {e : Exchange} {raw : Bytes}
    (h : command.LiveRun network settings config es result) (he : e ∈ es)
    (hcall : e.call = .sendRawTransaction raw) :
    ∃ (message : Message) (endpoint : Endpoint) (s : Submitter) (tx : Transaction)
      (es₁ es₂ : List Exchange), es = es₁ ++ es₂ ∧ command.message config = .ok message ∧
      Submitter.Connection network (config.applyTo settings.chain) endpoint es₁ (.ok s) ∧
      (tx.recipient = message.recipient ∧ tx.value = message.value ∧
        tx.data = message.calldata) ∧
      tx.chainId = s.wallet.chainId ∧ tx.sign s.wallet = .ok raw := by
  cases h with
  | unprepared => cases he
  | prepared hmessage h =>
    cases h with
    | noEndpoint => cases he
    | notConnected _ h =>
      have hmem := mem_handovers he hcall
      rw [h.handovers_eq] at hmem
      cases hmem
    | @connected endpoint es₁ es₂ s _ _ hconnected h =>
      have hmem := mem_handovers he hcall
      rw [handovers_append, hconnected.handovers_eq, List.nil_append] at hmem
      obtain ⟨tx, hfields, hchain, hsign⟩ := h.sign_eq (List.mem_filter.mp hmem).1 hcall
      exact ⟨_, endpoint, s, tx, es₁, es₂, rfl, hmessage, hconnected, hfields, hchain, hsign⟩

end LayerMessaging.MessageCommand
