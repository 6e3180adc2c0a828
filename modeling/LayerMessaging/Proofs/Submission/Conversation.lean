import LayerMessaging.Proofs.Submission.Course

namespace LayerMessaging

open Rpc

inductive Phase where
  | identifying
  | counting
  | pricing
  | estimating
  | handingOver
  | awaiting (hash : Hash)
  | locating (hash : Hash)
  | finished

structure Conversation where
  client : Client
  network : Network
  account : Address
  message : Message

namespace Conversation

variable (c : Conversation)

def Admits : Phase → Call → Prop
  | .identifying, call => call = .chainId
  | .counting, call => call = .transactionCount c.account
  | .pricing, call => call = .gasPrice
  | .estimating, call => call = .estimateGas
      ⟨some c.account, some c.message.recipient, some c.message.value, some c.message.calldata⟩
  | .handingOver, call => ∃ raw, call = .sendRawTransaction raw
  | .awaiting hash, call => call = .transactionReceipt hash
  | .locating _, call => call = .blockNumber
  | .finished, _ => False

def nodes : Phase → List Provider
  | .handingOver => [c.client.primary]
  | _ => c.client.providers

/-- Where a receipt leads: it is asked for again while there is none, and the current block is asked
for if it tells of success. -/
def afterReceipt (hash : Hash) : Option Receipt → Phase
  | none => .awaiting hash
  | some receipt => if receipt.succeeded then .locating hash else .finished

def after : Phase → Json → Option Phase
  | .identifying, json => (quantity? (Bytes.limit 8) json).map fun _ => .counting
  | .counting, json => (quantity? (Bytes.limit 8) json).map fun _ => .pricing
  | .pricing, json => (quantity? (Bytes.limit 16) json).map fun _ => .estimating
  | .estimating, json => (quantity? (Bytes.limit 8) json).map fun _ => .handingOver
  | .handingOver, json => (hash? json).map fun hash =>
      if c.client.settings.waitForReceipt then .awaiting hash else .finished
  | .awaiting hash, json => (c.network.receipt? json).map (afterReceipt hash)
  | .locating hash, json => (quantity? (Bytes.limit 8) json).map fun _ => .awaiting hash
  | .finished, _ => none

/-- The exchanges of one phase: the nodes are asked in order, each once at most, and the next one
only behind an answer that leads nowhere. -/
structure Asks (phase : Phase) (es : List Exchange) : Prop where
  admits : ∀ e ∈ es, c.Admits phase e.call
  in_order : es.map Exchange.provider <+: c.nodes phase
  in_vain : ∀ e ∈ es.dropLast, Client.Inconclusive (c.after phase) e.outcome

def Leads (phase : Phase) (es : List Exchange) (phase' : Phase) : Prop :=
  ∃ tried e json, es = tried ++ [e] ∧ e.outcome = .result json ∧ c.after phase json = some phase'

/-- What can be said from a phase on: the phase's exchanges, of which the last ends the conversation
or leads to the next phase and what can be said from there. -/
inductive Follows : Phase → List Exchange → Prop
  | ends {phase : Phase} {es : List Exchange} (h : c.Asks phase es) : Follows phase es
  | goesOn {phase phase' : Phase} {es es' : List Exchange} (h : c.Asks phase es)
      (hleads : c.Leads phase es phase') (h' : Follows phase' es') : Follows phase (es ++ es')

theorem Asks.nil (phase : Phase) : c.Asks phase [] where
  admits := by simp
  in_order := List.nil_prefix
  in_vain := by simp

end Conversation

namespace Rpc.Client

variable {α : Type} {network : Network} {deadline : Option Nat} {call : Call}
  {decode : Json → Option α} {providers : List Provider} {es : List Exchange} {reading : Reading α}

theorem Inconclusive.map {β : Type} {f : α → β} {outcome : Outcome}
    (h : Inconclusive decode outcome) :
    Inconclusive (fun json => (decode json).map f) outcome := by
  cases outcome with
  | result json =>
    have hnone : decode json = none := h
    exact congrArg (Option.map f) hnone
  | refusal => exact h
  | failure | silence => trivial

/-- Only the last answer of a stage is conclusive, if any is. -/
theorem Stage.in_vain (h : Stage network deadline call decode providers es reading) :
    ∀ e ∈ es.dropLast, Inconclusive decode e.outcome := by
  induction h with
  | exhausted | overdue | value | refused | cut => simp
  | @next _ _ e es _ _ hvain _ ih =>
    cases es with
    | nil => simp
    | cons e' es =>
      rw [List.dropLast_cons_cons]
      exact List.forall_mem_cons.mpr ⟨hvain, ih⟩

end Rpc.Client

namespace Conversation

variable {c : Conversation} {α : Type} {phase : Phase} {call : Call} {decode : Json → Option α}
  {next : α → Phase} {es es' : List Exchange}

/-- In the phase a reading call is made to all nodes, and a value leads on. -/
structure Reads (c : Conversation) (phase : Phase) (call : Call) (decode : Json → Option α)
    (next : α → Phase) : Prop where
  admits : c.Admits phase call
  nodes_eq : c.nodes phase = c.client.providers
  after_eq : c.after phase = fun json => (decode json).map next

section

variable {network : Network} {deadline : Option Nat}

theorem Reads.asks (hr : c.Reads phase call decode next) {reading : Client.Reading α}
    (h : Client.Stage network deadline call decode c.client.providers es reading) :
    c.Asks phase es where
  admits e he := by
    rw [h.call_eq e he]
    exact hr.admits
  in_order := by
    rw [hr.nodes_eq]
    exact h.providers_prefix
  in_vain e he := by
    rw [hr.after_eq]
    exact (h.in_vain e he).map

theorem Reads.follows (hr : c.Reads phase call decode next) {reading : Client.Reading α}
    (h : Client.Stage network deadline call decode c.client.providers es reading) :
    c.Follows phase es :=
  .ends (hr.asks h)

theorem Reads.follows_append (hr : c.Reads phase call decode next) {v : α}
    (h : Client.Stage network deadline call decode c.client.providers es (.value v))
    (h' : c.Follows (next v) es') : c.Follows phase (es ++ es') := by
  obtain ⟨tried, e, json, hes, -, -, ho, hv⟩ := h.value_inv
  refine .goesOn (hr.asks h) ⟨tried, e, json, hes, ho, ?_⟩ h'
  rw [hr.after_eq]
  exact congrArg (Option.map next) hv

end

variable {network : Network}

theorem Reads.follows_of_asked (hr : c.Reads phase call decode next) {result : Except ChainError α}
    (h : c.client.Asked network call decode es result) : c.Follows phase es := by
  cases h with
  | value h | failed h => exact hr.follows h

theorem Reads.follows_append_of_asked (hr : c.Reads phase call decode next) {v : α}
    (h : c.client.Asked network call decode es (.ok v)) (h' : c.Follows (next v) es') :
    c.Follows phase (es ++ es') := by
  cases h with
  | value h => exact hr.follows_append h h'

theorem reads_identifying :
    c.Reads .identifying .chainId (quantity? (Bytes.limit 8)) fun _ => .counting :=
  ⟨rfl, rfl, rfl⟩

theorem reads_counting :
    c.Reads .counting (.transactionCount c.account) (quantity? (Bytes.limit 8)) fun _ => .pricing :=
  ⟨rfl, rfl, rfl⟩

theorem reads_pricing :
    c.Reads .pricing .gasPrice (quantity? (Bytes.limit 16)) fun _ => .estimating :=
  ⟨rfl, rfl, rfl⟩

theorem reads_estimating :
    c.Reads .estimating (.estimateGas ⟨some c.account, some c.message.recipient,
      some c.message.value, some c.message.calldata⟩) (quantity? (Bytes.limit 8))
      fun _ => .handingOver :=
  ⟨rfl, rfl, rfl⟩

theorem reads_awaiting (hash : Hash) :
    c.Reads (.awaiting hash) (.transactionReceipt hash) c.network.receipt? (afterReceipt hash) :=
  ⟨rfl, rfl, rfl⟩

theorem reads_locating (hash : Hash) :
    c.Reads (.locating hash) .blockNumber (quantity? (Bytes.limit 8)) fun _ => .awaiting hash :=
  ⟨rfl, rfl, rfl⟩

theorem follows_of_identified {result : Except ChainError Nat}
    (h : c.client.Identified network es result) : c.Follows .identifying es := by
  cases h with
  | unknown h | other h | known h => exact reads_identifying.follows_of_asked h

theorem follows_append_of_identified {chainId : Nat}
    (h : c.client.Identified network es (.ok chainId)) (h' : c.Follows .counting es') :
    c.Follows .identifying (es ++ es') := by
  cases h with
  | known h => exact reads_identifying.follows_append_of_asked h h'

theorem asks_of_handed {raw : Bytes} {result : Except ChainError Hash}
    (h : c.client.Handed network raw es result) : c.Asks .handingOver es where
  admits e he := ⟨raw, h.call_eq e he⟩
  in_order := by
    cases h with
    | accepted he | rejected he | unanswered he =>
      rw [List.map_singleton, he.provider_eq]
      exact List.prefix_rfl
  in_vain := by
    cases h with
    | accepted | rejected | unanswered => simp

def afterHandover (c : Conversation) (hash : Hash) : Phase :=
  if c.client.settings.waitForReceipt then .awaiting hash else .finished

theorem leads_of_handed {raw : Bytes} {hash : Hash}
    (h : c.client.Handed network raw es (.ok hash)) :
    c.Leads .handingOver es (c.afterHandover hash) := by
  obtain ⟨e, json, hes, -, ho, hhash⟩ := h.ok_inv
  refine ⟨[], e, json, hes, ho, ?_⟩
  rw [after, hhash]
  rfl

section

variable {hash : Hash} {deadline : Nat}

theorem follows_of_polling {poll : Confirmation.Poll}
    (h : Confirmation.Polling c.client c.network hash deadline es poll) :
    c.Follows (.awaiting hash) es := by
  have located {es es' : List Exchange} {receipt : Receipt} {reading : Client.Reading Nat}
      (h : Confirmation.ReceiptStage c.client c.network hash deadline es (.value (some receipt)))
      (hstatus : receipt.succeeded = true)
      (h' : Confirmation.BlockStage c.client c.network deadline es' reading) :
      c.Follows (.awaiting hash) (es ++ es') := by
    refine (reads_awaiting hash).follows_append h ?_
    rw [afterReceipt, if_pos hstatus]
    exact (reads_locating hash).follows h'
  cases h with
  | receiptFailed h | receiptExpired h | unmined h | reverted h =>
    exact (reads_awaiting hash).follows h
  | blockFailed h hstatus h' | blockExpired h hstatus h' => exact located h hstatus h'
  | deep h hstatus h' | shallow h hstatus h' => exact located h hstatus h'

/-- A poll that decides nothing leads to the next one. -/
theorem follows_append_of_polling
    (h : Confirmation.Polling c.client c.network hash deadline es .pending)
    (h' : c.Follows (.awaiting hash) es') : c.Follows (.awaiting hash) (es ++ es') := by
  cases h with
  | unmined h => exact (reads_awaiting hash).follows_append h h'
  | shallow h hstatus hblock =>
    rw [List.append_assoc]
    refine (reads_awaiting hash).follows_append h ?_
    rw [afterReceipt, if_pos hstatus]
    exact (reads_locating hash).follows_append hblock h'

theorem follows_of_waiting {result : Except ChainError Status}
    (h : Confirmation.Waiting c.client c.network hash deadline es result) :
    c.Follows (.awaiting hash) es := by
  -- By induction on the polls: one more goes in front of what can be said from the same phase on.
  induction h with
  | ended => exact .ends (.nil c _)
  | decided h | failed h | expired h => exact follows_of_polling h
  | pending h _ ih => exact follows_append_of_polling h ih

end

end Conversation

namespace Submitter

def conversation (s : Submitter) (network : Network) (message : Message) : Conversation :=
  ⟨s.client, network, s.wallet.address, message⟩

variable {s : Submitter} {network : Network} {message : Message} {es es' : List Exchange}

open Conversation

theorem Preparation.follows {result : Except ChainError Transaction}
    (h : s.Preparation network message.recipient message.value message.calldata es result) :
    (s.conversation network message).Follows .counting es := by
  have counting := reads_counting (c := s.conversation network message)
  have pricing := reads_pricing (c := s.conversation network message)
  have estimating := reads_estimating (c := s.conversation network message)
  cases h with
  | noNonce h => exact counting.follows_of_asked h
  | noPrice hnonce h =>
    exact counting.follows_append_of_asked hnonce (pricing.follows_of_asked h)
  | tooDear hnonce hprice =>
    exact counting.follows_append_of_asked hnonce (pricing.follows_of_asked hprice)
  | noEstimate hnonce hprice _ h | built hnonce hprice _ h =>
    rw [List.append_assoc]
    exact counting.follows_append_of_asked hnonce
      (pricing.follows_append_of_asked hprice (estimating.follows_of_asked h))

/-- Behind a transaction that was built comes its handover. -/
theorem Preparation.follows_append {tx : Transaction}
    (h : s.Preparation network message.recipient message.value message.calldata es (.ok tx))
    (h' : (s.conversation network message).Follows .handingOver es') :
    (s.conversation network message).Follows .counting (es ++ es') := by
  have counting := reads_counting (c := s.conversation network message)
  have pricing := reads_pricing (c := s.conversation network message)
  have estimating := reads_estimating (c := s.conversation network message)
  cases h with
  | built hnonce hprice _ hestimate =>
    rw [List.append_assoc, List.append_assoc]
    exact counting.follows_append_of_asked hnonce
      (pricing.follows_append_of_asked hprice (estimating.follows_append_of_asked hestimate h'))

theorem Delivery.follows {tx : Transaction} {result : Except ChainError Hash}
    (h : s.Delivery network tx es result) :
    (s.conversation network message).Follows .handingOver es := by
  cases h with
  | unsigned => exact .ends (.nil _ _)
  | signed _ h => exact .ends (asks_of_handed h)

theorem Delivery.follows_append {tx : Transaction} {hash : Hash}
    (h : s.Delivery network tx es (.ok hash))
    (h' : (s.conversation network message).Follows
      ((s.conversation network message).afterHandover hash) es') :
    (s.conversation network message).Follows .handingOver (es ++ es') := by
  cases h with
  | signed _ h => exact .goesOn (asks_of_handed h) (leads_of_handed h) h'

theorem Course.follows {result : Except ChainError Submission}
    (h : s.Course network message.recipient message.value message.calldata es result) :
    (s.conversation network message).Follows .counting es := by
  cases h with
  | notBuilt h => exact h.follows
  | notDelivered hbuilt h => exact hbuilt.follows_append h.follows
  | notAwaited hbuilt hdelivered => exact hbuilt.follows_append hdelivered.follows
  | notConfirmed hbuilt hdelivered hwait h | reverted hbuilt hdelivered hwait h
  | confirmed hbuilt hdelivered hwait h =>
    rw [List.append_assoc]
    refine hbuilt.follows_append (hdelivered.follows_append ?_)
    have hwaits : (s.conversation network message).client.settings.waitForReceipt = true := hwait
    rw [afterHandover, if_pos hwaits]
    exact follows_of_waiting h

end Submitter

end LayerMessaging
