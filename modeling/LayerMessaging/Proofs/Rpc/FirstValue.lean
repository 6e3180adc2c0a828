import LayerMessaging.Proofs.Rpc.Client

namespace LayerMessaging.Rpc

variable {α : Type} {call : Call} {decode : Json → Option α} {es : List Exchange}

def Exchange.value? (call : Call) (decode : Json → Option α) (e : Exchange) : Option α :=
  match e.outcome with
  | .result json => if e.call = call then decode json else none
  | _ => none

/-- The first value that the call was answered with. -/
def firstValue? (call : Call) (decode : Json → Option α) (es : List Exchange) : Option α :=
  es.findSome? (Exchange.value? call decode)

theorem Exchange.value?_of_ne {e : Exchange} (h : e.call ≠ call) : e.value? call decode = none := by
  unfold value?
  split
  · exact if_neg h
  · rfl

theorem Exchange.value?_of_inconclusive {e : Exchange}
    (h : Client.Inconclusive decode e.outcome) : e.value? call decode = none := by
  unfold value?
  split
  · rename_i json ho
    rw [ho] at h
    have hnone : decode json = none := h
    rw [hnone, ite_self]
  · rfl

theorem Exchange.value?_of_refusal {e : Exchange} {code : Int} {message : String}
    {data : Option String} (h : e.outcome = .refusal code message data) :
    e.value? call decode = none := by
  rw [value?, h]

theorem firstValue?_append (es es' : List Exchange) :
    firstValue? call decode (es ++ es') =
      (firstValue? call decode es).or (firstValue? call decode es') :=
  List.findSome?_append

theorem firstValue?_of_ne (h : ∀ e ∈ es, e.call ≠ call) : firstValue? call decode es = none := by
  apply List.findSome?_eq_none_iff.mpr
  intro e he
  exact Exchange.value?_of_ne (h e he)

namespace Client

def Reading.value? : Reading α → Option α
  | .value v => some v
  | _ => none

variable {client : Client} {network : Network} {deadline : Option Nat} {providers : List Provider}

/-- The first value of a stage is what it comes to. -/
theorem Stage.firstValue?_eq {reading : Reading α}
    (h : Stage network deadline call decode providers es reading) :
    firstValue? call decode es = reading.value? := by
  induction h with
  | exhausted | overdue => rfl
  | @value _ _ e json v he ho hv =>
    have hvalue : e.value? call decode = some v := by
      unfold Exchange.value?
      rw [ho]
      dsimp only
      rw [if_pos he.call_eq, hv]
    rw [firstValue?, List.findSome?_cons, hvalue]
    rfl
  | refused _ ho =>
    rw [firstValue?, List.findSome?_cons, Exchange.value?_of_refusal ho]
    rfl
  | cut _ ho =>
    rw [firstValue?, List.findSome?_cons, Exchange.value?_of_inconclusive (by rw [ho]; trivial)]
    rfl
  | next _ hvain _ ih =>
    rw [firstValue?, List.findSome?_cons, Exchange.value?_of_inconclusive hvain]
    exact ih

theorem Stage.firstValue?_of_ne {β : Type} {call' : Call} {decode' : Json → Option β}
    {reading : Reading α}
    (h : Stage network deadline call decode providers es reading) (hne : call ≠ call') :
    firstValue? call' decode' es = none := by
  apply Rpc.firstValue?_of_ne
  intro e he
  rw [h.call_eq e he]
  exact hne

/-- A node that gives a value is the last one that is asked. -/
theorem Stage.firstValue?_of_value? {reading : Reading α}
    (h : Stage network deadline call decode providers es reading) {e : Exchange}
    (he : e ∈ es) {v : α} (hv : e.value? call decode = some v) :
    firstValue? call decode es = some v := by
  induction h with
  | exhausted | overdue => cases he
  | value =>
    rw [List.mem_singleton.mp he] at hv
    rw [firstValue?, List.findSome?_cons, hv]
  | refused _ ho =>
    rw [List.mem_singleton.mp he, Exchange.value?_of_refusal ho] at hv
    cases hv
  | cut _ ho =>
    rw [List.mem_singleton.mp he, Exchange.value?_of_inconclusive (by rw [ho]; trivial)] at hv
    cases hv
  | next _ hvain _ ih =>
    have hnone := @Exchange.value?_of_inconclusive _ call _ _ hvain
    rcases List.mem_cons.mp he with rfl | he
    · rw [hnone] at hv
      cases hv
    · rw [firstValue?, List.findSome?_cons, hnone]
      exact ih he

theorem Asked.firstValue?_of_value? {result : Except ChainError α}
    (h : client.Asked network call decode es result) {e : Exchange} (he : e ∈ es) {v : α}
    (hv : e.value? call decode = some v) : firstValue? call decode es = some v := by
  cases h with
  | value h | failed h => exact h.firstValue?_of_value? he hv

theorem Asked.firstValue?_eq {result : Except ChainError α}
    (h : client.Asked network call decode es result) :
    firstValue? call decode es = result.toOption := by
  cases h with
  | value h | failed h => exact h.firstValue?_eq

theorem Asked.call_eq {result : Except ChainError α}
    (h : client.Asked network call decode es result) : ∀ e ∈ es, e.call = call := by
  cases h with
  | value h | failed h => exact h.call_eq

theorem Asked.firstValue?_of_ne {β : Type} {call' : Call} {decode' : Json → Option β}
    {result : Except ChainError α} (h : client.Asked network call decode es result)
    (hne : call ≠ call') : firstValue? call' decode' es = none := by
  cases h with
  | value h | failed h => exact h.firstValue?_of_ne hne

end Client

end LayerMessaging.Rpc
