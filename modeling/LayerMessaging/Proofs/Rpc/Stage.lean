import LayerMessaging.Proofs.Rpc.Trace

namespace LayerMessaging.Rpc

structure Exchange.IsOf (network : Network) (provider : Provider) (call : Call) (e : Exchange) :
    Prop where
  provider_eq : e.provider = provider
  call_eq : e.call = call
  answered : ∃ trace, e.outcome = network trace e.time provider call

theorem leaves_ask (network : Network) (provider : Provider) (call : Call) (limit : Nat) :
    Leaves (ask network provider call limit) fun es outcome =>
      ∃ e : Exchange, es = [e] ∧ e.IsOf network provider call ∧ e.outcome = outcome := by
  intro w
  refine ⟨[⟨provider, call, w.now, network w.trace w.now provider call⟩], ?_, ?_⟩
  · unfold ask
    cases network w.trace w.now provider call <;> rfl
  · refine ⟨_, rfl, ⟨rfl, rfl, w.trace, rfl⟩, ?_⟩
    unfold ask
    cases network w.trace w.now provider call <;> rfl

namespace Client

variable {α : Type}

/-- An outcome after which the next node is asked. -/
def Inconclusive (decode : Json → Option α) : Outcome → Prop
  | .result json => decode json = none
  | .refusal .. => False
  | .failure _ => True
  | .silence => True

/-- One node after the other was called in vain, and the last one answered with a value. -/
def Answered (call : Call) (decode : Json → Option α) (es : List Exchange) (v : α) : Prop :=
  ∃ tried e json, es = tried ++ [e] ∧ (∀ e' ∈ es, e'.call = call) ∧
    (∀ e' ∈ tried, Inconclusive decode e'.outcome) ∧
    e.outcome = .result json ∧ decode json = some v

/-- What a reading call to some nodes leaves behind, and what it comes to. -/
inductive Stage (network : Network) (deadline : Option Nat) (call : Call)
    (decode : Json → Option α) : List Provider → List Exchange → Reading α → Prop
  | exhausted (reason : String) :
      Stage network deadline call decode [] []
        (.failed (.rpc ("All RPC providers failed: " ++ call.method ++ ": " ++ reason)))
  | overdue {providers : List Provider} (h : deadline.isSome) :
      Stage network deadline call decode providers [] .expired
  | value {provider : Provider} {providers : List Provider} {e : Exchange} {json : Json} {v : α}
      (he : e.IsOf network provider call) (ho : e.outcome = .result json)
      (hv : decode json = some v) :
      Stage network deadline call decode (provider :: providers) [e] (.value v)
  | refused {provider : Provider} {providers : List Provider} {e : Exchange} {code : Int}
      {message : String} {data : Option String} (he : e.IsOf network provider call)
      (ho : e.outcome = .refusal code message data) :
      Stage network deadline call decode (provider :: providers) [e]
        (.failed (.rpc (call.method ++ ": " ++ refusalText code message data)))
  | cut {provider : Provider} {providers : List Provider} {e : Exchange}
      (he : e.IsOf network provider call) (ho : e.outcome = .silence) (h : deadline.isSome) :
      Stage network deadline call decode (provider :: providers) [e] .expired
  | next {provider : Provider} {providers : List Provider} {e : Exchange} {es : List Exchange}
      {reading : Reading α} (he : e.IsOf network provider call)
      (ho : Inconclusive decode e.outcome)
      (h : Stage network deadline call decode providers es reading) :
      Stage network deadline call decode (provider :: providers) (e :: es) reading

namespace Stage

variable {network : Network} {deadline : Option Nat} {call : Call}
  {decode : Json → Option α} {providers : List Provider} {es : List Exchange} {reading : Reading α}

theorem call_eq (h : Stage network deadline call decode providers es reading) :
    ∀ e ∈ es, e.call = call := by
  induction h with
  | exhausted | overdue => simp
  | value he | refused he | cut he => simpa using he.call_eq
  | next he _ _ ih => simpa using ⟨he.call_eq, ih⟩

/-- The nodes are asked in order, each once at most. -/
theorem providers_prefix (h : Stage network deadline call decode providers es reading) :
    es.map Exchange.provider <+: providers := by
  induction h with
  | exhausted | overdue => exact List.nil_prefix
  | value he | refused he | cut he => simp [he.provider_eq]
  | next he _ _ ih => simpa [he.provider_eq] using ih

/-- A value is what the last node answered. -/
theorem value_inv {v : α} (h : Stage network deadline call decode providers es (.value v)) :
    Answered call decode es v := by
  generalize hr : Reading.value v = reading at h
  induction h with
  | exhausted | overdue | refused | cut => cases hr
  | value he ho hv =>
    cases hr
    exact ⟨[], _, _, rfl, by simpa using he.call_eq, by simp, ho, hv⟩
  | @next _ _ e _ _ he hvain _ ih =>
    obtain ⟨tried, last, json, rfl, hcall, hvains, ho, hv⟩ := ih hr
    refine ⟨e :: tried, last, json, rfl, ?_, ?_, ho, hv⟩
    · exact List.forall_mem_cons.mpr ⟨he.call_eq, hcall⟩
    · exact List.forall_mem_cons.mpr ⟨hvain, hvains⟩

theorem failed_inv {error : ChainError}
    (h : Stage network deadline call decode providers es (.failed error)) :
    ∃ text, error = .rpc text := by
  generalize hr : Reading.failed error = reading at h
  induction h with
  | exhausted | refused => cases hr; exact ⟨_, rfl⟩
  | overdue | value | cut => cases hr
  | next _ _ _ ih => exact ih hr

theorem expired_inv (h : Stage network deadline call decode providers es .expired) :
    deadline.isSome := by
  generalize hr : Reading.expired = reading at h
  induction h with
  | exhausted | value | refused => cases hr
  | overdue h | cut _ _ h => exact h
  | next _ _ _ ih => exact ih hr

end Stage

theorem leaves_read (network : Network) (timeout : Nat) (deadline : Option Nat) (call : Call)
    (decode : Json → Option α) (providers : List Provider) (reason : String) :
    Leaves (read network timeout deadline call decode providers reason)
      (Stage network deadline call decode providers) := by
  induction providers generalizing reason with
  | nil => exact .pure (.exhausted reason)
  | cons provider providers ih =>
    unfold read
    refine .bind_get fun w => ?_
    dsimp only
    split
    · exact .pure (.overdue (Option.isSome_of_any ‹_›))
    refine (leaves_ask network provider call _).bind ?_
    rintro _ _ ⟨e, rfl, he, rfl⟩
    -- Each outcome ends the stage, or passes the call on to the nodes that are left.
    have next (ho : Inconclusive decode e.outcome) (reason : String) :
        Leaves (read network timeout deadline call decode providers reason) fun es reading =>
          Stage network deadline call decode (provider :: providers) ([e] ++ es) reading :=
      (ih reason).mono fun es reading h => .next he ho h
    cases ho : e.outcome with
    | result json =>
      dsimp only
      split
      · exact .pure (.value he ho ‹_›)
      · exact next (by rw [ho]; assumption) _
    | refusal code message data => exact .pure (.refused he ho)
    | failure reason => exact next (by rw [ho]; trivial) reason
    | silence =>
      dsimp only
      split
      · exact .pure (.cut he ho (Option.isSome_of_any ‹_›))
      · exact next (by rw [ho]; trivial) _

end Client

end LayerMessaging.Rpc
