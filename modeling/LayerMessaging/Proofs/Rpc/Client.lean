import LayerMessaging.Proofs.Rpc.Stage

namespace LayerMessaging.Rpc.Client

variable {α : Type}

/-- What a reading call without a deadline leaves behind: a stage, which does not expire. -/
inductive Asked (client : Client) (network : Network) (call : Call) (decode : Json → Option α) :
    List Exchange → Except ChainError α → Prop
  | value {es : List Exchange} {v : α}
      (h : Stage network none call decode client.providers es (.value v)) :
      Asked client network call decode es (.ok v)
  | failed {es : List Exchange} {text : String}
      (h : Stage network none call decode client.providers es
        (.failed (.rpc text))) :
      Asked client network call decode es (.error (.rpc text))

theorem leaves_query (client : Client) (network : Network) (call : Call)
    (decode : Json → Option α) :
    Leaves (client.query network call decode).run (Asked client network call decode) := by
  refine (leaves_read network client.settings.rpcTimeout none call decode client.providers "")
    |>.andThen_lift fun es reading h => ?_
  cases reading with
  | value v => exact .ok_last (.value h)
  | failed error =>
    obtain ⟨text, rfl⟩ := h.failed_inv
    exact .error_last (.failed h)
  | expired => cases h.expired_inv

inductive Identified (client : Client) (network : Network) :
    List Exchange → Except ChainError Nat → Prop
  | unknown {es : List Exchange} {error : ChainError}
      (h : client.Asked network .chainId (quantity? (Bytes.limit 8)) es (.error error)) :
      Identified client network es (.error error)
  | other {es : List Exchange} {actual expected : Nat}
      (h : client.Asked network .chainId (quantity? (Bytes.limit 8)) es (.ok actual))
      (hexpected : client.settings.chainId = some expected) (hne : actual ≠ expected) :
      Identified client network es (.error (.chainMismatch expected actual))
  | known {es : List Exchange} {actual : Nat}
      (h : client.Asked network .chainId (quantity? (Bytes.limit 8)) es (.ok actual))
      (hexpected : ∀ expected, client.settings.chainId = some expected → actual = expected) :
      Identified client network es (.ok actual)

theorem leaves_verifyChainId (client : Client) (network : Network) :
    Leaves (client.verifyChainId network).run (Identified client network) := by
  unfold verifyChainId
  refine (leaves_query client network .chainId _).andThen (fun es e h => .unknown h)
    fun es actual h => ?_
  cases hexpected : client.settings.chainId with
  | none => exact .ok_last (.known h (by simp [hexpected]))
  | some expected =>
    dsimp only
    split
    · exact .ok_last (.known h (by simp_all))
    · exact .error_last (.other h hexpected ‹_›)

/-- What handing over a signed transaction leaves behind: one call to the first node. -/
inductive Handed (client : Client) (network : Network) (raw : Bytes) :
    List Exchange → Except ChainError Hash → Prop
  | accepted {e : Exchange} {json : Json} {hash : Hash}
      (he : e.IsOf network client.primary (.sendRawTransaction raw))
      (ho : e.outcome = .result json) (hhash : hash? json = some hash) :
      Handed client network raw [e] (.ok hash)
  | rejected {e : Exchange} {text : String}
      (he : e.IsOf network client.primary (.sendRawTransaction raw)) :
      Handed client network raw [e] (.error (.rpc text))
  | unanswered {e : Exchange} (he : e.IsOf network client.primary (.sendRawTransaction raw))
      (ho : e.outcome = .silence) :
      Handed client network raw [e] (.error (.timeout client.settings.rpcTimeout))

theorem Handed.call_eq {client : Client} {network : Network} {raw : Bytes} {es : List Exchange}
    {result : Except ChainError Hash} (h : client.Handed network raw es result) :
    ∀ e ∈ es, e.call = .sendRawTransaction raw := by
  cases h with
  | accepted he | rejected he | unanswered he => simpa using he.call_eq

/-- A transaction is accepted by the node that names its hash. -/
theorem Handed.ok_inv {client : Client} {network : Network} {raw : Bytes} {es : List Exchange}
    {hash : Hash} (h : client.Handed network raw es (.ok hash)) :
    ∃ e json, es = [e] ∧ e.call = .sendRawTransaction raw ∧ e.outcome = .result json ∧
      hash? json = some hash := by
  cases h with
  | accepted he ho hhash => exact ⟨_, _, rfl, he.call_eq, ho, hhash⟩

theorem leaves_sendRawTransaction (client : Client) (network : Network) (raw : Bytes) :
    Leaves (client.sendRawTransaction network raw).run (Handed client network raw) := by
  refine .andThen_get fun w => ?_
  refine (leaves_ask network client.primary (.sendRawTransaction raw) _).andThen_lift ?_
  rintro _ _ ⟨e, rfl, he, rfl⟩
  cases ho : e.outcome with
  | result json =>
    dsimp only
    split
    · exact .ok (.accepted he ho ‹_›)
    · exact .error (.rejected he)
  | refusal code message data => exact .error (.rejected he)
  | failure reason => exact .error (.rejected he)
  | silence => exact .error (.unanswered he ho)

end LayerMessaging.Rpc.Client
