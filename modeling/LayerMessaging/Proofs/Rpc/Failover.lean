import LayerMessaging.Proofs.Rpc.Client

namespace LayerMessaging.Rpc

def Outcome.isSilent : Outcome → Bool
  | .silence => true
  | _ => false

theorem Outcome.isSilent_iff {outcome : Outcome} :
    outcome.isSilent = true ↔ outcome = .silence := by
  cases outcome <;> simp [isSilent]

def silences (es : List Exchange) : Nat := es.countP fun e => e.outcome.isSilent

def Network.exchange (network : Network) (w : World) (provider : Provider) (call : Call) :
    Exchange :=
  ⟨provider, call, w.now, network w.trace w.now provider call⟩

/-- The world behind a call whose answer was waited for at most so many seconds. -/
def World.behind (w : World) (timeout : Nat) (e : Exchange) : World :=
  ⟨if e.outcome.isSilent then w.now + timeout else w.now, w.trace ++ [e]⟩

theorem World.now_behind (w : World) (timeout : Nat) (e : Exchange) :
    (w.behind timeout e).now = w.now + timeout * silences [e] := by
  unfold World.behind silences
  rw [List.countP_singleton]
  split <;> simp

theorem ask_eq (network : Network) (provider : Provider) (call : Call) (limit : Nat) (w : World) :
    ask network provider call limit w =
      ((network.exchange w provider call).outcome,
        ⟨if (network.exchange w provider call).outcome.isSilent then max w.now limit else w.now,
          w.trace ++ [network.exchange w provider call]⟩) := by
  unfold ask Network.exchange
  dsimp only
  cases network w.trace w.now provider call <;> rfl

/-- The same call to one node after the other, from one world to another: each goes to its node
behind those before it, when everybody who kept silent has had the timeout. -/
inductive CallsInTurn (network : Network) (timeout : Nat) (call : Call) :
    World → List Exchange → World → Prop
  | nil {w : World} : CallsInTurn network timeout call w [] w
  | cons {w w' : World} {provider : Provider} {es : List Exchange}
      (h : CallsInTurn network timeout call
        (w.behind timeout (network.exchange w provider call)) es w') :
      CallsInTurn network timeout call w (network.exchange w provider call :: es) w'

namespace CallsInTurn

variable {network : Network} {timeout : Nat} {call : Call} {w w' : World} {es : List Exchange}

theorem trace_eq (h : CallsInTurn network timeout call w es w') : w'.trace = w.trace ++ es := by
  induction h with
  | nil => simp
  | cons _ ih => rw [ih, World.behind, List.append_assoc, List.singleton_append]

/-- Every silent node takes the timeout, and nobody else takes any time. -/
theorem now_eq (h : CallsInTurn network timeout call w es w') :
    w'.now = w.now + timeout * silences es := by
  induction h with
  | nil => rfl
  | @cons w _ provider es _ ih =>
    have hcons : silences (network.exchange w provider call :: es) =
        silences [network.exchange w provider call] + silences es := by
      unfold silences
      rw [← List.countP_append, List.singleton_append]
    rw [ih, World.now_behind, hcons, Nat.mul_add, Nat.add_assoc]

theorem now_le_time (h : CallsInTurn network timeout call w es w') : ∀ e ∈ es, w.now ≤ e.time := by
  induction h with
  | nil => simp
  | cons _ ih =>
    refine List.forall_mem_cons.mpr ⟨Nat.le_refl _, fun e he => ?_⟩
    refine Nat.le_trans ?_ (ih e he)
    rw [World.now_behind]
    exact Nat.le_add_right _ _

end CallsInTurn

namespace Client

variable {α : Type} {network : Network} {timeout : Nat} {deadline : Option Nat} {call : Call}
  {decode : Json → Option α} {provider : Provider} {providers : List Provider} {w w' : World}
  {es : List Exchange} {reading : Reading α}

/-- An outcome that decides nothing, and the words for it. -/
inductive Fault (network : Network) (timeout : Nat) (call : Call) (decode : Json → Option α) :
    Outcome → String → Prop
  | malformed {json : Json} (h : decode json = none) :
      Fault network timeout call decode (.result json) (malformedText network call json)
  | failed (reason : String) : Fault network timeout call decode (.failure reason) reason
  | silent : Fault network timeout call decode .silence (silenceText timeout)

theorem Fault.inconclusive {outcome : Outcome} {text : String}
    (h : Fault network timeout call decode outcome text) : Inconclusive decode outcome := by
  cases h with
  | malformed h => exact h
  | failed | silent => trivial

theorem outcome_cases (network : Network) (timeout : Nat) (call : Call) (decode : Json → Option α)
    (outcome : Outcome) :
    (∃ json v, outcome = .result json ∧ decode json = some v) ∨
      (∃ code message data, outcome = .refusal code message data) ∨
      ∃ text, Fault network timeout call decode outcome text := by
  cases outcome with
  | result json =>
    cases hv : decode json with
    | some v => exact .inl ⟨json, v, rfl, hv⟩
    | none => exact .inr (.inr ⟨_, .malformed hv⟩)
  | refusal code message data => exact .inr (.inl ⟨_, _, _, rfl⟩)
  | failure reason => exact .inr (.inr ⟨_, .failed reason⟩)
  | silence => exact .inr (.inr ⟨_, .silent⟩)

/-- An answer is waited for until the timeout or the deadline, whichever comes first. -/
theorem waited_until (hopen : ∀ d ∈ deadline, w.now < d) :
    max w.now (min (w.now + timeout) (deadline.getD (w.now + timeout))) =
      if deadline.any (· < w.now + timeout) then deadline.getD 0 else w.now + timeout := by
  cases deadline with
  | none => simp
  | some d =>
    have hnow := hopen d rfl
    simp only [Option.getD_some, Option.any_some, decide_eq_true_eq]
    split <;> omega

theorem deadline_cases (deadline : Option Nat) (moment : Nat) :
    (∀ d ∈ deadline, moment ≤ d) ∨ ∃ d ∈ deadline, d < moment := by
  cases deadline with
  | none => exact .inl (by simp)
  | some d => simpa using (Nat.lt_or_ge d moment).symm

theorem not_overdue (hopen : ∀ d ∈ deadline, w.now < d) :
    ¬ deadline.any (· ≤ w.now) = true := by
  cases deadline with
  | none => exact Bool.false_ne_true
  | some d => simpa using hopen d rfl

section

variable (hopen : ∀ d ∈ deadline, w.now < d) (reason : String)
include hopen

theorem read_cons {e : Exchange} (he : network.exchange w provider call = e) :
    read network timeout deadline call decode (provider :: providers) reason w =
      match e.outcome with
      | .result json =>
        match decode json with
        | some v => (.value v, w.behind timeout e)
        | none =>
          read network timeout deadline call decode providers (malformedText network call json)
            (w.behind timeout e)
      | .refusal code message data =>
        (.failed (.rpc (call.method ++ ": " ++ refusalText code message data)), w.behind timeout e)
      | .failure reason =>
        read network timeout deadline call decode providers reason (w.behind timeout e)
      | .silence =>
        if deadline.any (· < w.now + timeout) then
          (.expired, ⟨deadline.getD 0, (w.behind timeout e).trace⟩)
        else
          read network timeout deadline call decode providers (silenceText timeout)
            (w.behind timeout e) := by
  rw [read]
  change (if deadline.any (· ≤ w.now) then _ else _ : StateM World (Reading α)) w = _
  rw [if_neg (not_overdue hopen)]
  dsimp only [Bind.bind, StateT.bind]
  rw [ask_eq, he]
  dsimp only
  unfold World.behind
  cases e.outcome with
  | result json =>
    dsimp only
    cases decode json <;> rfl
  | refusal | failure => rfl
  | silence =>
    simp only [Outcome.isSilent, if_true, waited_until hopen]
    split <;> rfl

theorem read_value {e : Exchange} {json : Json} {v : α}
    (he : network.exchange w provider call = e) (ho : e.outcome = .result json)
    (hv : decode json = some v) :
    read network timeout deadline call decode (provider :: providers) reason w =
      (.value v, w.behind timeout e) := by
  rw [read_cons hopen reason he, ho]
  dsimp only
  rw [hv]

theorem read_refused {e : Exchange} {code : Int} {message : String} {data : Option String}
    (he : network.exchange w provider call = e) (ho : e.outcome = .refusal code message data) :
    read network timeout deadline call decode (provider :: providers) reason w =
      (.failed (.rpc (call.method ++ ": " ++ refusalText code message data)),
        w.behind timeout e) := by
  rw [read_cons hopen reason he, ho]

/-- Behind a node that decides nothing the next one is asked, if its silence leaves time for
that. -/
theorem read_fault {e : Exchange} {text : String} (he : network.exchange w provider call = e)
    (hfault : Fault network timeout call decode e.outcome text)
    (hroom : e.outcome = .silence → ∀ d ∈ deadline, w.now + timeout ≤ d) :
    read network timeout deadline call decode (provider :: providers) reason w =
      read network timeout deadline call decode providers text (w.behind timeout e) := by
  rw [read_cons hopen reason he]
  generalize e.outcome = outcome at hfault hroom
  cases hfault with
  | malformed hv =>
    dsimp only
    rw [hv]
  | failed => rfl
  | silent =>
    have hroom : ¬ deadline.any (· < w.now + timeout) = true := by
      cases deadline with
      | none => exact Bool.false_ne_true
      | some d => simpa using hroom rfl d rfl
    exact if_neg hroom

theorem read_cut {e : Exchange} {d : Nat} (he : network.exchange w provider call = e)
    (ho : e.outcome = .silence) (hdeadline : deadline = some d) (hd : d < w.now + timeout) :
    read network timeout deadline call decode (provider :: providers) reason w =
      (.expired, ⟨d, (w.behind timeout e).trace⟩) := by
  have hany : deadline.any (· < w.now + timeout) = true := by
    rw [hdeadline]
    exact decide_eq_true hd
  rw [read_cons hopen reason he, ho]
  dsimp only
  rw [if_pos hany, hdeadline]
  rfl

end

/-- When the deadline has come nobody is asked. -/
theorem read_overdue {d : Nat} (hd : d ≤ w.now) (reason : String) :
    read network timeout (some d) call decode (provider :: providers) reason w = (.expired, w) := by
  have hany : (some d).any (· ≤ w.now) = true := decide_eq_true hd
  rw [read]
  change (if (some d).any (· ≤ w.now) = true then _ else _ : StateM World (Reading α)) w = _
  rw [if_pos hany]
  rfl

/-- What a reading call to some nodes comes to, by the last of the calls that are made for it. -/
inductive Verdict (network : Network) (timeout : Nat) (call : Call) (decode : Json → Option α)
    (providers : List Provider) : List Exchange → Reading α → Prop
  | value (tried : List Exchange) {e : Exchange} {json : Json} {v : α}
      (ho : e.outcome = .result json) (hv : decode json = some v) :
      Verdict network timeout call decode providers (tried ++ [e]) (.value v)
  | refused (tried : List Exchange) {e : Exchange} {code : Int} {message : String}
      {data : Option String} (ho : e.outcome = .refusal code message data) :
      Verdict network timeout call decode providers (tried ++ [e])
        (.failed (.rpc (call.method ++ ": " ++ refusalText code message data)))
  | exhausted (tried : List Exchange) {e : Exchange} {text : String}
      (hall : (tried ++ [e]).map Exchange.provider = providers)
      (hfault : Fault network timeout call decode e.outcome text) :
      Verdict network timeout call decode providers (tried ++ [e])
        (.failed (.rpc ("All RPC providers failed: " ++ call.method ++ ": " ++ text)))

structure FailsOver (network : Network) (timeout : Nat) (call : Call) (decode : Json → Option α)
    (providers : List Provider) (w : World) (es : List Exchange) (reading : Reading α)
    (w' : World) : Prop where
  in_turn : CallsInTurn network timeout call w es w'
  in_order : es.map Exchange.provider <+: providers
  in_vain : ∀ e ∈ es.dropLast, Inconclusive decode e.outcome
  verdict : Verdict network timeout call decode providers es reading

/-- The nodes are asked in turn, and nobody has decided the call when the deadline comes. It comes
while the last one is waited for, or just behind its timeout. -/
structure CutOff (network : Network) (timeout : Nat) (call : Call) (decode : Json → Option α)
    (providers : List Provider) (w : World) (es : List Exchange) (deadline : Nat) (w' : World) :
    Prop where
  in_turn : ∃ late, CallsInTurn network timeout call w es late ∧ deadline ≤ late.now
  in_order : es.map Exchange.provider <+: providers
  in_vain : ∀ e ∈ es, Inconclusive decode e.outcome
  world_eq : w' = ⟨deadline, w.trace ++ es⟩

/-- How a reading call ends on the clock: it fails over in time, or the deadline cuts it off. -/
inductive Turnout (network : Network) (timeout : Nat) (deadline : Option Nat) (call : Call)
    (decode : Json → Option α) (providers : List Provider) (w : World) :
    Reading α → World → Prop
  | decided {es : List Exchange} {reading : Reading α} {w' : World}
      (h : FailsOver network timeout call decode providers w es reading w')
      (htime : ∀ d ∈ deadline, w'.now ≤ d) :
      Turnout network timeout deadline call decode providers w reading w'
  | cut {es : List Exchange} {d : Nat} {w' : World} (hd : d ∈ deadline)
      (h : CutOff network timeout call decode providers w es d w') :
      Turnout network timeout deadline call decode providers w .expired w'

theorem Verdict.cons {e : Exchange} (he : e.provider = provider)
    (h : Verdict network timeout call decode providers es reading) :
    Verdict network timeout call decode (provider :: providers) (e :: es) reading := by
  cases h with
  | value tried ho hv => exact .value (e :: tried) ho hv
  | refused tried ho => exact .refused (e :: tried) ho
  | exhausted tried hall hfault =>
    refine .exhausted (e :: tried) ?_ hfault
    rw [List.cons_append, List.map_cons, he, hall]

theorem Turnout.cons (hvain : Inconclusive decode (network.exchange w provider call).outcome)
    (h : Turnout network timeout deadline call decode providers
      (w.behind timeout (network.exchange w provider call)) reading w') :
    Turnout network timeout deadline call decode (provider :: providers) w reading w' := by
  cases h with
  | @decided es _ _ h htime =>
    refine .decided ⟨.cons h.in_turn, ?_, ?_, h.verdict.cons rfl⟩ htime
    · exact List.cons_prefix_cons.mpr ⟨rfl, h.in_order⟩
    · cases es with
      | nil => simp
      | cons e es =>
        rw [List.dropLast_cons_cons]
        exact List.forall_mem_cons.mpr ⟨hvain, h.in_vain⟩
  | cut hd h =>
    obtain ⟨late, hturn, hlate⟩ := h.in_turn
    refine .cut hd ⟨⟨late, .cons hturn, hlate⟩, ?_, ?_, ?_⟩
    · exact List.cons_prefix_cons.mpr ⟨rfl, h.in_order⟩
    · exact List.forall_mem_cons.mpr ⟨hvain, h.in_vain⟩
    · rw [h.world_eq, World.behind, List.append_assoc, List.singleton_append]

theorem Turnout.first (hopen : ∀ d ∈ deadline, w.now < d)
    (hanswer : (network.exchange w provider call).outcome ≠ .silence)
    (h : Verdict network timeout call decode (provider :: providers)
      [network.exchange w provider call] reading) :
    Turnout network timeout deadline call decode (provider :: providers) w reading
      (w.behind timeout (network.exchange w provider call)) := by
  refine .decided ⟨.cons .nil, ?_, by simp, h⟩ fun d hd => ?_
  · exact List.cons_prefix_cons.mpr ⟨rfl, List.nil_prefix⟩
  · unfold World.behind
    rw [if_neg (mt Outcome.isSilent_iff.mp hanswer)]
    exact Nat.le_of_lt (hopen d hd)

theorem Turnout.silent {d : Nat} (hd : d ∈ deadline)
    (ho : (network.exchange w provider call).outcome = .silence) (hlt : d < w.now + timeout) :
    Turnout network timeout deadline call decode (provider :: providers) w .expired
      ⟨d, w.trace ++ [network.exchange w provider call]⟩ := by
  refine .cut hd ⟨⟨_, .cons .nil, ?_⟩, ?_, ?_, rfl⟩
  · unfold World.behind
    rw [if_pos (Outcome.isSilent_iff.mpr ho)]
    exact Nat.le_of_lt hlt
  · exact List.cons_prefix_cons.mpr ⟨rfl, List.nil_prefix⟩
  · intro e he
    rw [List.mem_singleton.mp he, ho]
    trivial

theorem Turnout.overdue (hd : w.now ∈ deadline) :
    Turnout network timeout deadline call decode providers w .expired w := by
  refine .cut hd ⟨⟨w, .nil, Nat.le_refl _⟩, List.nil_prefix, by simp, ?_⟩
  rw [List.append_nil]

/-- The timeout of a silent node is over before the deadline, or the node cuts the call off. -/
theorem silence_cases (deadline : Option Nat) (outcome : Outcome) (moment : Nat) :
    (outcome = .silence → ∀ d ∈ deadline, moment ≤ d) ∨
      outcome = .silence ∧ ∃ d ∈ deadline, d < moment := by
  rcases deadline_cases deadline moment with hroom | hlate
  · exact .inl fun _ => hroom
  · by_cases ho : outcome = .silence
    · exact .inr ⟨ho, hlate⟩
    · exact .inl fun h => absurd h ho

/-- What comes back from the first node ends the call, or passes it on to the next one. -/
theorem read_cases (hnow : ∀ d ∈ deadline, w.now ≤ d) (reason : String)
    (h : read network timeout deadline call decode (provider :: providers) reason w =
      (reading, w')) :
    Turnout network timeout deadline call decode (provider :: providers) w reading w' ∨
      ∃ text, Fault network timeout call decode (network.exchange w provider call).outcome text ∧
        (∀ d ∈ deadline, (w.behind timeout (network.exchange w provider call)).now ≤ d) ∧
        read network timeout deadline call decode providers text
          (w.behind timeout (network.exchange w provider call)) = (reading, w') := by
  rcases deadline_cases deadline (w.now + 1) with hopen | ⟨d, hd, hlt⟩
  · rcases outcome_cases network timeout call decode (network.exchange w provider call).outcome with
      ⟨json, v, ho, hv⟩ | ⟨code, message, data, ho⟩ | ⟨text, hfault⟩
    · rw [read_value hopen reason rfl ho hv] at h
      cases h
      exact .inl (.first hopen (by simp [ho]) (.value [] ho hv))
    · rw [read_refused hopen reason rfl ho] at h
      cases h
      exact .inl (.first hopen (by simp [ho]) (.refused [] ho))
    · rcases silence_cases deadline (network.exchange w provider call).outcome
        (w.now + timeout) with hroom | ⟨ho, d, hd, hlt⟩
      · rw [read_fault hopen reason rfl hfault hroom] at h
        refine .inr ⟨text, hfault, fun d hd => ?_, h⟩
        unfold World.behind
        dsimp only
        split
        · exact hroom (Outcome.isSilent_iff.mp ‹_›) d hd
        · exact hnow d hd
      · rw [read_cut hopen reason rfl ho hd hlt] at h
        cases h
        exact .inl (.silent hd ho hlt)
  · have heq : w.now = d := Nat.le_antisymm (hnow d hd) (Nat.le_of_lt_succ hlt)
    rw [Option.mem_def.mp hd, read_overdue (Nat.le_of_lt_succ hlt)] at h
    cases h
    rw [← heq] at hd
    exact .inl (.overdue hd)

/-- A reading call fails over, unless a deadline cuts it off. -/
theorem turnout_of_read (hnow : ∀ d ∈ deadline, w.now ≤ d) (reason : String)
    (h : read network timeout deadline call decode (provider :: providers) reason w =
      (reading, w')) :
    Turnout network timeout deadline call decode (provider :: providers) w reading w' := by
  -- By induction on the nodes that are left: each one in vain goes in front of what follows.
  induction providers generalizing provider w reason with
  | nil =>
    rcases read_cases hnow reason h with h | ⟨text, hfault, hnow, h⟩
    · exact h
    · cases h
      refine .decided ⟨.cons .nil, List.prefix_rfl, by simp, ?_⟩ hnow
      exact .exhausted [] rfl hfault
  | cons next providers ih =>
    rcases read_cases hnow reason h with h | ⟨text, hfault, hnow, h⟩
    · exact h
    · exact .cons hfault.inconclusive (ih hnow text h)

def Reading.result : Reading α → Except ChainError α
  | .value v => .ok v
  | .failed error => .error error
  | .expired => .error (.rpc "")

variable {client : Client}

/-- Asking is reading without a deadline. -/
theorem query_of_read
    (h : read network client.settings.rpcTimeout none call decode client.providers "" w =
      (reading, w')) :
    (client.query network call decode).run w = (reading.result, w') := by
  unfold query
  rw [run_bind_of_lift h]
  cases reading <;> rfl

/-- Failover is exact. The nodes are asked in their order, each once, up to the first that gives a
value or says that the call failed; the call comes to what that one said, or to the failure of the
last one if all were asked in vain; and it takes the timeout for each of those asked that kept
silent. So it is for a call within a wait too, unless the wait is over before: then all those asked
so far were asked in vain, and nobody else is asked. -/
theorem failover_is_exact (client : Client) (network : Network) (call : Call)
    (decode : Json → Option α) (w : World) :
    (∃ es reading w', (client.query network call decode).run w = (reading.result, w') ∧
      FailsOver network client.settings.rpcTimeout call decode client.providers w es reading w' ∧
      w'.trace = w.trace ++ es ∧ w'.now = w.now + client.settings.rpcTimeout * silences es) ∧
    ∀ left, ∃ es reading w',
      read network client.settings.rpcTimeout (some (w.now + left)) call decode client.providers
        "" w = (reading, w') ∧
      w'.trace = w.trace ++ es ∧
      ((FailsOver network client.settings.rpcTimeout call decode client.providers w es reading w' ∧
        w'.now = w.now + client.settings.rpcTimeout * silences es ∧ w'.now ≤ w.now + left) ∨
      (reading = .expired ∧
        CutOff network client.settings.rpcTimeout call decode client.providers w es (w.now + left)
          w')) := by
  constructor
  · rcases hread : read network client.settings.rpcTimeout none call decode client.providers "" w
      with ⟨reading, w'⟩
    cases turnout_of_read (by simp) "" hread with
    | decided h => exact ⟨_, reading, w', query_of_read hread, h, h.in_turn.trace_eq,
        h.in_turn.now_eq⟩
    | cut hd => cases hd
  · intro left
    rcases hread : read network client.settings.rpcTimeout (some (w.now + left)) call decode
      client.providers "" w with ⟨reading, w'⟩
    cases turnout_of_read (by simp) "" hread with
    | decided h htime =>
      exact ⟨_, reading, w', rfl, h.in_turn.trace_eq, .inl ⟨h, h.in_turn.now_eq, htime _ rfl⟩⟩
    | cut hd h =>
      cases hd
      exact ⟨_, .expired, w', rfl, by rw [h.world_eq], .inr ⟨rfl, h⟩⟩

def namedProvider (position : Nat) (name : String) : Provider :=
  ⟨position, ⟨"http", some ⟨"", none, some (.name name), none⟩, "/", none, none⟩⟩

/-- A network in which the first node keeps silent, and the others are on chain 1. -/
def hushedNetwork : Network where
  respond _ _ provider _ := if provider.position = 0 then .silence else .result (.natural 1)
  receiptOf? _ := none
  complaint _ _ := ""

example :
    (query ⟨namedProvider 0 "a", [namedProvider 1 "b"], Settings.defaultChain⟩ hushedNetwork
      .chainId (quantity? (Bytes.limit 8))).run .start =
      (.ok 1, ⟨10, [⟨namedProvider 0 "a", .chainId, 0, .silence⟩,
        ⟨namedProvider 1 "b", .chainId, 10, .result (.natural 1)⟩]⟩) :=
  rfl

end Client

end LayerMessaging.Rpc
