import LayerMessaging.Proofs.Rpc.Failover
import LayerMessaging.Proofs.Submission.Poll

namespace LayerMessaging

open Rpc

/-- From one world to another time passes, up to the deadline at most, and the calls that are made
fall into it. -/
structure Rpc.Passes (deadline : Nat) (w : World) (es : List Exchange) (w' : World) : Prop where
  trace_eq : w'.trace = w.trace ++ es
  now_le : w.now ≤ w'.now
  le_deadline : w'.now ≤ deadline
  le_time : ∀ e ∈ es, w.now ≤ e.time

namespace Rpc.Passes

variable {deadline : Nat} {w w' w'' : World} {es es' : List Exchange}

theorem trans (h : Passes deadline w es w') (h' : Passes deadline w' es' w'') :
    Passes deadline w (es ++ es') w'' where
  trace_eq := by rw [h'.trace_eq, h.trace_eq, List.append_assoc]
  now_le := Nat.le_trans h.now_le h'.now_le
  le_deadline := h'.le_deadline
  le_time := by
    intro e he
    rcases List.mem_append.mp he with he | he
    · exact h.le_time e he
    · exact Nat.le_trans h.now_le (h'.le_time e he)

end Rpc.Passes

/-- A reading call with a deadline is over by then, and expires only when it comes. -/
theorem Rpc.Client.read_passes {α : Type} {network : Network} {timeout deadline : Nat} {call : Call}
    {decode : Json → Option α} {client : Client} {reason : String} {w w' : World}
    {reading : Reading α} (hnow : w.now ≤ deadline)
    (h : read network timeout (some deadline) call decode client.providers reason w =
      (reading, w')) :
    ∃ es, Passes deadline w es w' ∧ (reading = .expired → w'.now = deadline) := by
  cases turnout_of_read (by simpa using hnow) reason h with
  | decided hfails htime =>
    refine ⟨_, ⟨hfails.in_turn.trace_eq, ?_, htime deadline rfl, hfails.in_turn.now_le_time⟩, ?_⟩
    · rw [hfails.in_turn.now_eq]
      exact Nat.le_add_right _ _
    · rintro rfl
      cases hfails.verdict
  | cut hd hcut =>
    cases hd
    obtain ⟨late, hturn, -⟩ := hcut.in_turn
    rw [hcut.world_eq]
    exact ⟨_, ⟨rfl, hnow, Nat.le_refl _, hturn.now_le_time⟩, fun _ => rfl⟩

namespace Confirmation

variable {client : Client} {network : Network} {hash : Hash} {deadline due : Nat} {w w' : World}
  {outcome : Poll}

/-- A poll is over by the deadline, and expires only when it comes. -/
theorem poll_passes (hnow : w.now ≤ deadline)
    (h : poll client network hash deadline w = (outcome, w')) :
    ∃ es, Passes deadline w es w' ∧ (outcome = .expired → w'.now = deadline) := by
  rcases hreceipt : Client.read network client.settings.rpcTimeout (some deadline)
    (.transactionReceipt hash) network.receipt? client.providers "" w with ⟨reading, w₁⟩
  obtain ⟨es, hpasses, hexpired⟩ := Client.read_passes hnow hreceipt
  by_cases hstatus : ∃ receipt, reading = .value (some receipt) ∧ receipt.succeeded = true
  · obtain ⟨receipt, rfl, hstatus⟩ := hstatus
    rcases hblock : Client.read network client.settings.rpcTimeout (some deadline) .blockNumber
      (quantity? (Bytes.limit 8)) client.providers "" w₁ with ⟨reading, w₂⟩
    obtain ⟨es', hpasses', hexpired'⟩ := Client.read_passes hpasses.le_deadline hblock
    rw [poll_of_success hreceipt hstatus hblock] at h
    cases h
    refine ⟨es ++ es', hpasses.trans hpasses', fun h => hexpired' ?_⟩
    exact Poll.ofBlock_expired_iff.mp h
  · have hother (receipt : Receipt) (h : reading = .value (some receipt)) :
        receipt.succeeded = false := by
      cases hs : receipt.succeeded with
      | false => rfl
      | true => exact absurd ⟨receipt, h, hs⟩ hstatus
    rw [poll_of_receipt hreceipt hother] at h
    cases h
    exact ⟨es, hpasses, fun h => hexpired (Poll.ofReceipt_expired_iff.mp h)⟩

def Poll.result? : Poll → Option (Except ChainError Status)
  | .decided status => some (.ok status)
  | .failed error => some (.error error)
  | .pending | .expired => none

structure Round where
  start : Nat
  exchanges : List Exchange
  outcome : Poll

/-- The loop of a wait, which counts nothing. The next poll is due at some moment, and the one
behind it an interval later; it starts when it is due, or at once if that has passed. The loop ends
with the first poll that says something, and is dropped when the deadline comes: before the next
poll is due, or within one. -/
inductive Loop (client : Client) (network : Network) (hash : Hash) (deadline : Nat) :
    (due : Nat) → World → List Round → Except ChainError Status → World → Prop
  | dropped {due : Nat} {w : World} (h : deadline ≤ due) :
      Loop client network hash deadline due w []
        (.error (.confirmationTimeout client.settings.confirmations))
        ⟨max w.now deadline, w.trace⟩
  | ends {due : Nat} {w w' : World} {es : List Exchange} {outcome : Poll}
      {result : Except ChainError Status} (h : due < deadline)
      (hpoll : poll client network hash deadline ⟨max w.now due, w.trace⟩ = (outcome, w'))
      (htrace : w'.trace = w.trace ++ es) (hresult : outcome.result? = some result) :
      Loop client network hash deadline due w [⟨max w.now due, es, outcome⟩] result w'
  | cut {due : Nat} {w w' : World} {es : List Exchange} (h : due < deadline)
      (hpoll : poll client network hash deadline ⟨max w.now due, w.trace⟩ = (.expired, w'))
      (htrace : w'.trace = w.trace ++ es) :
      Loop client network hash deadline due w [⟨max w.now due, es, .expired⟩]
        (.error (.confirmationTimeout client.settings.confirmations)) w'
  | goesOn {due : Nat} {w w' w'' : World} {es : List Exchange} {rounds : List Round}
      {result : Except ChainError Status} (h : due < deadline)
      (hpoll : poll client network hash deadline ⟨max w.now due, w.trace⟩ = (.pending, w'))
      (htrace : w'.trace = w.trace ++ es)
      (h' : Loop client network hash deadline (due + interval) w' rounds result w'') :
      Loop client network hash deadline due w (⟨max w.now due, es, .pending⟩ :: rounds) result w''

/-- Polling with a count of the polls that are due before the deadline is the loop, so that the loop
ends. -/
theorem loop_of_pollUntil (left due : Nat) (hleft : left = (deadline - due + 1) / 2)
    (hnow : w.now ≤ deadline) :
    ∃ rounds result w', (pollUntil client network hash deadline left due).run w = (result, w') ∧
      Loop client network hash deadline due w rounds result w' := by
  -- By induction on the count, which the distance from the due poll to the deadline determines.
  induction left generalizing due w with
  | zero => exact ⟨[], _, _, rfl, .dropped (by omega)⟩
  | succ left ih =>
    have hdue : due < deadline := by omega
    rcases hpoll : poll client network hash deadline ⟨max w.now due, w.trace⟩ with ⟨outcome, w'⟩
    obtain ⟨es, hpasses, -⟩ := poll_passes (Nat.max_le.mpr ⟨hnow, Nat.le_of_lt hdue⟩) hpoll
    have hmodify : (modify fun w => { w with now := max w.now due } : Run PUnit).run w =
        (.ok ⟨⟩, ⟨max w.now due, w.trace⟩) := rfl
    unfold pollUntil
    rw [run_bind_of_ok hmodify, run_bind_of_lift hpoll]
    cases outcome with
    | decided status => exact ⟨_, _, _, rfl, .ends hdue hpoll hpasses.trace_eq rfl⟩
    | failed error => exact ⟨_, _, _, rfl, .ends hdue hpoll hpasses.trace_eq rfl⟩
    | expired => exact ⟨_, _, _, rfl, .cut hdue hpoll hpasses.trace_eq⟩
    | pending =>
      have hleft : left = (deadline - (due + interval) + 1) / 2 := by
        unfold interval
        omega
      obtain ⟨rounds, result, w'', hrun, hloop⟩ := ih (due + interval) hleft hpasses.le_deadline
      exact ⟨_, result, w'', hrun, .goesOn hdue hpoll hpasses.trace_eq hloop⟩

namespace Loop

variable {rounds : List Round} {result : Except ChainError Status}

theorem trace_eq (h : Loop client network hash deadline due w rounds result w') :
    w'.trace = w.trace ++ rounds.flatMap Round.exchanges := by
  induction h with
  | dropped => simp
  | ends _ _ htrace | cut _ _ htrace => simp [htrace]
  | goesOn _ _ htrace _ ih => simp [ih, htrace]

/-- Polls are an interval apart, so that no more of them are started than fit in before the
deadline. -/
theorem length_le (h : Loop client network hash deadline due w rounds result w') :
    rounds.length ≤ (deadline - due + 1) / 2 := by
  induction h with
  | dropped => exact Nat.zero_le _
  | ends hdue | cut hdue =>
    rw [List.length_singleton]
    omega
  | goesOn hdue _ _ _ ih =>
    rw [List.length_cons]
    unfold interval at ih
    omega

theorem due_le_start (h : Loop client network hash deadline due w rounds result w') {k : Nat}
    {round : Round} (hround : rounds[k]? = some round) : due + interval * k ≤ round.start := by
  have first {due now : Nat} {es : List Exchange} {outcome : Poll} {rounds : List Round}
      (h : (⟨max now due, es, outcome⟩ :: rounds)[0]? = some round) :
      due + interval * 0 ≤ round.start := by
    cases h
    exact Nat.le_max_right _ _
  induction h generalizing k with
  | dropped => simp at hround
  | ends | cut =>
    cases k with
    | zero => exact first hround
    | succ k => simp at hround
  | goesOn _ _ _ _ ih =>
    cases k with
    | zero => exact first hround
    | succ k =>
      have hnext := ih hround
      rw [Nat.mul_succ]
      omega

theorem in_time (h : Loop client network hash deadline due w rounds result w')
    (hnow : w.now ≤ deadline) :
    w'.now ≤ deadline ∧ ∀ round ∈ rounds, ∀ e ∈ round.exchanges, round.start ≤ e.time := by
  have polled {due : Nat} {w w' : World} {es : List Exchange} {outcome : Poll}
      (hdue : due < deadline) (hnow : w.now ≤ deadline)
      (hpoll : poll client network hash deadline ⟨max w.now due, w.trace⟩ = (outcome, w'))
      (htrace : w'.trace = w.trace ++ es) :
      w'.now ≤ deadline ∧ ∀ e ∈ es, max w.now due ≤ e.time := by
    obtain ⟨es', hpasses, -⟩ := poll_passes (Nat.max_le.mpr ⟨hnow, Nat.le_of_lt hdue⟩) hpoll
    obtain rfl := List.append_cancel_left (htrace.symm.trans hpasses.trace_eq)
    exact ⟨hpasses.le_deadline, hpasses.le_time⟩
  induction h with
  | dropped =>
    refine ⟨?_, by simp⟩
    exact Nat.max_le.mpr ⟨hnow, Nat.le_refl _⟩
  | ends hdue hpoll htrace | cut hdue hpoll htrace =>
    obtain ⟨hend, htime⟩ := polled hdue hnow hpoll htrace
    exact ⟨hend, by simpa using htime⟩
  | goesOn hdue hpoll htrace _ ih =>
    obtain ⟨hend, htime⟩ := polled hdue hnow hpoll htrace
    obtain ⟨hend', htime'⟩ := ih hend
    exact ⟨hend', List.forall_mem_cons.mpr ⟨htime, htime'⟩⟩

/-- A poll that says something of the transaction decides the wait. -/
theorem result_of_some (h : Loop client network hash deadline due w rounds result w')
    {round : Round} (hround : round ∈ rounds) {said : Except ChainError Status}
    (hsaid : round.outcome.result? = some said) : result = said := by
  induction h with
  | dropped => simp at hround
  | ends _ _ _ hresult =>
    rw [List.mem_singleton.mp hround, hresult] at hsaid
    exact Option.some.inj hsaid
  | cut =>
    rw [List.mem_singleton.mp hround] at hsaid
    cases hsaid
  | goesOn _ _ _ _ ih =>
    rcases List.mem_cons.mp hround with rfl | hround
    · cases hsaid
    · exact ih hround

/-- Where no poll says anything the time is up. -/
theorem result_of_none (h : Loop client network hash deadline due w rounds result w')
    (hnow : w.now ≤ deadline) (hsilent : ∀ round ∈ rounds, round.outcome.result? = none) :
    result = .error (.confirmationTimeout client.settings.confirmations) ∧
      w'.now = deadline := by
  induction h with
  | dropped =>
    refine ⟨rfl, ?_⟩
    exact Nat.max_eq_right hnow
  | ends _ _ _ hresult =>
    rw [hsilent _ (List.mem_singleton.mpr rfl)] at hresult
    cases hresult
  | cut hdue hpoll =>
    obtain ⟨_, -, hexpired⟩ := poll_passes (Nat.max_le.mpr ⟨hnow, Nat.le_of_lt hdue⟩) hpoll
    exact ⟨rfl, hexpired rfl⟩
  | goesOn hdue hpoll _ _ ih =>
    obtain ⟨_, hpasses, -⟩ := poll_passes (Nat.max_le.mpr ⟨hnow, Nat.le_of_lt hdue⟩) hpoll
    exact ih hpasses.le_deadline fun round hround => hsilent round (List.mem_cons_of_mem _ hround)

end Loop

/-- A wait ends, however the nodes behave. Its polls are those of a loop that counts nothing; the
k-th one, counted from zero, starts in second 2k of the wait or later, and no more are started than
half the seconds and one. The wait is over when its time is up, with what a poll says of the
transaction, or if none says anything in just that second and unconfirmed. -/
theorem waiting_ends_on_time (client : Client) (network : Network) (hash : Hash) (timeout : Nat)
    (w : World) :
    ∃ rounds result w', (await client network hash timeout).run w = (result, w') ∧
      Loop client network hash (w.now + timeout) w.now w rounds result w' ∧
      w'.trace = w.trace ++ rounds.flatMap Round.exchanges ∧
      rounds.length ≤ timeout / 2 + 1 ∧
      (∀ k round, rounds[k]? = some round →
        w.now + 2 * k ≤ round.start ∧ ∀ e ∈ round.exchanges, round.start ≤ e.time) ∧
      w'.now ≤ w.now + timeout ∧
      (∀ round ∈ rounds, ∀ said, round.outcome.result? = some said → result = said) ∧
      ((∀ round ∈ rounds, round.outcome.result? = none) →
        result = .error (.confirmationTimeout client.settings.confirmations) ∧
          w'.now = w.now + timeout) := by
  have hnow : w.now ≤ w.now + timeout := Nat.le_add_right _ _
  have hleft : (timeout + interval - 1) / interval = (w.now + timeout - w.now + 1) / 2 := by
    unfold interval
    omega
  obtain ⟨rounds, result, w', hrun, hloop⟩ := loop_of_pollUntil _ w.now hleft hnow
  have hawait : (await client network hash timeout).run w = (result, w') := by
    have hget : (get : Run World).run w = (.ok w, w) := rfl
    unfold await
    rw [run_bind_of_ok hget]
    exact hrun
  obtain ⟨hend, htime⟩ := hloop.in_time hnow
  refine ⟨rounds, result, w', hawait, hloop, hloop.trace_eq, ?_, ?_, hend, ?_, ?_⟩
  · have hlength := hloop.length_le
    omega
  · intro k round hround
    exact ⟨hloop.due_le_start hround, htime round (List.mem_of_getElem? hround)⟩
  · intro round hround said hsaid
    exact hloop.result_of_some hround hsaid
  · exact hloop.result_of_none hnow

end Confirmation

end LayerMessaging
