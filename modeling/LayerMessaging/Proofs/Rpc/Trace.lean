import LayerMessaging.Command

namespace LayerMessaging

open Rpc

class Traced (σ : Type) where
  trace : σ → List Exchange

instance : Traced World := ⟨World.trace⟩

instance : Traced Scene := ⟨fun scene => scene.world.trace⟩

variable {σ ε α β : Type} [Traced σ]

/-- Whatever the state, the run appends exchanges to the trace that are related to its result. -/
def Leaves (run : StateM σ α) (P : List Exchange → α → Prop) : Prop :=
  ∀ s, ∃ es, Traced.trace (run s).2 = Traced.trace s ++ es ∧ P es (run s).1

namespace Leaves

variable {run : StateM σ α} {P Q : List Exchange → α → Prop}

theorem mono (h : Leaves run P) (hPQ : ∀ es a, P es a → Q es a) : Leaves run Q := by
  intro s
  obtain ⟨es, htrace, hes⟩ := h s
  exact ⟨es, htrace, hPQ es _ hes⟩

theorem of_quiet (h : ∀ s, Traced.trace (run s).2 = Traced.trace s ∧ P [] (run s).1) :
    Leaves run P := by
  intro s
  obtain ⟨htrace, hs⟩ := h s
  exact ⟨[], by rw [htrace, List.append_nil], hs⟩

theorem pure {a : α} (h : P [] a) : Leaves (pure a : StateM σ α) P :=
  of_quiet fun _ => ⟨rfl, h⟩

/-- The exchanges of the second part come behind those of the first. -/
theorem bind {f : α → StateM σ β} {R : List Exchange → β → Prop} (hrun : Leaves run P)
    (hf : ∀ es a, P es a → Leaves (f a) fun es' b => R (es ++ es') b) :
    Leaves (run >>= f) R := by
  intro s
  obtain ⟨es, htrace, hes⟩ := hrun s
  obtain ⟨es', htrace', hes'⟩ := hf es _ hes (run s).2
  refine ⟨es ++ es', ?_, hes'⟩
  rw [← List.append_assoc, ← htrace]
  exact htrace'

/-- The exchanges before a part count as one. -/
theorem regroup {R : List Exchange → α → Prop} {es es' : List Exchange}
    (h : Leaves run fun es'' a => R (es ++ es' ++ es'') a) :
    Leaves run fun es'' a => R (es ++ (es' ++ es'')) a :=
  h.mono fun es'' a h => by rwa [← List.append_assoc]

theorem pure_last {R : List Exchange → α → Prop} {es : List Exchange} {a : α} (h : R es a) :
    Leaves (Pure.pure a : StateM σ α) fun es' a => R (es ++ es') a :=
  pure (by rw [List.append_nil]; exact h)

theorem bind_get {f : σ → StateM σ β} {R : List Exchange → β → Prop}
    (hf : ∀ s, Leaves (f s) R) : Leaves (get >>= f) R :=
  fun s => hf s s

end Leaves

namespace Leaves

variable {run : ExceptT ε (StateM σ) α} {P : List Exchange → Except ε α → Prop}
  {R : List Exchange → Except ε β → Prop}

theorem ok {a : α} (h : P [] (.ok a)) : Leaves (Pure.pure a : ExceptT ε (StateM σ) α).run P :=
  pure h

theorem error {e : ε} (h : P [] (.error e)) : Leaves (throw e : ExceptT ε (StateM σ) α).run P :=
  pure h

theorem ok_last {es : List Exchange} {b : β} (h : R es (.ok b)) :
    Leaves (Pure.pure b : ExceptT ε (StateM σ) β).run fun es' b => R (es ++ es') b :=
  pure_last h

theorem error_last {es : List Exchange} {e : ε} (h : R es (.error e)) :
    Leaves (throw e : ExceptT ε (StateM σ) β).run fun es' b => R (es ++ es') b :=
  pure_last h

/-- After a failure nothing follows; after a value the rest of the run does. -/
theorem andThen {f : α → ExceptT ε (StateM σ) β} (hrun : Leaves run.run P)
    (herror : ∀ es e, P es (.error e) → R es (.error e))
    (hok : ∀ es a, P es (.ok a) → Leaves (f a).run fun es' b => R (es ++ es') b) :
    Leaves (run >>= f).run R := by
  rw [ExceptT.run_bind]
  refine hrun.bind fun es result h => ?_
  cases result with
  | error e => exact pure_last (herror es e h)
  | ok a => exact hok es a h

theorem andThen_get {f : σ → ExceptT ε (StateM σ) β} (hf : ∀ s, Leaves (f s).run R) :
    Leaves (get >>= f).run R :=
  fun s => hf s s

theorem andThen_modify {g : σ → σ} {f : PUnit → ExceptT ε (StateM σ) β}
    (hg : ∀ s, Traced.trace (g s) = Traced.trace s) (hf : Leaves (f ⟨⟩).run R) :
    Leaves (modify g >>= f).run R := by
  intro s
  obtain ⟨es, htrace, hes⟩ := hf (g s)
  exact ⟨es, by rw [← hg s]; exact htrace, hes⟩

theorem andThen_lift {run : StateM σ α} {P : List Exchange → α → Prop}
    {f : α → ExceptT ε (StateM σ) β} (hrun : Leaves run P)
    (hf : ∀ es a, P es a → Leaves (f a).run fun es' b => R (es ++ es') b) :
    Leaves (liftM run >>= f).run R := by
  change Leaves (run >>= fun a => (f a).run) R
  exact hrun.bind hf

theorem andThen_except {result : Except ε α} {f : α → ExceptT ε (StateM σ) β}
    (herror : ∀ e, result = .error e → R [] (.error e))
    (hok : ∀ a, result = .ok a → Leaves (f a).run R) : Leaves (liftM result >>= f).run R := by
  cases result with
  | error e => exact pure (herror e rfl)
  | ok a => exact hok a rfl

end Leaves

section

variable {σ ε α β : Type} {run : ExceptT ε (StateM σ) α} {f : α → ExceptT ε (StateM σ) β}
  {s s' : σ}

theorem run_bind_of_ok {a : α} (h : run.run s = (.ok a, s')) :
    (run >>= f).run s = (f a).run s' := by
  change ExceptT.bindCont f (run.run s).1 (run.run s).2 = _
  rw [h]
  rfl

theorem run_bind_of_error {e : ε} (h : run.run s = (.error e, s')) :
    (run >>= f).run s = (.error e, s') := by
  change ExceptT.bindCont f (run.run s).1 (run.run s).2 = _
  rw [h]
  rfl

theorem bind_of_run {run : StateM σ α} {f : α → StateM σ β} {a : α} (h : run s = (a, s')) :
    (run >>= f) s = f a s' := by
  change f (run s).1 (run s).2 = _
  rw [h]

theorem run_bind_of_lift {run : StateM σ α} {a : α} (h : run s = (a, s')) :
    (liftM run >>= f).run s = (f a).run s' := by
  apply run_bind_of_ok
  change ((Except.ok (run s).1, (run s).2) : Except ε α × σ) = _
  rw [h]

/-- A composed run fails in its first part or, behind it, in its second. -/
theorem error_inv_of_bind {e : ε} (h : ((run >>= f).run s).1 = .error e) :
    (run.run s).1 = .error e ∨
      ∃ a s', run.run s = (.ok a, s') ∧ ((f a).run s').1 = .error e := by
  rcases hrun : run.run s with ⟨result | a, s'⟩
  · rw [run_bind_of_error hrun] at h
    cases h
    exact .inl rfl
  · rw [run_bind_of_ok hrun] at h
    exact .inr ⟨a, s', rfl, h⟩

end

end LayerMessaging
