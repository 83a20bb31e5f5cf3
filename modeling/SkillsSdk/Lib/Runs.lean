/-
SkillsSdk/Lib/Runs.lean

Runs of a transition system with named actions.

`step s a` is the state after the action `a`, or nothing when `a` cannot be
taken in `s`.  A run may be restricted to steps that meet a condition, which
reads the state before the step and the action (`Reaches`); what every such
step preserves holds wherever a run leads (`Reaches.invariant`).
-/
import Mathlib.Logic.Basic
import Mathlib.Tactic.Cases
import Mathlib.Tactic.TypeStar

namespace Runs

variable {σ α : Type*}

/-- The states that runs from `s` reach, all of whose steps are allowed. -/
inductive Reaches (step : σ → α → Option σ) (allowed : σ → α → Prop) (s : σ) : σ → Prop
  | start : Reaches step allowed s s
  | next {t t' : σ} {a : α} : Reaches step allowed s t → allowed t a → step t a = some t' →
      Reaches step allowed s t'

/-- Every step is allowed. -/
def anyStep (_ : σ) (_ : α) : Prop := True

/-- The state after some actions, when each of them can be taken. -/
def after (step : σ → α → Option σ) : List α → σ → Option σ
  | [], s => some s
  | a :: as, s => (step s a).bind (after step as)

variable {step : σ → α → Option σ} {allowed allowed' : σ → α → Prop} {s t u : σ}

/-- **Invariant rule.**  What holds at the start and is preserved by every allowed step holds of
every state that is reached. -/
theorem Reaches.invariant {inv : σ → Prop} (h : Reaches step allowed s t) (hstart : inv s)
    (hstep : ∀ u a v, inv u → allowed u a → step u a = some v → inv v) : inv t := by
  induction h with
  | start => exact hstart
  | next _ ha hnext ih => exact hstep _ _ _ ih ha hnext

theorem Reaches.trans (h : Reaches step allowed s t) (h' : Reaches step allowed t u) :
    Reaches step allowed s u := by
  induction h' with
  | start => exact h
  | next _ ha hnext ih => exact ih.next ha hnext

/-- A list of actions that can be taken is a run. -/
theorem reaches_of_after {as : List α} (h : after step as s = some t) : Reaches step anyStep s t := by
  induction as generalizing s with
  | nil =>
    obtain rfl := Option.some.inj h
    exact .start
  | cons a as ih =>
    obtain ⟨v, hv, h⟩ := Option.bind_eq_some_iff.mp h
    exact (Reaches.start.next trivial hv).trans (ih h)

end Runs
