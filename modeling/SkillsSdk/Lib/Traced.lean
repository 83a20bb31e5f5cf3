/-
SkillsSdk/Lib/Traced.lean

Computations that leave a trace, whether they return or raise.

The trace of a sequence is that of its parts as far as it gets, and a `finally`
leaves its own trace on every path.  What a computation returns or raises does not
depend on the trace (`outcome_bind`); what it has done is read off the trace.
-/
import Mathlib.Data.List.Basic

/-- The effects of a computation in their order, and what it returns or raises. -/
structure Traced (σ ε α : Type) where
  effects : List σ
  outcome : Except ε α

namespace Traced

variable {σ ε α β γ : Type}

/-- A computation without effects. -/
def lift (x : Except ε α) : Traced σ ε α := ⟨[], x⟩

/-- One effect, and what comes of it. -/
def perform (s : σ) (x : Except ε α) : Traced σ ε α := ⟨[s], x⟩

def bind (x : Traced σ ε α) (f : α → Traced σ ε β) : Traced σ ε β :=
  match x.outcome with
  | .error e => ⟨x.effects, .error e⟩
  | .ok a => ⟨x.effects ++ (f a).effects, (f a).outcome⟩

instance : Monad (Traced σ ε) where
  pure a := lift (.ok a)
  bind := bind

/-- `try: body finally: final`: the end is performed on every path, and what it raises replaces
what the body raised. -/
def tryFinally (body : Traced σ ε α) (final : Traced σ ε β) : Traced σ ε (α × β) where
  effects := body.effects ++ final.effects
  outcome := do
    let b ← final.outcome
    let a ← body.outcome
    return (a, b)

variable {x : Traced σ ε α} {f : α → Traced σ ε β} {final : Traced σ ε β}

@[simp] theorem outcome_lift (r : Except ε α) : (lift r : Traced σ ε α).outcome = r := rfl

@[simp] theorem outcome_perform (s : σ) (r : Except ε α) : (perform s r).outcome = r := rfl

@[simp] theorem outcome_pure (a : α) : (pure a : Traced σ ε α).outcome = .ok a := rfl

@[simp] theorem effects_lift (r : Except ε α) : (lift r : Traced σ ε α).effects = [] := rfl

@[simp] theorem effects_perform (s : σ) (r : Except ε α) : (perform s r).effects = [s] := rfl

/-- The trace plays no part in what a sequence returns. -/
@[simp] theorem outcome_bind : (x >>= f).outcome = x.outcome >>= fun a => (f a).outcome := by
  show (bind x f).outcome = _
  unfold bind
  rcases x.outcome with e | a <;> rfl

@[simp] theorem outcome_tryFinally : (tryFinally x final).outcome = (do
    let b ← final.outcome
    let a ← x.outcome
    return (a, b)) := rfl

end Traced
