/-
SkillsSdk/Lib/Interference.lean

Programs that call operations on a state which another party changes as well,
with a logic for them.

A program is a tree: it has ended with an outcome, or it calls an operation and
goes on with what that returns or raises.  What an operation does is not part of
the program.  A machine says it, as a relation, so an operation may fail at any
time; and between any two operations of the program the other party may move,
any number of times.

    Runs M p s out s'   a run of `p` from `s` ends with `out` in `s'`
    Ensures M P p Q     every run of `p` from a state of `P` ends as `Q` says

An assertion that stands between two operations has to be stable, that is, the
other party cannot end it.  `runs_andThen` is the composition lemma, and with it
handlers (`handle`) and finalizers (`lastly`) need no rules of their own.
`ensures_only` is the rule for an invariant: it holds after a program when each
operation that the program can call keeps it.
-/
import Mathlib.Logic.Relation
import Mathlib.Tactic.Common

namespace Interference

variable {Op : Type} {Res : Op → Type} {ε α β γ σ : Type}

/-! ### Programs -/

/-- A program that has ended, or that calls an operation. -/
inductive Prog (Op : Type) (Res : Op → Type) (ε α : Type) where
  | done (out : Except ε α)
  | call (op : Op) (next : Except ε (Res op) → Prog Op Res ε α)

namespace Prog

/-- Go on with the outcome, whatever it is. -/
def andThen : Prog Op Res ε α → (Except ε α → Prog Op Res ε β) → Prog Op Res ε β
  | done out, f => f out
  | call op next, f => call op fun r => (next r).andThen f

def ret (a : α) : Prog Op Res ε α := done (.ok a)

def throw (e : ε) : Prog Op Res ε α := done (.error e)

/-- One operation. -/
def perform (op : Op) : Prog Op Res ε (Res op) := call op done

/-- Go on with what is returned. -/
def bind (p : Prog Op Res ε α) (f : α → Prog Op Res ε β) : Prog Op Res ε β :=
  p.andThen fun
    | .ok a => f a
    | .error e => throw e

instance : Monad (Prog Op Res ε) where
  pure := ret
  bind := bind

/-- `try: p` with a handler of everything that is raised. -/
def handle (p : Prog Op Res ε α) (h : ε → Prog Op Res ε α) : Prog Op Res ε α :=
  p.andThen fun
    | .ok a => ret a
    | .error e => h e

/-- `try: p finally: q`, where what `q` raises comes first. -/
def lastly (p : Prog Op Res ε α) (q : Except ε α → Prog Op Res ε Unit) : Prog Op Res ε α :=
  p.andThen fun out => (q out).andThen fun
    | .ok _ => done out
    | .error e => throw e

/-- Every operation that the program can call is allowed. -/
def Only (allowed : Op → Prop) : Prog Op Res ε α → Prop
  | done _ => True
  | call op next => allowed op ∧ ∀ r, (next r).Only allowed

theorem only_andThen {allowed : Op → Prop} {p : Prog Op Res ε α} {f : Except ε α → Prog Op Res ε β}
    (hp : p.Only allowed) (hf : ∀ out, (f out).Only allowed) : (p.andThen f).Only allowed := by
  induction p with
  | done out => exact hf out
  | call op next ih => exact ⟨hp.1, fun r => ih r (hp.2 r)⟩

theorem only_bind {allowed : Op → Prop} {p : Prog Op Res ε α} {f : α → Prog Op Res ε β}
    (hp : p.Only allowed) (hf : ∀ a, (f a).Only allowed) : (p.bind f).Only allowed := by
  apply only_andThen hp
  intro out
  cases out with
  | ok a => exact hf a
  | error e => trivial

theorem only_lastly {allowed : Op → Prop} {p : Prog Op Res ε α} {q : Except ε α → Prog Op Res ε Unit}
    (hp : p.Only allowed) (hq : ∀ out, (q out).Only allowed) : (p.lastly q).Only allowed := by
  apply only_andThen hp
  intro out
  apply only_andThen (hq out)
  intro last
  cases last with
  | ok u => trivial
  | error e => trivial

theorem only_perform {allowed : Op → Prop} {op : Op} (h : allowed op) :
    (perform op : Prog Op Res ε _).Only allowed :=
  ⟨h, fun _ => trivial⟩

theorem Only.mono {allowed allowed' : Op → Prop} {p : Prog Op Res ε α} (hp : p.Only allowed)
    (h : ∀ op, allowed op → allowed' op) : p.Only allowed' := by
  induction p with
  | done out => trivial
  | call op next ih => exact ⟨h op hp.1, fun r => ih r (hp.2 r)⟩

end Prog

open Prog

/-! ### Runs -/

/-- What the operations do, and what the other party may do at any time. -/
structure Machine (Op : Type) (Res : Op → Type) (ε σ : Type) where
  step : (op : Op) → σ → Except ε (Res op) → σ → Prop
  interferes : σ → σ → Prop

variable {M : Machine Op Res ε σ}

/-- Any number of moves of the other party. -/
abbrev Machine.Moves (M : Machine Op Res ε σ) : σ → σ → Prop := Relation.ReflTransGen M.interferes

/-- A run ends with an outcome; the other party moves before each operation and
at the end. -/
inductive Runs (M : Machine Op Res ε σ) : Prog Op Res ε α → σ → Except ε α → σ → Prop where
  | done {out : Except ε α} {s s' : σ} (moves : M.Moves s s') : Runs M (done out) s out s'
  | call {op : Op} {next : Except ε (Res op) → Prog Op Res ε α} {s s₁ s₂ s' : σ} {r : Except ε (Res op)}
      {out : Except ε α} (moves : M.Moves s s₁) (step : M.step op s₁ r s₂) (rest : Runs M (next r) s₂ out s') :
      Runs M (call op next) s out s'

theorem Runs.moves_left {p : Prog Op Res ε α} {s₀ s s' : σ} {out : Except ε α} (hmoves : M.Moves s₀ s)
    (h : Runs M p s out s') : Runs M p s₀ out s' := by
  cases h with
  | done moves => exact .done (hmoves.trans moves)
  | call moves step rest => exact .call (hmoves.trans moves) step rest

/-- **Composition**: a run goes through a state between the two parts. -/
theorem runs_andThen {p : Prog Op Res ε α} {f : Except ε α → Prog Op Res ε β} {s s' : σ} {out : Except ε β} :
    Runs M (p.andThen f) s out s' ↔ ∃ mid s₁, Runs M p s mid s₁ ∧ Runs M (f mid) s₁ out s' := by
  constructor
  · intro h
    induction p generalizing s with
    | done mid => exact ⟨mid, s, .done .refl, h⟩
    | call op next ih =>
      cases h with
      | call moves step rest =>
        obtain ⟨mid, s₁, hmid, hout⟩ := ih _ rest
        exact ⟨mid, s₁, .call moves step hmid, hout⟩
  · rintro ⟨mid, s₁, hmid, hout⟩
    induction hmid with
    | done moves => exact hout.moves_left moves
    | call moves step rest ih => exact .call moves step (ih hout)

theorem runs_bind {p : Prog Op Res ε α} {f : α → Prog Op Res ε β} {s s' : σ} {out : Except ε β} :
    Runs M (p.bind f) s out s' ↔
      (∃ e s₁, Runs M p s (.error e) s₁ ∧ out = .error e ∧ M.Moves s₁ s') ∨
        ∃ a s₁, Runs M p s (.ok a) s₁ ∧ Runs M (f a) s₁ out s' := by
  rw [Prog.bind, runs_andThen]
  constructor
  · rintro ⟨mid, s₁, hmid, hout⟩
    cases mid with
    | ok a => exact .inr ⟨a, s₁, hmid, hout⟩
    | error e =>
      cases hout with
      | done moves => exact .inl ⟨e, s₁, hmid, rfl, moves⟩
  · rintro (⟨e, s₁, hmid, rfl, moves⟩ | ⟨a, s₁, hmid, hout⟩)
    · exact ⟨.error e, s₁, hmid, .done moves⟩
    · exact ⟨.ok a, s₁, hmid, hout⟩

/-! ### Running against a handler -/

/-- The run in which a handler answers every call. -/
def Prog.exec (answer : (op : Op) → σ → Except ε (Res op) × σ) : Prog Op Res ε α → σ → Except ε α × σ
  | done out, s => (out, s)
  | call op next, s => (next (answer op s).1).exec answer (answer op s).2

/-- A handler whose answers the machine allows, after moves of the other party, gives a run. -/
theorem runs_exec {answer : (op : Op) → σ → Except ε (Res op) × σ}
    (h : ∀ op s, ∃ s₁, M.Moves s s₁ ∧ M.step op s₁ (answer op s).1 (answer op s).2)
    (p : Prog Op Res ε α) (s : σ) : Runs M p s (p.exec answer s).1 (p.exec answer s).2 := by
  induction p generalizing s with
  | done out => exact .done .refl
  | call op next ih =>
    obtain ⟨s₁, hmoves, hstep⟩ := h op s
    exact .call hmoves hstep (ih _ _)

/-! ### Assertions -/

/-- The other party cannot end the assertion. -/
def Stable (M : Machine Op Res ε σ) (P : σ → Prop) : Prop := ∀ s s', P s → M.interferes s s' → P s'

theorem Stable.moves {P : σ → Prop} (h : Stable M P) {s s' : σ} (hs : P s) (hmoves : M.Moves s s') : P s' := by
  induction hmoves with
  | refl => exact hs
  | tail _ hstep ih => exact h _ _ ih hstep

/-- Every run from a state of `P` ends as `Q` says. -/
def Ensures (M : Machine Op Res ε σ) (P : σ → Prop) (p : Prog Op Res ε α) (Q : Except ε α → σ → Prop) : Prop :=
  ∀ s out s', P s → Runs M p s out s' → Q out s'

variable {P P' I : σ → Prop} {p : Prog Op Res ε α} {Q Q' : Except ε α → σ → Prop}

theorem Ensures.conseq (h : Ensures M P p Q) (hP : ∀ s, P' s → P s) (hQ : ∀ out s, Q out s → Q' out s) :
    Ensures M P' p Q' :=
  fun s out s' hs hrun => hQ out s' (h s out s' (hP s hs) hrun)

theorem ensures_done {out : Except ε α} (hstable : Stable M P) (h : ∀ s, P s → Q out s) :
    Ensures M P (done out) Q := by
  intro s out' s' hs hrun
  cases hrun with
  | done moves => exact h s' (hstable.moves hs moves)

theorem ensures_call {o : Op} {next : Except ε (Res o) → Prog Op Res ε α} {R : Except ε (Res o) → σ → Prop}
    (hstable : Stable M P) (hstep : ∀ s r s', P s → M.step o s r s' → R r s')
    (hnext : ∀ r, Ensures M (R r) (next r) Q) : Ensures M P (call o next) Q := by
  intro s out s' hs hrun
  cases hrun with
  | call moves step rest => exact hnext _ _ _ _ (hstep _ _ _ (hstable.moves hs moves) step) rest

theorem ensures_perform {op : Op} {Q : Except ε (Res op) → σ → Prop} (hstable : Stable M P)
    (hstep : ∀ s r s', P s → M.step op s r s' → Q r s') (hQ : ∀ r, Stable M (Q r)) :
    Ensures M P (perform op) Q :=
  ensures_call hstable hstep fun r => ensures_done (hQ r) fun _ h => h

theorem ensures_andThen {f : Except ε α → Prog Op Res ε β} {R : Except ε β → σ → Prop}
    (hp : Ensures M P p Q) (hf : ∀ out, Ensures M (Q out) (f out) R) : Ensures M P (p.andThen f) R := by
  intro s out s' hs hrun
  obtain ⟨mid, s₁, hmid, hout⟩ := runs_andThen.mp hrun
  exact hf mid s₁ out s' (hp s mid s₁ hs hmid) hout

theorem ensures_bind {f : α → Prog Op Res ε β} {R : Except ε β → σ → Prop} (hp : Ensures M P p Q)
    (herror : ∀ e, Stable M (Q (.error e))) (hraised : ∀ e s, Q (.error e) s → R (.error e) s)
    (hf : ∀ a, Ensures M (Q (.ok a)) (f a) R) : Ensures M P (p.bind f) R := by
  rw [Prog.bind]
  refine ensures_andThen hp ?_
  intro out
  cases out with
  | ok a => exact hf a
  | error e => exact ensures_done (herror e) (hraised e)

theorem ensures_handle {h : ε → Prog Op Res ε α} {R : Except ε α → σ → Prop} (hp : Ensures M P p Q)
    (hok : ∀ a, Stable M (Q (.ok a))) (hreturned : ∀ a s, Q (.ok a) s → R (.ok a) s)
    (hh : ∀ e, Ensures M (Q (.error e)) (h e) R) : Ensures M P (p.handle h) R := by
  rw [Prog.handle]
  refine ensures_andThen hp ?_
  intro out
  cases out with
  | ok a => exact ensures_done (hok a) (hreturned a)
  | error e => exact hh e

/-- A finalizer is judged by what it does after each outcome. -/
theorem ensures_lastly {q : Except ε α → Prog Op Res ε Unit} {R : Except ε α → Except ε Unit → σ → Prop}
    {T : Except ε α → σ → Prop} (hp : Ensures M P p Q) (hq : ∀ out, Ensures M (Q out) (q out) (R out))
    (hstable : ∀ out last, Stable M (R out last)) (hended : ∀ out u s, R out (.ok u) s → T out s)
    (hraised : ∀ out e s, R out (.error e) s → T (.error e) s) : Ensures M P (p.lastly q) T := by
  rw [Prog.lastly]
  refine ensures_andThen hp ?_
  intro out
  refine ensures_andThen (hq out) ?_
  intro last
  cases last with
  | ok u => exact ensures_done (hstable out _) (hended out u)
  | error e => exact ensures_done (hstable out _) (hraised out e)

/-! ### Invariants -/

/-- An assertion that is stable and that an operation keeps. -/
def Keeps (M : Machine Op Res ε σ) (I : σ → Prop) (op : Op) : Prop := ∀ s r s', I s → M.step op s r s' → I s'

/-- **Invariants**: what the other party cannot end, and every operation of the
program keeps, holds at its end. -/
theorem ensures_only (hstable : Stable M I) (hp : p.Only (Keeps M I)) : Ensures M I p fun _ s => I s := by
  intro s out s' hs hrun
  induction hrun with
  | done moves => exact hstable.moves hs moves
  | call moves step rest ih => exact ih (hp.2 _) (hp.1 _ _ _ (hstable.moves hs moves) step)

theorem Stable.and {P' : σ → Prop} (h : Stable M P) (h' : Stable M P') : Stable M fun s => P s ∧ P' s :=
  fun s s' hs hmove => ⟨h s s' hs.1 hmove, h' s s' hs.2 hmove⟩

end Interference
