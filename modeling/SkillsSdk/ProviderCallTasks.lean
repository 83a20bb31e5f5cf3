/-
SkillsSdk/ProviderCallTasks.lean

The tasks of one provider call under the production scheduler.

The caller schedules the run of the selected mode and waits for it until the
overall deadline, or until it is cancelled itself; the run pulls a stream one
item at a time and waits for each pull until the idle deadline.  A deadline
cancels what it waits for, and an adapter may ignore that: the operation is
then detached and goes on.  The cleanup waits for the operations that are
pending when it looks.
-/
import SkillsSdk.Lib.Runs
import SkillsSdk.ProviderCalls

namespace SkillsSdk

open Runs

/-! ### Tasks -/

/-- An adapter operation that the call schedules: the run, with its hook, or a pull. -/
inductive Operation where
  | run
  | pull (i : Nat)
  deriving DecidableEq

/-- Where the task of `_run_complete` or `_run_stream` is. -/
inductive RunPhase where
  | unscheduled
  | scheduled
  /-- In `adapter.complete` or `adapter.stream`. -/
  | hook
  /-- In the loop of `_run_stream`, between two pulls. -/
  | looping
  /-- In the loop of `_run_stream`, waiting for a pull. -/
  | pulling (i : Nat)
  /-- Has returned or raised. -/
  | ending
  | finished
  deriving DecidableEq

/-- Where `execute_provider_call` is. -/
inductive CallerPhase where
  | starting
  | waiting
  /-- On its way to `_cleanup`. -/
  | leaving
  | cleaning
  | returned
  deriving DecidableEq

/-- The task of `_cleanup`. -/
inductive CleanupTask where
  | absent
  /-- Waits for the operations that were pending when it was created. -/
  | draining (pending : List Operation)
  /-- Has called `adapter.cleanup()`. -/
  | called
  deriving DecidableEq

structure CallTasks where
  caller : CallerPhase
  run : RunPhase
  /-- Whether each pull is finished, in the order in which they were scheduled. -/
  pulls : List Bool
  cleanup : CleanupTask
  cleanupCalls : Nat
  deriving DecidableEq

namespace CallTasks

def initial : CallTasks := ⟨.starting, .unscheduled, [], .absent, 0⟩

/-- `task.done()`, of a task that was scheduled. -/
def done (s : CallTasks) : Operation → Bool
  | .run => s.run = .finished
  | .pull i => s.pulls[i]? ≠ some false

/-- The scheduled operations. -/
def scheduled (s : CallTasks) : List Operation :=
  (if s.run = .unscheduled then [] else [.run]) ++ (List.range s.pulls.length).map .pull

/-- `{task for task in clock.pending if not task.done()}`. -/
def unfinished (s : CallTasks) : List Operation := s.scheduled.filter fun op => !s.done op

/-! ### Steps -/

inductive Action where
  /-- The caller schedules the run. -/
  | schedule
  /-- The caller fails, or refuses the capability, before it schedules anything. -/
  | skip
  | callHook
  /-- `adapter.stream` returns an async iterator. -/
  | hookReturns
  /-- `adapter.complete` returns, or the hook raises. -/
  | hookEnds
  | pull
  | pullFinishes (i : Nat)
  /-- The loop takes the item of a finished pull. -/
  | pullTaken
  /-- The loop of `_run_stream` ends with a terminal or an error. -/
  | loopEnds
  | idleDeadline
  | runEnds
  | runObserved
  /-- The overall timeout, or a cancellation of the caller. -/
  | deadline
  | snapshot
  | startCleanup
  /-- The caller returns, with the cleanup done or past its deadline. -/
  | leave
  deriving DecidableEq

/-- The run after `task.cancel()`.  A hook may ignore its cancellation; elsewhere the run is waiting
for the scheduler, which raises. -/
def cancelRun : RunPhase → RunPhase
  | .hook => .hook
  | .unscheduled => .unscheduled
  | .finished => .finished
  | _ => .ending

/-- The state after an action, when it can be taken. -/
def step (mode : AdapterMode) (s : CallTasks) : Action → Option CallTasks
  | .schedule =>
    if s.caller = .starting then some { s with caller := .waiting, run := .scheduled } else none
  | .skip => if s.caller = .starting then some { s with caller := .leaving } else none
  | .callHook => if s.run = .scheduled then some { s with run := .hook } else none
  | .hookReturns => if s.run = .hook ∧ mode = .stream then some { s with run := .looping } else none
  | .hookEnds => if s.run = .hook then some { s with run := .ending } else none
  | .pull =>
    if s.run = .looping then some { s with run := .pulling s.pulls.length, pulls := s.pulls ++ [false] }
    else none
  | .pullFinishes i =>
    if s.pulls[i]? = some false then some { s with pulls := s.pulls.set i true } else none
  | .pullTaken =>
    match s.run with
    | .pulling i => if s.pulls[i]? = some true then some { s with run := .looping } else none
    | _ => none
  | .loopEnds => if s.run = .looping then some { s with run := .ending } else none
  | .idleDeadline =>
    match s.run with
    -- the pull is cancelled and detached; it need not stop
    | .pulling i => if s.pulls[i]? = some false then some { s with run := .ending } else none
    | _ => none
  | .runEnds => if s.run = .ending then some { s with run := .finished } else none
  | .runObserved =>
    if s.caller = .waiting ∧ s.run = .finished then some { s with caller := .leaving } else none
  | .deadline =>
    if s.caller = .waiting ∧ s.run ≠ .finished then
      some { s with caller := .leaving, run := cancelRun s.run }
    else none
  | .snapshot =>
    if s.caller = .leaving then some { s with caller := .cleaning, cleanup := .draining s.unfinished }
    else none
  | .startCleanup =>
    match s.cleanup with
    | .draining pending =>
      if pending.all s.done then some { s with cleanup := .called, cleanupCalls := s.cleanupCalls + 1 }
      else none
    | _ => none
  | .leave => if s.caller = .cleaning then some { s with caller := .returned } else none

/-! ### The property and its condition -/

/-- The cleanup was called at most once, and with every scheduled operation finished. -/
structure Exclusive (s : CallTasks) : Prop where
  once : s.cleanupCalls ≤ 1
  apart : s.cleanupCalls ≠ 0 → s.unfinished = []

/-- No idle deadline detaches a pull that was scheduled after the cleanup had looked. -/
def Timely (s : CallTasks) (a : Action) : Prop :=
  a = .idleDeadline → ∀ pending i, s.cleanup = .draining pending → s.run = .pulling i → .pull i ∈ pending

/-! ### The invariant -/

theorem mem_unfinished_run {s : CallTasks} :
    Operation.run ∈ s.unfinished ↔ s.run ≠ .unscheduled ∧ s.run ≠ .finished := by
  rw [unfinished, List.mem_filter, scheduled]
  simp [done]

theorem mem_unfinished_pull {s : CallTasks} {i : Nat} :
    Operation.pull i ∈ s.unfinished ↔ s.pulls[i]? = some false := by
  rw [unfinished, List.mem_filter, scheduled]
  simp only [done, List.mem_append, List.mem_map, List.mem_range, Operation.pull.injEq, exists_eq_right]
  constructor
  · rintro ⟨-, h⟩
    simpa using h
  · intro h
    obtain ⟨hi, -⟩ := List.getElem?_eq_some_iff.mp h
    exact ⟨Or.inr hi, by simp [h]⟩

theorem unfinished_eq_nil_iff {s : CallTasks} :
    s.unfinished = [] ↔
      (s.run = .unscheduled ∨ s.run = .finished) ∧ ∀ i : Nat, s.pulls[i]? ≠ some false := by
  rw [List.eq_nil_iff_forall_not_mem]
  constructor
  · intro h
    refine ⟨?_, fun i hi => h (.pull i) (mem_unfinished_pull.mpr hi)⟩
    have := h .run
    rw [mem_unfinished_run, not_and_or, not_not, not_not] at this
    exact this
  · rintro ⟨hrun, hpulls⟩ (- | i) hmem
    · have := mem_unfinished_run.mp hmem
      tauto
    · exact hpulls i (mem_unfinished_pull.mp hmem)

/-- How the run, its pulls and the cleanup stand to each other. -/
structure Inv (s : CallTasks) : Prop where
  pulled : ∀ i, s.run = .pulling i → i < s.pulls.length
  /-- A pull that is not waited for was detached, and the run goes on no more. -/
  alone : ∀ i : Nat, s.pulls[i]? = some false → s.run = .pulling i ∨ s.run = .ending ∨ s.run = .finished
  early : s.caller = .starting ∨ s.caller = .waiting ∨ s.caller = .leaving → s.cleanup = .absent
  fresh : s.caller = .starting → s.run = .unscheduled
  drained_run : ∀ pending, s.cleanup = .draining pending →
    s.run = .unscheduled ∨ s.run = .finished ∨ .run ∈ pending
  /-- What the cleanup does not wait for, the run does. -/
  drained_pull : ∀ pending i, s.cleanup = .draining pending → s.pulls[i]? = some false →
    s.run = .pulling i ∨ .pull i ∈ pending
  called : s.cleanup = .called → s.unfinished = []
  calls : s.cleanupCalls = if s.cleanup = .called then 1 else 0

theorem inv_initial : Inv initial := by
  constructor <;> simp [initial]

theorem Inv.exclusive {s : CallTasks} (h : Inv s) : Exclusive s := by
  have hcalls := h.calls
  split_ifs at hcalls with hcalled
  · exact ⟨hcalls.le, fun _ => h.called hcalled⟩
  · exact ⟨by omega, fun hne => absurd hcalls hne⟩

section

variable {s : CallTasks}

/-- Before it is called, the cleanup is absent or drains. -/
theorem Inv.not_called (h : Inv s) (hrun : s.run ≠ .unscheduled) (hrun' : s.run ≠ .finished) :
    s.cleanup ≠ .called := by
  intro hcalled
  rcases (unfinished_eq_nil_iff.mp (h.called hcalled)).1 with h' | h'
  · exact hrun h'
  · exact hrun' h'

/-- The run goes on to a phase in which it waits for no pull, and leaves no pull behind that the
cleanup does not wait for. -/
theorem Inv.moves (h : Inv s) {r : RunPhase} (hrun : s.run ≠ .unscheduled) (hrun' : s.run ≠ .finished)
    (hr : ∀ i, r ≠ .pulling i) (hpulls : ∀ i : Nat, s.pulls[i]? = some false → r = .ending ∨ r = .finished)
    (hdrained : ∀ pending i, s.cleanup = .draining pending → s.pulls[i]? = some false → .pull i ∈ pending) :
    Inv { s with run := r } where
  pulled i hi := absurd hi (hr i)
  alone i hi := Or.inr (hpulls i hi)
  early := h.early
  fresh hstarting := absurd (h.fresh hstarting) hrun
  drained_run pending hpending := by
    rcases h.drained_run pending hpending with h' | h' | h'
    · exact absurd h' hrun
    · exact absurd h' hrun'
    · exact Or.inr (Or.inr h')
  drained_pull pending i hpending hi := Or.inr (hdrained pending i hpending hi)
  called hcalled := absurd hcalled (h.not_called hrun hrun')
  calls := h.calls

/-- Before its first pull is detached, the run leaves no pull behind. -/
theorem Inv.no_pull (h : Inv s) (hpulling : ∀ i, s.run ≠ .pulling i) (hending : s.run ≠ .ending)
    (hfinished : s.run ≠ .finished) (i : Nat) : s.pulls[i]? ≠ some false := by
  intro hi
  rcases h.alone i hi with h' | h' | h'
  · exact hpulling i h'
  · exact hending h'
  · exact hfinished h'

theorem Inv.moves_early (h : Inv s) {r : RunPhase}
    (hrun : s.run = .scheduled ∨ s.run = .hook ∨ s.run = .looping) (hr : ∀ i, r ≠ .pulling i) :
    Inv { s with run := r } := by
  have hno : ∀ i : Nat, s.pulls[i]? ≠ some false := by
    intro i
    apply h.no_pull <;> rcases hrun with hrun | hrun | hrun <;> simp [hrun]
  apply h.moves
  · rcases hrun with hrun | hrun | hrun <;> simp [hrun]
  · rcases hrun with hrun | hrun | hrun <;> simp [hrun]
  · exact hr
  · exact fun i hi => absurd hi (hno i)
  · exact fun _ i _ hi => absurd hi (hno i)

/-- While the run waits for a pull, every other one is finished. -/
theorem Inv.eq_of_pulling (h : Inv s) {i j : Nat} (hrun : s.run = .pulling i)
    (hj : s.pulls[j]? = some false) : j = i := by
  rcases h.alone j hj with h' | h' | h'
  · rw [hrun] at h'
    exact (RunPhase.pulling.inj h').symm
  · rw [hrun] at h'
    cases h'
  · rw [hrun] at h'
    cases h'

theorem Inv.pull (h : Inv s) (hrun : s.run = .looping) :
    Inv { s with run := .pulling s.pulls.length, pulls := s.pulls ++ [false] } := by
  have hno : ∀ i : Nat, s.pulls[i]? ≠ some false := by
    intro i
    apply h.no_pull <;> simp [hrun]
  -- no pull was open, so the new one is the only one
  have hlast : ∀ i : Nat, (s.pulls ++ [false])[i]? = some false → i = s.pulls.length := by
    intro i hi
    by_contra hne
    rcases Nat.lt_or_gt_of_ne hne with hlt | hgt
    · rw [List.getElem?_append_left hlt] at hi
      exact hno i hi
    · rw [List.getElem?_append_right hgt.le] at hi
      have : i - s.pulls.length ≠ 0 := by omega
      simp [this] at hi
  refine ⟨?_, ?_, h.early, ?_, ?_, ?_, ?_, h.calls⟩
  · intro i hi
    obtain rfl := RunPhase.pulling.inj hi
    simp
  · intro i hi
    exact Or.inl (by rw [hlast i hi])
  · intro hstarting
    rw [h.fresh hstarting] at hrun
    cases hrun
  · intro pending hpending
    rcases h.drained_run pending hpending with h' | h' | h'
    · cases hrun.symm.trans h'
    · cases hrun.symm.trans h'
    · exact Or.inr (Or.inr h')
  · intro pending i _ hi
    exact Or.inl (by rw [hlast i hi])
  · intro hcalled
    refine absurd hcalled (h.not_called ?_ ?_) <;> simp [hrun]

theorem Inv.pullFinishes (h : Inv s) (i : Nat) : Inv { s with pulls := s.pulls.set i true } := by
  have hkeeps : ∀ j : Nat, (s.pulls.set i true)[j]? = some false → s.pulls[j]? = some false := by
    intro j hj
    rw [List.getElem?_set] at hj
    split_ifs at hj with heq hlt
    · cases hj
    · exact hj
  refine ⟨?_, fun j hj => h.alone j (hkeeps j hj), h.early, h.fresh, h.drained_run,
    fun pending j hpending hj => h.drained_pull pending j hpending (hkeeps j hj), ?_, h.calls⟩
  · intro j hj
    rw [List.length_set]
    exact h.pulled j hj
  · intro hcalled
    obtain ⟨hrun, hpulls⟩ := unfinished_eq_nil_iff.mp (h.called hcalled)
    exact unfinished_eq_nil_iff.mpr ⟨hrun, fun j hj => hpulls j (hkeeps j hj)⟩

/-- A deadline cancels the run before the cleanup looks. -/
theorem Inv.deadline (h : Inv s) (hcaller : s.caller = .waiting) :
    Inv { s with caller := .leaving, run := cancelRun s.run } := by
  have habsent : s.cleanup = .absent := h.early (Or.inr (Or.inl hcaller))
  refine ⟨?_, ?_, fun _ => habsent, ?_, ?_, ?_, ?_, h.calls⟩
  · intro i hi
    cases hrun : s.run <;> rw [hrun] at hi <;> cases hi
  · intro i hi
    rcases h.alone i hi with h' | h' | h' <;> simp [h', cancelRun]
  · intro h'
    cases h'
  · intro pending hpending
    cases habsent.symm.trans hpending
  · intro pending i hpending
    cases habsent.symm.trans hpending
  · intro hcalled
    cases habsent.symm.trans hcalled

/-- The cleanup waits for everything that is unfinished when it looks. -/
theorem Inv.snapshot (h : Inv s) (hcaller : s.caller = .leaving) :
    Inv { s with caller := .cleaning, cleanup := .draining s.unfinished } := by
  have habsent : s.cleanup = .absent := h.early (Or.inr (Or.inr hcaller))
  refine ⟨h.pulled, h.alone, ?_, ?_, ?_, ?_, ?_, ?_⟩
  · rintro (h' | h' | h') <;> cases h'
  · intro h'
    cases h'
  · intro pending hpending
    obtain rfl := CleanupTask.draining.inj hpending
    by_cases hunscheduled : s.run = .unscheduled
    · exact Or.inl hunscheduled
    by_cases hfinished : s.run = .finished
    · exact Or.inr (Or.inl hfinished)
    exact Or.inr (Or.inr (mem_unfinished_run.mpr ⟨hunscheduled, hfinished⟩))
  · intro pending i hpending hi
    obtain rfl := CleanupTask.draining.inj hpending
    exact Or.inr (mem_unfinished_pull.mpr hi)
  · intro hcalled
    cases hcalled
  · show s.cleanupCalls = 0
    rw [h.calls, if_neg (by simp [habsent])]

/-- When everything that the cleanup waits for is finished, everything is. -/
theorem Inv.drained (h : Inv s) {pending : List Operation} (hpending : s.cleanup = .draining pending)
    (hdone : ∀ op ∈ pending, s.done op = true) : s.unfinished = [] := by
  have hrun : s.run = .unscheduled ∨ s.run = .finished := by
    rcases h.drained_run pending hpending with h' | h' | h'
    · exact Or.inl h'
    · exact Or.inr h'
    · exact Or.inr (by simpa [done] using hdone _ h')
  refine unfinished_eq_nil_iff.mpr ⟨hrun, ?_⟩
  intro i hi
  rcases h.drained_pull pending i hpending hi with h' | h'
  · -- the run waits for the pull, so it is neither unscheduled nor finished
    rcases hrun with hrun | hrun <;> cases hrun.symm.trans h'
  · have : s.pulls[i]? ≠ some false := by simpa [done] using hdone _ h'
    exact this hi

theorem Inv.startCleanup (h : Inv s) {pending : List Operation} (hpending : s.cleanup = .draining pending)
    (hdone : ∀ op ∈ pending, s.done op = true) :
    Inv { s with cleanup := .called, cleanupCalls := s.cleanupCalls + 1 } := by
  have hlate : ¬(s.caller = .starting ∨ s.caller = .waiting ∨ s.caller = .leaving) := by
    intro hcaller
    cases (h.early hcaller).symm.trans hpending
  refine ⟨h.pulled, h.alone, fun hcaller => absurd hcaller hlate, h.fresh, ?_, ?_, ?_, ?_⟩
  · intro pending' h'
    cases h'
  · intro pending' i h'
    cases h'
  · intro _
    exact h.drained hpending hdone
  · show s.cleanupCalls + 1 = 1
    rw [h.calls, if_neg (by simp [hpending])]

/-- The caller goes on, and nothing else changes. -/
theorem Inv.caller (h : Inv s) {c : CallerPhase} (hc : c ≠ .starting)
    (hearly : c = .waiting ∨ c = .leaving → s.cleanup = .absent) : Inv { s with caller := c } where
  pulled := h.pulled
  alone := h.alone
  early := by
    rintro (h' | h' | h')
    · exact absurd h' hc
    · exact hearly (Or.inl h')
    · exact hearly (Or.inr h')
  fresh h' := absurd h' hc
  drained_run := h.drained_run
  drained_pull := h.drained_pull
  called := h.called
  calls := h.calls

theorem Inv.schedule (h : Inv s) (hcaller : s.caller = .starting) :
    Inv { s with caller := .waiting, run := .scheduled } := by
  have habsent : s.cleanup = .absent := h.early (Or.inl hcaller)
  have hno : ∀ i : Nat, s.pulls[i]? ≠ some false := by
    intro i
    apply h.no_pull <;> simp [h.fresh hcaller]
  refine ⟨?_, fun i hi => absurd hi (hno i), fun _ => habsent, ?_, ?_, ?_, ?_, h.calls⟩
  · intro i hi
    cases hi
  · intro h'
    cases h'
  · intro pending hpending
    cases habsent.symm.trans hpending
  · intro pending i hpending
    cases habsent.symm.trans hpending
  · intro hcalled
    cases habsent.symm.trans hcalled

/-- **Step lemma.**  Every step that meets the condition keeps the invariant. -/
theorem Inv.step {mode : AdapterMode} {s' : CallTasks} {a : Action} (h : Inv s) (ht : Timely s a)
    (hs : s.step mode a = some s') : Inv s' := by
  cases a with
  | schedule =>
    obtain ⟨hcaller, hs⟩ := Option.ite_none_right_eq_some.mp hs
    obtain rfl := Option.some.inj hs
    exact h.schedule hcaller
  | skip =>
    obtain ⟨hcaller, hs⟩ := Option.ite_none_right_eq_some.mp hs
    obtain rfl := Option.some.inj hs
    exact h.caller (by simp) fun _ => h.early (Or.inl hcaller)
  | callHook =>
    obtain ⟨hrun, hs⟩ := Option.ite_none_right_eq_some.mp hs
    obtain rfl := Option.some.inj hs
    exact h.moves_early (Or.inl hrun) (by simp)
  | hookReturns =>
    obtain ⟨⟨hrun, -⟩, hs⟩ := Option.ite_none_right_eq_some.mp hs
    obtain rfl := Option.some.inj hs
    exact h.moves_early (Or.inr (Or.inl hrun)) (by simp)
  | hookEnds =>
    obtain ⟨hrun, hs⟩ := Option.ite_none_right_eq_some.mp hs
    obtain rfl := Option.some.inj hs
    exact h.moves_early (Or.inr (Or.inl hrun)) (by simp)
  | pull =>
    obtain ⟨hrun, hs⟩ := Option.ite_none_right_eq_some.mp hs
    obtain rfl := Option.some.inj hs
    exact h.pull hrun
  | pullFinishes i =>
    obtain ⟨-, hs⟩ := Option.ite_none_right_eq_some.mp hs
    obtain rfl := Option.some.inj hs
    exact h.pullFinishes i
  | pullTaken =>
    rw [CallTasks.step] at hs
    split at hs
    · rename_i i hrun
      obtain ⟨htaken, hs⟩ := Option.ite_none_right_eq_some.mp hs
      obtain rfl := Option.some.inj hs
      have hno : ∀ j : Nat, s.pulls[j]? ≠ some false := by
        intro j hj
        obtain rfl := h.eq_of_pulling hrun hj
        cases hj.symm.trans htaken
      apply h.moves (by simp [hrun]) (by simp [hrun]) (by simp)
      · exact fun j hj => absurd hj (hno j)
      · exact fun _ j _ hj => absurd hj (hno j)
    · cases hs
  | loopEnds =>
    obtain ⟨hrun, hs⟩ := Option.ite_none_right_eq_some.mp hs
    obtain rfl := Option.some.inj hs
    exact h.moves_early (Or.inr (Or.inr hrun)) (by simp)
  | idleDeadline =>
    rw [CallTasks.step] at hs
    split at hs
    · rename_i i hrun
      obtain ⟨-, hs⟩ := Option.ite_none_right_eq_some.mp hs
      obtain rfl := Option.some.inj hs
      apply h.moves (by simp [hrun]) (by simp [hrun]) (by simp)
      · exact fun _ _ => Or.inl rfl
      · -- the detached pull is one that the cleanup waits for
        intro pending j hpending hj
        obtain rfl := h.eq_of_pulling hrun hj
        exact ht rfl pending j hpending hrun
    · cases hs
  | runEnds =>
    obtain ⟨hrun, hs⟩ := Option.ite_none_right_eq_some.mp hs
    obtain rfl := Option.some.inj hs
    apply h.moves (by simp [hrun]) (by simp [hrun]) (by simp)
    · exact fun _ _ => Or.inr rfl
    · intro pending i hpending hi
      rcases h.drained_pull pending i hpending hi with h' | h'
      · cases hrun.symm.trans h'
      · exact h'
  | runObserved =>
    obtain ⟨⟨hcaller, -⟩, hs⟩ := Option.ite_none_right_eq_some.mp hs
    obtain rfl := Option.some.inj hs
    exact h.caller (by simp) fun _ => h.early (Or.inr (Or.inl hcaller))
  | deadline =>
    obtain ⟨⟨hcaller, -⟩, hs⟩ := Option.ite_none_right_eq_some.mp hs
    obtain rfl := Option.some.inj hs
    exact h.deadline hcaller
  | snapshot =>
    obtain ⟨hcaller, hs⟩ := Option.ite_none_right_eq_some.mp hs
    obtain rfl := Option.some.inj hs
    exact h.snapshot hcaller
  | startCleanup =>
    rw [CallTasks.step] at hs
    split at hs
    · rename_i pending hpending
      obtain ⟨hdone, hs⟩ := Option.ite_none_right_eq_some.mp hs
      obtain rfl := Option.some.inj hs
      exact h.startCleanup hpending (List.all_eq_true.mp hdone)
    · cases hs
  | leave =>
    obtain ⟨-, hs⟩ := Option.ite_none_right_eq_some.mp hs
    obtain rfl := Option.some.inj hs
    exact h.caller (by simp) (by simp)

theorem inv_of_reaches {mode : AdapterMode} (h : Reaches (CallTasks.step mode) Timely initial s) : Inv s :=
  h.invariant inv_initial fun _ _ _ hinv ht hs => hinv.step ht hs

/-- A step that does not meet the condition detaches a pull that the cleanup does not wait for. -/
theorem not_timely_iff {a : Action} : ¬Timely s a ↔ a = .idleDeadline ∧
    ∃ pending i, s.cleanup = .draining pending ∧ s.run = .pulling i ∧ .pull i ∉ pending := by
  simp only [Timely, Classical.not_imp, not_forall]

theorem step_startCleanup (mode : AdapterMode) {pending : List Operation}
    (hpending : s.cleanup = .draining pending) (hdone : ∀ op ∈ pending, s.done op = true) :
    s.step mode .startCleanup =
      some { s with cleanup := .called, cleanupCalls := s.cleanupCalls + 1 } := by
  rw [CallTasks.step, hpending]
  dsimp only
  rw [if_pos (List.all_eq_true.mpr hdone)]

/-- Once such a pull is detached, the cleanup may be called before it stops. -/
theorem Inv.overlaps (h : Inv s) {mode : AdapterMode} {s' : CallTasks} {a : Action} (ht : ¬Timely s a)
    (hs : s.step mode a = some s') :
    ∃ t, Reaches (CallTasks.step mode) anyStep s' t ∧ ¬Exclusive t := by
  obtain ⟨rfl, pending, i, hpending, hrun, hi⟩ := not_timely_iff.mp ht
  have hunfinished : s.pulls[i]? = some false := by
    by_contra hne
    rw [CallTasks.step, hrun] at hs
    dsimp only at hs
    rw [if_neg hne] at hs
    cases hs
  obtain rfl : { s with run := .ending } = s' := by
    rw [CallTasks.step, hrun] at hs
    dsimp only at hs
    rw [if_pos hunfinished] at hs
    exact Option.some.inj hs
  -- the run ends, and all that the cleanup waits for is finished
  have hdone : ∀ op ∈ pending, { s with run := .finished }.done op = true := by
    rintro (- | j) hj
    · rfl
    · have hne : s.pulls[j]? ≠ some false := by
        intro hj'
        rw [h.eq_of_pulling hrun hj'] at hj
        exact hi hj
      simpa [done] using hne
  have hends : CallTasks.step mode { s with run := .ending } .runEnds = some { s with run := .finished } :=
    rfl
  have hstarts := step_startCleanup (s := { s with run := .finished }) mode hpending hdone
  refine ⟨_, (Reaches.start.next trivial hends).next trivial hstarts, ?_⟩
  intro hexclusive
  exact (unfinished_eq_nil_iff.mp (hexclusive.apart (Nat.succ_ne_zero _))).2 i hunfinished

end

/-- **When the cleanup stays apart.**  In every run whose steps meet the condition, the cleanup is
called at most once and with every scheduled operation finished; and a step that does not meet it
leads to a run in which the cleanup is called over an operation. -/
theorem cleanup_exclusive (mode : AdapterMode) :
    (∀ s, Reaches (CallTasks.step mode) Timely initial s → Exclusive s) ∧
    ∀ s, Reaches (CallTasks.step mode) Timely initial s → ∀ a s', ¬Timely s a →
      s.step mode a = some s' → ∃ t, Reaches (CallTasks.step mode) anyStep s' t ∧ ¬Exclusive t :=
  ⟨fun _ h => (inv_of_reaches h).exclusive, fun _ h _ _ ht hs => (inv_of_reaches h).overlaps ht hs⟩

/-- A stream whose hook outlasts the overall deadline, and whose first pull outlasts the idle one. -/
theorem cleanup_overlaps :
    ∃ s, Reaches (CallTasks.step .stream) anyStep initial s ∧ s.cleanupCalls = 1 ∧
      s.unfinished = [.pull 0] ∧ ¬Exclusive s := by
  have hrun : after (CallTasks.step .stream) [.schedule, .callHook, .deadline, .snapshot, .hookReturns,
      .pull, .idleDeadline, .runEnds, .startCleanup] initial =
      some ⟨.cleaning, .finished, [false], .called, 1⟩ := by decide
  refine ⟨_, reaches_of_after hrun, rfl, by decide, ?_⟩
  intro h
  exact absurd (h.apart Nat.one_ne_zero) (by decide)

end CallTasks

end SkillsSdk
