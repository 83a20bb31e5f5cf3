/-
SkillsSdk/JudgeLifecycle.lean

The lifecycle of `CodexJudgeAdapter`: `assess`, `judge` and `cleanup`.

A step is what a task does between two await points.  The adapter has two slots,
the task that judges and the task that assesses, a busy flag and a closed flag;
`SlotsMatch` says that they are what the tasks are doing, and that a cleanup that
waits has every task in progress in its set.  So a cleanup that finds its set
done finds nothing in progress, and nothing starts on a closed adapter.

When a call ends, how it ends and when a wait ends is left open: a call may be
cancelled at any await, by anyone.
-/
import Mathlib.Logic.Function.Basic
import SkillsSdk.Lib.Runs
import SkillsSdk.Text

namespace SkillsSdk

open Runs

variable {τ : Type*}

/-! ### The adapter -/

/-- The codes that `_cleanup_error` may hold. -/
inductive CleanupCode where
  | failed
  | timeout
  deriving DecidableEq

structure JudgeAdapter (τ : Type*) where
  closed : Bool
  busy : Bool
  assessmentTask : Option τ
  judgeTask : Option τ
  cleanupError : Option CleanupCode

def judgeError (code message : String) : ContractError := ⟨code.toList, message.toList⟩

def codexJudgeClosed : ContractError :=
  judgeError "codex_judge_closed" "Allocate a new judge after cleanup"

def codexJudgeBusy : ContractError :=
  judgeError "codex_judge_busy" "Use a separate adapter for overlapping judgments"

def codexJudgeCleanupReentrant : ContractError :=
  judgeError "codex_judge_cleanup_reentrant" "Cleanup must run outside the active judgment"

def codexJudgeCleanupTimeout : ContractError :=
  judgeError "codex_judge_cleanup_timeout" "Active judgment cleanup did not complete"

def codexJudgeCleanupFailed : ContractError :=
  judgeError "codex_judge_cleanup_failed" "Active judgment failed during cleanup"

/-- `ContractError(self._cleanup_error, …)`. -/
def CleanupCode.error : CleanupCode → ContractError
  | failed => judgeError "codex_judge_cleanup_failed" "Active judgment process cleanup failed"
  | timeout => judgeError "codex_judge_cleanup_timeout" "Active judgment process cleanup failed"

namespace JudgeAdapter

/-- `__init__`. -/
def fresh : JudgeAdapter τ := ⟨false, false, none, none, none⟩

/-- `if self._cleanup_error is None: self._cleanup_error = code`. -/
def note (a : JudgeAdapter τ) (code : Option CleanupCode) : JudgeAdapter τ :=
  { a with cleanupError := a.cleanupError.or code }

variable [DecidableEq τ]

/-- `assess`, up to its first await. -/
def beginAssess (a : JudgeAdapter τ) (t : τ) : JudgeAdapter τ × Option ContractError :=
  if a.closed then (a, some codexJudgeClosed)
  else if a.busy || (a.judgeTask ≠ none && a.judgeTask ≠ some t) then (a, some codexJudgeBusy)
  else ({ a with busy := true, assessmentTask := some t }, none)

/-- The handlers of `assess`: the note of a cancellation, then the slots. -/
def endAssess (a : JudgeAdapter τ) (code : Option CleanupCode) : JudgeAdapter τ :=
  { a.note code with assessmentTask := none, busy := false }

/-- The `finally` of `judge`. -/
def endJudge (a : JudgeAdapter τ) : JudgeAdapter τ := { a with judgeTask := none }

/-- `judge`, up to the first await of its assessment; `refusal` is what `_judge` raises
about the inputs. -/
def beginJudge (a : JudgeAdapter τ) (t : τ) (refusal : Option ContractError) :
    JudgeAdapter τ × Option ContractError :=
  if a.closed then (a, some codexJudgeClosed)
  else if a.judgeTask ≠ none then (a, some codexJudgeBusy)
  else
    let owned := { a with judgeTask := some t }
    match refusal with
    | some error => (owned.endJudge, some error)
    | none =>
      match owned.beginAssess t with
      | (a, some error) => (a.endJudge, some error)
      | (a, none) => (a, none)

end JudgeAdapter

/-! ### Tasks -/

/-- What a task does with the adapter. -/
inductive JudgeActivity (τ : Type*) where
  | idle
  | assessing
  /-- In `judge`, in its assessment. -/
  | judging
  /-- In `judge`, waiting for the retention. -/
  | retaining
  /-- In `cleanup`, waiting for some tasks. -/
  | cleaning (tasks : List τ)
  deriving DecidableEq

/-- How a task ended. -/
inductive TaskEnd where
  | returned
  | cancelled
  | raised
  deriving DecidableEq

structure JudgeTasks (τ : Type*) where
  adapter : JudgeAdapter τ
  activity : τ → JudgeActivity τ
  /-- How the task ended, when it is done. -/
  ended : τ → Option TaskEnd
  cancelling : τ → Bool
  /-- Some call of `cleanup` has returned without an error. -/
  cleaned : Bool

namespace JudgeTasks

def initial : JudgeTasks τ := ⟨.fresh, fun _ => .idle, fun _ => none, fun _ => false, false⟩

variable [DecidableEq τ]

def become (s : JudgeTasks τ) (t : τ) (activity : JudgeActivity τ) : JudgeTasks τ :=
  { s with activity := Function.update s.activity t activity }

def withAdapter (s : JudgeTasks τ) (a : JudgeAdapter τ) : JudgeTasks τ := { s with adapter := a }

/-- The task runs, outside the adapter. -/
def free (s : JudgeTasks τ) (t : τ) : Bool := decide (s.activity t = .idle) && decide (s.ended t = none)

/-- `assess`, called by a task. -/
def callAssess (s : JudgeTasks τ) (t : τ) : JudgeTasks τ × Option ContractError :=
  match s.adapter.beginAssess t with
  | (a, some error) => (s.withAdapter a, some error)
  | (a, none) => ((s.withAdapter a).become t .assessing, none)

/-- `judge`, called by a task. -/
def callJudge (s : JudgeTasks τ) (t : τ) (refusal : Option ContractError) : JudgeTasks τ × Option ContractError :=
  match s.adapter.beginJudge t refusal with
  | (a, some error) => (s.withAdapter a, some error)
  | (a, none) => ((s.withAdapter a).become t .judging, none)

/-- `{task for task in (…) if task is not None and not task.done()}`. -/
def activeTasks (s : JudgeTasks τ) : List τ :=
  (s.adapter.assessmentTask.toList ++ s.adapter.judgeTask.toList).filter fun t => (s.ended t).isNone

/-- `task.cancel()` of the tasks. -/
def cancelAll (s : JudgeTasks τ) (tasks : List τ) : JudgeTasks τ :=
  { s with cancelling := fun t => s.cancelling t || tasks.contains t }

/-- The end of `cleanup`. -/
def finishCleanup (s : JudgeTasks τ) : JudgeTasks τ × Option ContractError :=
  match s.adapter.cleanupError with
  | some code => (s, some code.error)
  | none => ({ s with cleaned := true }, none)

/-- `cleanup`, up to its await. -/
def callCleanup (s : JudgeTasks τ) (t : τ) : JudgeTasks τ × Option ContractError :=
  let s := s.withAdapter { s.adapter with closed := true }
  if t ∈ s.activeTasks then (s, some codexJudgeCleanupReentrant)
  else if s.activeTasks = [] then s.finishCleanup
  else ((s.cancelAll s.activeTasks).become t (.cleaning s.activeTasks), none)

/-- `cleanup`, behind its await, where the tasks are done or the time is up. -/
def wakeCleanup (s : JudgeTasks τ) (tasks : List τ) : JudgeTasks τ × Option ContractError :=
  if ∃ t ∈ tasks, s.ended t = none then (s, some codexJudgeCleanupTimeout)
  else if ∃ t ∈ tasks, s.ended t = some .raised then (s, some codexJudgeCleanupFailed)
  else s.finishCleanup

end JudgeTasks

/-! ### Steps -/

inductive JudgeAction (τ : Type*) where
  | assess (t : τ)
  | judge (t : τ) (refusal : Option ContractError)
  | cleanup (t : τ)
  /-- `_invoke` retains a failed teardown. -/
  | teardown (t : τ) (code : CleanupCode)
  /-- The assessment is over: with an observation, or with an exception and its note. -/
  | assessed (t : τ) (observed : Bool) (code : Option CleanupCode)
  /-- The retention is over, and `judge` with it. -/
  | retained (t : τ)
  /-- The wait of a cleanup is over, or cancelled. -/
  | wake (t : τ) (cancelled : Bool)
  | finish (t : τ) (how : TaskEnd)

variable [DecidableEq τ]

open JudgeTasks

/-- The state after an action, when it can be taken. -/
def judgeStep (s : JudgeTasks τ) : JudgeAction τ → Option (JudgeTasks τ)
  | .assess t => if s.free t then some (s.callAssess t).1 else none
  | .judge t refusal => if s.free t then some (s.callJudge t refusal).1 else none
  | .cleanup t => if s.free t then some (s.callCleanup t).1 else none
  | .teardown t code =>
    match s.activity t with
    | .assessing | .judging => some (s.withAdapter (s.adapter.note code))
    | _ => none
  | .assessed t observed code =>
    match s.activity t with
    | .assessing => some ((s.withAdapter (s.adapter.endAssess code)).become t .idle)
    | .judging =>
      if observed then some ((s.withAdapter (s.adapter.endAssess code)).become t .retaining)
      else some ((s.withAdapter (s.adapter.endAssess code).endJudge).become t .idle)
    | _ => none
  | .retained t =>
    match s.activity t with
    | .retaining => some ((s.withAdapter s.adapter.endJudge).become t .idle)
    | _ => none
  | .wake t cancelled =>
    match s.activity t with
    | .cleaning tasks =>
      if cancelled then some (s.become t .idle) else some ((s.wakeCleanup tasks).1.become t .idle)
    | _ => none
  | .finish t how =>
    if s.free t then some { s with ended := Function.update s.ended t (some how) } else none

/-! ### Calls -/

namespace JudgeAdapter

/-- `assess` refuses, and nothing has changed, or it takes the slot. -/
theorem beginAssess_cases (a : JudgeAdapter τ) (t : τ) :
    (∃ error, a.beginAssess t = (a, some error)) ∨
      (a.closed = false ∧ a.busy = false ∧
        a.beginAssess t = ({ a with busy := true, assessmentTask := some t }, none)) := by
  rw [beginAssess]
  split
  case isTrue => exact Or.inl ⟨_, rfl⟩
  case isFalse hclosed =>
    split
    case isTrue => exact Or.inl ⟨_, rfl⟩
    case isFalse hbusy =>
      refine Or.inr ⟨by simpa using hclosed, ?_, rfl⟩
      rw [Bool.not_eq_true, Bool.or_eq_false_iff] at hbusy
      exact hbusy.1

/-- `judge` refuses, and nothing has changed, or it takes both slots. -/
theorem beginJudge_cases (a : JudgeAdapter τ) (t : τ) (refusal : Option ContractError) :
    (∃ error, a.beginJudge t refusal = (a, some error)) ∨
      (a.closed = false ∧ a.busy = false ∧ a.judgeTask = none ∧
        a.beginJudge t refusal =
          ({ a with busy := true, assessmentTask := some t, judgeTask := some t }, none)) := by
  rw [beginJudge]
  split
  case isTrue => exact Or.inl ⟨_, rfl⟩
  case isFalse hclosed =>
    split
    case isTrue => exact Or.inl ⟨_, rfl⟩
    case isFalse hjudge =>
      rw [ne_eq, not_not] at hjudge
      -- the `finally` empties a slot that was empty
      have hback : ({ a with judgeTask := some t } : JudgeAdapter τ).endJudge = a := by
        rw [endJudge, ← hjudge]
      cases refusal with
      | some error =>
        refine Or.inl ⟨error, ?_⟩
        show (({ a with judgeTask := some t } : JudgeAdapter τ).endJudge, _) = _
        rw [hback]
      | none =>
        rcases beginAssess_cases { a with judgeTask := some t } t with ⟨error, h⟩ | ⟨-, hbusy, h⟩
        · refine Or.inl ⟨error, ?_⟩
          dsimp only
          rw [h]
          show (({ a with judgeTask := some t } : JudgeAdapter τ).endJudge, _) = _
          rw [hback]
        · refine Or.inr ⟨by simpa using hclosed, hbusy, hjudge, ?_⟩
          dsimp only
          rw [h]

end JudgeAdapter

namespace JudgeTasks

theorem callAssess_cases (s : JudgeTasks τ) (t : τ) :
    (∃ error, s.callAssess t = (s, some error)) ∨
      (s.adapter.closed = false ∧ s.adapter.busy = false ∧ s.callAssess t =
        ((s.withAdapter { s.adapter with busy := true, assessmentTask := some t }).become t .assessing,
          none)) := by
  rw [callAssess]
  rcases s.adapter.beginAssess_cases t with ⟨error, h⟩ | ⟨hclosed, hbusy, h⟩
  · rw [h]
    exact Or.inl ⟨error, rfl⟩
  · rw [h]
    exact Or.inr ⟨hclosed, hbusy, rfl⟩

theorem callJudge_cases (s : JudgeTasks τ) (t : τ) (refusal : Option ContractError) :
    (∃ error, s.callJudge t refusal = (s, some error)) ∨
      (s.adapter.closed = false ∧ s.adapter.busy = false ∧ s.adapter.judgeTask = none ∧
        s.callJudge t refusal =
          ((s.withAdapter { s.adapter with
            busy := true, assessmentTask := some t, judgeTask := some t }).become t .judging, none)) := by
  rw [callJudge]
  rcases s.adapter.beginJudge_cases t refusal with ⟨error, h⟩ | ⟨hclosed, hbusy, hjudge, h⟩
  · rw [h]
    exact Or.inl ⟨error, rfl⟩
  · rw [h]
    exact Or.inr ⟨hclosed, hbusy, hjudge, rfl⟩

/-- A call that fails at once leaves everything as it was. -/
theorem callAssess_refused {s : JudgeTasks τ} {t : τ} {error : ContractError}
    (h : (s.callAssess t).2 = some error) : (s.callAssess t).1 = s := by
  rcases s.callAssess_cases t with ⟨e, he⟩ | ⟨-, -, he⟩
  · rw [he]
  · rw [he] at h
    cases h

theorem callJudge_refused {s : JudgeTasks τ} {t : τ} {refusal : Option ContractError} {error : ContractError}
    (h : (s.callJudge t refusal).2 = some error) : (s.callJudge t refusal).1 = s := by
  rcases s.callJudge_cases t refusal with ⟨e, he⟩ | ⟨-, -, -, he⟩
  · rw [he]
  · rw [he] at h
    cases h

theorem free_iff {s : JudgeTasks τ} {t : τ} :
    s.free t = true ↔ s.activity t = .idle ∧ s.ended t = none := by
  simp [free]

end JudgeTasks

/-! ### What is in progress -/

namespace JudgeActivity

def assesses : JudgeActivity τ → Bool
  | assessing | judging => true
  | _ => false

def judges : JudgeActivity τ → Bool
  | judging | retaining => true
  | _ => false

/-- In `judge` or in `assess`. -/
def busy (a : JudgeActivity τ) : Bool := a.assesses || a.judges

end JudgeActivity

/-- The slots of the adapter are what the tasks do. -/
structure SlotsMatch (s : JudgeTasks τ) : Prop where
  flag : s.adapter.busy = s.adapter.assessmentTask.isSome
  assess : ∀ t, s.adapter.assessmentTask = some t ↔ (s.activity t).assesses = true
  judge : ∀ t, s.adapter.judgeTask = some t ↔ (s.activity t).judges = true
  ended : ∀ t, s.ended t ≠ none → s.activity t = .idle
  /-- A cleanup waits for all that is in progress. -/
  waits : ∀ t tasks, s.activity t = .cleaning tasks →
    s.adapter.closed = true ∧ ∀ u, (s.activity u).busy = true → u ∈ tasks
  cleaned : s.cleaned = true → s.adapter.closed = true ∧ ∀ u, (s.activity u).busy = false

namespace SlotsMatch

omit [DecidableEq τ] in
theorem initial : SlotsMatch (JudgeTasks.initial : JudgeTasks τ) where
  flag := rfl
  assess := fun _ => ⟨nofun, nofun⟩
  judge := fun _ => ⟨nofun, nofun⟩
  ended := fun _ _ => rfl
  waits := nofun
  cleaned := nofun

variable {s : JudgeTasks τ}

/-- A task turns to another activity, and the slots follow.  Nothing starts on a
closed adapter. -/
theorem turn (h : SlotsMatch s) {t : τ} {a : JudgeAdapter τ} {activity : JudgeActivity τ}
    (hrunning : s.ended t = none) (hflag : a.busy = a.assessmentTask.isSome)
    (hassess : ∀ u, a.assessmentTask = some u ↔
      if u = t then activity.assesses = true else s.adapter.assessmentTask = some u)
    (hjudge : ∀ u, a.judgeTask = some u ↔
      if u = t then activity.judges = true else s.adapter.judgeTask = some u)
    (hclosed : s.adapter.closed = true → a.closed = true)
    (hquiet : s.adapter.closed = true → activity.busy = true → (s.activity t).busy = true)
    (hwaits : ∀ tasks, activity = .cleaning tasks →
      a.closed = true ∧ ∀ u, (s.activity u).busy = true → u ∈ tasks) :
    SlotsMatch ((s.withAdapter a).become t activity) := by
  have hself : Function.update s.activity t activity t = activity := Function.update_self ..
  have hother : ∀ u, u ≠ t → Function.update s.activity t activity u = s.activity u :=
    fun u hu => Function.update_of_ne hu ..
  -- who is busy on a closed adapter was busy before
  have hbusy : s.adapter.closed = true → ∀ u, (Function.update s.activity t activity u).busy = true →
      (s.activity u).busy = true := by
    intro hc u hu
    by_cases hut : u = t
    · subst hut
      rw [hself] at hu
      exact hquiet hc hu
    · rwa [hother u hut] at hu
  refine ⟨hflag, ?_, ?_, ?_, ?_, ?_⟩
  · intro u
    show a.assessmentTask = some u ↔ (Function.update s.activity t activity u).assesses = true
    rw [hassess]
    by_cases hut : u = t
    · rw [if_pos hut, hut, hself]
    · rw [if_neg hut, hother u hut, h.assess]
  · intro u
    show a.judgeTask = some u ↔ (Function.update s.activity t activity u).judges = true
    rw [hjudge]
    by_cases hut : u = t
    · rw [if_pos hut, hut, hself]
    · rw [if_neg hut, hother u hut, h.judge]
  · intro u hu
    have hut : u ≠ t := by
      rintro rfl
      exact hu hrunning
    exact (hother u hut).trans (h.ended u hu)
  · intro u tasks hu
    replace hu : Function.update s.activity t activity u = .cleaning tasks := hu
    by_cases hut : u = t
    · rw [hut, hself] at hu
      obtain ⟨hc, hall⟩ := hwaits tasks hu
      refine ⟨hc, fun v hv => ?_⟩
      replace hv : (Function.update s.activity t activity v).busy = true := hv
      by_cases hvt : v = t
      · rw [hvt, hself, hu] at hv
        cases hv
      · rw [hother v hvt] at hv
        exact hall v hv
    · rw [hother u hut] at hu
      obtain ⟨hc, hall⟩ := h.waits u tasks hu
      exact ⟨hclosed hc, fun v hv => hall v (hbusy hc v hv)⟩
  · intro hcleaned
    obtain ⟨hc, hall⟩ := h.cleaned hcleaned
    refine ⟨hclosed hc, fun u => ?_⟩
    by_contra hu
    rw [Bool.not_eq_false] at hu
    have := hbusy hc u hu
    rw [hall u] at this
    cases this

/-- The slot of a task that is in it is empty when it leaves. -/
theorem slot_left {slot : Option τ} {t : τ} (h : slot = some t) (u : τ) :
    none = some u ↔ if u = t then false = true else slot = some u := by
  subst h
  by_cases hut : u = t
  · simp [hut]
  · simp [hut, Ne.symm hut]

/-- The slot of others is as it was. -/
theorem slot_same {slot : Option τ} {t : τ} {b : Bool} (h : slot = some t ↔ b = true) (u : τ) :
    slot = some u ↔ if u = t then b = true else slot = some u := by
  by_cases hut : u = t
  · rw [if_pos hut, hut, h]
  · rw [if_neg hut]

theorem slot_taken {t : τ} (u : τ) {slot : Option τ} (h : slot = none) :
    some t = some u ↔ if u = t then true = true else slot = some u := by
  subst h
  by_cases hut : u = t
  · simp [hut]
  · simp [hut, Ne.symm hut]

omit [DecidableEq τ] in
/-- What is not idle has not ended. -/
theorem running (h : SlotsMatch s) {t : τ} (ht : s.activity t ≠ .idle) : s.ended t = none := by
  by_contra he
  exact ht (h.ended t he)

omit [DecidableEq τ] in
theorem assessmentTask_eq_none (h : SlotsMatch s) (hbusy : s.adapter.busy = false) :
    s.adapter.assessmentTask = none := by
  rw [h.flag, Option.isSome_eq_false_iff, Option.isNone_iff_eq_none] at hbusy
  exact hbusy

theorem callAssess (h : SlotsMatch s) {t : τ} (ht : s.free t = true) :
    SlotsMatch (s.callAssess t).1 := by
  obtain ⟨hidle, hrunning⟩ := free_iff.mp ht
  rcases s.callAssess_cases t with ⟨e, he⟩ | ⟨hclosed, hbusy, he⟩
  · rw [he]
    exact h
  · rw [he]
    have hjudge : s.adapter.judgeTask = some t ↔ false = true := by
      rw [h.judge, hidle]
      rfl
    exact h.turn hrunning rfl (fun u => slot_taken u (h.assessmentTask_eq_none hbusy))
      (slot_same hjudge) id (fun hc => absurd hc (by simp [hclosed])) nofun

theorem callJudge (h : SlotsMatch s) {t : τ} {refusal : Option ContractError} (ht : s.free t = true) :
    SlotsMatch (s.callJudge t refusal).1 := by
  obtain ⟨-, hrunning⟩ := free_iff.mp ht
  rcases s.callJudge_cases t refusal with ⟨e, he⟩ | ⟨hclosed, hbusy, hjudge, he⟩
  · rw [he]
    exact h
  · rw [he]
    exact h.turn hrunning rfl (fun u => slot_taken u (h.assessmentTask_eq_none hbusy))
      (fun u => slot_taken u hjudge) id (fun hc => absurd hc (by simp [hclosed])) nofun

/-- The handlers of `assess`. -/
theorem endAssess (h : SlotsMatch s) {t : τ} (code : Option CleanupCode) {activity : JudgeActivity τ}
    (ht : (s.activity t).assesses = true) (hleft : activity.assesses = false)
    (hkept : activity.judges = (s.activity t).judges) (hcleaning : ∀ tasks, activity ≠ .cleaning tasks) :
    SlotsMatch ((s.withAdapter (s.adapter.endAssess code)).become t activity) := by
  have hrunning : s.ended t = none := h.running fun hidle => by
    rw [hidle] at ht
    cases ht
  have hslot := (h.assess t).mpr ht
  refine h.turn hrunning rfl ?_ ?_ id ?_ fun tasks he => absurd he (hcleaning tasks)
  · rw [hleft]
    exact slot_left hslot
  · apply slot_same
    show s.adapter.judgeTask = some t ↔ _
    rw [h.judge, hkept]
  · intro _ _
    rw [JudgeActivity.busy, ht]
    rfl

/-- The `finally` of `judge`, with no assessment of its own. -/
theorem endJudge (h : SlotsMatch s) {t : τ} (ht : s.activity t = .retaining) :
    SlotsMatch ((s.withAdapter s.adapter.endJudge).become t .idle) := by
  have hrunning : s.ended t = none := h.running fun hidle => by
    rw [hidle] at ht
    cases ht
  have hassess : s.adapter.assessmentTask = some t ↔ false = true := by
    rw [h.assess, ht]
    rfl
  have hjudge : s.adapter.judgeTask = some t := by
    rw [h.judge, ht]
    rfl
  exact h.turn hrunning h.flag (slot_same hassess) (slot_left hjudge) id nofun nofun

omit [DecidableEq τ] in
/-- The adapter is closed. -/
theorem close (h : SlotsMatch s) : SlotsMatch (s.withAdapter { s.adapter with closed := true }) where
  flag := h.flag
  assess := h.assess
  judge := h.judge
  ended := h.ended
  waits := fun t tasks ht => ⟨rfl, (h.waits t tasks ht).2⟩
  cleaned := fun hc => ⟨rfl, (h.cleaned hc).2⟩

omit [DecidableEq τ] in
/-- Everything in progress is among the active tasks. -/
theorem mem_activeTasks (h : SlotsMatch s) {u : τ} (hu : (s.activity u).busy = true) :
    u ∈ s.activeTasks := by
  have hrunning : s.ended u = none := h.running fun hidle => by
    rw [hidle] at hu
    cases hu
  rw [activeTasks, List.mem_filter, hrunning, List.mem_append, Option.mem_toList, Option.mem_toList]
  refine ⟨?_, rfl⟩
  rcases Bool.or_eq_true_iff.mp hu with hu | hu
  · exact Or.inl ((h.assess u).mpr hu)
  · exact Or.inr ((h.judge u).mpr hu)

omit [DecidableEq τ] in
theorem finishCleanup (h : SlotsMatch s) (hclosed : s.adapter.closed = true)
    (hquiet : ∀ u, (s.activity u).busy = false) : SlotsMatch s.finishCleanup.1 := by
  rw [JudgeTasks.finishCleanup]
  split
  · exact h
  · exact ⟨h.flag, h.assess, h.judge, h.ended, h.waits, fun _ => ⟨hclosed, hquiet⟩⟩

theorem callCleanup (h : SlotsMatch s) {t : τ} (ht : s.free t = true) :
    SlotsMatch (s.callCleanup t).1 := by
  obtain ⟨hidle, hrunning⟩ := free_iff.mp ht
  have hclosed := h.close
  rw [JudgeTasks.callCleanup]
  dsimp only
  split
  · exact hclosed
  · split
    -- no task is active, so the cleanup is finished at once
    case isTrue hnone =>
      apply hclosed.finishCleanup rfl
      intro u
      by_contra hu
      rw [Bool.not_eq_false] at hu
      have := hclosed.mem_activeTasks hu
      rw [hnone] at this
      exact absurd this List.not_mem_nil
    case isFalse =>
      -- the caller holds no slot, so both slots stay as they are
      have hassess : s.adapter.assessmentTask = some t ↔ false = true := by
        rw [h.assess, hidle]
        rfl
      have hjudge : s.adapter.judgeTask = some t ↔ false = true := by
        rw [h.judge, hidle]
        rfl
      have hwaits : ∀ tasks, JudgeActivity.cleaning
            (s.withAdapter { s.adapter with closed := true }).activeTasks = .cleaning tasks →
          true = true ∧ ∀ u, (s.activity u).busy = true → u ∈ tasks := by
        intro tasks he
        obtain rfl := JudgeActivity.cleaning.inj he
        exact ⟨rfl, fun u hu => hclosed.mem_activeTasks hu⟩
      have hturn : SlotsMatch (((s.withAdapter { s.adapter with closed := true }).withAdapter
          { s.adapter with closed := true }).become t
            (.cleaning (s.withAdapter { s.adapter with closed := true }).activeTasks)) :=
        hclosed.turn hrunning h.flag (slot_same hassess) (slot_same hjudge) id nofun hwaits
      exact ⟨hturn.flag, hturn.assess, hturn.judge, hturn.ended, hturn.waits, hturn.cleaned⟩

theorem idle (h : SlotsMatch s) {t : τ} {tasks : List τ} (ht : s.activity t = .cleaning tasks) :
    SlotsMatch (s.become t .idle) := by
  have hrunning : s.ended t = none := h.running fun hidle => by
    rw [hidle] at ht
    cases ht
  have hassess : s.adapter.assessmentTask = some t ↔ false = true := by
    rw [h.assess, ht]
    rfl
  have hjudge : s.adapter.judgeTask = some t ↔ false = true := by
    rw [h.judge, ht]
    rfl
  exact h.turn (a := s.adapter) hrunning h.flag (slot_same hassess) (slot_same hjudge) id nofun nofun

omit [DecidableEq τ] in
/-- A wait whose tasks are done has nothing in progress. -/
theorem wakeCleanup (h : SlotsMatch s) {t : τ} {tasks : List τ} (ht : s.activity t = .cleaning tasks) :
    SlotsMatch (s.wakeCleanup tasks).1 ∧ (s.wakeCleanup tasks).1.activity t = .cleaning tasks := by
  obtain ⟨hclosed, hall⟩ := h.waits t tasks ht
  rw [JudgeTasks.wakeCleanup]
  split
  · exact ⟨h, ht⟩
  case isFalse hdone =>
    split
    · exact ⟨h, ht⟩
    · refine ⟨h.finishCleanup hclosed fun u => ?_, ?_⟩
      · by_contra hu
        rw [Bool.not_eq_false] at hu
        refine hdone ⟨u, hall u hu, h.running fun hidle => ?_⟩
        rw [hidle] at hu
        cases hu
      · rw [JudgeTasks.finishCleanup]
        split <;> exact ht

/-- A task that is outside the adapter ends. -/
theorem finish (h : SlotsMatch s) {t : τ} (ht : s.free t = true) (how : TaskEnd) :
    SlotsMatch { s with ended := Function.update s.ended t (some how) } := by
  refine ⟨h.flag, h.assess, h.judge, ?_, h.waits, h.cleaned⟩
  intro u hu
  by_cases hut : u = t
  · rw [hut]
    exact (free_iff.mp ht).1
  · replace hu : Function.update s.ended t (some how) u ≠ none := hu
    rw [Function.update_of_ne hut] at hu
    exact h.ended u hu

/-- One step, whatever it is. -/
theorem step (h : SlotsMatch s) {action : JudgeAction τ} {s' : JudgeTasks τ}
    (hstep : judgeStep s action = some s') : SlotsMatch s' := by
  cases action with
  | assess t =>
    rw [judgeStep, Option.ite_none_right_eq_some] at hstep
    obtain ⟨hfree, he⟩ := hstep
    obtain rfl := Option.some.inj he
    exact h.callAssess hfree
  | judge t refusal =>
    rw [judgeStep, Option.ite_none_right_eq_some] at hstep
    obtain ⟨hfree, he⟩ := hstep
    obtain rfl := Option.some.inj he
    exact h.callJudge hfree
  | cleanup t =>
    rw [judgeStep, Option.ite_none_right_eq_some] at hstep
    obtain ⟨hfree, he⟩ := hstep
    obtain rfl := Option.some.inj he
    exact h.callCleanup hfree
  | teardown t code =>
    have hnoted : SlotsMatch (s.withAdapter (s.adapter.note code)) :=
      ⟨h.flag, h.assess, h.judge, h.ended, h.waits, h.cleaned⟩
    rw [judgeStep] at hstep
    split at hstep
    · obtain rfl := Option.some.inj hstep
      exact hnoted
    · obtain rfl := Option.some.inj hstep
      exact hnoted
    · cases hstep
  | assessed t observed code =>
    rw [judgeStep] at hstep
    split at hstep
    case h_1 ht =>
      obtain rfl := Option.some.inj hstep
      exact h.endAssess code (by rw [ht]; rfl) rfl (by rw [ht]; rfl) nofun
    case h_2 ht =>
      have hretaining : SlotsMatch ((s.withAdapter (s.adapter.endAssess code)).become t .retaining) :=
        h.endAssess code (by rw [ht]; rfl) rfl (by rw [ht]; rfl) nofun
      split at hstep
      · obtain rfl := Option.some.inj hstep
        exact hretaining
      · obtain rfl := Option.some.inj hstep
        -- the slot of the judge is emptied behind that of the assessment
        have hidle := hretaining.endJudge (Function.update_self ..)
        simp only [become, withAdapter, Function.update_idem] at hidle
        exact hidle
    case h_3 => cases hstep
  | retained t =>
    rw [judgeStep] at hstep
    split at hstep
    case h_1 ht =>
      obtain rfl := Option.some.inj hstep
      exact h.endJudge ht
    case h_2 => cases hstep
  | wake t cancelled =>
    rw [judgeStep] at hstep
    split at hstep
    case h_1 tasks ht =>
      split at hstep
      · obtain rfl := Option.some.inj hstep
        exact h.idle ht
      · obtain rfl := Option.some.inj hstep
        obtain ⟨hwoken, ht'⟩ := h.wakeCleanup ht
        exact hwoken.idle ht'
    case h_2 => cases hstep
  | finish t how =>
    rw [judgeStep, Option.ite_none_right_eq_some] at hstep
    obtain ⟨hfree, he⟩ := hstep
    obtain rfl := Option.some.inj he
    exact h.finish hfree how

end SlotsMatch

/-! ### Runs -/

theorem slotsMatch_of_reaches {s s' : JudgeTasks τ} (h : SlotsMatch s)
    (hrun : Reaches judgeStep anyStep s s') : SlotsMatch s' :=
  hrun.invariant h fun _ _ _ hu _ hstep => hu.step hstep

omit [DecidableEq τ] in
theorem finishCleanup_cleaned {s : JudgeTasks τ} (h : s.cleaned = true) :
    s.finishCleanup.1.cleaned = true := by
  rw [finishCleanup]
  split
  · exact h
  · rfl

/-- What a cleanup has closed stays closed. -/
theorem cleaned_of_step {s s' : JudgeTasks τ} {action : JudgeAction τ}
    (hstep : judgeStep s action = some s') (h : s.cleaned = true) : s'.cleaned = true := by
  cases action with
  | assess t =>
    obtain ⟨-, he⟩ := Option.ite_none_right_eq_some.mp hstep
    obtain rfl := Option.some.inj he
    rcases s.callAssess_cases t with ⟨e, he⟩ | ⟨-, -, he⟩
    all_goals rw [he]; exact h
  | judge t refusal =>
    obtain ⟨-, he⟩ := Option.ite_none_right_eq_some.mp hstep
    obtain rfl := Option.some.inj he
    rcases s.callJudge_cases t refusal with ⟨e, he⟩ | ⟨-, -, -, he⟩
    all_goals rw [he]; exact h
  | cleanup t =>
    obtain ⟨-, he⟩ := Option.ite_none_right_eq_some.mp hstep
    obtain rfl := Option.some.inj he
    rw [callCleanup]
    dsimp only
    split
    · exact h
    · split
      · exact finishCleanup_cleaned h
      · exact h
  | teardown t code =>
    rw [judgeStep] at hstep
    split at hstep
    case h_3 => cases hstep
    all_goals obtain rfl := Option.some.inj hstep; exact h
  | assessed t observed code =>
    rw [judgeStep] at hstep
    split at hstep
    case h_1 =>
      obtain rfl := Option.some.inj hstep
      exact h
    case h_2 =>
      split at hstep
      all_goals obtain rfl := Option.some.inj hstep; exact h
    case h_3 => cases hstep
  | retained t =>
    rw [judgeStep] at hstep
    split at hstep
    case h_1 =>
      obtain rfl := Option.some.inj hstep
      exact h
    case h_2 => cases hstep
  | wake t cancelled =>
    rw [judgeStep] at hstep
    split at hstep
    case h_2 => cases hstep
    case h_1 =>
      split at hstep
      · obtain rfl := Option.some.inj hstep
        exact h
      · obtain rfl := Option.some.inj hstep
        show (s.wakeCleanup _).1.cleaned = true
        rw [wakeCleanup]
        split
        · exact h
        · split
          · exact h
          · exact finishCleanup_cleaned h
  | finish t how =>
    obtain ⟨-, he⟩ := Option.ite_none_right_eq_some.mp hstep
    obtain rfl := Option.some.inj he
    exact h

/-- **The lifecycle of a judge adapter.**  At any time at most one task assesses; a call
that is refused changes nothing; and once a cleanup has returned without an error,
nothing is in progress, then or ever after, and every call is refused. -/
theorem judge_lifecycle {s : JudgeTasks τ} (h : Reaches judgeStep anyStep JudgeTasks.initial s) :
    (∀ t u, (s.activity t).assesses = true → (s.activity u).assesses = true → t = u) ∧
      (∀ t error, (s.callAssess t).2 = some error → (s.callAssess t).1 = s) ∧
      (∀ t refusal error, (s.callJudge t refusal).2 = some error → (s.callJudge t refusal).1 = s) ∧
      (s.cleaned = true → ∀ s', Reaches judgeStep anyStep s s' →
        (∀ t, (s'.activity t).busy = false) ∧
          (∀ t, (s'.callAssess t).2 = some codexJudgeClosed) ∧
          ∀ t refusal, (s'.callJudge t refusal).2 = some codexJudgeClosed) := by
  have hs := slotsMatch_of_reaches .initial h
  refine ⟨?_, fun _ _ he => callAssess_refused he, fun _ _ _ he => callJudge_refused he, ?_⟩
  · intro t u ht hu
    rw [← hs.assess] at ht hu
    exact Option.some.inj (ht.symm.trans hu)
  · intro hcleaned s' hrun
    have hcleaned' : s'.cleaned = true :=
      hrun.invariant hcleaned fun _ _ _ hu _ hstep => cleaned_of_step hstep hu
    obtain ⟨hclosed, hquiet⟩ := (slotsMatch_of_reaches hs hrun).cleaned hcleaned'
    refine ⟨hquiet, fun t => ?_, fun t refusal => ?_⟩
    · rw [callAssess, JudgeAdapter.beginAssess, if_pos hclosed]
    · rw [callJudge, JudgeAdapter.beginJudge, if_pos hclosed]

/-- A judgment is cancelled in its retention by a cleanup, which returns when its task is done. -/
def cleanedRun : List (JudgeAction Bool) :=
  [.judge true none, .assess false, .assessed true true none, .cleanup false, .retained true,
    .finish true .cancelled, .wake false false]

theorem cleanedRun_lifecycle : ∃ s : JudgeTasks Bool, after judgeStep cleanedRun .initial = some s ∧
    s.cleaned = true ∧ (∀ t, (s.activity t).busy = false) ∧
      ∀ t, (s.callAssess t).2 = some codexJudgeClosed := by
  obtain ⟨s, hs⟩ : ∃ s, after judgeStep cleanedRun .initial = some s :=
    Option.isSome_iff_exists.mp (by decide +kernel)
  have hcleaned : s.cleaned = true := by
    have hrun : (after judgeStep cleanedRun .initial).all (·.cleaned) = true := by decide +kernel
    rw [hs] at hrun
    exact hrun
  obtain ⟨-, -, -, h⟩ := judge_lifecycle (reaches_of_after hs)
  obtain ⟨hquiet, hassess, -⟩ := h hcleaned s .start
  exact ⟨s, hs, hcleaned, hquiet, hassess⟩

end SkillsSdk
