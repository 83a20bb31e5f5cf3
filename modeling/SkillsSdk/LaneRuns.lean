/-
SkillsSdk/LaneRuns.lean

Runs of an admitted matched lane.

A run takes the planned pairs in order, the baseline before the candidate, and
in each variant one provider call before one judge call.  Adapters, guards and
the clock decide what happens next, so they are the actions of a transition
system.  The code checks its guard and its clock at fixed points; here either
may fail wherever a variant is, which only adds runs.

One invariant carries everything that a receipt says: the pairs kept and the
pairs to come are the plan, and the counts are fixed by the stage of the run.
-/
import SkillsSdk.Lib.Runs
import SkillsSdk.LaneAdmission

namespace SkillsSdk

open Runs

variable {I : Interpreter} {H : MatchedHost I}

/-! ### Budgets -/

/-- A callback of an adapter. -/
inductive LaneCall where
  | provider
  | judge
  deriving DecidableEq

/-- `_RuntimeBudget`, at a time since its start. -/
structure RuntimeBudget where
  limits : MatchedRunBudget
  elapsed : ℚ
  providerInvocations : Nat
  judgeInvocations : Nat
  blockerCode : Option LaneBlockerCode

namespace RuntimeBudget

variable (b : RuntimeBudget)

/-- The first reason is kept. -/
def block (code : LaneBlockerCode) : RuntimeBudget := { b with blockerCode := b.blockerCode.or (some code) }

/-- `elapsed() >= limits.maximum_elapsed_seconds`. -/
def isLate : Prop := b.limits.val.maximumElapsedSeconds ≤ b.elapsed

instance : Decidable b.isLate := inferInstanceAs (Decidable (_ ≤ _))

def invocations : LaneCall → Nat
  | .provider => b.providerInvocations
  | .judge => b.judgeInvocations

def allowance : LaneCall → Nat
  | .provider => b.limits.val.maximumProviderInvocations
  | .judge => b.limits.val.maximumJudgeInvocations

def exhausted : LaneCall → LaneBlockerCode
  | .provider => .providerExhausted
  | .judge => .judgeExhausted

def count : LaneCall → RuntimeBudget
  | .provider => { b with providerInvocations := b.providerInvocations + 1 }
  | .judge => { b with judgeInvocations := b.judgeInvocations + 1 }

/-- `begin`: the budget after the call is counted, or after it is refused. -/
def begin (kind : LaneCall) : Except RuntimeBudget RuntimeBudget :=
  if b.isLate then .error (b.block .timeExhausted)
  else if b.allowance kind ≤ b.invocations kind then .error (b.block (exhausted kind))
  else .ok (b.count kind)

/-- `finish`. -/
def finish : Except RuntimeBudget Unit := if b.isLate then .error (b.block .timeExhausted) else .ok ()

/-- The budget after `finish` has raised. -/
def refused : Option RuntimeBudget :=
  match b.finish with
  | .error budget => some budget
  | .ok () => none

end RuntimeBudget

/-! ### States -/

/-- What `_execute_matched_lane` has settled before its loop. -/
structure LaneContext (H : MatchedHost I) where
  plan : MatchedComparisonPlan I
  lane : MatchedLane
  specification : MatchedLaneSpec
  calibrations : List H.Bundle
  executions : List MatchedCaseExecution

/-- How far `_execute_selected_case_with_judge` has come. -/
inductive CaseProgress where
  | preparing
  | providing
  | provided
  | judging
  | judged (judgment : MatchedVariantJudgment)

/-- A callback is on its way. -/
def CaseProgress.calling : LaneCall → CaseProgress
  | .provider => providing
  | .judge => judging

inductive VariantStage where
  | opening
  | running (request : ProviderExecutionRequest) (progress : CaseProgress)

inductive LanePhase (H : MatchedHost I) where
  /-- One variant is observed, the candidate once there is an observation of the baseline. -/
  | observing (baseline : Option MatchedObservation) (stage : VariantStage)
  | pairing (baseline candidate : MatchedObservation)
  /-- A variant or a pair has failed. -/
  | declined
  | reported (receipt : MatchedExecutionReceiptData H)
  /-- An exception has left the loop. -/
  | raised

structure LaneRun (H : MatchedHost I) where
  /-- The pairs to come, the present one first. -/
  remaining : List (MatchedCaseExecution × Nat)
  pairs : List MatchedExecutedPair
  phase : LanePhase H
  budget : RuntimeBudget
  /-- The code of the present guard. -/
  guardCode : Option LaneBlockerCode
  /-- The callbacks that were dispatched. -/
  calls : List LaneCall

/-- The receipt of a lane that is bound to its plan. -/
def laneReceipt (plan : Option (MatchedComparisonPlan I)) (lane : Option MatchedLane)
    (calibrations : List H.Bundle) (pairs : List MatchedExecutedPair) (counts : Nat × Nat)
    (code : Option LaneBlockerCode) (elapsed : ℚ) : MatchedExecutionReceiptData H where
  plan
  lane
  status := if code.isNone then .completed else .blocked
  calibrations
  pairs
  providerInvocationCount := counts.1
  judgeInvocationCount := counts.2
  elapsedSeconds := elapsed
  blocker := code.map laneBlocker

namespace LaneContext

variable (ctx : LaneContext H)

/-- The rounds of the loop. -/
def rounds : List (MatchedCaseExecution × Nat) :=
  ctx.executions.flatMap fun e => (List.range ctx.specification.trialCount).map fun trial => (e, trial)

def initial : LaneRun H where
  remaining := ctx.rounds
  pairs := []
  phase := .observing none .opening
  budget := ⟨ctx.specification.val.budget, 0, 0, 0, none⟩
  guardCode := none
  calls := []

end LaneContext

/-- `_execute_matched_lane` up to its loop: a receipt, or the run to come. -/
def openLane (H : MatchedHost I) (planValue : Except ValidationError (MatchedComparisonPlanData I))
    (lane : MatchedLane) (calibrations : List (Option H.Bundle)) (executions : List MatchedCaseExecution) :
    Except (MatchedExecutionReceiptData H) (LaneContext H) :=
  match planValue >>= construct MatchedComparisonPlanData.validate with
  | .error _ => .error (laneReceipt none none [] [] (0, 0) (some .invalidExecution) 0)
  | .ok plan =>
    match preflightMatchedLane H plan lane calibrations executions with
    | some code => .error (laneReceipt (some plan) (some lane) [] [] (0, 0) (some code) 0)
    | none =>
      match MatchedComparisonPlan.specification? plan lane with
      | none => .error (laneReceipt none none [] [] (0, 0) (some .invalidExecution) 0)
      | some specification => .ok ⟨plan, lane, specification, calibrations.reduceOption, executions⟩

/-! ### Steps -/

inductive GuardFailure where
  | sourceChanged
  | safetyChanged
  deriving DecidableEq

def GuardFailure.code : GuardFailure → LaneBlockerCode
  | sourceChanged => .sourceChanged
  | safetyChanged => .safetyChanged

inductive LaneAction where
  | tick (elapsed : ℚ)
  | openVariant
  /-- The guard of the variant or of the pair fails. -/
  | guardFails (failure : GuardFailure)
  /-- A callback returns after the deadline. -/
  | finishFails
  /-- The same in an operation that the executor has detached. -/
  | lateGuardFails (failure : GuardFailure)
  | lateFinishFails
  | callProvider
  | providerReturns
  | callJudge
  | judgeReturns (judgment : MatchedVariantJudgment)
  /-- The executor returns an evaluation, and the guard and the clock are checked once more. -/
  | settle (evaluation : EvaluationReceiptV2)
  /-- The executor returns a blocked evaluation, or raises. -/
  | variantFails
  | keepPair
  | report
  /-- An exception that the loop does not catch. -/
  | raise

namespace LaneRun

variable (ctx : LaneContext H) (s : LaneRun H)

/-- `_PluginGuard._fail`, of the first failure. -/
def failGuard (failure : GuardFailure) : LaneRun H :=
  { s with guardCode := s.guardCode.or (some failure.code) }

/-- A callback is counted and dispatched, or refused. -/
def call (kind : LaneCall) (baseline : Option MatchedObservation) (request : ProviderExecutionRequest) :
    LaneRun H :=
  match s.budget.begin kind with
  | .error budget => { s with budget, phase := .declined }
  | .ok budget => { s with
      budget
      calls := s.calls ++ [kind]
      phase := .observing baseline (.running request (.calling kind)) }

/-- The request of one trial. -/
def trialRequest (item : MatchedVariantExecution) (identity : Text × Sha256) :
    Except ValidationError ProviderExecutionRequest :=
  match executionId? identity.1 with
  | none => .error ⟨"ProviderExecutionRequest".toList,
      check false "request_id" "provider execution identity must not contain credential-shaped values"⟩
  | some requestId => construct ProviderExecutionRequestData.validate
      { item.request.val with requestId, idempotencyKeySha256 := identity.2 }

/-- The next variant has a guard of its own, and a request for its trial. -/
def openVariant (baseline : Option MatchedObservation) (e : MatchedCaseExecution) (trial : Nat) : LaneRun H :=
  let variant := if baseline.isNone then MatchedVariant.baseline else .candidate
  let item := e.item variant
  match trialRequest item (matchedTrialIdentity I.sha256 (H.planDigest ctx.plan) ctx.lane
      item.request.val.caseId.val variant trial) with
  | .error _ => { s with phase := .raised }
  | .ok request => { s with guardCode := none, phase := .observing baseline (.running request .preparing) }

/-- What follows an observed variant. -/
def settle (baseline : Option MatchedObservation) (observation : MatchedObservation) : LaneRun H :=
  if observation.evaluation.val.status = .blocked then { s with phase := .declined }
  else
    match s.budget.finish, baseline with
    | .error budget, _ => { s with budget, phase := .declined }
    | .ok (), none => { s with phase := .observing (some observation) .opening }
    -- each of the two guards of a pair is new
    | .ok (), some baseline => { s with guardCode := none, phase := .pairing baseline observation }

/-- `MatchedExecutedPair(…)`. -/
def newPair (baseline candidate : MatchedObservation) (trial : Nat) : MatchedExecutedPair where
  caseId := baseline.request.val.caseId.val
  trialIndex := trial
  baseline := baseline.judgment
  candidate := candidate.judgment
  baselineEvaluation := baseline.evaluation
  candidateEvaluation := candidate.evaluation
  baselineRequest := baseline.request
  candidateRequest := candidate.request
  baselineInputSha256 := baseline.request.val.inputSha256
  candidateInputSha256 := candidate.request.val.inputSha256

/-- The receipt of the run so far. -/
def receipt (pairs : List MatchedExecutedPair) (code : Option LaneBlockerCode) : MatchedExecutionReceiptData H :=
  laneReceipt (some ctx.plan) (some ctx.lane) ctx.calibrations pairs
    (s.budget.providerInvocations, s.budget.judgeInvocations) code s.budget.elapsed

/-- The pair is kept; the last one completes the lane. -/
def keepPair (pair : MatchedExecutedPair) : LaneRun H :=
  match s.budget.finish with
  | .error budget => { s with budget, phase := .declined }
  | .ok () =>
    { s with
      remaining := s.remaining.tail
      pairs := s.pairs ++ [pair]
      phase :=
        if s.remaining.tail = [] then .reported (s.receipt ctx (s.pairs ++ [pair]) none)
        else .observing none .opening }

/-- The code of the blocked receipt. -/
def blockerCode : LaneBlockerCode := (s.budget.blockerCode.or s.guardCode).getD .incomplete

/-- The state after an action, when it can be taken. -/
def step : LaneAction → Option (LaneRun H)
  | .tick elapsed =>
    match s.phase with
    | .reported _ => none
    | _ => if s.budget.elapsed ≤ elapsed then some { s with budget := { s.budget with elapsed } } else none
  | .openVariant =>
    match s.phase, s.remaining with
    | .observing baseline .opening, (e, trial) :: _ => some (s.openVariant ctx baseline e trial)
    | _, _ => none
  | .guardFails failure =>
    match s.phase with
    | .observing _ (.running _ _) | .pairing _ _ => some { s.failGuard failure with phase := .declined }
    | _ => none
  | .finishFails =>
    match s.phase with
    | .observing _ (.running _ _) => s.budget.refused.map fun budget => { s with budget, phase := .declined }
    | _ => none
  | .lateGuardFails failure =>
    match s.phase with
    | .observing _ (.running _ _) | .declined => some (s.failGuard failure)
    | _ => none
  | .lateFinishFails =>
    match s.phase with
    | .observing _ _ | .declined => s.budget.refused.map fun budget => { s with budget }
    | _ => none
  | .callProvider =>
    match s.phase with
    | .observing baseline (.running request .preparing) => some (s.call .provider baseline request)
    | _ => none
  | .providerReturns =>
    match s.phase with
    | .observing baseline (.running request .providing) =>
      some { s with phase := .observing baseline (.running request .provided) }
    | _ => none
  | .callJudge =>
    match s.phase with
    | .observing baseline (.running request .provided) => some (s.call .judge baseline request)
    | _ => none
  | .judgeReturns judgment =>
    match s.phase with
    | .observing baseline (.running request .judging) =>
      some { s with phase := .observing baseline (.running request (.judged judgment)) }
    | _ => none
  | .settle evaluation =>
    match s.phase with
    | .observing baseline (.running request (.judged judgment)) =>
      some (s.settle baseline ⟨judgment, evaluation, request, request.val.inputSha256⟩)
    | _ => none
  | .variantFails =>
    match s.phase with
    | .observing _ (.running _ _) => some { s with phase := .declined }
    | _ => none
  | .keepPair =>
    match s.phase, s.remaining with
    | .pairing baseline candidate, (_, trial) :: _ => some (s.keepPair ctx (newPair baseline candidate trial))
    | _, _ => none
  | .report =>
    match s.phase with
    | .declined => some { s with phase := .reported (s.receipt ctx s.pairs (some s.blockerCode)) }
    | _ => none
  | .raise =>
    match s.phase with
    | .reported _ => none
    | _ => some { s with phase := .raised }

end LaneRun

end SkillsSdk
