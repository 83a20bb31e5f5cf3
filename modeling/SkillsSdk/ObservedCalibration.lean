/-
SkillsSdk/ObservedCalibration.lean

The observed calibration of a judge: the batch is admitted, then every probe is
judged trial by trial, and the first case that does not end in a judgment stops
the run.

    executeScorerCalibration_observed   (CalibrationLaws) there is a receipt, and it
                                        says what was observed, or why nothing was

What happens while a case is executed is a `CaseRun`: the calls of the judge in
the order they came, with everything the adapter returned, and how the executor
came back.  Nothing ties the two together, so the results hold for any executor.

Whatever the run reads may raise.  What `except (AttributeError, TypeError,
ValueError, ContractError)` takes becomes a receipt; the rest, such as the
`RecursionError` of hashing a deep payload or a cancellation, leaves the run.
-/
import SkillsSdk.Models.ObservedCalibration

namespace SkillsSdk

/-! ### Blockers -/

/-- What `assess_pre_execution_safety` answers, with its default clock and freshness. -/
inductive ExecutionSafetyCode where
  | evidenceRequired
  | requestBlocked
  | invalidEvidence
  | predatesBuild
  | reviewRequired
  | evidenceFuture
  | evidenceStale
  | sourceChanged
  | invalidSource
  | screeningMismatch
  deriving DecidableEq

def ExecutionSafetyCode.value : ExecutionSafetyCode → String
  | evidenceRequired => "package_safety_evidence_required"
  | requestBlocked => "provider_request_blocked"
  | invalidEvidence => "invalid_package_safety_evidence"
  | predatesBuild => "package_safety_evidence_predates_build"
  | reviewRequired => "package_safety_review_required"
  | evidenceFuture => "package_safety_evidence_future"
  | evidenceStale => "package_safety_evidence_stale"
  | sourceChanged => "security_source_changed"
  | invalidSource => "invalid_security_source"
  | screeningMismatch => "security_screening_mismatch"

/-- The codes that a calibration stops with. -/
inductive CalibrationBlockerCode where
  | invalidInput
  | executionCoverage
  | invalidExecution
  | trialCoverage
  | capabilityReuse
  | candidateOrRubricMismatch
  | inputMismatch
  | requestMismatch
  | safety (code : ExecutionSafetyCode)
  | executionFailed
  | executionIncomplete
  | policyFailed
  deriving DecidableEq

def CalibrationBlockerCode.value : CalibrationBlockerCode → String
  | invalidInput => "invalid_calibration_input"
  | executionCoverage => "calibration_execution_coverage"
  | invalidExecution => "invalid_calibration_execution"
  | trialCoverage => "calibration_trial_coverage"
  | capabilityReuse => "calibration_capability_reuse"
  | candidateOrRubricMismatch => "calibration_candidate_or_rubric_mismatch"
  | inputMismatch => "calibration_input_mismatch"
  | requestMismatch => "calibration_request_mismatch"
  | safety code => code.value
  | executionFailed => "calibration_execution_failed"
  | executionIncomplete => "calibration_execution_incomplete"
  | policyFailed => "calibration_policy_failed"

section

set_option maxRecDepth 4000

/-- The message of every calibration blocker. -/
def calibrationMessage : NonEmptyText :=
  ⟨"Observed calibration requires complete bound execution evidence.".toList, by decide +kernel⟩

theorem calibrationMessage_public : publicTextIsRedactionSafe calibrationMessage.val = true :=
  lifecycleTextIsPublicSafe_ofList (by decide +kernel)

theorem CalibrationBlockerCode.isBlockerCode_value (code : CalibrationBlockerCode) :
    isBlockerCode code.value.toList = true := by
  cases code with
  | safety code => cases code <;> decide +kernel
  | _ => decide +kernel

theorem CalibrationBlockerCode.value_public (code : CalibrationBlockerCode) :
    publicTextIsRedactionSafe code.value.toList = true := by
  cases code with
  | safety code => cases code <;> exact lifecycleTextIsPublicSafe_ofList (by decide +kernel)
  | _ => exact lifecycleTextIsPublicSafe_ofList (by decide +kernel)

/-- The blocker of a calibration receipt with a code. -/
def calibrationBlocker (code : CalibrationBlockerCode) : PackageSafetyBlocker :=
  ⟨⟨⟨code.value.toList, code.isBlockerCode_value⟩, calibrationMessage, []⟩,
    validateWith_eq_ok.mpr ⟨by simp [code.value_public, calibrationMessage_public], by simp⟩⟩

end

/-! ### Admission -/

/-- `CalibrationTrialAdapters`, by the identities of the two objects; `None` has none. -/
structure CalibrationTrialAdapters where
  provider : Option Nat
  judge : Option Nat

/-- An exception, by what the handlers of the run make of it. -/
inductive CalibrationRaised where
  | caught
  | escaped
  deriving DecidableEq

/-- `CalibrationProbeExecution`, with what the preflight reads of it or raises on the way. -/
structure CalibrationProbeExecution where
  first : CalibrationTrialAdapters
  /-- The later pairs, when they are a tuple; each, when it is a pair of adapters. -/
  trialAdapters : Option (List (Option CalibrationTrialAdapters))
  inputsTyped : Bool
  /-- The candidate and the assertion contract of the revalidated definition. -/
  definition : Except CalibrationRaised (PackageCandidateIdentity × Sha256)
  /-- The candidate and the input digest of the revalidated request. -/
  request : Except CalibrationRaised (PackageCandidateIdentity × Sha256)
  /-- `canonical_json_sha256(item.inputs.payload)`. -/
  payloadSha256 : Except CalibrationRaised Sha256
  matchesDefinition : Except CalibrationRaised Bool
  safety : Except CalibrationRaised (Option ExecutionSafetyCode)

/-- `_trial_schedule`. -/
def CalibrationProbeExecution.trialSchedule (item : CalibrationProbeExecution) : List CalibrationTrialAdapters :=
  item.first :: (item.trialAdapters.getD []).filterMap id

/-- Every capability is there, and none has been seen. -/
def claimCapabilities (seen : List Nat) : List (Option Nat) → Option (List Nat)
  | [] => some seen
  | none :: _ => none
  | some capability :: rest =>
    if capability ∈ seen then none else claimCapabilities (capability :: seen) rest

/-- The capabilities of an item, in the order of its trials. -/
def CalibrationProbeExecution.capabilities (item : CalibrationProbeExecution) : List (Option Nat) :=
  item.trialSchedule.flatMap fun pair => [pair.provider, pair.judge]

/-- The loop of `_capability_schedule_problem`. -/
def scheduleProblem (plan : ObservedCalibrationPlan) (seen : List Nat) :
    List (Option CalibrationProbeExecution) → Option CalibrationBlockerCode
  | [] => none
  | none :: _ => some .invalidExecution
  | some item :: rest =>
    match item.trialAdapters with
    | none => some .trialCoverage
    | some pairs =>
      if pairs.length ≠ plan.val.parameters.val.trialCount - 1 then some .trialCoverage
      else if pairs.any (·.isNone) then some .invalidExecution
      else
        match claimCapabilities seen item.capabilities with
        | none => some .capabilityReuse
        | some seen => scheduleProblem plan seen rest

/-- `_capability_schedule_problem`; the executions are none when they are no tuple. -/
def capabilityScheduleProblem (plan : ObservedCalibrationPlan)
    (executions : Option (List (Option CalibrationProbeExecution))) : Option CalibrationBlockerCode :=
  match executions with
  | none => some .executionCoverage
  | some items =>
    if items.length ≠ plan.val.probes.length then some .executionCoverage else scheduleProblem plan [] items

/-- The checks of one item. -/
def itemProblem (plan : ObservedCalibrationPlan) (item : CalibrationProbeExecution) :
    Except CalibrationRaised (Option CalibrationBlockerCode) :=
  if item.inputsTyped = false then .ok (some .invalidExecution)
  else do
    let definition ← item.definition
    let request ← item.request
    if definition.1 ≠ plan.val.candidate ∨ request.1 ≠ plan.val.candidate ∨
        definition.2 ≠ plan.val.assertionContractSha256 then
      .ok (some .candidateOrRubricMismatch)
    else
      let payload ← item.payloadSha256
      if payload ≠ request.2 then .ok (some .inputMismatch)
      else
        let matchesDefinition ← item.matchesDefinition
        if matchesDefinition = false then .ok (some .requestMismatch)
        else
          let safety ← item.safety
          .ok (safety.map .safety)

/-- The items one by one, up to the first problem. -/
def itemsProblem (plan : ObservedCalibrationPlan) :
    List CalibrationProbeExecution → Except CalibrationRaised (Option CalibrationBlockerCode)
  | [] => .ok none
  | item :: rest =>
    match itemProblem plan item with
    | .ok none => itemsProblem plan rest
    | problem => problem

/-- The items, without those of another type. -/
def typedItems (executions : Option (List (Option CalibrationProbeExecution))) : List CalibrationProbeExecution :=
  (executions.getD []).filterMap id

/-- `_preflight`. -/
def preflightCalibration (plan : ObservedCalibrationPlan)
    (executions : Option (List (Option CalibrationProbeExecution))) :
    Except CalibrationRaised (Option CalibrationBlockerCode) :=
  match capabilityScheduleProblem plan executions with
  | some problem => .ok (some problem)
  | none => itemsProblem plan (typedItems executions)

/-! ### Judging -/

/-- One call of the judge: what it was given, and what its adapter answered. -/
structure JudgeCall where
  outputSha256 : Sha256
  callable : Bool
  /-- The identity and the settings of the adapter before the call; none when they are refused. -/
  identityBefore : Option (ProviderIdentityV2 × ScorerJudgeParameters)
  /-- What the callback returned; none when it raised, or returned no verdict. -/
  verdict : Option CalibrationJudgeVerdict
  identityAfter : Option (ProviderIdentityV2 × ScorerJudgeParameters)

/-- `_CalibrationJudge`. -/
structure CalibrationFrame where
  result : Option ObservedCalibrationProbeResult := none
  invoked : Bool := false

/-- `_CalibrationJudge.identity`. -/
def frameIdentity (plan : ObservedCalibrationPlan) (read : Option (ProviderIdentityV2 × ScorerJudgeParameters)) :
    Option ProviderIdentityV2 :=
  read.bind fun adapter =>
    if adapter.1 ≠ plan.val.judge ∨ adapter.2 ≠ plan.val.parameters then none else some adapter.1

/-- `ObservedCalibrationProbeResult(…)`. -/
def probeResult (plan : ObservedCalibrationPlan) (slot : CalibrationSlot) (call : JudgeCall)
    (verdict : CalibrationJudgeVerdict) : Except ValidationError ObservedCalibrationProbeResult :=
  construct ObservedCalibrationProbeResultData.validate
    { probeId := slot.1.probeId
      trialIndex := slot.2
      outputSha256 := call.outputSha256
      expectedLabel := slot.1.expectedLabel
      predictedLabel := predictedLabel plan.val.policy verdict.val.score
      score := verdict.val.score
      judgeResultSha256 := verdict.val.dumpSha256 }

/-- The rest of a call, from the answer of the callback on. -/
def CalibrationFrame.settle (plan : ObservedCalibrationPlan) (slot : CalibrationSlot) (f : CalibrationFrame)
    (before : ProviderIdentityV2) (call : JudgeCall) : CalibrationFrame :=
  if frameIdentity plan call.identityAfter ≠ some before then f
  else
    match call.verdict with
    | none => f
    | some verdict =>
      match probeResult plan slot call verdict with
      | .ok result => { f with result := some result }
      | .error _ => f

/-- `_CalibrationJudge.judge`. -/
def CalibrationFrame.judge (plan : ObservedCalibrationPlan) (slot : CalibrationSlot) (f : CalibrationFrame)
    (call : JudgeCall) : CalibrationFrame :=
  if call.outputSha256 ≠ slot.1.outputSha256 then f
  else if call.callable = false then f
  else
    match frameIdentity plan call.identityBefore with
    | none => f
    | some before => { f with invoked := true }.settle plan slot before call

/-- How `execute_selected_case_with_judge` comes back. -/
inductive CaseEnd where
  | raised (exc : CalibrationRaised)
  | returned (isBlocked : Bool)
  deriving DecidableEq

/-- The execution of one case. -/
structure CaseRun where
  calls : List JudgeCall
  ended : CaseEnd

/-- A slot, and what happens in it. -/
abbrev CalibrationStep := CalibrationSlot × CaseRun

/-- The frame at the end of a step. -/
def frameOf (plan : ObservedCalibrationPlan) (step : CalibrationStep) : CalibrationFrame :=
  step.2.calls.foldl (CalibrationFrame.judge plan step.1) {}

/-! ### The run -/

/-- What leaves the run: a receipt that its model refuses, or an exception that no handler takes. -/
inductive CalibrationEscape where
  | validationError (e : ValidationError)
  | escaped

/-- `_blocked`. -/
def blockedCalibration (code : CalibrationBlockerCode) (plan : Option ObservedCalibrationPlan)
    (results : List ObservedCalibrationProbeResult) (invocationCount : Nat) :
    Except CalibrationEscape ObservedCalibrationReceipt :=
  (construct ObservedCalibrationReceiptData.validate
    { plan
      status := .blocked
      results
      blocker := some (calibrationBlocker code)
      judgeInvocationCount := invocationCount
      judgeExecutionPerformed := decide (0 < invocationCount) }).mapError .validationError

/-- The receipt of a finished run, or the one of a policy that it fails. -/
def finishCalibration (plan : ObservedCalibrationPlan) (results : List ObservedCalibrationProbeResult)
    (invocationCount : Nat) : Except CalibrationEscape ObservedCalibrationReceipt :=
  match construct ObservedCalibrationReceiptData.validate
    { plan := some plan
      status := .pass
      results
      blocker := none
      judgeInvocationCount := invocationCount
      judgeExecutionPerformed := true } with
  | .ok receipt => .ok receipt
  | .error _ => blockedCalibration .policyFailed (some plan) results invocationCount

/-- The result of a step that ends in a judgment. -/
def completedResult? (plan : ObservedCalibrationPlan) (step : CalibrationStep) :
    Option ObservedCalibrationProbeResult :=
  if step.2.ended = .returned false then (frameOf plan step).result else none

/-- The loop over the expanded schedule. -/
def observe (plan : ObservedCalibrationPlan) (results : List ObservedCalibrationProbeResult) (invocationCount : Nat) :
    List CalibrationStep → Except CalibrationEscape ObservedCalibrationReceipt
  | [] => finishCalibration plan results invocationCount
  | step :: rest =>
    let invocationCount := invocationCount + (frameOf plan step).invoked.toNat
    match step.2.ended with
    | .raised .escaped => .error .escaped
    | .raised .caught => blockedCalibration .executionFailed (some plan) results invocationCount
    | .returned _ =>
      match completedResult? plan step with
      | none => blockedCalibration .executionIncomplete (some plan) results invocationCount
      | some result => observe plan (results ++ [result]) invocationCount rest

/-- `expanded`, without the adapters. -/
def expandedSlots (plan : ObservedCalibrationPlan) (items : List CalibrationProbeExecution) : List CalibrationSlot :=
  (plan.val.probes.zip items).flatMap fun execution =>
    (List.range execution.2.trialSchedule.length).map fun trial => (execution.1, trial)

/-- The schedule, with what happens at each position of it. -/
def calibrationSteps (plan : ObservedCalibrationPlan) (items : List CalibrationProbeExecution)
    (world : Nat → CaseRun) : List CalibrationStep :=
  (expandedSlots plan items).mapIdx fun position slot => (slot, world position)

/-- `execute_scorer_calibration`, of what the validation of the plan returns or raises. -/
def executeScorerCalibration (plan : Except CalibrationRaised ObservedCalibrationPlan)
    (executions : Option (List (Option CalibrationProbeExecution))) (world : Nat → CaseRun) :
    Except CalibrationEscape ObservedCalibrationReceipt :=
  match plan with
  | .error .escaped => .error .escaped
  | .error .caught => blockedCalibration .invalidInput none [] 0
  | .ok plan =>
    match preflightCalibration plan executions with
    | .error .escaped => .error .escaped
    | .error .caught => blockedCalibration .invalidInput (some plan) [] 0
    | .ok (some problem) => blockedCalibration problem (some plan) [] 0
    | .ok none => observe plan [] 0 (calibrationSteps plan (typedItems executions) world)

end SkillsSdk
