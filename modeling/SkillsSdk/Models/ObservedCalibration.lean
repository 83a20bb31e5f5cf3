/-
SkillsSdk/Models/ObservedCalibration.lean

The plan of an observed calibration, the results of its judgments, and the
receipt, which counts the judgments again by itself.

The audit of copied members is in `CalibrationInput`; here every value is already
a model.  The digest of a verdict is taken as it comes.
-/
import SkillsSdk.Models.MatchedExecution

namespace SkillsSdk

/-! ### Policies -/

structure ScorerCalibrationAppliedPolicyData where
  threshold : Binary64
  minimumExamples : Nat
  minimumTruePositives : Nat
  minimumTrueNegatives : Nat
  maxFalsePositives : Nat
  maxFalseNegatives : Nat
  deriving DecidableEq

def ScorerCalibrationAppliedPolicyData.validate (p : ScorerCalibrationAppliedPolicyData) :
    Except ValidationError Unit :=
  let atLeastOne := "Input should be greater than or equal to 1"
  validateWith "ScorerCalibrationAppliedPolicy"
    (check (0 < p.threshold.val && p.threshold.val ≤ 1) "threshold" "Input should be between 0 and 1" ++
      check (1 ≤ p.minimumExamples) "minimum_examples" atLeastOne ++
      check (1 ≤ p.minimumTruePositives) "minimum_true_positives" atLeastOne ++
      check (1 ≤ p.minimumTrueNegatives) "minimum_true_negatives" atLeastOne) []

abbrev ScorerCalibrationAppliedPolicy := Accepted ScorerCalibrationAppliedPolicyData.validate

/-! ### Plans -/

inductive CalibrationLabel where
  | pass
  | fail
  deriving DecidableEq

/-- A label bound to the exact output that it was retained for. -/
structure HeldOutCalibrationProbe where
  probeId : NonEmptyText
  outputSha256 : Sha256
  expectedLabel : CalibrationLabel
  deriving DecidableEq

structure ObservedCalibrationPlanData where
  candidate : PackageCandidateIdentity
  scorer : ScorerProfile
  judge : ProviderIdentityV2
  parameters : ScorerJudgeParameters
  policy : ScorerCalibrationAppliedPolicy
  assertionContractSha256 : Sha256
  probes : List HeldOutCalibrationProbe
  deriving DecidableEq

namespace ObservedCalibrationPlanData

variable (p : ObservedCalibrationPlanData)

/-- The values that have to be public. -/
def publicValues : List Text :=
  ["package-candidate/v1".toList, p.candidate.packageId.val, p.candidate.sourceRevision.val,
    p.candidate.contentSha256.val, p.scorer.val.scorerId.val, p.scorer.val.versionOrDigest.val,
    p.parameters.val.model.val] ++
  p.scorer.val.calibrationProbeIds.map (·.val) ++
  ["provider-identity/v2".toList, p.judge.val.providerId, p.judge.val.providerKind.value.toList,
    p.judge.val.modelId, p.judge.val.versionOrDigest, p.judge.val.adapterId,
    p.judge.val.adapterVersionOrDigest]

/-- `bindings_and_coverage`. -/
def bindingsAndCoverage : List (Bool × String) :=
  [violation (¬ p.publicValues.all identityIsPublic) "calibration identities must be portable and public",
    violation (p.scorer.val.candidate ≠ p.candidate ∨ p.scorer.val.calibrationRequired = false)
      "observed calibration requires the candidate's calibration-required scorer",
    violation (p.probes.map (·.probeId) ≠ p.scorer.val.calibrationProbeIds)
      "held-out probes must exactly match declared scorer order",
    violation (¬ (p.probes.map (·.outputSha256)).Nodup) "held-out outputs must be distinct",
    violation (¬ ∀ label ∈ [CalibrationLabel.pass, .fail], label ∈ p.probes.map (·.expectedLabel))
      "calibration needs positive and negative held-out labels",
    violation (p.parameters.val.model.val ≠ p.judge.val.modelId) "calibration parameters must bind the judge model",
    violation (p.policy.val.threshold ≠ p.scorer.val.passThreshold) "calibration threshold must bind the scorer",
    violation (p.probes.length < p.policy.val.minimumExamples) "calibration coverage is below policy",
    violation (128 < p.probes.length * p.parameters.val.trialCount)
      "observed calibration is bounded to 128 executions"]

def validate : Except ValidationError Unit :=
  validateWith "ObservedCalibrationPlan"
    (check (2 ≤ p.probes.length && p.probes.length ≤ 64) "probes" "Tuple should have 2 to 64 items")
    p.bindingsAndCoverage

end ObservedCalibrationPlanData

abbrev ObservedCalibrationPlan := Accepted ObservedCalibrationPlanData.validate

/-- A probe and the number of a trial. -/
abbrev CalibrationSlot := HeldOutCalibrationProbe × Nat

/-- Every probe, trial by trial. -/
def ObservedCalibrationPlan.expected (plan : ObservedCalibrationPlan) : List CalibrationSlot :=
  plan.val.probes.flatMap fun probe =>
    (List.range plan.val.parameters.val.trialCount).map fun trial => (probe, trial)

/-! ### Results -/

structure CalibrationJudgeVerdictData where
  evidence : SelectedCaseJudgeEvidence
  score : Binary64
  /-- `canonical_json_sha256` of the dump. -/
  dumpSha256 : Sha256
  deriving DecidableEq

/-- A score is between 0 and 1. -/
def scoreErrors (score : Binary64) : List (Text × Text) :=
  check (0 ≤ score.val && score.val ≤ 1) "score" "Input should be between 0 and 1"

def CalibrationJudgeVerdictData.validate (v : CalibrationJudgeVerdictData) : Except ValidationError Unit :=
  validateWith "CalibrationJudgeVerdict" (scoreErrors v.score) []

abbrev CalibrationJudgeVerdict := Accepted CalibrationJudgeVerdictData.validate

structure ObservedCalibrationProbeResultData where
  probeId : NonEmptyText
  trialIndex : Nat
  outputSha256 : Sha256
  expectedLabel : CalibrationLabel
  predictedLabel : CalibrationLabel
  score : Binary64
  judgeResultSha256 : Sha256
  deriving DecidableEq

def ObservedCalibrationProbeResultData.validate (r : ObservedCalibrationProbeResultData) :
    Except ValidationError Unit :=
  validateWith "ObservedCalibrationProbeResult" (scoreErrors r.score) []

abbrev ObservedCalibrationProbeResult := Accepted ObservedCalibrationProbeResultData.validate

/-- The label of a score. -/
def predictedLabel (policy : ScorerCalibrationAppliedPolicy) (score : Binary64) : CalibrationLabel :=
  if policy.val.threshold.val ≤ score.val then .pass else .fail

/-! ### Confusion matrices -/

/-- `counts`. -/
structure ConfusionCounts where
  tp : Nat := 0
  tn : Nat := 0
  fp : Nat := 0
  fn : Nat := 0
  deriving DecidableEq

/-- `counts[key[…]] += 1`. -/
def ConfusionCounts.add (c : ConfusionCounts) (expected predicted : CalibrationLabel) : ConfusionCounts :=
  match expected, predicted with
  | .pass, .pass => { c with tp := c.tp + 1 }
  | .fail, .fail => { c with tn := c.tn + 1 }
  | .fail, .pass => { c with fp := c.fp + 1 }
  | .pass, .fail => { c with fn := c.fn + 1 }

def confusionCounts (results : List ObservedCalibrationProbeResult) : ConfusionCounts :=
  results.foldl (fun c r => c.add r.val.expectedLabel r.val.predictedLabel) {}

/-- The counts miss a limit of the policy. -/
def ConfusionCounts.Misses (c : ConfusionCounts) (policy : ScorerCalibrationAppliedPolicy) : Prop :=
  c.tp < policy.val.minimumTruePositives ∨ c.tn < policy.val.minimumTrueNegatives ∨
    policy.val.maxFalsePositives < c.fp ∨ policy.val.maxFalseNegatives < c.fn

instance (c : ConfusionCounts) (policy : ScorerCalibrationAppliedPolicy) : Decidable (c.Misses policy) :=
  inferInstanceAs (Decidable (_ ∨ _))

/-! ### Receipts -/

inductive CalibrationStatus where
  | pass
  | blocked
  deriving DecidableEq

structure ObservedCalibrationReceiptData where
  plan : Option ObservedCalibrationPlan
  status : CalibrationStatus
  results : List ObservedCalibrationProbeResult
  blocker : Option PackageSafetyBlocker
  judgeInvocationCount : Nat
  judgeExecutionPerformed : Bool
  deriving DecidableEq

namespace ObservedCalibrationReceiptData

variable (r : ObservedCalibrationReceiptData)

/-- The code of the blocker. -/
def code : Option Text := r.blocker.map (·.val.code.val)

/-- What holds of every receipt. -/
def executionRules : List (Bool × String) :=
  [violation (r.judgeExecutionPerformed ≠ decide (0 < r.judgeInvocationCount) ∨
      r.judgeInvocationCount < r.results.length)
    "executed calibration results must match execution flag"]

/-- The rules of a receipt without a plan. -/
def unplannedRules : List (Bool × String) :=
  [violation (r.results ≠ [] ∨ r.status ≠ .blocked ∨ r.blocker = none ∨ r.judgeInvocationCount ≠ 0)
      "calibration without a plan requires a pre-execution blocker",
    violation (r.code ≠ some "invalid_calibration_input".toList)
      "calibration without a plan requires an input blocker"]

/-- The rules of one result and its slot. -/
def resultRules (plan : ObservedCalibrationPlan) (result : ObservedCalibrationProbeResult)
    (slot : CalibrationSlot) : List (Bool × String) :=
  [violation (result.val.trialIndex ≠ slot.2 ∨
        (result.val.probeId, result.val.outputSha256, result.val.expectedLabel) ≠
          (slot.1.probeId, slot.1.outputSha256, slot.1.expectedLabel))
      "executed calibration must bind ordered held-out outputs",
    violation (result.val.predictedLabel ≠ predictedLabel plan.val.policy result.val.score)
      "calibration verdict must use the frozen threshold"]

/-- The rules of the results, each with its slot. -/
def orderRules (plan : ObservedCalibrationPlan) : List (Bool × String) :=
  violation (plan.expected.length < r.judgeInvocationCount)
      "calibration invocations cannot exceed the declared batch" ::
    (List.zipWith (resultRules plan) r.results plan.expected).flatten

/-- `_blocked_evidence_matches_code`. -/
def blockedEvidenceMatchesCode (plan : ObservedCalibrationPlan) : List (Bool × String) :=
  let expectedCount := plan.expected.length
  if r.code = some "calibration_policy_failed".toList then
    [violation (r.results.length ≠ expectedCount ∨ r.judgeInvocationCount ≠ expectedCount ∨
        ¬ (confusionCounts r.results).Misses plan.val.policy)
      "policy failure requires complete observed results failing the frozen policy"]
  else if r.code = some "calibration_execution_failed".toList ∨
      r.code = some "calibration_execution_incomplete".toList then
    [violation (expectedCount ≤ r.results.length) "execution failure requires an unfinished result prefix"]
  else
    [violation (r.results ≠ [] ∨ r.judgeInvocationCount ≠ 0)
      "pre-execution blockers cannot retain judge invocations"]

/-- The rules of a blocked receipt. -/
def blockedRules (plan : ObservedCalibrationPlan) : List (Bool × String) :=
  [violation (r.blocker = none) "blocked calibration requires a typed blocker",
    violation (r.results.length + 1 < r.judgeInvocationCount)
      "first-stop calibration cannot retain multiple unrecorded invocations"] ++
  r.blockedEvidenceMatchesCode plan

/-- The rules of a passing receipt. -/
def passingRules (plan : ObservedCalibrationPlan) : List (Bool × String) :=
  [violation (r.blocker ≠ none ∨ r.judgeExecutionPerformed = false)
      "passing calibration requires a complete executed plan",
    violation (r.results.length ≠ plan.expected.length ∨ r.judgeInvocationCount ≠ plan.expected.length)
      "partial calibration cannot pass",
    violation ((confusionCounts r.results).Misses plan.val.policy)
      "executed calibration does not satisfy its confusion-matrix policy"]

/-- The rules of a receipt with a plan. -/
def plannedRules (plan : ObservedCalibrationPlan) : List (Bool × String) :=
  r.orderRules plan ++ if r.status = .blocked then r.blockedRules plan else r.passingRules plan

/-- `completed_results_bind_plan`. -/
def completedResultsBindPlan : List (Bool × String) :=
  r.executionRules ++
    match r.plan with
    | none => r.unplannedRules
    | some plan => r.plannedRules plan

def validate : Except ValidationError Unit :=
  validateWith "ObservedCalibrationReceipt"
    (check (r.judgeInvocationCount ≤ 128) "judge_invocation_count" "Input should be less than or equal to 128")
    r.completedResultsBindPlan

end ObservedCalibrationReceiptData

abbrev ObservedCalibrationReceipt := Accepted ObservedCalibrationReceiptData.validate

end SkillsSdk
