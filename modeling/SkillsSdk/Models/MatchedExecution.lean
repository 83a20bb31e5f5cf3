/-
SkillsSdk/Models/MatchedExecution.lean

The receipt of one lane of a matched comparison: the pairs that were observed,
how many callbacks they took, and why the lane stopped.

A calibration bundle and the digests of whole plans and judgments are taken as
they come (`MatchedHost`): nothing here looks inside them.
-/
import SkillsSdk.Models.MatchedComparison

namespace SkillsSdk

/-! ### Blockers -/

structure PackageSafetyBlockerData where
  code : BlockerCode
  message : NonEmptyText
  evidenceRefs : List PortablePath
  deriving DecidableEq

def PackageSafetyBlockerData.validate (b : PackageSafetyBlockerData) : Except ValidationError Unit :=
  validateWith "PackageSafetyBlocker"
    (check (publicTextIsRedactionSafe b.code.val) "code"
        "safety blocker text must not contain credential-shaped values" ++
      check (publicTextIsRedactionSafe b.message.val) "message"
        "safety blocker text must not contain credential-shaped values" ++
      check b.evidenceRefs.Nodup "evidence_refs" "safety blocker evidence refs must be unique" ++
      check (b.evidenceRefs.all fun r => publicTextIsRedactionSafe r.val) "evidence_refs"
        "safety blocker evidence must not contain credential-shaped values") []

abbrev PackageSafetyBlocker := Accepted PackageSafetyBlockerData.validate

/-! ### Variants -/

inductive MatchedVariant where
  | baseline
  | candidate
  deriving DecidableEq

def MatchedVariant.value : MatchedVariant → String
  | baseline => "baseline"
  | candidate => "candidate"

/-- What `_dimension_digest` reads of a judgment: all but the reference to its own result. -/
structure JudgmentPayload where
  candidate : PackageCandidateIdentity
  scenarioSetId : NonEmptyText
  caseId : NonEmptyText
  provider : ProviderIdentityV2
  outputSha256 : Sha256
  assertionContractSha256 : Sha256
  judge : ProviderIdentityV2
  satisfiedAssertionIds : List NonEmptyText
  evidenceRefs : List PortablePath
  dimensions : List MatchedDimensionJudgment
  confidence : Confidence
  deriving DecidableEq

/-- `reference.startswith("judge-results/")`. -/
def isResultRef (reference : PortablePath) : Bool := "judge-results/".toList.isPrefixOf reference.val

def MatchedVariantJudgment.payload (j : MatchedVariantJudgment) : JudgmentPayload where
  candidate := j.val.evidence.val.candidate
  scenarioSetId := j.val.evidence.val.scenarioSetId
  caseId := j.val.evidence.val.caseId
  provider := j.val.evidence.val.provider
  outputSha256 := j.val.evidence.val.outputSha256
  assertionContractSha256 := j.val.evidence.val.assertionContractSha256
  judge := j.val.evidence.val.judge
  satisfiedAssertionIds := j.val.evidence.val.satisfiedAssertionIds
  evidenceRefs := j.val.evidence.val.evidenceRefs.filter fun r => !isResultRef r
  dimensions := j.val.dimensions
  confidence := j.val.confidence

/-- What the receipts take from elsewhere. -/
structure MatchedHost (I : Interpreter) where
  /-- `MatchedVariantCalibrationBundle`. -/
  Bundle : Type
  bundleEq : DecidableEq Bundle
  /-- `_require_variant_calibration` accepts the bundle. -/
  calibrates : MatchedComparisonPlan I → MatchedLaneSpec → MatchedVariant → Bundle → Bool
  /-- `MatchedComparisonPlan.digest`. -/
  planDigest : MatchedComparisonPlan I → Sha256
  /-- The digest that `_dimension_digest` takes. -/
  dimensionDigest : MatchedComparisonRubric I.arithmetic → JudgmentPayload → Sha256

attribute [instance] MatchedHost.bundleEq

variable {I : Interpreter}

/-! ### Trials -/

/-- `matched_trial_identity`: the request id and the idempotency digest. -/
def matchedTrialIdentity (sha256 : List UInt8 → Sha256) (planSha256 : Sha256) (lane : MatchedLane)
    (caseId : Text) (variant : MatchedVariant) (trialIndex : Nat) : Text × Sha256 :=
  let digest := canonicalJsonSha256 sha256 (.obj [
    field "schema_version" (jsonLit "matched-trial-identity/v1"),
    field "plan_sha256" (jsonText planSha256.val),
    field "lane" (jsonLit lane.value),
    field "case_id" (jsonText caseId),
    field "variant" (jsonLit variant.value),
    field "trial_index" (.int trialIndex)])
  ("matched-trial-".toList ++ digest.val, digest)

structure MatchedExecutedPair where
  caseId : Text
  trialIndex : Nat
  baseline : MatchedVariantJudgment
  candidate : MatchedVariantJudgment
  baselineEvaluation : EvaluationReceiptV2
  candidateEvaluation : EvaluationReceiptV2
  baselineRequest : ProviderExecutionRequest
  candidateRequest : ProviderExecutionRequest
  baselineInputSha256 : Sha256
  candidateInputSha256 : Sha256
  deriving DecidableEq

/-- One variant of a pair. -/
structure MatchedObservation where
  judgment : MatchedVariantJudgment
  evaluation : EvaluationReceiptV2
  request : ProviderExecutionRequest
  inputSha256 : Sha256
  deriving DecidableEq

def MatchedExecutedPair.observation (p : MatchedExecutedPair) : MatchedVariant → MatchedObservation
  | .baseline => ⟨p.baseline, p.baselineEvaluation, p.baselineRequest, p.baselineInputSha256⟩
  | .candidate => ⟨p.candidate, p.candidateEvaluation, p.candidateRequest, p.candidateInputSha256⟩

namespace MatchedObservation

/-- `_require_trial_requests`, of one variant. -/
def requestRules (sha256 : List UInt8 → Sha256) (o : MatchedObservation) (planSha256 : Sha256)
    (lane : MatchedLane) (caseId : Text) (variant : MatchedVariant) (trialIndex : Nat) :
    List (Bool × String) :=
  let identity := matchedTrialIdentity sha256 planSha256 lane caseId variant trialIndex
  let request := o.request.val
  let evidence := o.judgment.val.evidence.val
  [violation (request.status ≠ .prepared ∨ request.declaredCapability ≠ .responseGeneration ∨
      request.requestId.val ≠ identity.1 ∨ request.idempotencyKeySha256 ≠ identity.2 ∨
      request.candidate ≠ evidence.candidate ∨ request.provider ≠ evidence.provider ∨
      request.scenarioSetId.val ≠ evidence.scenarioSetId.val ∨ request.caseId.val ≠ caseId ∨
      request.inputSha256 ≠ o.inputSha256)
    "matched trial requires its unique bound observed request"]

/-- The evaluation is that of the selected-case route, bound to the judgment. -/
def evaluationIsBound (o : MatchedObservation) (caseId : Text) : Prop :=
  let evaluation := o.evaluation.val
  let evidence := o.judgment.val.evidence.val
  let scorer := evaluation.scorer.val
  evaluation.status ≠ .blocked ∧ evaluation.candidate = evidence.candidate ∧
    evaluation.provider = some evidence.provider ∧ evaluation.scenarioSetId = evidence.scenarioSetId ∧
    scorer.passThreshold.val = 1 ∧ scorer.scorerId.val = "selected-case-deterministic-v1".toList ∧
    scorer.versionOrDigest.val = "selected-case-v1".toList ∧ scorer.deterministicChecksFirst = true ∧
    scorer.calibrationRequired = false ∧ scorer.calibrationProbeIds = [] ∧
    evaluation.completedCalibrationProbeIds = [] ∧
    (evaluation.caseResults.map fun r => (r.val.caseId.val, r.val.observationSha256)) =
      [(caseId, some evidence.outputSha256)]

instance (o : MatchedObservation) (caseId : Text) : Decidable (o.evaluationIsBound caseId) :=
  inferInstanceAs (Decidable (_ ∧ _))

/-- `public_values` of a case result. -/
def publicValues (r : ScenarioCaseResultV2) : List Text :=
  r.val.evidenceRefs.map Subtype.val ++ r.val.missingSignals.map Subtype.val ++
    r.val.forbiddenCommandsObserved.map Subtype.val

/-- `_require_selected_result`. -/
def resultRules (o : MatchedObservation) : List (Bool × String) :=
  let judge := o.judgment.val.evidence.val.judge.val
  o.evaluation.val.caseResults.flatMap fun r =>
    [violation (r.val.runnerId.val ≠ judge.adapterId ∨
        r.val.runnerVersionOrDigest.val ≠ judge.adapterVersionOrDigest ∨
        r.val.expectedOutputSha256 ≠ none ∨ r.val.outputDigestMismatch = true)
      "matched result requires its actual judge runner and expected-signal oracle",
    violation ((publicValues r).any fun value => !isNormalizedPublic value)
      "matched result evidence must be normalized and public"]

/-- `_dimension_score` raises on the judgment. -/
def dimensionRules {A : DecimalArithmetic} (rubric : MatchedComparisonRubric A)
    (judgment : MatchedVariantJudgment) : List (Bool × String) :=
  [violation (judgment.dimensionIds ≠ rubric.val.dimensionIds)
      "calibration must cover every rubric dimension exactly once",
    violation (judgment.quotesForeignEvidence = true)
      "calibration dimensions must reference retained judge evidence",
    violation (judgment.val.dimensions.any fun row => row.val.evidenceRefs.any isResultRef)
      "calibration dimensions require underlying evidence, not the derived result reference",
    violation (judgment.val.confidence.rank < rubric.val.minimumConfidence.rank)
      "calibration judgment confidence is below the frozen rubric policy"]

/-- The rules of one variant of a retained pair. -/
def judgmentRules (H : MatchedHost I) (rubric : MatchedComparisonRubric I.arithmetic)
    (o : MatchedObservation) (caseId : Text) : List (Bool × String) :=
  let evidence := o.judgment.val.evidence.val
  [violation (¬ o.evaluationIsBound caseId)
      "matched pair requires the bound selected-case evaluation receipt",
    violation (evidence.caseId.val ≠ caseId)
      "matched pair must retain judgments for its declared case"] ++
  o.resultRules ++ dimensionRules rubric o.judgment ++
  [violation (evidence.judgeResultSha256 ≠ H.dimensionDigest rubric o.judgment.payload)
      "matched execution requires complete rubric-bound judgments",
    violation ((evidence.evidenceRefs.filter isResultRef).map Subtype.val ≠
        ["judge-results/".toList ++ evidence.judgeResultSha256.val])
      "matched execution requires its bound dimensional result reference"]

end MatchedObservation

/-! ### Receipts -/

inductive LaneStatus where
  | completed
  | blocked
  deriving DecidableEq

structure MatchedExecutionReceiptData (H : MatchedHost I) where
  plan : Option (MatchedComparisonPlan I)
  lane : Option MatchedLane
  status : LaneStatus
  calibrations : List H.Bundle
  pairs : List MatchedExecutedPair
  providerInvocationCount : Nat
  judgeInvocationCount : Nat
  elapsedSeconds : ℚ
  blocker : Option PackageSafetyBlocker
  deriving DecidableEq

/-- The specification of a lane, which every plan declares. -/
def MatchedComparisonPlan.specification? (plan : MatchedComparisonPlan I) (lane : MatchedLane) :
    Option MatchedLaneSpec := plan.val.lanes.find? (·.val.lane = lane)

/-- The planned pairs of a lane, case by case and in each trial by trial. -/
def MatchedComparisonPlan.planned (plan : MatchedComparisonPlan I) (specification : MatchedLaneSpec) :
    List (MatchedCaseBinding × Nat) :=
  plan.val.caseBindings.flatMap fun binding =>
    (List.range specification.trialCount).map fun trial => (binding, trial)

/-- The codes of a blocker that stops a lane before its first callback. -/
def inputBlockerCodes : List Text :=
  ["invalid_matched_execution".toList, "matched_cost_budget_unavailable".toList,
    "matched_run_budget_insufficient".toList, "matched_plugin_safety_evidence_required".toList,
    "matched_plugin_safety_rejected".toList]

/-- The codes of a blocker that stops a lane later. -/
def executionBlockerCodes : List Text :=
  ["matched_execution_incomplete".toList, "matched_plugin_source_changed".toList,
    "matched_plugin_safety_changed".toList, "matched_time_budget_exhausted".toList,
    "matched_provider_budget_exhausted".toList, "matched_judge_budget_exhausted".toList]

namespace MatchedExecutionReceiptData

variable {H : MatchedHost I} (r : MatchedExecutionReceiptData H)

/-- The code of the blocker. -/
def code : Option Text := r.blocker.map (·.val.code.val)

/-- How the counts stand to the retained pairs. -/
def countRules : List (Bool × String) :=
  let minimum := 2 * r.pairs.length
  [violation (¬ (minimum ≤ r.judgeInvocationCount ∧ r.judgeInvocationCount ≤ r.providerInvocationCount))
      "matched observations require actual provider then judge coverage",
    violation (minimum + 2 < r.providerInvocationCount)
      "first-stop matched execution can retain at most one unfinished pair",
    violation (r.providerInvocationCount = minimum + 2 ∧ r.judgeInvocationCount < minimum + 1)
      "candidate provider requires the preceding baseline judge invocation"]

/-- `_require_budget_evidence`. -/
def budgetRules (specification : MatchedLaneSpec) : List (Bool × String) :=
  let budget := specification.val.budget.val
  let required := specification.trialCount * 20
  [violation (budget.maximumProviderInvocations < r.providerInvocationCount ∨
        budget.maximumJudgeInvocations < r.judgeInvocationCount)
      "matched observations cannot exceed their callback budgets",
    violation (r.code = some "matched_cost_budget_unavailable".toList ∧ budget.maximumReportedCost = none)
      "cost-budget blocker requires an actual requested cost bound",
    violation (budget.maximumReportedCost ≠ none ∧
        r.code ≠ some "matched_cost_budget_unavailable".toList ∧
        r.code ≠ some "invalid_matched_execution".toList)
      "unsupported cost budgets cannot admit callbacks",
    violation (r.code = some "matched_run_budget_insufficient".toList ∧
        required ≤ min budget.maximumProviderInvocations budget.maximumJudgeInvocations)
      "run-budget blocker requires inadequate declared coverage",
    violation (r.code = some "matched_time_budget_exhausted".toList ∧
        r.elapsedSeconds < budget.maximumElapsedSeconds)
      "time-budget blocker requires the elapsed admission deadline",
    violation (r.status = .completed ∧ budget.maximumElapsedSeconds ≤ r.elapsedSeconds)
      "completed execution cannot exceed its elapsed admission budget",
    violation (r.code = some "matched_provider_budget_exhausted".toList ∧
        r.providerInvocationCount ≠ budget.maximumProviderInvocations)
      "provider-budget blocker requires exhausted callback allowance",
    violation (r.code = some "matched_judge_budget_exhausted".toList ∧
        r.judgeInvocationCount ≠ budget.maximumJudgeInvocations)
      "judge-budget blocker requires exhausted callback allowance"]

/-- The rules of a receipt that is bound to no lane. -/
def unboundRules : List (Bool × String) :=
  [violation (r.status ≠ .blocked ∨ r.pairs ≠ [] ∨ r.providerInvocationCount ≠ 0 ∨ r.calibrations ≠ [])
    "unbound matched receipt requires a pre-execution blocker"]

/-- The calibrations of a bound receipt. -/
def calibrationRules (plan : MatchedComparisonPlan I) (specification : MatchedLaneSpec) :
    List (Bool × String) :=
  if r.calibrations = [] then
    [violation (r.providerInvocationCount ≠ 0) "matched invocations require retained calibration evidence"]
  else
    violation (r.calibrations.length ≠ 2) "matched receipt requires both frozen calibrations" ::
    (List.zipWith (fun variant bundle =>
      violation (H.calibrates plan specification variant bundle = false)
        "calibration bundle differs from the frozen plugin, modes, judge or commitment")
      [.baseline, .candidate] r.calibrations)

/-- `_matched_pair_values` raises on the pair. -/
def comparisonRules (plan : MatchedComparisonPlan I) (lane : MatchedLane) (pair : MatchedExecutedPair) :
    List (Bool × String) :=
  [violation ((matchedPairValues plan lane pair.baseline pair.candidate).isOk = false)
    "matched judgments require a complete comparison"]

/-- The rules of one retained pair. -/
def pairRules (plan : MatchedComparisonPlan I) (lane : MatchedLane) (pair : MatchedExecutedPair)
    (binding : MatchedCaseBinding) (trial : Nat) : List (Bool × String) :=
  let requests (variant : MatchedVariant) := (pair.observation variant).requestRules I.sha256
    (H.planDigest plan) lane pair.caseId variant pair.trialIndex
  [violation ((pair.caseId, pair.trialIndex) ≠ (binding.val.caseId.val, trial))
      "matched execution must retain its ordered case/trial prefix",
    violation (pair.baselineInputSha256 ≠ binding.val.baselineInputSha256 ∨
        pair.candidateInputSha256 ≠ binding.val.candidateInputSha256)
      "matched observations require the frozen variant input digests"] ++
  comparisonRules plan lane pair ++ requests .baseline ++ requests .candidate ++
  (pair.observation .baseline).judgmentRules H plan.val.rubric pair.caseId ++
  (pair.observation .candidate).judgmentRules H plan.val.rubric pair.caseId

/-- The rules of a receipt that is bound to a lane. -/
def boundRules (plan : MatchedComparisonPlan I) (lane : MatchedLane) (specification : MatchedLaneSpec) :
    List (Bool × String) :=
  let expected := plan.planned specification
  r.budgetRules specification ++ r.calibrationRules plan specification ++
  violation (expected.length < r.pairs.length ∨ 2 * expected.length < r.providerInvocationCount)
    "matched execution cannot exceed its declared coverage" ::
  ((r.pairs.zip expected).flatMap fun p => pairRules (H := H) plan lane p.1 p.2.1 p.2.2) ++
  [violation (r.status = .completed ∧
      (r.pairs.length ≠ expected.length ∨ r.judgeInvocationCount ≠ 2 * expected.length))
    "completed matched lane requires all declared pairs and invocations"]

/-- The plan and the lane of a bound receipt, with its specification. -/
def binding? : Option (MatchedComparisonPlan I × MatchedLane × MatchedLaneSpec) :=
  r.plan.bind fun plan => r.lane.bind fun lane =>
    (plan.specification? lane).map fun specification => (plan, lane, specification)

/-- The blocker describes what the receipt retains. -/
def blockerRules : List (Bool × String) :=
  match r.status with
  | .completed =>
    [violation (r.blocker ≠ none ∨ r.calibrations.length ≠ 2)
      "completed matched execution requires both calibrations and no blocker"]
  | .blocked =>
    match r.code with
    | none => [violation True "blocked matched execution requires a typed blocker"]
    | some code =>
      if code ∈ inputBlockerCodes then
        [violation (r.pairs ≠ [] ∨ r.calibrations ≠ [] ∨ r.providerInvocationCount ≠ 0)
            "input blocker cannot retain completed matched observations",
          violation (r.elapsedSeconds ≠ 0) "input blocker cannot claim callback elapsed time"]
      else if code ∈ executionBlockerCodes then
        [violation (r.calibrations.length ≠ 2 ∨
            (r.binding?.all fun b => decide (r.pairs.length = (b.1.planned b.2.2).length)) = true)
          "execution blocker requires an unfinished bound batch"]
      else [violation True "matched blocker must describe its retained evidence"]

/-- `observations_match_declared_prefix`. -/
def observationsMatchDeclaredPrefix : List (Bool × String) :=
  r.countRules ++
  (match r.binding? with
  | none => r.unboundRules
  | some (plan, lane, specification) => r.boundRules plan lane specification) ++
  r.blockerRules

def validate : Except ValidationError Unit :=
  validateWith "MatchedExecutionReceipt"
    (check (r.calibrations.length ≤ 2) "calibrations" "Tuple should have at most 2 items" ++
      check (r.pairs.length ≤ 60) "pairs" "Tuple should have at most 60 items" ++
      check (r.providerInvocationCount ≤ 128) "provider_invocation_count"
        "Input should be less than or equal to 128" ++
      check (r.judgeInvocationCount ≤ 128) "judge_invocation_count"
        "Input should be less than or equal to 128" ++
      check (0 ≤ r.elapsedSeconds) "elapsed_seconds" "Input should be greater than or equal to 0")
    r.observationsMatchDeclaredPrefix

end MatchedExecutionReceiptData

abbrev MatchedExecutionReceipt (H : MatchedHost I) := Accepted (@MatchedExecutionReceiptData.validate I H)

namespace MatchedExecutionReceipt

variable {H : MatchedHost I} (r : MatchedExecutionReceipt H)

/-- `_pair_regression_required`. -/
def pairRegressionRequired (pair : MatchedExecutedPair) : Except PairRaised Bool :=
  match r.val.plan, r.val.lane with
  | some plan, some lane => do
    let values ← matchedPairValues plan lane pair.baseline pair.candidate
    return decide (values.candidateScore < values.baselineScore)
  | _, _ => .error (.valueError "matched receipt has no bound comparison".toList)

/-- Some check of the candidate did not pass. -/
def candidateFails (pair : MatchedExecutedPair) : Bool :=
  decide (pair.candidateEvaluation.val.status ≠ .pass) ||
    pair.candidateEvaluation.val.caseResults.any fun result => decide (result.val.status ≠ .pass)

/-- `requires_regression`, pair by pair. -/
def regressionAmong : List MatchedExecutedPair → Except PairRaised Bool
  | [] => .ok false
  | pair :: pairs => do
    if candidateFails pair then return true
    if ← r.pairRegressionRequired pair then return true
    regressionAmong pairs

/-- `requires_regression`. -/
def requiresRegression : Except PairRaised Bool := r.regressionAmong r.val.pairs

/-- One case of the lane, as the summary observes it. -/
def caseObservation (plan : MatchedComparisonPlan I) (binding : MatchedCaseBinding) : CaseObservation :=
  let A := I.arithmetic
  let rubric := plan.val.rubric
  let pairs := r.val.pairs.filter fun pair => decide (pair.caseId = binding.val.caseId.val)
  { caseId := binding.val.caseId.val
    deltas := pairs.map fun pair =>
      A.toFloat (A.sub (matchedWeightedScore A pair.candidate rubric) (matchedWeightedScore A pair.baseline rubric))
    confidence := pairs.map fun pair =>
      decide (rubric.val.minimumConfidence.rank ≤
        min pair.baseline.val.confidence.rank pair.candidate.val.confidence.rank) }

/-- `summary`. -/
def summary : Except ValueRaised (Option (MatchedLaneSummary I.arithmetic)) :=
  match r.val.status, r.val.plan with
  | .completed, some plan => do
    let summary ← buildMatchedLaneSummary I.arithmetic (plan.val.caseBindings.map (r.caseObservation plan))
      plan.val.selectionPolicy plan.val.rubric.val.minimumNormalizedDelta
    return some summary
  | _, _ => .ok none

end MatchedExecutionReceipt

end SkillsSdk
