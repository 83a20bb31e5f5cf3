/-
SkillsSdk/Models/MatchedComparison.lean

Matched comparison plans, supplied judgments and the values of a pair.

A plan freezes two variants of a plugin, ten cases, two model lanes and one
rubric.  A judgment scores one variant of one case; two of them make a pair,
whose scores and decision `pairValues` recomputes.
-/
import SkillsSdk.Models.MatchedScope
import SkillsSdk.Models.ProviderCall

namespace SkillsSdk

/-! ### Rubrics -/

/-- `public_strings_are_normalized`, of the fields with the given names. -/
def publicStrings (fields : List (String × Text)) : List (Text × Text) :=
  fields.flatMap fun f =>
    check (isNormalizedPublic f.2) f.1 "matched public text must be normalized and redacted"

inductive Confidence where
  | low
  | medium
  | high
  deriving DecidableEq

/-- `ranks`. -/
def Confidence.rank : Confidence → Nat
  | low => 0
  | medium => 1
  | high => 2

structure MatchedRubricDimensionData where
  dimensionId : NonEmptyText
  criterion : NonEmptyText
  weight : ℚ
  deriving DecidableEq

def MatchedRubricDimensionData.validate (d : MatchedRubricDimensionData) : Except ValidationError Unit :=
  validateWith "MatchedRubricDimension"
    (publicStrings [("dimension_id", d.dimensionId.val), ("criterion", d.criterion.val)] ++
      check (0 < d.weight && d.weight ≤ 1) "weight" "Input should be greater than 0 and at most 1") []

abbrev MatchedRubricDimension := Accepted MatchedRubricDimensionData.validate

structure MatchedComparisonRubricData where
  rubricId : NonEmptyText
  versionOrDigest : NonEmptyText
  dimensions : List MatchedRubricDimension
  minimumNormalizedDelta : ℚ
  minimumConfidence : Confidence
  deriving DecidableEq

variable (A : DecimalArithmetic)

namespace MatchedComparisonRubricData

def dimensionIds (r : MatchedComparisonRubricData) : List NonEmptyText :=
  r.dimensions.map (·.val.dimensionId)

def validate (r : MatchedComparisonRubricData) : Except ValidationError Unit :=
  validateWith "MatchedComparisonRubric"
    (publicStrings [("rubric_id", r.rubricId.val), ("version_or_digest", r.versionOrDigest.val)] ++
      check (1 ≤ r.dimensions.length && r.dimensions.length ≤ 16) "dimensions"
        "Tuple should have between 1 and 16 items" ++
      check (0 < r.minimumNormalizedDelta && r.minimumNormalizedDelta ≤ 1) "minimum_normalized_delta"
        "Input should be greater than 0 and at most 1" ++
      check (r.minimumConfidence ≠ .low) "minimum_confidence" "Input should be 'medium' or 'high'")
    [violation (¬ r.dimensionIds.Nodup ∨ decimalSum A (r.dimensions.map (·.val.weight)) ≠ 1)
      "matched rubric requires unique dimensions with weights totaling one"]

end MatchedComparisonRubricData

abbrev MatchedComparisonRubric := Accepted (MatchedComparisonRubricData.validate A)

/-! ### Cases and lanes -/

structure MatchedCaseBindingData where
  caseId : NonEmptyText
  baselineScenarioSetId : NonEmptyText
  candidateScenarioSetId : NonEmptyText
  assertionContractSha256 : Sha256
  checkContractSha256 : Sha256
  baselineInputSha256 : Sha256
  candidateInputSha256 : Sha256
  semanticSignalIds : List NonEmptyText
  deriving DecidableEq

def MatchedCaseBindingData.validate (b : MatchedCaseBindingData) : Except ValidationError Unit :=
  validateWith "MatchedCaseBinding"
    (publicStrings [("case_id", b.caseId.val),
        ("baseline_scenario_set_id", b.baselineScenarioSetId.val),
        ("candidate_scenario_set_id", b.candidateScenarioSetId.val),
        ("assertion_contract_sha256", b.assertionContractSha256.val),
        ("check_contract_sha256", b.checkContractSha256.val),
        ("baseline_input_sha256", b.baselineInputSha256.val),
        ("candidate_input_sha256", b.candidateInputSha256.val)] ++
      check (decide b.semanticSignalIds.Nodup && b.semanticSignalIds.all fun t => isNormalizedPublic t.val)
        "semantic_signal_ids" "matched semantic signal IDs must be unique and public") []

abbrev MatchedCaseBinding := Accepted MatchedCaseBindingData.validate

inductive MatchedLane where
  | localLane
  | cloudLane
  deriving DecidableEq

def MatchedLane.value : MatchedLane → String
  | localLane => "local"
  | cloudLane => "cloud"

structure ScorerJudgeParametersData where
  model : NonEmptyText
  temperature : ℚ
  trialCount : Nat
  deriving DecidableEq

def ScorerJudgeParametersData.validate (p : ScorerJudgeParametersData) : Except ValidationError Unit :=
  validateWith "ScorerJudgeParameters"
    (check (1 ≤ p.trialCount) "trial_count" "Input should be greater than or equal to 1") []

abbrev ScorerJudgeParameters := Accepted ScorerJudgeParametersData.validate

structure MatchedLaneSpecData where
  lane : MatchedLane
  generator : ProviderIdentityV2
  generatorMode : AdapterMode
  generatorParameters : ScorerJudgeParameters
  judge : ProviderIdentityV2
  judgeParameters : ScorerJudgeParameters
  baselineCalibrationSha256 : Sha256
  candidateCalibrationSha256 : Sha256
  budget : MatchedRunBudget
  deriving DecidableEq

def MatchedLaneSpecData.validate (s : MatchedLaneSpecData) : Except ValidationError Unit :=
  validateWith "MatchedLaneSpec" []
    [violation (s.generatorParameters.val.model.val ≠ s.generator.val.modelId ∨
        s.judgeParameters.val.model.val ≠ s.judge.val.modelId)
        "matched settings must bind their actual models",
      violation (s.generatorParameters.val.trialCount ≠ s.judgeParameters.val.trialCount)
        "matched generator and judge trial coverage must agree"]

abbrev MatchedLaneSpec := Accepted MatchedLaneSpecData.validate

/-- The trials of every case of a lane. -/
abbrev MatchedLaneSpec.trialCount (s : MatchedLaneSpec) : Nat := s.val.generatorParameters.val.trialCount

/-! ### Plans -/

variable (I : Interpreter)

structure MatchedComparisonPlanData where
  pluginScope : MatchedPluginScope I
  baselineScenarios : List ScenarioSetV2
  candidateScenarios : List ScenarioSetV2
  caseBindings : List MatchedCaseBinding
  rubric : MatchedComparisonRubric I.arithmetic
  lanes : List MatchedLaneSpec
  selectionPolicy : MatchedSelectionPolicy
  deriving DecidableEq

namespace MatchedComparisonPlanData

variable {I} (p : MatchedComparisonPlanData I)

/-- One variant of a case: its scenarios, its scorer and the id they are bound to. -/
def variantRules (scenarios : ScenarioSetV2) (scorer : ScorerProfile) (identifier : NonEmptyText) :
    List (Bool × String) :=
  [violation (scenarios.val.candidate ≠ scorer.val.candidate ∨
        scenarios.val.scenarioSetId ≠ identifier ∨ scenarios.val.release = true)
      "matched singleton scenario must bind its selected child and case identity",
    violation ([scorer.val.scorerId, scorer.val.versionOrDigest, scenarios.val.scenarioSetId].any fun t =>
        !isNormalizedPublic t.val)
      "matched child and scorer identifiers must be public"]

/-- One case of both variants. -/
def caseRules (scope : MatchedPluginCaseScope I) (binding : MatchedCaseBinding)
    (left right : ScenarioSetV2) : List (Bool × String) :=
  violation (left.val.cases.length ≠ 1 ∨ right.val.cases.length ≠ 1 ∨ left.val.cases ≠ right.val.cases)
      "matched variants require identical singleton child scenarios" ::
  left.val.cases.flatMap fun c =>
    [violation (scope.val.caseId ≠ binding.val.caseId.val ∨ c.base.caseId ≠ binding.val.caseId)
        "matched scope, scenarios and hidden bindings must follow the same active order"] ++
    variantRules left scope.val.baselineScorer binding.val.baselineScenarioSetId ++
    variantRules right scope.val.candidateScorer binding.val.candidateScenarioSetId ++
    [violation (binding.val.semanticSignalIds.all (· ∈ c.base.expectedSignals.val) = false)
        "matched semantic signals must belong to their frozen scenario"]

/-- `variants_are_matched`. -/
def variantsAreMatched : List (Bool × String) :=
  ((p.pluginScope.val.cases.zip p.caseBindings).zip
      (p.baselineScenarios.zip p.candidateScenarios)).flatMap
    (fun r => caseRules r.1.1 r.1.2 r.2.1 r.2.2) ++
  [violation (p.baselineScenarios.any (fun s =>
        s.val.cases.head?.any fun c => decide (c.base.category = .regression)) = false)
      "managed matched coverage requires a regression case",
    violation (p.lanes.map (·.val.lane) ≠ [.localLane, .cloudLane])
      "matched lanes must declare local before cloud",
    violation (p.lanes.any (fun l => decide (l.trialCount < p.selectionPolicy.val.minimumTrialsPerCase)) = true)
      "matched lane trials cannot satisfy the frozen selection policy",
    violation (128 < (p.lanes.map fun l => l.trialCount * 20).sum)
      "matched comparison exceeds its execution budget"]

def validate : Except ValidationError Unit :=
  validateWith "MatchedComparisonPlan"
    (check (p.baselineScenarios.length == 10) "baseline_scenarios" "Tuple should have 10 items" ++
      check (p.candidateScenarios.length == 10) "candidate_scenarios" "Tuple should have 10 items" ++
      check (p.caseBindings.length == 10) "case_bindings" "Tuple should have 10 items" ++
      check (p.lanes.length == 2) "lanes" "Tuple should have 2 items")
    p.variantsAreMatched

end MatchedComparisonPlanData

abbrev MatchedComparisonPlan := Accepted (@MatchedComparisonPlanData.validate I)

/-- `MatchedComparisonPlan.baseline`. -/
def MatchedComparisonPlan.baseline {I : Interpreter} (p : MatchedComparisonPlan I) :
    Option PackageCandidateIdentity := p.val.pluginScope.val.baseline.val.candidate

/-- `MatchedComparisonPlan.candidate`. -/
def MatchedComparisonPlan.candidate {I : Interpreter} (p : MatchedComparisonPlan I) :
    Option PackageCandidateIdentity := p.val.pluginScope.val.candidate.val.candidate

/-! ### Judgments -/

structure SelectedCaseJudgeEvidenceData where
  candidate : PackageCandidateIdentity
  scenarioSetId : NonEmptyText
  caseId : NonEmptyText
  provider : ProviderIdentityV2
  outputSha256 : Sha256
  assertionContractSha256 : Sha256
  judge : ProviderIdentityV2
  satisfiedAssertionIds : List NonEmptyText
  evidenceRefs : List PortablePath
  judgeResultSha256 : Sha256
  deriving DecidableEq

/-- The five texts of an identity. -/
def ProviderIdentityV2Data.texts (p : ProviderIdentityV2Data) : List Text :=
  [p.providerId, p.modelId, p.versionOrDigest, p.adapterId, p.adapterVersionOrDigest]

/-- `identity_fields_must_already_be_normalized`. -/
def normalizedIdentityErrors (name : String) (values : List NonEmptyText) : List (Text × Text) :=
  if values.any (fun t => strip t.val ≠ t.val) then
    check false name "selected-case judge identity fields must already be normalized"
  else check (values.all fun t => publicTextIsRedactionSafe t.val) name
    "selected-case judge identity fields must not contain credential-shaped values"

namespace SelectedCaseJudgeEvidenceData

def validate (e : SelectedCaseJudgeEvidenceData) : Except ValidationError Unit :=
  validateWith "SelectedCaseJudgeEvidence"
    (check (publicTextIsRedactionSafe e.candidate.packageId.val) "candidate"
        "selected-case judge candidate id must not contain credential-shaped values" ++
      check (e.provider.val.texts.all publicTextIsRedactionSafe) "provider"
        "selected-case judge provider identity contains credential-shaped values" ++
      check (e.judge.val.texts.all publicTextIsRedactionSafe) "judge"
        "selected-case judge provider identity contains credential-shaped values" ++
      normalizedIdentityErrors "scenario_set_id" [e.scenarioSetId] ++
      normalizedIdentityErrors "case_id" [e.caseId] ++
      normalizedIdentityErrors "satisfied_assertion_ids" e.satisfiedAssertionIds ++
      check e.satisfiedAssertionIds.Nodup "satisfied_assertion_ids"
        "selected-case judge assertion ids must be unique" ++
      check (e.evidenceRefs ≠ []) "evidence_refs"
        "Tuple should have at least 1 item after validation, not 0" ++
      check e.evidenceRefs.Nodup "evidence_refs" "selected-case judge evidence refs must be unique" ++
      check (e.evidenceRefs.all fun r => publicTextIsRedactionSafe r.val) "evidence_refs"
        "selected-case judge evidence refs must not contain credential-shaped values") []

end SelectedCaseJudgeEvidenceData

abbrev SelectedCaseJudgeEvidence := Accepted SelectedCaseJudgeEvidenceData.validate

structure MatchedDimensionJudgmentData where
  dimensionId : NonEmptyText
  score : ℚ
  rationale : NonEmptyText
  evidenceRefs : List PortablePath
  deriving DecidableEq

def MatchedDimensionJudgmentData.validate (d : MatchedDimensionJudgmentData) :
    Except ValidationError Unit :=
  validateWith "MatchedDimensionJudgment"
    (publicStrings [("dimension_id", d.dimensionId.val), ("rationale", d.rationale.val)] ++
      check (0 ≤ d.score && d.score ≤ 5) "score" "Input should be between 0 and 5" ++
      check (d.evidenceRefs ≠ []) "evidence_refs"
        "Tuple should have at least 1 item after validation, not 0" ++
      check d.evidenceRefs.Nodup "evidence_refs" "matched evidence references must be unique" ++
      check (d.evidenceRefs.all fun r => publicTextIsRedactionSafe r.val) "evidence_refs"
        "matched evidence references must not retain private data") []

abbrev MatchedDimensionJudgment := Accepted MatchedDimensionJudgmentData.validate

structure MatchedVariantJudgmentData where
  evidence : SelectedCaseJudgeEvidence
  dimensions : List MatchedDimensionJudgment
  confidence : Confidence
  deriving DecidableEq

def MatchedVariantJudgmentData.validate (j : MatchedVariantJudgmentData) : Except ValidationError Unit :=
  validateWith "MatchedVariantJudgment"
    (check (1 ≤ j.dimensions.length && j.dimensions.length ≤ 16) "dimensions"
      "Tuple should have between 1 and 16 items") []

abbrev MatchedVariantJudgment := Accepted MatchedVariantJudgmentData.validate

namespace MatchedVariantJudgment

def dimensionIds (j : MatchedVariantJudgment) : List NonEmptyText :=
  j.val.dimensions.map (·.val.dimensionId)

/-- A dimension quotes evidence that the judge did not retain. -/
def quotesForeignEvidence (j : MatchedVariantJudgment) : Bool :=
  j.val.dimensions.any fun row => !row.val.evidenceRefs.all (· ∈ j.val.evidence.val.evidenceRefs)

end MatchedVariantJudgment

/-! ### Pairs -/

inductive PairDecision where
  | baseline
  | candidate
  | inconclusive
  deriving DecidableEq

/-- What comparing a pair raises: a `ValueError`, or the end of a search that finds nothing. -/
inductive PairRaised where
  | valueError (message : Text)
  | stopIteration
  deriving DecidableEq

/-- The first condition that holds is raised. -/
def raisePairErrors (violations : List (Bool × String)) : Except PairRaised Unit :=
  match violations.find? (·.1) with
  | some (_, message) => .error (.valueError message.toList)
  | none => .ok ()

/-- `_matched_weighted_score`. -/
def matchedWeightedScore (judgment : MatchedVariantJudgment) (rubric : MatchedComparisonRubric A) : ℚ :=
  A.div (decimalSum A (List.zipWith (fun row dimension => A.mul row.val.score dimension.val.weight)
    judgment.val.dimensions rubric.val.dimensions)) 5

/-- What a judgment of one variant must be bound to. -/
structure VariantContract where
  candidate : PackageCandidateIdentity
  scenarioSetId : NonEmptyText
  specification : MatchedLaneSpec
  binding : MatchedCaseBinding
  deriving DecidableEq

variable {A} in
/-- One round of the loop of `_matched_pair_values`. -/
def variantScore (rubric : MatchedComparisonRubric A) (contract : VariantContract)
    (judgment : MatchedVariantJudgment) : Except PairRaised ℚ := do
  let evidence := judgment.val.evidence.val
  raisePairErrors
    [violation (evidence.satisfiedAssertionIds.all (· ∈ contract.binding.val.semanticSignalIds) = false)
        "matched judgment contains undeclared semantic assertions",
      violation (evidence.candidate ≠ contract.candidate ∨
          evidence.scenarioSetId ≠ contract.scenarioSetId ∨
          evidence.provider ≠ contract.specification.val.generator ∨
          evidence.judge ≠ contract.specification.val.judge ∨
          evidence.assertionContractSha256 ≠ contract.binding.val.assertionContractSha256)
        "matched judgment identity or hidden criteria drifted",
      violation (judgment.dimensionIds ≠ rubric.val.dimensionIds)
        "matched judgments require each frozen dimension exactly once",
      violation (judgment.quotesForeignEvidence = true)
        "matched dimensions must reference retained judge evidence"]
  return matchedWeightedScore A judgment rubric

variable {A} in
/-- The decision of a pair with these scores. -/
def pairDecision (rubric : MatchedComparisonRubric A) (baseline candidate : ℚ)
    (baselineConfidence candidateConfidence : Confidence) : PairDecision :=
  if min baselineConfidence.rank candidateConfidence.rank < rubric.val.minimumConfidence.rank then
    .inconclusive
  else
    let delta := A.sub candidate baseline
    if |delta| < rubric.val.minimumNormalizedDelta ∨ delta = 0 then .inconclusive
    else if 0 < delta then .candidate
    else .baseline

structure PairValues where
  baselineScore : ℚ
  candidateScore : ℚ
  decision : PairDecision
  deriving DecidableEq

variable {A} in
/-- `_matched_pair_values` once the contracts of both variants are known. -/
def contractPairValues (rubric : MatchedComparisonRubric A) (left right : VariantContract)
    (baseline candidate : MatchedVariantJudgment) : Except PairRaised PairValues := do
  let baselineScore ← variantScore rubric left baseline
  let candidateScore ← variantScore rubric right candidate
  return ⟨A.toFloat baselineScore, A.toFloat candidateScore,
    pairDecision rubric baselineScore candidateScore baseline.val.confidence candidate.val.confidence⟩

variable {I}

/-- The contracts of the variants of a case. -/
def variantContracts (plan : MatchedComparisonPlan I) (lane : MatchedLane)
    (caseId candidateCaseId : NonEmptyText) : Except PairRaised (VariantContract × VariantContract) :=
  match plan.val.lanes.find? (·.val.lane = lane) with
  | none => .error (.valueError "matched judgments require a declared lane".toList)
  | some specification =>
    match plan.val.caseBindings.find? (·.val.caseId = caseId) with
    | none => .error (.valueError "matched judgments must cover one declared identical case".toList)
    | some binding =>
      if candidateCaseId ≠ caseId then
        .error (.valueError "matched judgments must cover one declared identical case".toList)
      else
        match plan.val.pluginScope.val.cases.find? (·.val.caseId = caseId.val) with
        | none => .error .stopIteration
        | some scope =>
          .ok (⟨scope.val.baselineScorer.val.candidate, binding.val.baselineScenarioSetId,
              specification, binding⟩,
            ⟨scope.val.candidateScorer.val.candidate, binding.val.candidateScenarioSetId,
              specification, binding⟩)

/-- `_matched_pair_values`. -/
def matchedPairValues (plan : MatchedComparisonPlan I) (lane : MatchedLane)
    (baseline candidate : MatchedVariantJudgment) : Except PairRaised PairValues := do
  let (left, right) ← variantContracts plan lane baseline.val.evidence.val.caseId
    candidate.val.evidence.val.caseId
  contractPairValues plan.val.rubric left right baseline candidate

end SkillsSdk
