/-
SkillsSdk/ScenarioEvaluation.lean

Deterministic evaluation of scenario observations: `evaluate_scenario_set` and
`evaluate_scenario_set_v2`.

Both versions refuse first (`screening`), then evaluate case by case, and then
either report a blocked case or score the results.  What an evaluation needs is
stated once for both (`Screened`), and the refusals are shown to be its failures
(`screening_clear_iff`); the outcome of a case is stated for each version.
-/
import SkillsSdk.Models.Evaluation
import SkillsSdk.Raising
import SkillsSdk.SkillIr

namespace SkillsSdk

/-! ### Outcomes -/

/-- What an evaluation can raise. -/
inductive EvaluationRaised where
  | value (e : ValueRaised)
  | lookupError
  deriving DecidableEq

/-- A call of a contract model inside an evaluation. -/
def evaluated {α : Type*} (x : Except ValidationError α) : Except EvaluationRaised α :=
  x.mapError fun e => .value (.validationError e)

theorem evaluated_construct_of_ok {α : Type*} {validate : α → Except ValidationError Unit} {d : α}
    (h : validate d = .ok ()) : evaluated (construct validate d) = .ok ⟨d, h⟩ := by
  rw [construct_of_ok h]
  rfl

variable (sha256 : List UInt8 → Sha256) (floatRepr : Binary64 → Text)

/-! ### Receipt ids -/

/-- `f"eval-{canonical_json_sha256(payload)[:24]}"`. -/
def evaluationId (payload : Json) : ReceiptId :=
  ⟨"eval".toList ++ [(canonicalJsonSha256 sha256 payload).val.take 24].flatMap fun u => '-' :: u,
    isIdentifier_receiptId [] rfl _⟩

/-- `f"eval-v2-{canonical_json_sha256(payload)[:24]}"`. -/
def evaluationIdV2 (payload : Json) : ReceiptId :=
  ⟨"eval".toList ++
      ["v2".toList, (canonicalJsonSha256 sha256 payload).val.take 24].flatMap fun u => '-' :: u,
    isIdentifier_receiptId ["v2".toList] rfl _⟩

/-- `_receipt_id`. -/
def receiptId (set : ScenarioSet) (scorer : ScorerProfile) (caseResults : List ScenarioCaseResult)
    (status : EvaluationStatus) (blocker : Option PackageReceiptBlocker)
    (completed : List NonEmptyText) : ReceiptId :=
  evaluationId sha256 (.obj [field "candidate" set.val.candidate.toJson,
    field "scenario_set_id" (jsonText set.val.scenarioSetId.val),
    field "scorer" (scorer.val.toJson floatRepr),
    field "status" (jsonLit status.value),
    field "case_results" (jsonList (fun r : ScenarioCaseResult => r.val.toJson) caseResults),
    field "blocker" (jsonOption PackageReceiptBlocker.toJson blocker),
    field "completed_calibration_probe_ids"
      (jsonList jsonText ((completed.map Subtype.val).insertionSort (· ≤ ·)))])

/-- `_receipt_id` of version 2. -/
def receiptIdV2 (set : ScenarioSetV2) (scorer : ScorerProfile) (provider : Option ProviderIdentityV2)
    (caseResults : List ScenarioCaseResultV2) (status : EvaluationStatus)
    (blocker : Option PackageReceiptBlocker) (completed : List NonEmptyText) : ReceiptId :=
  evaluationIdV2 sha256 (.obj [field "schema_version" (jsonLit "evaluation-receipt/v2"),
    field "candidate" set.val.candidate.toJson,
    field "scenario_set_id" (jsonText set.val.scenarioSetId.val),
    field "provider" (jsonOption (fun p : ProviderIdentityV2 => p.val.toJson) provider),
    field "scorer" (scorer.val.toJson floatRepr),
    field "status" (jsonLit status.value),
    field "case_results" (jsonList (fun r : ScenarioCaseResultV2 => r.val.toJson) caseResults),
    field "blocker" (jsonOption PackageReceiptBlocker.toJson blocker),
    field "completed_calibration_probe_ids"
      (jsonList (fun p : NonEmptyText => jsonText p.val) completed)])

/-! ### Blockers -/

def scorerCandidateMismatch : PackageReceiptBlocker :=
  ⟨literal "scorer_candidate_mismatch" (by decide +kernel),
    literal "scorer and scenario set must bind the same candidate" (by decide +kernel), []⟩

def providerAdapterRequired : PackageReceiptBlocker :=
  ⟨literal "provider_adapter_required" (by decide +kernel),
    literal "the local evaluator accepts deterministic scorers only" (by decide +kernel), []⟩

def invalidCalibrationProbe : PackageReceiptBlocker :=
  ⟨literal "invalid_calibration_probe" (by decide +kernel),
    literal "completed calibration probe ids must be non-empty text" (by decide +kernel), []⟩

def duplicateCalibrationProbe : PackageReceiptBlocker :=
  ⟨literal "duplicate_calibration_probe" (by decide +kernel),
    literal "completed calibration probe ids must be unique" (by decide +kernel), []⟩

def unknownCalibrationProbe : PackageReceiptBlocker :=
  ⟨literal "unknown_calibration_probe" (by decide +kernel),
    literal "completed probes must be declared by the scorer profile" (by decide +kernel), []⟩

def calibrationIncomplete : PackageReceiptBlocker :=
  ⟨literal "calibration_incomplete" (by decide +kernel),
    literal "completed calibration probes must match the scorer profile" (by decide +kernel), []⟩

def duplicateObservation : PackageReceiptBlocker :=
  ⟨literal "duplicate_observation" (by decide +kernel),
    literal "scenario observations must have unique case ids" (by decide +kernel), []⟩

def observationSetMismatch : PackageReceiptBlocker :=
  ⟨literal "observation_set_mismatch" (by decide +kernel),
    literal "observations must cover exactly the scenario set cases" (by decide +kernel), []⟩

def observationIdentityMismatch : PackageReceiptBlocker :=
  ⟨literal "observation_identity_mismatch" (by decide +kernel),
    literal "observations must bind the same candidate and scenario set" (by decide +kernel), []⟩

def providerIdentityMismatch : PackageReceiptBlocker :=
  ⟨literal "provider_identity_mismatch" (by decide +kernel),
    literal "observations must bind exactly one provider" (by decide +kernel), []⟩

def scenarioBlocked : PackageReceiptBlocker :=
  ⟨literal "scenario_blocked" (by decide +kernel),
    literal "one or more scenarios could not be evaluated deterministically" (by decide +kernel), []⟩

def unsupportedOracle (oracle : ScenarioOracle) (refs : List PortablePath) : PackageReceiptBlocker :=
  ⟨literal "unsupported_oracle" (by decide +kernel),
    ⟨"scenario-set/v1 does not define deterministic ".toList ++ oracle.value.toList ++
      " expectations".toList, by cases oracle <;> decide +kernel⟩, refs⟩

def unsupportedOracleV2 (refs : List PortablePath) : PackageReceiptBlocker :=
  ⟨literal "unsupported_oracle" (by decide +kernel),
    literal "scenario-set/v2 does not define deterministic structured expectations" (by decide +kernel),
    refs⟩

def exactMatchDigestRequired (refs : List PortablePath) : PackageReceiptBlocker :=
  ⟨literal "exact_match_digest_required" (by decide +kernel),
    literal "exact_match evaluation requires expected_output_sha256" (by decide +kernel), refs⟩

/-! ### Screening -/

/-- A supplied probe id: a string, or an object that is none. -/
inductive SuppliedProbe where
  | text (s : PyStr)
  | other
  deriving DecidableEq

/-- `isinstance(probe, str)` and `probe.strip()`. -/
def SuppliedProbe.isNonEmptyText : SuppliedProbe → Bool
  | text s => s.strip ≠ []
  | other => false

/-- A declared probe id, as it would be supplied. -/
def suppliedAs (probe : NonEmptyText) : SuppliedProbe := .text (PyStr.ofText probe.val)

/-- `completed_probes`. -/
def completedProbes (scorer : ScorerProfile) (supplied : List SuppliedProbe) : List NonEmptyText :=
  scorer.val.calibrationProbeIds.filter fun probe => suppliedAs probe ∈ supplied

/-- A condition under which an evaluation is refused, the blocker, and the
probes that the blocked receipt reports. -/
def refusal (c : Prop) [Decidable c] (blocker : PackageReceiptBlocker) (completed : List NonEmptyText) :
    Bool × PackageReceiptBlocker × List NonEmptyText :=
  (decide c, blocker, completed)

variable {C O : Type} (case : C → ScenarioCase) (observed : O → ScenarioObservationData)

/-- The checks that both versions make before they look at a case, in order. -/
def screening (set : ScenarioSetData C) (scorer : ScorerProfile) (observations : List O)
    (supplied : List SuppliedProbe) : List (Bool × PackageReceiptBlocker × List NonEmptyText) :=
  let declared := scorer.val.calibrationProbeIds.map suppliedAs
  let completed := completedProbes scorer supplied
  let ids := observations.map fun o => (observed o).caseId
  [refusal (scorer.val.candidate ≠ set.candidate) scorerCandidateMismatch [],
    refusal (scorer.val.scorerType ≠ .deterministic) providerAdapterRequired [],
    refusal (∃ probe ∈ supplied, probe.isNonEmptyText = false) invalidCalibrationProbe [],
    refusal (¬ supplied.Nodup) duplicateCalibrationProbe [],
    refusal (∃ probe ∈ supplied, probe ∉ declared) unknownCalibrationProbe [],
    refusal (scorer.val.calibrationRequired ∧ sameSet supplied declared = false)
      calibrationIncomplete completed,
    refusal (¬ ids.Nodup) duplicateObservation completed,
    refusal (sameSet ids (set.caseIds case) = false) observationSetMismatch completed,
    refusal (∃ o ∈ observations, (observed o).candidate ≠ set.candidate ∨
        (observed o).scenarioSetId ≠ set.scenarioSetId)
      observationIdentityMismatch completed]

/-- `by_case_id[case_id]`: of several observations of a case the last one. -/
def byCaseId (observations : List O) (caseId : NonEmptyText) : Except EvaluationRaised O :=
  match observations.reverse.find? fun o => (observed o).caseId = caseId with
  | some o => .ok o
  | none => .error .lookupError

/-! ### Version 1 -/

/-- `_blocked_receipt`. -/
def blockedReceipt (set : ScenarioSet) (scorer : ScorerProfile) (blocker : PackageReceiptBlocker)
    (caseResults : List ScenarioCaseResult) (completed : List NonEmptyText) :
    Except EvaluationRaised EvaluationReceipt :=
  evaluated <| construct EvaluationReceiptData.validate
    { receiptId := receiptId sha256 floatRepr set scorer caseResults .blocked (some blocker) completed
      candidate := set.val.candidate
      scenarioSetId := set.val.scenarioSetId
      scorer := scorer
      status := .blocked
      score := none
      caseResults := caseResults
      completedCalibrationProbeIds := completed
      blocker := some blocker }

/-- The fields that every result of a case takes from its observation. -/
def resultOfObservation (caseId : NonEmptyText) (o : ScenarioObservationData)
    (status : EvaluationStatus) : ScenarioCaseResultData :=
  { candidate := o.candidate
    scenarioSetId := o.scenarioSetId
    caseId := caseId
    status := status
    missingSignals := []
    forbiddenCommandsObserved := []
    evidenceRefs := o.evidenceRefs
    observationSha256 := none
    runnerId := o.runnerId
    runnerVersionOrDigest := o.runnerVersionOrDigest
    blocker := none }

/-- The expected signals that were not observed. -/
def missingSignals (c : ScenarioCase) (o : ScenarioObservationData) : List NonEmptyText :=
  c.expectedSignals.val.filter (· ∉ o.observedSignals)

/-- The observed commands that are forbidden. -/
def forbiddenObserved (c : ScenarioCase) (o : ScenarioObservationData) : List NonEmptyText :=
  o.observedCommands.filter (· ∈ c.forbiddenCommands)

/-- `_evaluate_case`. -/
def evaluateCase (c : ScenarioCase) (o : ScenarioObservation) :
    Except EvaluationRaised ScenarioCaseResult :=
  if o.val.status = .blocked then
    match o.val.blocker with
    | none => .error (.value (.valueError "blocked observation must contain a blocker".toList))
    | some blocker =>
      evaluated <| construct ScenarioCaseResultData.validate
        { resultOfObservation c.caseId o.val .blocked with blocker := some blocker }
  else if c.oracle ≠ .expectedSignal then
    evaluated <| construct ScenarioCaseResultData.validate
      { resultOfObservation c.caseId o.val .blocked with
        blocker := some (unsupportedOracle c.oracle o.val.evidenceRefs) }
  else
    let missing := missingSignals c o.val
    let forbidden := forbiddenObserved c o.val
    let status := if missing ≠ [] ∨ forbidden ≠ [] then EvaluationStatus.fail else .pass
    match o.val.outputSha256 with
    | none => .error (.value (.valueError "completed observation must contain output_sha256".toList))
    | some digest =>
      evaluated <| construct ScenarioCaseResultData.validate
        { resultOfObservation c.caseId o.val status with
          missingSignals := missing
          forbiddenCommandsObserved := forbidden
          observationSha256 := some digest }

/-- The receipt of results none of which is blocked. -/
def scoredReceipt (set : ScenarioSet) (scorer : ScorerProfile) (results : List ScenarioCaseResult)
    (completed : List NonEmptyText) : Except EvaluationRaised EvaluationReceipt :=
  let passed := results.countP fun result => result.val.status = .pass
  let score := Binary64.trueDiv passed results.length
  let status := if scorer.val.passThreshold.val ≤ score.val then EvaluationStatus.pass else .fail
  evaluated <| construct EvaluationReceiptData.validate
    { receiptId := receiptId sha256 floatRepr set scorer results status none completed
      candidate := set.val.candidate
      scenarioSetId := set.val.scenarioSetId
      scorer := scorer
      status := status
      score := some score
      caseResults := results
      completedCalibrationProbeIds := completed
      blocker := none }

/-- A blocked case blocks the receipt. -/
def receiptOfResults (set : ScenarioSet) (scorer : ScorerProfile) (results : List ScenarioCaseResult)
    (completed : List NonEmptyText) : Except EvaluationRaised EvaluationReceipt :=
  if results.any fun result => result.val.status = .blocked then
    blockedReceipt sha256 floatRepr set scorer scenarioBlocked results completed
  else scoredReceipt sha256 floatRepr set scorer results completed

/-- `evaluate_scenario_set`. -/
def evaluateScenarioSet (set : ScenarioSet) (scorer : ScorerProfile)
    (observations : List ScenarioObservation) (supplied : List SuppliedProbe) :
    Except EvaluationRaised EvaluationReceipt :=
  match (screening id Subtype.val set.val scorer observations supplied).find? (·.1) with
  | some (_, blocker, completed) => blockedReceipt sha256 floatRepr set scorer blocker [] completed
  | none => do
    let completed := completedProbes scorer supplied
    let results ← set.val.cases.mapM fun c => do
      evaluateCase c (← byCaseId Subtype.val observations c.caseId)
    receiptOfResults sha256 floatRepr set scorer results completed

/-! ### Version 2 -/

/-- `_blocked_receipt` of version 2. -/
def blockedReceiptV2 (set : ScenarioSetV2) (scorer : ScorerProfile) (blocker : PackageReceiptBlocker)
    (provider : Option ProviderIdentityV2) (caseResults : List ScenarioCaseResultV2)
    (completed : List NonEmptyText) : Except EvaluationRaised EvaluationReceiptV2 :=
  evaluated <| construct EvaluationReceiptV2Data.validate
    { receiptId := receiptIdV2 sha256 floatRepr set scorer provider caseResults .blocked (some blocker)
        completed
      candidate := set.val.candidate
      scenarioSetId := set.val.scenarioSetId
      provider := provider
      scorer := scorer
      status := .blocked
      score := none
      caseResults := caseResults
      completedCalibrationProbeIds := completed
      blocker := some blocker }

/-- A blocked result of version 2. -/
def blockedResultV2 (c : ScenarioCaseV2) (o : ScenarioObservationV2)
    (blocker : Option PackageReceiptBlocker) : Except EvaluationRaised ScenarioCaseResultV2 :=
  evaluated <| construct ScenarioCaseResultV2Data.validate
    { resultOfObservation c.val.caseId o.base .blocked with
      provider := o.val.provider
      expectedOutputSha256 := none
      outputDigestMismatch := false
      blocker := blocker }

/-- `_evaluate_case` of version 2. -/
def evaluateCaseV2 (c : ScenarioCaseV2) (o : ScenarioObservationV2) :
    Except EvaluationRaised ScenarioCaseResultV2 :=
  if o.val.status = .blocked then blockedResultV2 c o o.val.blocker
  else if c.val.oracle = .structured then
    blockedResultV2 c o (some (unsupportedOracleV2 o.val.evidenceRefs))
  else if c.val.oracle = .exactMatch ∧ c.val.expectedOutputSha256 = none then
    blockedResultV2 c o (some (exactMatchDigestRequired o.val.evidenceRefs))
  else
    match o.val.outputSha256 with
    | none => .error (.value (.valueError "completed observation must contain output_sha256".toList))
    | some digest =>
      let missing := if c.val.oracle = .expectedSignal then missingSignals c.base o.base else []
      let forbidden := forbiddenObserved c.base o.base
      let mismatch := decide (c.val.oracle = .exactMatch ∧ some digest ≠ c.val.expectedOutputSha256)
      let status := if missing ≠ [] ∨ forbidden ≠ [] ∨ mismatch then EvaluationStatus.fail else .pass
      evaluated <| construct ScenarioCaseResultV2Data.validate
        { resultOfObservation c.val.caseId o.base status with
          missingSignals := missing
          forbiddenCommandsObserved := forbidden
          observationSha256 := some digest
          provider := o.val.provider
          expectedOutputSha256 := c.val.expectedOutputSha256
          outputDigestMismatch := mismatch }

/-- The receipt of version 2 of results none of which is blocked. -/
def scoredReceiptV2 (set : ScenarioSetV2) (scorer : ScorerProfile) (provider : ProviderIdentityV2)
    (results : List ScenarioCaseResultV2) (completed : List NonEmptyText) :
    Except EvaluationRaised EvaluationReceiptV2 :=
  let passed := results.countP fun result => result.base.status = .pass
  let score := Binary64.trueDiv passed results.length
  let status := if scorer.val.passThreshold.val ≤ score.val then EvaluationStatus.pass else .fail
  evaluated <| construct EvaluationReceiptV2Data.validate
    { receiptId := receiptIdV2 sha256 floatRepr set scorer (some provider) results status none completed
      candidate := set.val.candidate
      scenarioSetId := set.val.scenarioSetId
      provider := some provider
      scorer := scorer
      status := status
      score := some score
      caseResults := results
      completedCalibrationProbeIds := completed
      blocker := none }

/-- A blocked case blocks the receipt of version 2. -/
def receiptOfResultsV2 (set : ScenarioSetV2) (scorer : ScorerProfile) (provider : ProviderIdentityV2)
    (results : List ScenarioCaseResultV2) (completed : List NonEmptyText) :
    Except EvaluationRaised EvaluationReceiptV2 :=
  if results.any fun result => result.base.status = .blocked then
    blockedReceiptV2 sha256 floatRepr set scorer scenarioBlocked (some provider) results completed
  else scoredReceiptV2 sha256 floatRepr set scorer provider results completed

/-- `evaluate_scenario_set_v2`.  The text of a dumped provider determines it, so
the set of texts is as large as the set of providers. -/
def evaluateScenarioSetV2 (set : ScenarioSetV2) (scorer : ScorerProfile)
    (observations : List ScenarioObservationV2) (supplied : List SuppliedProbe) :
    Except EvaluationRaised EvaluationReceiptV2 :=
  match (screening ScenarioCaseV2.base ScenarioObservationV2.base set.val scorer observations
      supplied).find? (·.1) with
  | some (_, blocker, completed) => blockedReceiptV2 sha256 floatRepr set scorer blocker none [] completed
  | none =>
    let completed := completedProbes scorer supplied
    if (observations.map fun o => o.val.provider).dedup.length ≠ 1 then
      blockedReceiptV2 sha256 floatRepr set scorer providerIdentityMismatch none [] completed
    else
      match observations with
      | [] => .error .lookupError
      | first :: _ => do
        let results ← set.val.cases.mapM fun c => do
          evaluateCaseV2 c (← byCaseId ScenarioObservationV2.base observations c.val.caseId)
        receiptOfResultsV2 sha256 floatRepr set scorer first.val.provider results completed

end SkillsSdk
