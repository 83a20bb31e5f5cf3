/-
SkillsSdk/Models/Evaluation.lean

Scenario sets, scorers, observations and evaluation receipts, in two versions.

A record of version 2 extends that of version 1 by a provider and by digests to
compare; each version has validators of its own.  Scores and thresholds are
floats; how a float is written is a parameter (`floatRepr`).
-/
import SkillsSdk.Lib.Binary64
import SkillsSdk.Models.Packaging
import SkillsSdk.Models.Provider

namespace SkillsSdk

/-! ### Cases and sets -/

inductive ScenarioCategory where
  | happy
  | pressure
  | boundary
  | regression
  deriving DecidableEq

inductive ScenarioOracle where
  | exactMatch
  | expectedSignal
  | structured
  deriving DecidableEq

def ScenarioOracle.value : ScenarioOracle → String
  | exactMatch => "exact_match"
  | expectedSignal => "expected_signal"
  | structured => "structured"

structure ScenarioCase where
  caseId : NonEmptyText
  category : ScenarioCategory
  prompt : NonEmptyText
  expectedSignals : { l : List NonEmptyText // l ≠ [] }
  forbiddenCommands : List NonEmptyText
  oracle : ScenarioOracle
  deriving DecidableEq

structure ScenarioCaseV2Data extends ScenarioCase where
  expectedOutputSha256 : Option Sha256
  deriving DecidableEq

def ScenarioCaseV2Data.validate (c : ScenarioCaseV2Data) : Except ValidationError Unit :=
  validateWith "ScenarioCaseV2" []
    [violation (c.oracle ≠ .exactMatch ∧ c.expectedOutputSha256 ≠ none)
      "expected_output_sha256 is valid only for exact_match scenarios"]

abbrev ScenarioCaseV2 := Accepted ScenarioCaseV2Data.validate

theorem ScenarioCaseV2.expectedOutputSha256_eq_none (c : ScenarioCaseV2) (h : c.val.oracle ≠ .exactMatch) :
    c.val.expectedOutputSha256 = none := by
  have hc := (validateWith_eq_ok.mp c.2).2
  simpa [h] using hc

/-- A scenario set over cases of either version. -/
structure ScenarioSetData (C : Type) where
  candidate : PackageCandidateIdentity
  scenarioSetId : NonEmptyText
  release : Bool
  cases : List C
  deriving DecidableEq

namespace ScenarioSetData

variable {C : Type} (base : C → ScenarioCase)

def caseIds (s : ScenarioSetData C) : List NonEmptyText := s.cases.map fun c => (base c).caseId

def validate (model : String) (s : ScenarioSetData C) : Except ValidationError Unit :=
  validateWith model
    (check (s.cases ≠ []) "cases" "Tuple should have at least 1 item after validation, not 0")
    [violation (¬ (s.caseIds base).Nodup) "scenario case ids must be unique",
      violation (s.release ∧ s.cases.any (fun c => (base c).category = .regression) = false)
        "release scenario sets require a regression case"]

end ScenarioSetData

abbrev ScenarioSet := Accepted (ScenarioSetData.validate (id : ScenarioCase → ScenarioCase) "ScenarioSet")

/-- The case of version 1 inside one of version 2. -/
abbrev ScenarioCaseV2.base (c : ScenarioCaseV2) : ScenarioCase := c.val.toScenarioCase

abbrev ScenarioSetV2 := Accepted (ScenarioSetData.validate ScenarioCaseV2.base "ScenarioSetV2")

theorem ScenarioSetData.cases_ne_nil {C : Type} {base : C → ScenarioCase} {model : String}
    (s : Accepted (ScenarioSetData.validate base model)) : s.val.cases ≠ [] := by
  simpa using (validateWith_eq_ok.mp s.2).1

theorem ScenarioSetData.caseIds_nodup {C : Type} {base : C → ScenarioCase} {model : String}
    (s : Accepted (ScenarioSetData.validate base model)) : (s.val.caseIds base).Nodup := by
  have h := (validateWith_eq_ok.mp s.2).2
  simp only [List.forall_mem_cons, violation_fst, not_not] at h
  exact h.1

/-! ### Scorers -/

inductive ScorerType where
  | deterministic
  | llmJudge
  | hybrid
  | external
  deriving DecidableEq

def ScorerType.value : ScorerType → String
  | deterministic => "deterministic"
  | llmJudge => "llm_judge"
  | hybrid => "hybrid"
  | external => "external"

structure ScorerProfileData where
  candidate : PackageCandidateIdentity
  scorerId : NonEmptyText
  scorerType : ScorerType
  versionOrDigest : NonEmptyText
  passThreshold : Binary64
  deterministicChecksFirst : Bool
  calibrationRequired : Bool
  calibrationProbeIds : List NonEmptyText
  deriving DecidableEq

namespace ScorerProfileData

/-- The scorer asks a judge or another outside party. -/
def isForeign (s : ScorerProfileData) : Prop := s.scorerType = .llmJudge ∨ s.scorerType = .external

instance (s : ScorerProfileData) : Decidable s.isForeign :=
  inferInstanceAs (Decidable (_ ∨ _))

def validate (s : ScorerProfileData) : Except ValidationError Unit :=
  validateWith "ScorerProfile"
    (check (0 ≤ s.passThreshold.val && s.passThreshold.val ≤ 1) "pass_threshold"
      "Input should be between 0 and 1")
    [violation (s.calibrationRequired ∧ s.calibrationProbeIds = [])
        "calibration_required scorers must declare calibration probes",
      violation (s.isForeign ∧ s.calibrationRequired = false)
        "judge and external scorers must require calibration",
      violation (s.isForeign ∧ s.deterministicChecksFirst = false)
        "judge and external scorers must run deterministic checks first",
      violation (¬ s.calibrationProbeIds.Nodup) "calibration probe ids must be unique"]

variable (floatRepr : Binary64 → Text)

def toJson (s : ScorerProfileData) : Json :=
  .obj [field "schema_version" (jsonLit "scorer-profile/v1"),
    field "candidate" s.candidate.toJson,
    field "scorer_id" (jsonText s.scorerId.val),
    field "scorer_type" (jsonLit s.scorerType.value),
    field "version_or_digest" (jsonText s.versionOrDigest.val),
    field "pass_threshold" (.num (floatRepr s.passThreshold)),
    field "deterministic_checks_first" (.bool s.deterministicChecksFirst),
    field "calibration_required" (.bool s.calibrationRequired),
    field "calibration_probe_ids" (jsonList (fun p : NonEmptyText => jsonText p.val) s.calibrationProbeIds)]

end ScorerProfileData

abbrev ScorerProfile := Accepted ScorerProfileData.validate

theorem ScorerProfile.calibrationProbeIds_nodup (s : ScorerProfile) : s.val.calibrationProbeIds.Nodup := by
  have h := (validateWith_eq_ok.mp s.2).2
  simp only [List.forall_mem_cons, violation_fst, not_not] at h
  exact h.2.2.2.1

/-! ### Observations -/

inductive ObservationStatus where
  | completed
  | blocked
  deriving DecidableEq

structure ScenarioObservationData where
  candidate : PackageCandidateIdentity
  scenarioSetId : NonEmptyText
  caseId : NonEmptyText
  status : ObservationStatus
  observedSignals : List NonEmptyText
  observedCommands : List NonEmptyText
  evidenceRefs : List PortablePath
  outputSha256 : Option Sha256
  runnerId : NonEmptyText
  runnerVersionOrDigest : NonEmptyText
  blocker : Option PackageReceiptBlocker
  deriving DecidableEq

namespace ScenarioObservationData

/-- `evidence_refs_must_be_portable`; a `PortablePath` is portable. -/
def fieldErrors (o : ScenarioObservationData) : List (Text × Text) :=
  check o.evidenceRefs.Nodup "evidence_refs" "scenario observation evidence refs must be unique"

/-- The observation reports what a run put out. -/
def claimsOutput (o : ScenarioObservationData) : Prop :=
  o.outputSha256 ≠ none ∨ o.observedSignals ≠ [] ∨ o.observedCommands ≠ []

instance (o : ScenarioObservationData) : Decidable o.claimsOutput :=
  inferInstanceAs (Decidable (_ ∨ _ ∨ _))

theorem not_claimsOutput_iff {o : ScenarioObservationData} :
    ¬ o.claimsOutput ↔ o.outputSha256 = none ∧ o.observedSignals = [] ∧ o.observedCommands = [] := by
  simp [claimsOutput, not_or]

def validate (o : ScenarioObservationData) : Except ValidationError Unit :=
  validateWith "ScenarioObservation" o.fieldErrors
    (match o.status with
    | .completed =>
      [violation (o.blocker ≠ none) "completed scenario observation cannot contain a blocker",
        violation (o.outputSha256 = none) "completed scenario observation requires output_sha256"]
    | .blocked =>
      [violation (o.blocker = none) "blocked scenario observation requires a blocker",
        violation o.claimsOutput "blocked scenario observation cannot claim completed output"])

end ScenarioObservationData

abbrev ScenarioObservation := Accepted ScenarioObservationData.validate

structure ScenarioObservationV2Data extends ScenarioObservationData where
  provider : ProviderIdentityV2
  deriving DecidableEq

def ScenarioObservationV2Data.validate (o : ScenarioObservationV2Data) : Except ValidationError Unit :=
  validateWith "ScenarioObservationV2" o.fieldErrors
    (match o.status with
    | .completed =>
      [violation (o.blocker ≠ none ∨ o.outputSha256 = none)
        "completed scenario observation requires output and no blocker"]
    | .blocked =>
      [violation (o.blocker = none) "blocked scenario observation requires a blocker",
        violation o.claimsOutput "blocked scenario observation cannot claim completed output"])

abbrev ScenarioObservationV2 := Accepted ScenarioObservationV2Data.validate

/-- The observation of version 1 inside one of version 2. -/
abbrev ScenarioObservationV2.base (o : ScenarioObservationV2) : ScenarioObservationData :=
  o.val.toScenarioObservationData

/-- What both versions require of an observation. -/
structure ScenarioObservationData.Sound (o : ScenarioObservationData) : Prop where
  refs_nodup : o.evidenceRefs.Nodup
  completed : o.status = .completed → o.blocker = none ∧ ∃ digest, o.outputSha256 = some digest
  blocked : o.status = .blocked → (∃ blocker, o.blocker = some blocker) ∧ o.outputSha256 = none ∧
    o.observedSignals = [] ∧ o.observedCommands = []

theorem ScenarioObservation.sound (o : ScenarioObservation) : o.val.Sound := by
  obtain ⟨hfields, hrules⟩ := validateWith_eq_ok.mp o.2
  refine ⟨by simpa [ScenarioObservationData.fieldErrors] using hfields, fun h => ?_, fun h => ?_⟩
  · simp only [h, List.forall_mem_cons, violation_fst, not_not] at hrules
    exact ⟨hrules.1, Option.ne_none_iff_exists'.mp hrules.2.1⟩
  · simp only [h, List.forall_mem_cons, violation_fst] at hrules
    exact ⟨Option.ne_none_iff_exists'.mp hrules.1,
      ScenarioObservationData.not_claimsOutput_iff.mp hrules.2.1⟩

theorem ScenarioObservationV2.sound (o : ScenarioObservationV2) : o.base.Sound := by
  obtain ⟨hfields, hrules⟩ := validateWith_eq_ok.mp o.2
  refine ⟨by simpa [ScenarioObservationData.fieldErrors] using hfields, fun h => ?_, fun h => ?_⟩
  · simp only [h, List.forall_mem_cons, violation_fst, not_or, not_not] at hrules
    exact ⟨hrules.1.1, Option.ne_none_iff_exists'.mp hrules.1.2⟩
  · simp only [h, List.forall_mem_cons, violation_fst] at hrules
    exact ⟨Option.ne_none_iff_exists'.mp hrules.1,
      ScenarioObservationData.not_claimsOutput_iff.mp hrules.2.1⟩

/-! ### Case results -/

inductive EvaluationStatus where
  | pass
  | fail
  | blocked
  deriving DecidableEq

def EvaluationStatus.value : EvaluationStatus → String
  | pass => "pass"
  | fail => "fail"
  | blocked => "blocked"

def PackageReceiptBlocker.toJson (b : PackageReceiptBlocker) : Json :=
  .obj [field "code" (jsonText b.code.val),
    field "message" (jsonText b.message.val),
    field "evidence_refs" (jsonList (fun p : PortablePath => jsonText p.val) b.evidenceRefs)]

structure ScenarioCaseResultData where
  candidate : PackageCandidateIdentity
  scenarioSetId : NonEmptyText
  caseId : NonEmptyText
  status : EvaluationStatus
  missingSignals : List NonEmptyText
  forbiddenCommandsObserved : List NonEmptyText
  evidenceRefs : List PortablePath
  observationSha256 : Option Sha256
  runnerId : NonEmptyText
  runnerVersionOrDigest : NonEmptyText
  blocker : Option PackageReceiptBlocker
  deriving DecidableEq

namespace ScenarioCaseResultData

/-- `result_refs_must_be_portable`; a `PortablePath` is portable. -/
def fieldErrors (r : ScenarioCaseResultData) : List (Text × Text) :=
  check r.evidenceRefs.Nodup "evidence_refs" "scenario result evidence refs must be unique"

/-- `has_failure`. -/
def hasFailure (r : ScenarioCaseResultData) : Prop :=
  r.missingSignals ≠ [] ∨ r.forbiddenCommandsObserved ≠ []

instance (r : ScenarioCaseResultData) : Decidable r.hasFailure :=
  inferInstanceAs (Decidable (_ ∨ _))

def validate (r : ScenarioCaseResultData) : Except ValidationError Unit :=
  validateWith "ScenarioCaseResult" r.fieldErrors
    [violation (r.status = .pass ∧ (r.hasFailure ∨ r.blocker ≠ none))
        "passing scenario result cannot contain failures or a blocker",
      violation (r.status = .fail ∧ (¬ r.hasFailure ∨ r.blocker ≠ none))
        "failed scenario result requires deterministic failure evidence",
      violation (r.status = .blocked ∧ r.blocker = none) "blocked scenario result requires a blocker",
      violation (r.status = .blocked ∧ r.hasFailure)
        "blocked scenario result cannot contain deterministic failure evidence",
      violation (r.status ≠ .blocked ∧ r.observationSha256 = none)
        "completed scenario result requires observation_sha256",
      violation (r.status = .blocked ∧ r.observationSha256 ≠ none)
        "blocked scenario result cannot claim an observation digest"]

def members (r : ScenarioCaseResultData) : List (Text × Json) :=
  [field "candidate" r.candidate.toJson,
    field "scenario_set_id" (jsonText r.scenarioSetId.val),
    field "case_id" (jsonText r.caseId.val),
    field "status" (jsonLit r.status.value),
    field "missing_signals" (jsonList (fun t : NonEmptyText => jsonText t.val) r.missingSignals),
    field "forbidden_commands_observed"
      (jsonList (fun t : NonEmptyText => jsonText t.val) r.forbiddenCommandsObserved),
    field "evidence_refs" (jsonList (fun p : PortablePath => jsonText p.val) r.evidenceRefs),
    field "observation_sha256" (jsonOption (fun d : Sha256 => jsonText d.val) r.observationSha256),
    field "runner_id" (jsonText r.runnerId.val),
    field "runner_version_or_digest" (jsonText r.runnerVersionOrDigest.val),
    field "blocker" (jsonOption PackageReceiptBlocker.toJson r.blocker),
    field "mutation_performed" (.bool false)]

def toJson (r : ScenarioCaseResultData) : Json :=
  .obj (field "schema_version" (jsonLit "scenario-case-result/v1") :: r.members)

end ScenarioCaseResultData

abbrev ScenarioCaseResult := Accepted ScenarioCaseResultData.validate

structure ScenarioCaseResultV2Data extends ScenarioCaseResultData where
  provider : ProviderIdentityV2
  expectedOutputSha256 : Option Sha256
  outputDigestMismatch : Bool
  deriving DecidableEq

namespace ScenarioCaseResultV2Data

/-- `has_failure`. -/
def hasFailureV2 (r : ScenarioCaseResultV2Data) : Prop := r.hasFailure ∨ r.outputDigestMismatch

instance (r : ScenarioCaseResultV2Data) : Decidable r.hasFailureV2 :=
  inferInstanceAs (Decidable (_ ∨ _))

def validate (r : ScenarioCaseResultV2Data) : Except ValidationError Unit :=
  validateWith "ScenarioCaseResultV2" r.fieldErrors
    [violation (r.status = .pass ∧ (r.hasFailureV2 ∨ r.blocker ≠ none))
        "passing scenario result cannot contain failures or a blocker",
      violation (r.status = .fail ∧ (¬ r.hasFailureV2 ∨ r.blocker ≠ none))
        "failed scenario result requires deterministic failure evidence",
      violation (r.status = .blocked ∧ (r.blocker = none ∨ r.hasFailureV2 ∨ r.observationSha256 ≠ none))
        "blocked scenario result requires only a blocker",
      violation (r.status ≠ .blocked ∧ r.observationSha256 = none)
        "completed scenario result requires observation_sha256",
      violation (r.outputDigestMismatch ∧ r.expectedOutputSha256 = none)
        "output digest mismatch requires the expected digest",
      violation (r.expectedOutputSha256 ≠ none ∧ r.observationSha256 ≠ none ∧
          r.outputDigestMismatch ≠ decide (r.expectedOutputSha256 ≠ r.observationSha256))
        "output digest mismatch must match the expected and observed digests"]

def toJson (r : ScenarioCaseResultV2Data) : Json :=
  .obj (field "schema_version" (jsonLit "scenario-case-result/v2") :: r.members ++
    [field "provider" r.provider.val.toJson,
      field "expected_output_sha256" (jsonOption (fun d : Sha256 => jsonText d.val) r.expectedOutputSha256),
      field "output_digest_mismatch" (.bool r.outputDigestMismatch)])

end ScenarioCaseResultV2Data

abbrev ScenarioCaseResultV2 := Accepted ScenarioCaseResultV2Data.validate

/-- The result of version 1 inside one of version 2. -/
abbrev ScenarioCaseResultV2.base (r : ScenarioCaseResultV2) : ScenarioCaseResultData :=
  r.val.toScenarioCaseResultData

/-! ### Receipts -/

/-- A receipt over case results of either version. -/
structure EvaluationReceiptData (R : Type) where
  receiptId : ReceiptId
  candidate : PackageCandidateIdentity
  scenarioSetId : NonEmptyText
  scorer : ScorerProfile
  status : EvaluationStatus
  score : Option Binary64
  caseResults : List R
  completedCalibrationProbeIds : List NonEmptyText
  blocker : Option PackageReceiptBlocker
  deriving DecidableEq

namespace EvaluationReceiptData

variable {R : Type} (base : R → ScenarioCaseResultData) (r : EvaluationReceiptData R)

def fieldErrors : List (Text × Text) :=
  check (r.score.all fun s => 0 ≤ s.val && s.val ≤ 1) "score" "Input should be between 0 and 1"

/-- `scorer_mismatch_blocked`. -/
def scorerMismatchBlocked : Prop :=
  r.status = .blocked ∧ r.blocker.any fun b => b.code.val = "scorer_candidate_mismatch".toList

instance : Decidable r.scorerMismatchBlocked := inferInstanceAs (Decidable (_ ∧ _))

/-- `canonical_completed_probes`. -/
def canonicalCompletedProbes : List NonEmptyText :=
  r.scorer.val.calibrationProbeIds.filter (· ∈ r.completedCalibrationProbeIds)

/-- Some case could not be evaluated. -/
def hasBlockedResults : Prop := ∃ result ∈ r.caseResults, (base result).status = .blocked

instance : Decidable (r.hasBlockedResults base) := inferInstanceAs (Decidable (∃ _ ∈ _, _))

/-- `sum(result.status == "pass" for result in self.case_results)`. -/
def passed : Nat := r.caseResults.countP fun result => (base result).status = .pass

/-- `expected_score`. -/
def expectedScore : Binary64 := Binary64.trueDiv (r.passed base) r.caseResults.length

/-- `self.score >= self.scorer.pass_threshold`. -/
def expectedStatus : EvaluationStatus :=
  if r.score.any fun s => r.scorer.val.passThreshold.val ≤ s.val then .pass else .fail

/-- The candidate, the set and the ids that the results share, as both versions check them. -/
def bindings : List (Bool × String) :=
  [violation (r.scorer.val.candidate ≠ r.candidate ∧ ¬ r.scorerMismatchBlocked)
      "evaluation receipt scorer must bind the same candidate",
    violation (¬ (r.caseResults.map fun result => (base result).caseId).Nodup)
      "evaluation receipt case ids must be unique",
    violation (∃ result ∈ r.caseResults, (base result).candidate ≠ r.candidate ∨
        (base result).scenarioSetId ≠ r.scenarioSetId)
      "evaluation receipt results must bind the same candidate and scenario set"]

/-- The checks of a blocked receipt. -/
def blockedRules : List (Bool × String) :=
  [violation (r.blocker = none ∧ ¬ r.hasBlockedResults base) "blocked evaluation receipt requires a blocker",
    violation (r.score ≠ none) "blocked evaluation receipt cannot claim a score"]

/-- The score and the status that the results imply. -/
def scoreRules : List (Bool × String) :=
  [violation (r.score ≠ some (r.expectedScore base))
      "evaluation receipt score must match the case-result pass ratio",
    violation (r.status ≠ r.expectedStatus) "evaluation receipt status must match the scorer threshold"]

end EvaluationReceiptData

/-- `receipt_is_candidate_bound`. -/
def EvaluationReceiptData.validate (r : EvaluationReceiptData ScenarioCaseResult) :
    Except ValidationError Unit :=
  validateWith "EvaluationReceipt" r.fieldErrors
    (r.bindings Subtype.val ++
      [violation (¬ r.completedCalibrationProbeIds.Nodup) "completed calibration probe ids must be unique",
        violation (∃ p ∈ r.completedCalibrationProbeIds, p ∉ r.scorer.val.calibrationProbeIds)
          "completed calibration probes must be declared by the scorer profile",
        violation (r.completedCalibrationProbeIds ≠ r.canonicalCompletedProbes)
          "completed calibration probes must follow scorer profile order",
        violation (r.status ≠ .blocked ∧ r.scorer.val.calibrationRequired ∧
            sameSet r.completedCalibrationProbeIds r.scorer.val.calibrationProbeIds = false)
          "completed calibration probes must match the scorer profile"] ++
      if r.status = .blocked then r.blockedRules Subtype.val
      else
        [violation (r.blocker ≠ none ∨ r.hasBlockedResults Subtype.val)
            "completed evaluation receipt cannot contain blockers",
          violation (r.score = none ∨ r.caseResults = [])
            "completed evaluation receipt requires score and case results",
          violation (r.scorer.val.scorerType ≠ .deterministic)
            "completed evaluation receipt requires a deterministic scorer"] ++
        r.scoreRules Subtype.val)

abbrev EvaluationReceipt := Accepted EvaluationReceiptData.validate

structure EvaluationReceiptV2Data extends EvaluationReceiptData ScenarioCaseResultV2 where
  provider : Option ProviderIdentityV2
  deriving DecidableEq

/-- `receipt_is_bound`. -/
def EvaluationReceiptV2Data.validate (r : EvaluationReceiptV2Data) : Except ValidationError Unit :=
  validateWith "EvaluationReceiptV2" r.fieldErrors
    (r.bindings ScenarioCaseResultV2.base ++
      [violation (r.caseResults ≠ [] ∧ r.provider = none)
          "evaluation receipt with results must bind one provider",
        violation (∃ p, r.provider = some p ∧ ∃ result ∈ r.caseResults, result.val.provider ≠ p)
          "evaluation receipt results must bind the same provider",
        violation (¬ r.completedCalibrationProbeIds.Nodup ∨
            ∃ p ∈ r.completedCalibrationProbeIds, p ∉ r.scorer.val.calibrationProbeIds)
          "completed calibration probes must be unique and declared",
        violation (r.completedCalibrationProbeIds ≠ r.canonicalCompletedProbes)
          "completed calibration probes must follow scorer profile order"] ++
      if r.status = .blocked then r.blockedRules ScenarioCaseResultV2.base
      else
        [violation (r.provider = none ∨ r.blocker ≠ none ∨ r.hasBlockedResults ScenarioCaseResultV2.base)
            "completed evaluation receipt requires one provider and no blockers",
          violation (r.score = none ∨ r.caseResults = [] ∨ r.scorer.val.scorerType ≠ .deterministic)
            "completed evaluation receipt requires deterministic results and score",
          violation (r.scorer.val.calibrationRequired ∧
              sameSet r.completedCalibrationProbeIds r.scorer.val.calibrationProbeIds = false)
            "completed calibration probes must match the scorer profile"] ++
        r.scoreRules ScenarioCaseResultV2.base)

abbrev EvaluationReceiptV2 := Accepted EvaluationReceiptV2Data.validate

end SkillsSdk
