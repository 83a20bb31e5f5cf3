/-
SkillsSdk/Models/ScenarioQuality.lean

Findings and receipts about the quality of declared scenarios.

There are two versions of the receipt.  The second takes what the first takes,
under a policy of exactly ten cases.
-/
import SkillsSdk.Models.Validation
import SkillsSdk.SkillIr
import SkillsSdk.Raising

namespace SkillsSdk

/-! ### Findings -/

structure ScenarioQualityFinding where
  code : BlockerCode
  message : NonEmptyText
  caseId : Option NonEmptyText := none
  evidenceRefs : List PortablePath := []
  deriving DecidableEq

/-- A finding before its model has seen it. -/
structure FindingDraft where
  code : BlockerCode
  message : PyStr
  caseId : Option PyStr := none
  deriving DecidableEq

/-- The model takes the message and the case id. -/
def FindingDraft.sound (d : FindingDraft) : Bool :=
  (nonEmptyText? d.message).isSome && d.caseId.all fun s => (nonEmptyText? s).isSome

/-- `ScenarioQualityFinding(…)`, with the given reference. -/
def FindingDraft.emit (reference : PortablePath) (d : FindingDraft) :
    Except PyExc ScenarioQualityFinding :=
  match nonEmptyText? d.message, d.caseId.mapM nonEmptyText? with
  | some message, some caseId => .ok ⟨d.code, message, caseId, [reference]⟩
  | _, _ => .error .valueError

/-! ### Receipts -/

inductive QualityVersion where
  | v1
  | v2
  deriving DecidableEq

/-- The policy that a receipt shows as applied. -/
structure ScenarioQualityAppliedPolicy where
  minimumReleaseCases : Nat
  targetReleaseCases : Nat
  maximumReleaseCases : Nat
  minimumPressureOrRegression : Nat
  minimumNegativeOrEdge : Nat
  deriving DecidableEq

/-- The fields of the policy are literals of the version. -/
def QualityVersion.policy : QualityVersion → ScenarioQualityAppliedPolicy
  | v1 => ⟨5, 8, 10, 1, 1⟩
  | v2 => ⟨10, 10, 10, 1, 1⟩

inductive QualityScope where
  | all
  | release
  deriving DecidableEq

structure ScenarioQualityReceiptData where
  version : QualityVersion
  candidate : Option PackageCandidateIdentity
  scenarioSetId : Option NonEmptyText
  scope : QualityScope
  status : VerificationStatus
  scenarioCount : Nat
  pressureOrRegressionCount : Nat := 0
  negativeOrEdgeCount : Nat := 0
  findings : List ScenarioQualityFinding
  deriving DecidableEq

namespace ScenarioQualityReceiptData

/-- `effective_policy`. -/
def effectivePolicy (r : ScenarioQualityReceiptData) : ScenarioQualityAppliedPolicy := r.version.policy

/-- `ScenarioQualityReceipt.status_matches_evidence`. -/
def statusMatchesEvidence (r : ScenarioQualityReceiptData) : List (Bool × String) :=
  [violation ((r.scope = .release) ≠ (r.scenarioSetId ≠ none))
      "release scope requires exactly one scenario set identifier",
    violation (r.status = .pass ∧ (r.findings ≠ [] ∨ r.candidate = none))
      "passing scenario quality requires a candidate and no findings",
    violation (r.status = .pass ∧ r.scenarioCount = 0)
      "passing scenario quality requires at least one scenario",
    violation (r.scenarioCount < r.pressureOrRegressionCount)
      "pressure or regression count cannot exceed scenario count",
    violation (r.scenarioCount < r.negativeOrEdgeCount)
      "negative or edge count cannot exceed scenario count",
    violation (r.status = .pass ∧ r.scope = .release ∧
        (r.scenarioCount < r.effectivePolicy.minimumReleaseCases ∨
          r.effectivePolicy.maximumReleaseCases < r.scenarioCount ∨
          r.pressureOrRegressionCount < r.effectivePolicy.minimumPressureOrRegression ∨
          r.negativeOrEdgeCount < r.effectivePolicy.minimumNegativeOrEdge))
      "passing release quality must satisfy the effective policy",
    violation (r.status = .blocked ∧ r.findings = []) "blocked scenario quality requires findings"]

/-- `ScenarioQualityReceiptV2.passing_active_set_has_ten_cases`. -/
def passingActiveSetHasTenCases (r : ScenarioQualityReceiptData) : List (Bool × String) :=
  match r.version with
  | .v1 => []
  | .v2 =>
    [violation (r.status = .pass ∧ (r.scope ≠ .release ∨ r.scenarioCount ≠ 10))
      "passing active scenario quality requires one explicit set of ten cases"]

def validate (r : ScenarioQualityReceiptData) : Except ValidationError Unit :=
  validateWith "ScenarioQualityReceipt" [] (r.statusMatchesEvidence ++ r.passingActiveSetHasTenCases)

/-- A receipt that shows what it claims is accepted. -/
theorem validate_eq_ok {r : ScenarioQualityReceiptData} (hscope : r.scope = .release ↔ r.scenarioSetId ≠ none)
    (hpressure : r.pressureOrRegressionCount ≤ r.scenarioCount)
    (hnegative : r.negativeOrEdgeCount ≤ r.scenarioCount)
    (hblocked : r.status = .blocked → r.findings ≠ [])
    (hpass : r.status = .pass → (r.findings = [] ∧ r.candidate ≠ none) ∧ r.scenarioCount ≠ 0 ∧
      (r.scope = .release → r.effectivePolicy.minimumReleaseCases ≤ r.scenarioCount ∧
        r.scenarioCount ≤ r.effectivePolicy.maximumReleaseCases ∧
        r.effectivePolicy.minimumPressureOrRegression ≤ r.pressureOrRegressionCount ∧
        r.effectivePolicy.minimumNegativeOrEdge ≤ r.negativeOrEdgeCount) ∧
      (r.version = .v2 → r.scope = .release ∧ r.scenarioCount = 10)) : r.validate = .ok () := by
  rw [validate, validateWith_eq_ok]
  refine ⟨rfl, ?_⟩
  have hten : ∀ v ∈ r.passingActiveSetHasTenCases, v.1 = false := by
    intro v hv
    rw [passingActiveSetHasTenCases] at hv
    rcases hversion : r.version with - | -
    · rw [hversion] at hv
      exact absurd hv List.not_mem_nil
    · rw [hversion] at hv
      rw [List.mem_singleton.mp hv, violation, decide_eq_false_iff_not]
      rintro ⟨hstatus, h⟩
      obtain ⟨-, -, -, hactive⟩ := hpass hstatus
      rcases h with h | h
      · exact h (hactive hversion).1
      · exact h (hactive hversion).2
  intro v hv
  rcases List.mem_append.mp hv with hv | hv
  · simp only [statusMatchesEvidence, List.mem_cons, List.not_mem_nil, or_false] at hv
    rcases hv with rfl | rfl | rfl | rfl | rfl | rfl | rfl <;> rw [violation, decide_eq_false_iff_not]
    · exact fun h => h (propext hscope)
    · rintro ⟨hstatus, h⟩
      obtain ⟨⟨hfindings, hcandidate⟩, -⟩ := hpass hstatus
      exact h.elim (fun h => h hfindings) hcandidate
    · rintro ⟨hstatus, h⟩
      exact (hpass hstatus).2.1 h
    · exact Nat.not_lt.mpr hpressure
    · exact Nat.not_lt.mpr hnegative
    · rintro ⟨hstatus, hrelease, h⟩
      obtain ⟨-, -, hpolicy, -⟩ := hpass hstatus
      obtain ⟨hleast, hmost, hpressure, hnegative⟩ := hpolicy hrelease
      omega
    · rintro ⟨hstatus, h⟩
      exact hblocked hstatus h
  · exact hten v hv

end ScenarioQualityReceiptData

abbrev ScenarioQualityReceipt := Accepted ScenarioQualityReceiptData.validate

/-! ### Emitting findings -/

theorem mapM_nonEmptyText?_some {id : PyStr} : (some id).mapM nonEmptyText? = some <$> nonEmptyText? id := rfl

theorem raises_emit_iff {reference : PortablePath} {d : FindingDraft} :
    Raises (d.emit reference) ↔ d.sound = false := by
  rw [FindingDraft.emit, FindingDraft.sound]
  rcases hmessage : nonEmptyText? d.message with - | message
  · exact iff_of_true ⟨_, rfl⟩ rfl
  · rcases hid : d.caseId with - | id
    · exact iff_of_false not_raises_ok (by simp)
    · rcases htext : nonEmptyText? id with - | text
      · refine iff_of_true ⟨.valueError, ?_⟩ (by simp [htext])
        simp [htext]
      · refine iff_of_false ?_ (by simp [htext])
        have hsome : (some id).mapM nonEmptyText? = some (some text) := by simp [htext]
        rw [hsome]
        exact not_raises_ok

/-- Findings are emitted exactly when each of them is sound. -/
theorem raises_emit_mapM_iff {reference : PortablePath} {ds : List FindingDraft} :
    Raises (ds.mapM (FindingDraft.emit reference)) ↔ ∃ d ∈ ds, d.sound = false := by
  rw [raises_mapM_iff]
  simp only [raises_emit_iff]

end SkillsSdk
