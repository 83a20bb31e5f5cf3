/-
SkillsSdk/Coverage.lean

Assessing a coverage plan against the ten active scenarios of a package:
`assess_scenario_coverage`.

The package is read three times, and may change in between: for the quality of
its scenarios, for the ids of the active cases, and once more at the end.  What
ties the reads together is the candidate, whose digest binds every file of a
package that passes, `references/evals.yaml` among them (`digest_eq_of_candidate_eq`).
So the second read finds the document of the first or reports a finding
(`activeIds_cases`), and the findings decide the result (`consistent_of_findings`).
-/
import SkillsSdk.ContentBinding
import SkillsSdk.Models.Coverage
import SkillsSdk.ReleaseSets
import SkillsSdk.ScanCompleteness

namespace SkillsSdk

/-! ### The reads -/

/-- What the assessment takes from outside. -/
structure CoverageLibrary where
  parsers : Parsers
  sha256 : List UInt8 → Sha256
  quality : QualityLibrary
  /-- Decoding and parsing captured bytes. -/
  parse : List UInt8 → Except EvalsFailure YamlValue

/-- The package as one read finds it. -/
structure PackageState where
  source : PackageSource
  /-- The bytes that a stable read of `references/evals.yaml` captures, of whatever digest. -/
  evals : Except EvalsFailure (List UInt8)

def coverageFinding (text : FindingText) : ScenarioQualityFinding := { code := text.1, message := text.2 }

def candidateChangedAfter : FindingText :=
  (literal "candidate_changed" (by decide +kernel),
    literal "candidate changed after scenario quality assessment" (by decide +kernel))

def candidateChangedDuring : FindingText :=
  (candidateChangedAfter.1, literal "candidate changed during coverage assessment" (by decide +kernel))

def invalidCoveragePlan : FindingText :=
  (literal "invalid_coverage_plan" (by decide +kernel),
    literal "coverage plan must match the closed versioned contract" (by decide +kernel))

def coverageIdentityMismatch : FindingText :=
  (literal "coverage_identity_mismatch" (by decide +kernel),
    literal "coverage plan must bind the current candidate and set" (by decide +kernel))

/-- The failure of a capture whose digest is not the expected one. -/
def evalsSourceChanged : EvalsFailure :=
  .valueError "evals_source_changed".toList ⟨"ValueError".toList, by decide +kernel⟩

variable (lib : CoverageLibrary)

/-- `_capture_evals` and `load_closed_yaml`. -/
def loadEvals (expected : Option Sha256) (evals : Except EvalsFailure (List UInt8)) :
    Except EvalsFailure YamlValue := do
  let bytes ← evals
  if some (lib.sha256 bytes) = expected then lib.parse bytes else .error evalsSourceChanged

/-- The digest under which a validation lists `references/evals.yaml`. -/
def evalsDigest (validation : SkillPackageValidation) : Option Sha256 :=
  (validation.val.files.find? (·.path = evalsPath)).map (·.sha256)

/-- `validate_skill_package(root, source_revision=…)`. -/
def validateState (state : PackageState) (revision : PyStr) : Except SkillRaised SkillPackageValidation :=
  validateSkillPackage lib.parsers lib.sha256 state.source revision

/-- The quality assessment under the contract of ten cases. -/
def readQuality (state : PackageState) (revision selector : PyStr) :
    Except SkillRaised ScenarioQualityReceipt := do
  let validation ← validateState lib state revision
  (assessScenarioQuality lib.quality validation (loadEvals lib (evalsDigest validation) state.evals)
    (some selector) .v2).mapError .exc

/-! ### The active cases -/

/-- What `_active_ids` appends and returns. -/
structure ActiveIds where
  findings : List ScenarioQualityFinding := []
  ids : List PyStr := []

/-- `str(case["id"])`. -/
def shownId (case : YamlMembers) : Except PyExc PyStr :=
  match case.lookup (PyStr.lit "id") with
  | some id => id.shown lib.quality.interp
  | none => .error .keyError

/-- The ids of the selected cases of a document, when it loads. -/
def documentIds (packageId : PackageId) (selector : Option PyStr)
    (evals : Except EvalsFailure YamlValue) : Except PyExc ActiveIds :=
  match evals with
  | .error failure => do
    let loading ← failureDraft failure
    return { findings := ← emitAll (loading :: documentDrafts packageId .none) }
  | .ok payload =>
    match members? payload with
    | none => do return { findings := ← emitAll (documentDrafts packageId payload) }
    | some members => do
      let early ← emitAll (documentDrafts packageId payload ++ setDrafts .v2 selector members)
      let selection ← selectReleaseCases (documentCases payload) (releaseSets .v2 selector members) selector
      let late ← emitAll selection.1
      return ⟨early ++ late, ← (selection.2.filterMap members?).mapM (shownId lib)⟩

/-- The set that a receipt is about, as a selector. -/
def receiptSelector (quality : ScenarioQualityReceipt) : Option PyStr :=
  quality.val.scenarioSetId.map (PyStr.ofText ·.val)

/-- `_active_ids`. -/
def activeIds (state : PackageState) (revision : PyStr) (quality : ScenarioQualityReceipt) :
    Except SkillRaised ActiveIds := do
  let validation ← validateState lib state revision
  if validation.val.status ≠ .pass ∨ validation.val.candidate ≠ quality.val.candidate then
    return { findings := [coverageFinding candidateChangedAfter] }
  else
    match validation.val.candidate, evalsDigest validation with
    | some candidate, some digest =>
      (documentIds lib candidate.packageId (receiptSelector quality)
        (loadEvals lib (some digest) state.evals)).mapError .exc
    -- `next` finds no such file
    | _, _ => .error (.exc .other)

/-- The active cases of a package whose quality passes. -/
def readActive (state : PackageState) (revision : PyStr) (quality : ScenarioQualityReceipt) :
    Except SkillRaised ActiveIds :=
  if quality.val.status = .pass then activeIds lib state revision quality else .ok {}

/-! ### The assessment -/

/-- A finding of an audit. -/
def auditFinding (text : String × String) : Except PyExc ScenarioQualityFinding :=
  if h : isBlockerCode text.1.toList = true ∧ isNonEmptyText text.2.toList = true then
    .ok { code := ⟨text.1.toList, h.1⟩, message := ⟨text.2.toList, h.2⟩ }
  else .error .valueError

/-- The finding about a supplied value that is no plan. -/
def invalidPlan (supplied : Option ScenarioCoveragePlan) : List ScenarioQualityFinding :=
  if supplied.isNone then [coverageFinding invalidCoveragePlan] else []

/-- The finding about a plan of another candidate or set. -/
def planMismatch (plan : ScenarioCoveragePlan) (quality : ScenarioQualityReceipt) :
    List ScenarioQualityFinding :=
  if some plan.val.candidate ≠ quality.val.candidate ∨
      some plan.val.scenarioSetId ≠ quality.val.scenarioSetId then
    [coverageFinding coverageIdentityMismatch] else []

/-- The audit against active ids, when there are any.  A case id of a plan
encodes, so it is none of those that do not. -/
def auditFindings (plan : ScenarioCoveragePlan) (active : List PyStr) :
    Except PyExc (List ScenarioQualityFinding) :=
  if active = [] then .ok []
  else (plan.val.audit (active.filterMap PyStr.encode?)).mapM auditFinding

/-- What the supplied plan adds to the findings. -/
def planFindings (supplied : Option ScenarioCoveragePlan) (quality : ScenarioQualityReceipt)
    (active : List PyStr) : Except PyExc (List ScenarioQualityFinding) :=
  match supplied with
  | none => .ok []
  | some plan => do return planMismatch plan quality ++ (← auditFindings plan active)

/-- What the last look at the package adds. -/
def finalFindings (state : PackageState) (revision : PyStr) (quality : ScenarioQualityReceipt)
    (active : List PyStr) : Except SkillRaised (List ScenarioQualityFinding) :=
  if active = [] then .ok []
  else do
    let validation ← validateState lib state revision
    return if validation.val.status ≠ .pass ∨ validation.val.candidate ≠ quality.val.candidate then
      [coverageFinding candidateChangedDuring] else []

/-- The order of `findings.sort`. -/
def coveragePrecedes (f g : ScenarioQualityFinding) : Prop :=
  f.code.val < g.code.val ∨ (f.code.val = g.code.val ∧ f.message.val ≤ g.message.val)

instance : DecidableRel coveragePrecedes := fun f g => by
  unfold coveragePrecedes
  infer_instance

/-- The fields of the result about ids that encode. -/
def coverageResultData (quality : ScenarioQualityReceiptV2) (supplied : Option ScenarioCoveragePlan)
    (active : List Text) (findings : List ScenarioQualityFinding) : ScenarioCoverageResultData where
  candidate := quality.val.val.candidate
  scenarioSetId := quality.val.val.scenarioSetId
  status := if findings = [] then .pass else .blocked
  quality := quality
  plan := supplied
  activeCaseIds := active
  openGapIds := ScenarioCoverageResultData.expectedGaps supplied
  coverageComplete := decide (findings = []) && supplied.any fun p => decide (p.val.gaps = [])
  findings := findings.insertionSort coveragePrecedes

/-- `ScenarioCoverageResult(…)`: an id with a lone surrogate is no string to the model. -/
def coverageResult (quality : ScenarioQualityReceiptV2) (supplied : Option ScenarioCoveragePlan)
    (active : List PyStr) (findings : List ScenarioQualityFinding) :
    Except SkillRaised ScenarioCoverageResult :=
  match active.mapM PyStr.encode? with
  | some ids =>
    modelCall (construct ScenarioCoverageResultData.validate (coverageResultData quality supplied ids findings))
  | none => .error (.validationError ⟨"ScenarioCoverageResult".toList,
      [("active_case_ids".toList, "Input should be a valid string".toList)]⟩)

/-- `assess_scenario_coverage`, of what its three reads find.  The supplied value
is a plan when `ScenarioCoveragePlan.model_validate` makes one of it. -/
def assessScenarioCoverage (first second final : PackageState) (revision selector : PyStr)
    (supplied : Option ScenarioCoveragePlan) : Except SkillRaised ScenarioCoverageResult := do
  let quality ← readQuality lib first revision selector
  if h : quality.val.version = .v2 then
    let active ← readActive lib second revision quality
    let planned ← (planFindings supplied quality active.ids).mapError .exc
    let changed ← finalFindings lib final revision quality active.ids
    coverageResult ⟨quality, h⟩ supplied active.ids
      (quality.val.findings ++ invalidPlan supplied ++ active.findings ++ planned ++ changed)
  else .error (.exc .typeError)

end SkillsSdk
