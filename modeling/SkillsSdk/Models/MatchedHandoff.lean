/-
SkillsSdk/Models/MatchedHandoff.lean

The selection of a local candidate as the baseline of a cloud comparison.
-/
import SkillsSdk.Models.MatchedIngress

namespace SkillsSdk

variable {I : Interpreter} {H : MatchedHost I}

/-! ### The selection -/

/-- What a step of the selection raises: a `ValueError`, a search that ends inside a generator, or
an instance without the storage of its model. -/
inductive HandoffRaised where
  | value (e : ValueRaised)
  | runtimeError
  | attributeError
  deriving DecidableEq

def PairRaised.toHandoff : PairRaised → HandoffRaised
  | .valueError message => .value (.valueError message)
  | .stopIteration => .runtimeError

/-- `raise ValueError(message)`. -/
def raiseValue {α : Type} (message : String) : Except HandoffRaised α :=
  .error (.value (.valueError message.toList))

/-- A case without its scorers. -/
structure ControlledCase where
  caseId : Text
  scope : CaseScope
  driverSkillPath : PortablePath
  selectedSkillPaths : List PortablePath
  claimIds : List Text
  referencePaths : List PortablePath
  deriving DecidableEq

def MatchedPluginCaseScope.controlled (c : MatchedPluginCaseScope I) : ControlledCase where
  caseId := c.val.caseId
  scope := c.val.scope
  driverSkillPath := c.val.driverSkillPath
  selectedSkillPaths := c.val.selectedSkillPaths
  claimIds := c.val.claimIds
  referencePaths := c.val.referencePaths

/-- The cloud plan compares against the local candidate, over the same cases and scoring policy. -/
def MatchedComparisonPlan.continues (cloud plan : MatchedComparisonPlan I) : Prop :=
  cloud.val.pluginScope.val.baseline = plan.val.pluginScope.val.candidate ∧
  cloud.val.caseBindings.map (·.val.baselineInputSha256) =
    plan.val.caseBindings.map (·.val.candidateInputSha256) ∧
  cloud.val.pluginScope.val.baseline ≠ cloud.val.pluginScope.val.candidate ∧
  cloud.val.baselineScenarios = plan.val.candidateScenarios ∧
  cloud.val.pluginScope.val.baselineCoverage = plan.val.pluginScope.val.candidateCoverage ∧
  cloud.val.rubric = plan.val.rubric ∧
  cloud.val.selectionPolicy = plan.val.selectionPolicy ∧
  cloud.val.caseBindings.map (·.val.semanticSignalIds) =
    plan.val.caseBindings.map (·.val.semanticSignalIds) ∧
  cloud.val.caseBindings.map (·.val.assertionContractSha256) =
    plan.val.caseBindings.map (·.val.assertionContractSha256) ∧
  cloud.val.caseBindings.map (·.val.checkContractSha256) =
    plan.val.caseBindings.map (·.val.checkContractSha256) ∧
  cloud.val.caseBindings.map (·.val.baselineScenarioSetId) =
    plan.val.caseBindings.map (·.val.candidateScenarioSetId) ∧
  (cloud.val.pluginScope.val.cases.map fun c => (c.val.baselineScorer, c.controlled)) =
    plan.val.pluginScope.val.cases.map fun c => (c.val.candidateScorer, c.controlled)

instance (cloud plan : MatchedComparisonPlan I) : Decidable (cloud.continues plan) :=
  inferInstanceAs (Decidable (_ ∧ _))

/-- The summary of the local lane selects its candidate, and the cloud plan continues it. -/
def requireContinuation (r : MatchedExecutionReceipt H) (plan cloud : MatchedComparisonPlan I) :
    Except HandoffRaised Unit :=
  match r.summary with
  | .error e => .error (.value e)
  | .ok summary =>
    if summary.map (·.val.decision) ≠ some .candidate then
      raiseValue "cloud handoff requires qualifying within-model local improvement"
    else if ¬ cloud.continues plan then
      raiseValue "cloud experiment must preserve the selected local candidate, cases and scoring policy"
    else .ok ()

/-- `_require_local_handoff`. -/
def requireLocalHandoff (r : MatchedExecutionReceipt H) (cloud : MatchedComparisonPlan I) :
    Except HandoffRaised Unit :=
  match r.val.status, r.val.lane, r.val.plan with
  | .completed, some .localLane, some plan =>
    match r.requiresRegression with
    | .error e => .error e.toHandoff
    | .ok true => raiseValue "cloud handoff requires complete local evidence without unresolved regressions"
    | .ok false => requireContinuation r plan cloud
  | _, _, _ => raiseValue "cloud handoff requires complete local evidence without unresolved regressions"

/-! ### Handoffs -/

inductive HandoffStatus where
  | ready
  | blocked
  deriving DecidableEq

structure MatchedCloudHandoffData (H : MatchedHost I) where
  localReceipt : Option (MatchedExecutionReceipt H)
  cloudPlan : Option (MatchedComparisonPlan I)
  localReceiptSha256 : Option Sha256
  status : HandoffStatus
  blocker : Option PackageSafetyBlocker
  deriving DecidableEq

variable (receiptSha256 : MatchedExecutionReceipt H → Sha256)

namespace MatchedCloudHandoffData

variable (h : MatchedCloudHandoffData H)

/-- The selection that the retained evidence allows, derived again. -/
def eligible : Bool :=
  match h.localReceipt, h.cloudPlan with
  | some r, some cloud => (requireLocalHandoff r cloud).isOk
  | _, _ => false

/-- `selection_matches_evidence`. -/
def selectionMatchesEvidence : List (Bool × String) :=
  violation (h.localReceiptSha256 ≠ h.localReceipt.map receiptSha256)
    "cloud handoff must bind the complete retained local receipt" ::
  match h.status with
  | .ready =>
    [violation (h.eligible = false ∨ h.blocker ≠ none)
      "ready cloud handoff requires qualifying local evidence and matching cloud baseline"]
  | .blocked =>
    [violation (h.eligible = true ∨
        h.blocker.map (·.val.code.val) ≠ some "invalid_matched_handoff".toList)
      "blocked cloud handoff must describe an ineligible selection"]

def validate : Except ValidationError Unit :=
  validateWith "MatchedCloudHandoff" [] (h.selectionMatchesEvidence receiptSha256)

end MatchedCloudHandoffData

abbrev MatchedCloudHandoff := Accepted (MatchedCloudHandoffData.validate receiptSha256)

end SkillsSdk
