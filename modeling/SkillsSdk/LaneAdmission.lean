/-
SkillsSdk/LaneAdmission.lean

The admission of a matched lane: budgets, calibrations and ten paired cases,
each bound to the plan, before any adapter is called.

What admission asks of the host (the types of the supplied objects, the plugin
source and its safety evidence) comes as the outcome of those checks.
-/
import SkillsSdk.MatchedHandoffs

namespace SkillsSdk

variable {I : Interpreter} {H : MatchedHost I}

/-! ### Blockers -/

/-- The codes with which a lane is blocked. -/
inductive LaneBlockerCode where
  | invalidExecution
  | costUnavailable
  | runInsufficient
  | safetyEvidenceRequired
  | safetyRejected
  | incomplete
  | sourceChanged
  | safetyChanged
  | timeExhausted
  | providerExhausted
  | judgeExhausted
  deriving DecidableEq

def LaneBlockerCode.value : LaneBlockerCode → String
  | invalidExecution => "invalid_matched_execution"
  | costUnavailable => "matched_cost_budget_unavailable"
  | runInsufficient => "matched_run_budget_insufficient"
  | safetyEvidenceRequired => "matched_plugin_safety_evidence_required"
  | safetyRejected => "matched_plugin_safety_rejected"
  | incomplete => "matched_execution_incomplete"
  | sourceChanged => "matched_plugin_source_changed"
  | safetyChanged => "matched_plugin_safety_changed"
  | timeExhausted => "matched_time_budget_exhausted"
  | providerExhausted => "matched_provider_budget_exhausted"
  | judgeExhausted => "matched_judge_budget_exhausted"

section

set_option maxRecDepth 4000

/-- The message of every lane blocker. -/
def laneMessage : NonEmptyText := ⟨"Matched execution requires complete bound observations.".toList, by decide +kernel⟩

theorem laneMessage_public : publicTextIsRedactionSafe laneMessage.val = true :=
  lifecycleTextIsPublicSafe_ofList (by decide +kernel)

/-- The code, as a blocker carries it. -/
def LaneBlockerCode.blockerCode (code : LaneBlockerCode) : BlockerCode :=
  ⟨code.value.toList, by cases code <;> decide +kernel⟩

theorem LaneBlockerCode.blockerCode_public (code : LaneBlockerCode) :
    publicTextIsRedactionSafe code.blockerCode.val = true := by
  cases code <;> exact lifecycleTextIsPublicSafe_ofList (by decide +kernel)

/-- The blocker of a lane receipt with a code. -/
def laneBlocker (code : LaneBlockerCode) : PackageSafetyBlocker :=
  ⟨⟨code.blockerCode, laneMessage, []⟩,
    validateWith_eq_ok.mpr ⟨by simp [code.blockerCode_public, laneMessage_public], by simp⟩⟩

end

/-! ### Cases -/

/-- What a lane reads of a loaded case. -/
structure SelectedCaseDefinition where
  scenarioSet : ScenarioSetV2
  semanticSignalIds : List NonEmptyText
  assertionContractSha256 : Sha256
  checkContractSha256 : Sha256

/-- What the checks that read the host come to. -/
inductive HostScreening where
  | accepted
  /-- The capabilities, the definition, the plugin context or the case safety do not match. -/
  | refused
  | safetyEvidenceMissing
  | safetyRejected
  deriving DecidableEq

structure MatchedVariantExecution where
  definition : SelectedCaseDefinition
  request : ProviderExecutionRequest
  /-- `canonical_json_sha256(payload)`. -/
  payloadSha256 : Sha256
  screening : HostScreening
  /-- The identities of the provider and the judge of each trial. -/
  schedule : List (Nat × Nat)

structure MatchedCaseExecution where
  baseline : MatchedVariantExecution
  candidate : MatchedVariantExecution

def MatchedCaseExecution.item (e : MatchedCaseExecution) : MatchedVariant → MatchedVariantExecution
  | .baseline => e.baseline
  | .candidate => e.candidate

/-- A case of a plan with its scenarios in both variants. -/
structure PlannedCase where
  binding : MatchedCaseBinding
  baseline : ScenarioSetV2
  candidate : ScenarioSetV2

namespace PlannedCase

def scenarios (c : PlannedCase) : MatchedVariant → ScenarioSetV2
  | .baseline => c.baseline
  | .candidate => c.candidate

def inputSha256 (c : PlannedCase) : MatchedVariant → Sha256
  | .baseline => c.binding.val.baselineInputSha256
  | .candidate => c.binding.val.candidateInputSha256

def scenarioSetId (c : PlannedCase) : MatchedVariant → NonEmptyText
  | .baseline => c.binding.val.baselineScenarioSetId
  | .candidate => c.binding.val.candidateScenarioSetId

end PlannedCase

/-- The cases of a plan, in order. -/
def MatchedComparisonPlan.plannedCases (plan : MatchedComparisonPlan I) : List PlannedCase :=
  (plan.val.caseBindings.zip (plan.val.baselineScenarios.zip plan.val.candidateScenarios)).map
    fun c => ⟨c.1, c.2.1, c.2.2⟩

namespace MatchedVariantExecution

variable (item : MatchedVariantExecution)

/-- The case, its checks and the request are those of the plan. -/
def bindsCase (specification : MatchedLaneSpec) (c : PlannedCase) (variant : MatchedVariant) : Prop :=
  let set := item.definition.scenarioSet.val
  let expected := (c.scenarios variant).val
  set.candidate = expected.candidate ∧ set.scenarioSetId = c.scenarioSetId variant ∧
    set.cases = expected.cases ∧
    item.definition.assertionContractSha256 = c.binding.val.assertionContractSha256 ∧
    item.definition.checkContractSha256 = c.binding.val.checkContractSha256 ∧
    item.definition.semanticSignalIds = c.binding.val.semanticSignalIds ∧
    item.request.val.provider = specification.val.generator ∧
    item.request.val.inputSha256 = c.inputSha256 variant

instance (specification : MatchedLaneSpec) (c : PlannedCase) (variant : MatchedVariant) :
    Decidable (item.bindsCase specification c variant) := inferInstanceAs (Decidable (_ ∧ _))

/-- `_request_matches_plugin_context`, before it reads the plugin. -/
def requestMatches : Prop :=
  let set := item.definition.scenarioSet.val
  item.request.val.candidate = set.candidate ∧ item.request.val.scenarioSetId.val = set.scenarioSetId.val ∧
    (set.cases.head?.map fun c => c.base.caseId.val) = some item.request.val.caseId.val ∧
    item.request.val.inputSha256 = item.payloadSha256

instance : Decidable item.requestMatches := inferInstanceAs (Decidable (_ ∧ _))

/-- `_require_variant`: why the lane is not admitted. -/
def problem (specification : MatchedLaneSpec) (c : PlannedCase) (variant : MatchedVariant) :
    Option LaneBlockerCode :=
  if ¬ item.bindsCase specification c variant then some .invalidExecution
  else if ¬ item.requestMatches then some .invalidExecution
  else
    match item.screening with
    | .accepted => none
    | .refused => some .invalidExecution
    | .safetyEvidenceMissing => some .safetyEvidenceRequired
    | .safetyRejected => some .safetyRejected

/-- `_require_trial_adapters`: the adapters seen so far, when each is fresh. -/
def trialAdapters (trials : Nat) (seen : List Nat) : Option (List Nat) :=
  let adapters := item.schedule.flatMap fun pair => [pair.1, pair.2]
  if item.schedule.length = trials ∧ (seen ++ adapters).Nodup then some (seen ++ adapters) else none

end MatchedVariantExecution

/-! ### Preflight -/

/-- The loop of the preflight over the paired cases. -/
def casesProblem (specification : MatchedLaneSpec) :
    List (MatchedCaseExecution × PlannedCase) → List Nat → Option LaneBlockerCode
  | [], _ => none
  | (e, c) :: rest, seen =>
    (e.baseline.problem specification c .baseline).orElse fun _ =>
    (e.candidate.problem specification c .candidate).orElse fun _ =>
    match (e.baseline.trialAdapters specification.trialCount seen).bind
        (e.candidate.trialAdapters specification.trialCount) with
    | none => some .invalidExecution
    | some seen => casesProblem specification rest seen

/-- The budget of a lane cannot be enforced, or does not cover its trials. -/
def budgetProblem (specification : MatchedLaneSpec) : Option LaneBlockerCode :=
  let budget := specification.val.budget.val
  if budget.maximumReportedCost ≠ none then some .costUnavailable
  else if min budget.maximumProviderInvocations budget.maximumJudgeInvocations <
      specification.trialCount * 20 then some .runInsufficient
  else none

/-- The supplied bundles calibrate both variants. -/
def calibrated (H : MatchedHost I) (plan : MatchedComparisonPlan I) (specification : MatchedLaneSpec)
    (calibrations : List (Option H.Bundle)) : Bool :=
  (List.zipWith (fun variant bundle => bundle.any (H.calibrates plan specification variant))
    [.baseline, .candidate] calibrations).all id

/-- `preflight_matched_lane`; a value that is no bundle is `none`. -/
def preflightMatchedLane (H : MatchedHost I) (plan : MatchedComparisonPlan I) (lane : MatchedLane)
    (calibrations : List (Option H.Bundle)) (executions : List MatchedCaseExecution) :
    Option LaneBlockerCode :=
  match plan.specification? lane with
  | none => some .invalidExecution
  | some specification =>
    if calibrations.length ≠ 2 then some .invalidExecution
    else
      (budgetProblem specification).orElse fun _ =>
      if calibrated H plan specification calibrations = false then some .invalidExecution
      else if executions.length ≠ 10 then some .invalidExecution
      else casesProblem specification (executions.zip plan.plannedCases) []

/-! ### What admission tells -/

theorem MatchedComparisonPlan.ten_scopes (plan : MatchedComparisonPlan I) :
    plan.val.pluginScope.val.cases.length = 10 := by
  have hfields := (validateWith_eq_ok.mp plan.val.pluginScope.2).1
  simpa using hfields

/-- The four tables of a plan have ten rows. -/
theorem MatchedComparisonPlan.ten_rows (plan : MatchedComparisonPlan I) :
    plan.val.caseBindings.length = 10 ∧ plan.val.baselineScenarios.length = 10 ∧
      plan.val.candidateScenarios.length = 10 := by
  have hfields := (validateWith_eq_ok.mp plan.2).1
  simp only [List.append_eq_nil_iff, check_eq_nil, beq_iff_eq] at hfields
  exact ⟨hfields.1.2, hfields.1.1.1, hfields.1.1.2⟩

/-- A case of the plan has one scenario case, the same in both variants and under the bound id. -/
theorem MatchedComparisonPlan.plannedCase (plan : MatchedComparisonPlan I) {c : PlannedCase}
    (hc : c ∈ plan.plannedCases) : ∃ case, c.baseline.val.cases = [case] ∧ c.candidate.val.cases = [case] ∧
      case.base.caseId = c.binding.val.caseId := by
  obtain ⟨⟨binding, left, right⟩, hmem, rfl⟩ := List.mem_map.mp hc
  obtain ⟨i, hi, hget⟩ := List.mem_iff_getElem.mp hmem
  simp only [List.getElem_zip, Prod.mk.injEq] at hget
  obtain ⟨hbinding, hleft, hright⟩ := hget
  have hrules := (validateWith_eq_ok.mp plan.2).2
  obtain ⟨hbindings, hbaseline, hcandidate⟩ := plan.ten_rows
  have hscopes := plan.ten_scopes
  have hi' : i < 10 := by
    simp only [List.length_zip, hbindings, hbaseline, hcandidate] at hi
    omega
  -- the row of the plan obeys the rules of its own place
  have hcase : ∀ v ∈ MatchedComparisonPlanData.caseRules (plan.val.pluginScope.val.cases[i]) binding left right,
      v.1 = false := by
    intro v hv
    apply hrules v
    apply List.mem_append_left
    apply List.mem_flatMap.mpr
    refine ⟨((plan.val.pluginScope.val.cases[i], binding), left, right), ?_, hv⟩
    apply List.mem_iff_getElem.mpr
    refine ⟨i, by simp [hscopes, hbindings, hbaseline, hcandidate, hi'], ?_⟩
    simp only [List.getElem_zip, hbinding, hleft, hright]
  simp only [MatchedComparisonPlanData.caseRules, List.forall_mem_cons, violation_fst, not_or, not_not] at hcase
  obtain ⟨⟨hone, -, hsame⟩, hcases⟩ := hcase
  obtain ⟨case, hcase⟩ := List.length_eq_one_iff.mp hone
  refine ⟨case, hcase, hsame ▸ hcase, ?_⟩
  have := hcases (violation (plan.val.pluginScope.val.cases[i].val.caseId ≠ binding.val.caseId.val ∨
      case.base.caseId ≠ binding.val.caseId)
    "matched scope, scenarios and hidden bindings must follow the same active order")
    (List.mem_flatMap.mpr ⟨case, by simp [hcase], by simp⟩)
  simp only [violation_fst, not_or, not_not] at this
  exact this.2

theorem MatchedComparisonPlan.plannedCases_binding (plan : MatchedComparisonPlan I) :
    plan.plannedCases.map (·.binding) = plan.val.caseBindings := by
  obtain ⟨hbindings, hbaseline, hcandidate⟩ := plan.ten_rows
  rw [MatchedComparisonPlan.plannedCases, List.map_map]
  show (plan.val.caseBindings.zip _).map Prod.fst = _
  rw [List.map_fst_zip]
  simp [hbindings, hbaseline, hcandidate]

/-- Both variants of the execution are those of the case. -/
def MatchedCaseExecution.Binds (specification : MatchedLaneSpec) (e : MatchedCaseExecution)
    (c : PlannedCase) : Prop :=
  ∀ variant, (e.item variant).bindsCase specification c variant ∧ (e.item variant).requestMatches

theorem MatchedVariantExecution.problem_eq_none {specification : MatchedLaneSpec} {c : PlannedCase}
    {variant : MatchedVariant} {item : MatchedVariantExecution}
    (h : item.problem specification c variant = none) :
    item.bindsCase specification c variant ∧ item.requestMatches := by
  rw [problem] at h
  by_cases hbinds : item.bindsCase specification c variant
  · rw [if_neg (not_not.mpr hbinds)] at h
    by_cases hmatches : item.requestMatches
    · exact ⟨hbinds, hmatches⟩
    · rw [if_pos hmatches] at h
      cases h
  · rw [if_pos hbinds] at h
    cases h

theorem orElse_eq_none {α : Type*} {o : Option α} {f : Unit → Option α} (h : o.orElse f = none) :
    o = none ∧ f () = none := by
  cases o with
  | none => exact ⟨rfl, h⟩
  | some a => cases h

theorem casesProblem_eq_none {specification : MatchedLaneSpec}
    {pairs : List (MatchedCaseExecution × PlannedCase)} {seen : List Nat}
    (h : casesProblem specification pairs seen = none) : ∀ p ∈ pairs, p.1.Binds specification p.2 := by
  induction pairs generalizing seen with
  | nil => simp
  | cons p pairs ih =>
    obtain ⟨e, c⟩ := p
    rw [casesProblem] at h
    obtain ⟨hbaseline, h⟩ := orElse_eq_none h
    obtain ⟨hcandidate, h⟩ := orElse_eq_none h
    refine List.forall_mem_cons.mpr ⟨fun variant => ?_, ?_⟩
    · cases variant with
      | baseline => exact MatchedVariantExecution.problem_eq_none hbaseline
      | candidate => exact MatchedVariantExecution.problem_eq_none hcandidate
    · split at h
      · cases h
      · exact ih h

/-- The request of an admitted execution is for the case that the plan binds. -/
theorem MatchedCaseExecution.Binds.caseId {specification : MatchedLaneSpec} {e : MatchedCaseExecution}
    {plan : MatchedComparisonPlan I} {c : PlannedCase} (h : e.Binds specification c)
    (hc : c ∈ plan.plannedCases) (variant : MatchedVariant) :
    (e.item variant).request.val.caseId.val = c.binding.val.caseId.val := by
  obtain ⟨case, hbaseline, hcandidate, hid⟩ := plan.plannedCase hc
  obtain ⟨⟨-, -, hcases, -⟩, -, -, hrequest, -⟩ := h variant
  have hexpected : (c.scenarios variant).val.cases = [case] := by
    cases variant with
    | baseline => exact hbaseline
    | candidate => exact hcandidate
  rw [hcases, hexpected] at hrequest
  rw [← hid]
  exact (Option.some.inj hrequest).symm

/-- What an admitted lane meets. -/
structure LaneAdmitted (plan : MatchedComparisonPlan I) (lane : MatchedLane)
    (specification : MatchedLaneSpec) (calibrations : List (Option H.Bundle))
    (executions : List MatchedCaseExecution) : Prop where
  specified : plan.specification? lane = some specification
  calibrated : calibrations.length = 2 ∧ calibrated H plan specification calibrations = true
  unpriced : specification.val.budget.val.maximumReportedCost = none
  covered : specification.trialCount * 20 ≤
    min specification.val.budget.val.maximumProviderInvocations specification.val.budget.val.maximumJudgeInvocations
  ten : executions.length = 10
  bound : ∀ p ∈ executions.zip plan.plannedCases, p.1.Binds specification p.2

/-- An admitted lane retains two bundles. -/
theorem LaneAdmitted.two_bundles {plan : MatchedComparisonPlan I} {lane : MatchedLane}
    {specification : MatchedLaneSpec} {calibrations : List (Option H.Bundle)}
    {executions : List MatchedCaseExecution}
    (h : LaneAdmitted plan lane specification calibrations executions) {bundles : List H.Bundle}
    (hbundles : bundles = calibrations.reduceOption) : bundles.length = 2 := by
  obtain ⟨hlength, hcalibrated⟩ := h.calibrated
  obtain ⟨left, right, rfl⟩ := List.length_eq_two.mp hlength
  simp only [SkillsSdk.calibrated, List.zipWith_cons_cons, List.zipWith_nil_right, List.all_cons, List.all_nil,
    id_eq, Bool.and_true, Bool.and_eq_true] at hcalibrated
  obtain ⟨a, rfl⟩ := Option.isSome_iff_exists.mp (Option.isSome_of_any hcalibrated.1)
  obtain ⟨b, rfl⟩ := Option.isSome_iff_exists.mp (Option.isSome_of_any hcalibrated.2)
  rw [hbundles]
  rfl

theorem budgetProblem_eq_none {specification : MatchedLaneSpec} (h : budgetProblem specification = none) :
    specification.val.budget.val.maximumReportedCost = none ∧
      specification.trialCount * 20 ≤ min specification.val.budget.val.maximumProviderInvocations
        specification.val.budget.val.maximumJudgeInvocations := by
  rw [budgetProblem] at h
  by_cases hcost : specification.val.budget.val.maximumReportedCost = none
  · refine ⟨hcost, ?_⟩
    by_contra hcover
    simp [hcost, not_le.mp hcover] at h
  · simp [hcost] at h

theorem preflightMatchedLane_eq_none {plan : MatchedComparisonPlan I} {lane : MatchedLane}
    {calibrations : List (Option H.Bundle)} {executions : List MatchedCaseExecution}
    (h : preflightMatchedLane H plan lane calibrations executions = none) :
    ∃ specification, LaneAdmitted (H := H) plan lane specification calibrations executions := by
  unfold preflightMatchedLane at h
  split at h
  · cases h
  · rename_i specification hspecification
    by_cases hlength : calibrations.length ≠ 2
    · rw [if_pos hlength] at h
      cases h
    rw [if_neg hlength] at h
    obtain ⟨hbudget, h⟩ := orElse_eq_none h
    obtain ⟨hcost, hcover⟩ := budgetProblem_eq_none hbudget
    by_cases hcalibrated : SkillsSdk.calibrated H plan specification calibrations = false
    · rw [if_pos hcalibrated] at h
      cases h
    rw [if_neg hcalibrated] at h
    by_cases hten : executions.length ≠ 10
    · rw [if_pos hten] at h
      cases h
    rw [if_neg hten] at h
    exact ⟨specification, hspecification, ⟨not_not.mp hlength, by simpa using hcalibrated⟩, hcost, hcover,
      not_not.mp hten, casesProblem_eq_none h⟩

/-! ### What a refusal tells -/

/-- The codes with which a case of the batch is refused. -/
def LaneBlockerCode.refusesCase : LaneBlockerCode → Bool
  | invalidExecution | safetyEvidenceRequired | safetyRejected => true
  | _ => false

theorem orElse_eq_some {α : Type*} {o : Option α} {f : Unit → Option α} {a : α} (h : o.orElse f = some a) :
    o = some a ∨ f () = some a := by
  cases o with
  | none => exact Or.inr h
  | some b => exact Or.inl h

theorem MatchedVariantExecution.problem_eq_some {specification : MatchedLaneSpec} {c : PlannedCase}
    {variant : MatchedVariant} {item : MatchedVariantExecution} {code : LaneBlockerCode}
    (h : item.problem specification c variant = some code) : code.refusesCase = true := by
  unfold problem at h
  split at h
  · obtain rfl := Option.some.inj h
    rfl
  · split at h
    · obtain rfl := Option.some.inj h
      rfl
    · split at h
      · cases h
      all_goals
        obtain rfl := Option.some.inj h
        rfl

theorem casesProblem_eq_some {specification : MatchedLaneSpec}
    {pairs : List (MatchedCaseExecution × PlannedCase)} {seen : List Nat} {code : LaneBlockerCode}
    (h : casesProblem specification pairs seen = some code) : code.refusesCase = true := by
  induction pairs generalizing seen with
  | nil => cases h
  | cons p pairs ih =>
    obtain ⟨e, c⟩ := p
    rw [casesProblem] at h
    rcases orElse_eq_some h with h | h
    · exact MatchedVariantExecution.problem_eq_some h
    · rcases orElse_eq_some h with h | h
      · exact MatchedVariantExecution.problem_eq_some h
      · split at h
        · obtain rfl := Option.some.inj h
          rfl
        · exact ih h

/-- Why a lane is not admitted: its inputs, or the budget that its receipt shows. -/
theorem preflightMatchedLane_eq_some {plan : MatchedComparisonPlan I} {lane : MatchedLane}
    {specification : MatchedLaneSpec} {calibrations : List (Option H.Bundle)}
    {executions : List MatchedCaseExecution} {code : LaneBlockerCode}
    (h : preflightMatchedLane H plan lane calibrations executions = some code)
    (hspecification : plan.specification? lane = some specification) :
    code = .invalidExecution ∨ budgetProblem specification = some code ∨
      budgetProblem specification = none ∧ code.refusesCase = true := by
  unfold preflightMatchedLane at h
  rw [hspecification] at h
  dsimp only at h
  by_cases hlength : calibrations.length ≠ 2
  · rw [if_pos hlength] at h
    exact Or.inl (Option.some.inj h).symm
  rw [if_neg hlength] at h
  -- the budget is read before the cases
  rcases hbudget : budgetProblem specification with - | code'
  · rw [hbudget] at h
    refine Or.inr (Or.inr ⟨rfl, ?_⟩)
    rcases orElse_eq_some h with h | h
    · cases h
    · split at h
      · obtain rfl := Option.some.inj h
        rfl
      · split at h
        · obtain rfl := Option.some.inj h
          rfl
        · exact casesProblem_eq_some h
  · rw [hbudget] at h
    exact Or.inr (Or.inl h)

theorem budgetProblem_eq_some {specification : MatchedLaneSpec} {code : LaneBlockerCode}
    (h : budgetProblem specification = some code) :
    code = .costUnavailable ∧ specification.val.budget.val.maximumReportedCost ≠ none ∨
      code = .runInsufficient ∧ specification.val.budget.val.maximumReportedCost = none ∧
        min specification.val.budget.val.maximumProviderInvocations
          specification.val.budget.val.maximumJudgeInvocations < specification.trialCount * 20 := by
  unfold budgetProblem at h
  dsimp only at h
  split at h
  · rename_i hcost
    exact Or.inl ⟨(Option.some.inj h).symm, hcost⟩
  · rename_i hcost
    obtain ⟨hlt, hcode⟩ := Option.ite_none_right_eq_some.mp h
    exact Or.inr ⟨(Option.some.inj hcode).symm, not_not.mp hcost, hlt⟩

end SkillsSdk
