/-
SkillsSdk/MatchedHandoffs.lean

From a local lane to a cloud comparison.

Three places ask whether a local candidate failed: the producer of a handoff,
the receipt it hands over and the feedback on failed cases.  They agree because
an accepted receipt retains only pairs that compare, each with one result under
a threshold of one; there a failed result, a failed evaluation and a score of
zero are the same thing.
-/
import SkillsSdk.Models.MatchedHandoff
import SkillsSdk.EvaluationLaws

namespace SkillsSdk

variable {I : Interpreter} {H : MatchedHost I}

/-! ### Failed cases -/

/-- The case of a pair, when its candidate failed a check or fell behind. -/
def MatchedExecutionReceipt.failedCaseId (r : MatchedExecutionReceipt H) (pair : MatchedExecutedPair) :
    Except PairRaised (Option Text) := do
  if pair.candidateEvaluation.val.status ≠ .pass then return some pair.caseId
  if ← r.pairRegressionRequired pair then return some pair.caseId
  return none

/-- `_failed_case_ids`; `dict.fromkeys` keeps the first of equal ids. -/
def MatchedExecutionReceipt.failedCaseIds (r : MatchedExecutionReceipt H) :
    Except PairRaised (List Text) := do
  let ids ← r.val.pairs.mapM r.failedCaseId
  return (ids.filterMap id).eraseDups

/-! ### Preparing a handoff -/

section

set_option maxRecDepth 4000

/-- The blocker of a selection that does not qualify. -/
def handoffBlocker : PackageSafetyBlocker :=
  ⟨⟨⟨"invalid_matched_handoff".toList, by decide +kernel⟩,
    ⟨("Cloud comparison requires a qualified local candidate and unchanged controlled cases.").toList,
      by decide +kernel⟩, []⟩, by decide +kernel⟩

end

theorem handoffBlocker_code : handoffBlocker.val.code.val = "invalid_matched_handoff".toList := rfl

open Stored in
/-- The arguments of a handoff, as they are stored. -/
def handoffArguments (bundleStored : H.Bundle → Stored) (observed : Option (MatchedExecutionReceipt H))
    (plan : Option (MatchedComparisonPlan I)) (blocker : Option PackageSafetyBlocker) : List (String × Stored) :=
  [("local", optional (MatchedExecutionReceipt.stored bundleStored) observed),
    ("cloud_plan", optional MatchedComparisonPlan.stored plan),
    ("local_receipt_sha256", .scalar),
    ("status", .scalar)] ++ blocker.toList.map fun b => ("blocker", b.stored)

/-- `MatchedCloudHandoff._ingress_work_limit`. -/
def matchedHandoffBoundary : Boundary := matchedBoundary 4500000

/-- The arguments as one value that a walk meets. -/
def argumentsMember (arguments : List (String × Stored)) : Member :=
  .items none (Stored.asInstanceFields arguments)

/-- `canonical_members` of the handoff: its arguments are copied, and each model among them reads its
part of the copy again. -/
def canonicalMembers (arguments : List (String × Stored)) : Except IngressRaised Unit := do
  let _ ← matchedHandoffBoundary.visit (argumentsMember arguments) 0 matchedHandoffBoundary.work
  Stored.reread (Stored.limitedFields arguments)

def IngressRaised.toHandoff : IngressRaised → HandoffRaised
  | .valueError message => .value (.validationError ⟨"MatchedCloudHandoff".toList, [([], message)]⟩)
  | .attributeError => .attributeError

variable (bundleStored : H.Bundle → Stored) (receiptSha256 : MatchedExecutionReceipt H → Sha256)

/-- The receipt of a selection with this outcome. -/
def handoffReceipt (observed : Option (MatchedExecutionReceipt H)) (plan : Option (MatchedComparisonPlan I))
    (status : HandoffStatus) (blocker : Option PackageSafetyBlocker) :
    Except HandoffRaised (MatchedCloudHandoff receiptSha256) := do
  (canonicalMembers (handoffArguments bundleStored observed plan blocker)).mapError IngressRaised.toHandoff
  (construct (MatchedCloudHandoffData.validate receiptSha256)
    { localReceipt := observed
      cloudPlan := plan
      localReceiptSha256 := observed.map receiptSha256
      status
      blocker }).mapError fun e => .value (.validationError e)

/-- `MatchedExecutionReceipt.model_validate`. -/
abbrev readReceipt (value : Presented (MatchedExecutionReceiptData H)) :
    Except ReadRaised (MatchedExecutionReceipt H) :=
  value.modelValidate "MatchedExecutionReceipt" matchedReceiptBoundary MatchedExecutionReceiptData.validate

/-- `MatchedComparisonPlan.model_validate`. -/
abbrev readPlan (value : Presented (MatchedComparisonPlanData I)) : Except ReadRaised (MatchedComparisonPlan I) :=
  value.modelValidate "MatchedComparisonPlan" matchedPlanBoundary MatchedComparisonPlanData.validate

/-- `prepare_matched_cloud_handoff`. -/
def prepareMatchedCloudHandoff (localValue : Presented (MatchedExecutionReceiptData H))
    (cloudValue : Presented (MatchedComparisonPlanData I)) :
    Except HandoffRaised (MatchedCloudHandoff receiptSha256) :=
  match readReceipt localValue with
  | .error .attributeError => .error .attributeError
  | .error (.validationError _) =>
    handoffReceipt bundleStored receiptSha256 none none .blocked (some handoffBlocker)
  | .ok observed =>
    match readPlan cloudValue with
    | .error .attributeError => .error .attributeError
    | .error (.validationError _) =>
      handoffReceipt bundleStored receiptSha256 (some observed) none .blocked (some handoffBlocker)
    | .ok plan =>
      match requireLocalHandoff observed plan with
      | .error (.value _) =>
        handoffReceipt bundleStored receiptSha256 (some observed) (some plan) .blocked (some handoffBlocker)
      | .error e => .error e
      | .ok () => handoffReceipt bundleStored receiptSha256 (some observed) (some plan) .ready none

/-! ### Plans -/

/-- A plan specifies both lanes. -/
theorem MatchedComparisonPlan.exists_specification (plan : MatchedComparisonPlan I) (lane : MatchedLane) :
    ∃ specification, plan.specification? lane = some specification := by
  have hrules := (validateWith_eq_ok.mp plan.2).2
  have hlanes : plan.val.lanes.map (·.val.lane) = [.localLane, .cloudLane] := by
    have := hrules (violation (plan.val.lanes.map (·.val.lane) ≠ [.localLane, .cloudLane])
      "matched lanes must declare local before cloud") (by simp [MatchedComparisonPlanData.variantsAreMatched])
    simpa using this
  have hmem : lane ∈ plan.val.lanes.map (·.val.lane) := by
    rw [hlanes]
    cases lane <;> simp
  obtain ⟨specification, hspecification, hlane⟩ := List.mem_map.mp hmem
  apply Option.isSome_iff_exists.mp
  rw [MatchedComparisonPlan.specification?, List.find?_isSome]
  exact ⟨specification, hspecification, by simpa using hlane⟩

/-! ### What a receipt retains -/

namespace MatchedExecutionReceipt

variable (r : MatchedExecutionReceipt H) {pair : MatchedExecutedPair}

theorem rules : ∀ v ∈ r.val.observationsMatchDeclaredPrefix, v.1 = false :=
  (validateWith_eq_ok.mp r.2).2

theorem binding?_inv {plan : MatchedComparisonPlan I} {lane : MatchedLane} {specification : MatchedLaneSpec}
    (h : r.val.binding? = some (plan, lane, specification)) :
    r.val.plan = some plan ∧ r.val.lane = some lane := by
  simp only [MatchedExecutionReceiptData.binding?, Option.bind_eq_some_iff, Option.map_eq_some_iff,
    Prod.mk.injEq] at h
  obtain ⟨_, hplan, _, hlane, _, -, rfl, rfl, rfl⟩ := h
  exact ⟨hplan, hlane⟩

/-- Each retained pair passes the rules of its place in the lane. -/
theorem pairRules_hold (hpair : pair ∈ r.val.pairs) : ∃ plan lane specification binding trial,
    r.val.binding? = some (plan, lane, specification) ∧
      ∀ v ∈ MatchedExecutionReceiptData.pairRules (H := H) plan lane pair binding trial, v.1 = false := by
  have hrules := r.rules
  simp only [MatchedExecutionReceiptData.observationsMatchDeclaredPrefix, List.forall_mem_append] at hrules
  obtain ⟨⟨-, hrules⟩, -⟩ := hrules
  rcases hbinding : r.val.binding? with - | ⟨plan, lane, specification⟩
  · rw [hbinding] at hrules
    simp [MatchedExecutionReceiptData.unboundRules, List.ne_nil_of_mem hpair] at hrules
  · rw [hbinding] at hrules
    simp only [MatchedExecutionReceiptData.boundRules, List.forall_mem_append, List.forall_mem_cons,
      violation_fst, not_or, not_lt] at hrules
    obtain ⟨⟨⟨-, -⟩, ⟨hlength, -⟩, hpairs⟩, -⟩ := hrules
    obtain ⟨i, hi, rfl⟩ := List.mem_iff_getElem.mp hpair
    have hi' : i < (plan.planned specification).length := lt_of_lt_of_le hi hlength
    refine ⟨plan, lane, specification, ((plan.planned specification)[i]).1,
      ((plan.planned specification)[i]).2, rfl, fun v hv => hpairs v ?_⟩
    apply List.mem_flatMap.mpr
    refine ⟨(r.val.pairs[i], (plan.planned specification)[i]), ?_, hv⟩
    exact List.mem_iff_getElem.mpr ⟨i, by simpa using ⟨hi, hi'⟩, by simp⟩

/-- A retained pair compares. -/
theorem values_ok (hpair : pair ∈ r.val.pairs) : ∃ plan lane values,
    r.val.plan = some plan ∧ r.val.lane = some lane ∧
      matchedPairValues plan lane pair.baseline pair.candidate = .ok values := by
  obtain ⟨plan, lane, specification, binding, trial, hbinding, hrules⟩ := r.pairRules_hold hpair
  simp only [MatchedExecutionReceiptData.pairRules, MatchedExecutionReceiptData.comparisonRules,
    List.forall_mem_append, List.forall_mem_cons, violation_fst] at hrules
  obtain ⟨⟨⟨⟨⟨-, hvalues, -⟩, -⟩, -⟩, -⟩, -⟩ := hrules
  obtain ⟨hplan, hlane⟩ := r.binding?_inv hbinding
  rcases h : matchedPairValues plan lane pair.baseline pair.candidate with e | values
  · exact absurd (by rw [h]; rfl) hvalues
  · exact ⟨plan, lane, values, hplan, hlane, h⟩

/-- A retained candidate evaluation is that of one case at the threshold one. -/
theorem candidate_evaluationIsBound (hpair : pair ∈ r.val.pairs) :
    (pair.observation .candidate).evaluationIsBound pair.caseId := by
  obtain ⟨plan, lane, specification, binding, trial, -, hrules⟩ := r.pairRules_hold hpair
  simp only [MatchedExecutionReceiptData.pairRules, MatchedObservation.judgmentRules,
    List.forall_mem_append, List.forall_mem_cons, violation_fst, not_not] at hrules
  obtain ⟨-, ⟨⟨⟨hbound, -⟩, -⟩, -⟩, -⟩ := hrules
  exact hbound

end MatchedExecutionReceipt

/-! ### Failing candidates -/

/-- At the threshold one a single result passes when its evaluation does. -/
theorem EvaluationReceiptV2.single_pass {e : EvaluationReceiptV2} {result : ScenarioCaseResultV2}
    (hresults : e.val.caseResults = [result]) (hthreshold : e.val.scorer.val.passThreshold.val = 1)
    (hpass : e.val.status = .pass) : result.val.status = .pass := by
  have hrules := (validateWith_eq_ok.mp e.2).2
  rw [if_neg (by rw [hpass]; decide)] at hrules
  simp only [EvaluationReceiptData.scoreRules, List.forall_mem_append, List.forall_mem_cons, violation_fst,
    not_not] at hrules
  obtain ⟨-, -, hscore, hstatus, -⟩ := hrules
  rw [EvaluationReceiptData.expectedStatus, hscore, hpass, hthreshold] at hstatus
  by_contra hfail
  -- no result passes, and then the score is zero
  have hpassed : EvaluationReceiptData.passed ScenarioCaseResultV2.base e.val.toEvaluationReceiptData = 0 := by
    rw [EvaluationReceiptData.passed, hresults]
    simpa using hfail
  have hzero : (Binary64.trueDiv 0 1).val = 0 := by
    show Binary64.round ((0 : ℕ) / (1 : ℕ)) = 0
    rw [Nat.cast_zero, zero_div, Binary64.round_zero]
  rw [EvaluationReceiptData.expectedScore, hpassed, hresults] at hstatus
  simp [hzero] at hstatus

/-- A retained candidate fails exactly when its evaluation does not pass. -/
theorem MatchedExecutionReceipt.candidateFails_iff (r : MatchedExecutionReceipt H) {pair : MatchedExecutedPair}
    (hpair : pair ∈ r.val.pairs) :
    candidateFails pair = true ↔ pair.candidateEvaluation.val.status ≠ .pass := by
  obtain ⟨-, -, -, -, hthreshold, -, -, -, -, -, -, hresults⟩ := r.candidate_evaluationIsBound hpair
  obtain ⟨result, hresult⟩ : ∃ result, pair.candidateEvaluation.val.caseResults = [result] :=
    List.length_eq_one_iff.mp ((List.length_map _).symm.trans (congrArg List.length hresults))
  rw [candidateFails, hresult]
  simp only [List.any_cons, List.any_nil, Bool.or_false, Bool.or_eq_true, decide_eq_true_eq]
  constructor
  · rintro (h | h)
    · exact h
    · exact fun hpass => h (EvaluationReceiptV2.single_pass hresult hthreshold hpass)
  · exact Or.inl

namespace MatchedExecutionReceipt

variable (r : MatchedExecutionReceipt H) {pair : MatchedExecutedPair}

/-- The candidate of a pair failed its check, or scored below the baseline. -/
def Fails (pair : MatchedExecutedPair) : Prop :=
  pair.candidateEvaluation.val.status ≠ .pass ∨ r.pairRegressionRequired pair = .ok true

theorem pairRegressionRequired_ok (hpair : pair ∈ r.val.pairs) : ∃ b, r.pairRegressionRequired pair = .ok b := by
  obtain ⟨plan, lane, values, hplan, hlane, hvalues⟩ := r.values_ok hpair
  refine ⟨decide (values.candidateScore < values.baselineScore), ?_⟩
  rw [pairRegressionRequired, hplan, hlane]
  simp only [hvalues]
  rfl

/-- The receipt looks for a failing candidate until it finds one. -/
theorem regressionAmong_eq {pairs : List MatchedExecutedPair} (hpairs : ∀ pair ∈ pairs, pair ∈ r.val.pairs) :
    ∃ b, r.regressionAmong pairs = .ok b ∧ (b = true ↔ ∃ pair ∈ pairs, r.Fails pair) := by
  induction pairs with
  | nil => exact ⟨false, rfl, by simp⟩
  | cons pair pairs ih =>
    obtain ⟨hpair, hrest⟩ := List.forall_mem_cons.mp hpairs
    obtain ⟨b, hb, hiff⟩ := ih hrest
    obtain ⟨declined, hdeclined⟩ := r.pairRegressionRequired_ok hpair
    unfold regressionAmong
    by_cases hfails : candidateFails pair = true
    · refine ⟨true, by rw [if_pos hfails]; rfl, ?_⟩
      simp [Fails, (r.candidateFails_iff hpair).mp hfails]
    · have hpass : ¬ pair.candidateEvaluation.val.status ≠ .pass := fun h => hfails ((r.candidateFails_iff hpair).mpr h)
      rw [if_neg hfails, hdeclined]
      cases declined with
      | true => exact ⟨true, rfl, by simp [Fails, hdeclined]⟩
      | false => exact ⟨b, hb, by simp [hiff, Fails, hdeclined, not_not.mp hpass]⟩

theorem failedCaseId_eq (hpair : pair ∈ r.val.pairs) :
    ∃ o, r.failedCaseId pair = .ok o ∧ (o = some pair.caseId ∧ r.Fails pair ∨ o = none ∧ ¬ r.Fails pair) := by
  obtain ⟨declined, hdeclined⟩ := r.pairRegressionRequired_ok hpair
  unfold failedCaseId
  by_cases hpass : pair.candidateEvaluation.val.status ≠ .pass
  · exact ⟨some pair.caseId, by rw [if_pos hpass]; rfl, Or.inl ⟨rfl, Or.inl hpass⟩⟩
  · rw [if_neg hpass, hdeclined]
    cases declined with
    | true => exact ⟨some pair.caseId, rfl, Or.inl ⟨rfl, Or.inr hdeclined⟩⟩
    | false => exact ⟨none, rfl, Or.inr ⟨rfl, by simp [Fails, hdeclined, not_not.mp hpass]⟩⟩

/-- The failed case ids are those of the failing candidates. -/
theorem mapM_failedCaseId_eq {pairs : List MatchedExecutedPair} (hpairs : ∀ pair ∈ pairs, pair ∈ r.val.pairs) :
    ∃ ids, pairs.mapM r.failedCaseId = .ok ids ∧
      ∀ caseId, some caseId ∈ ids ↔ ∃ pair ∈ pairs, pair.caseId = caseId ∧ r.Fails pair := by
  induction pairs with
  | nil => exact ⟨[], rfl, by simp⟩
  | cons pair pairs ih =>
    obtain ⟨hpair, hrest⟩ := List.forall_mem_cons.mp hpairs
    obtain ⟨ids, hids, hiff⟩ := ih hrest
    obtain ⟨o, ho, hcases⟩ := r.failedCaseId_eq hpair
    refine ⟨o :: ids, ?_, fun caseId => ?_⟩
    · rw [List.mapM_cons, ho, hids]
      rfl
    · rw [List.mem_cons, hiff, List.exists_mem_cons_iff]
      rcases hcases with ⟨rfl, hfails⟩ | ⟨rfl, hfails⟩
      · simp [hfails, eq_comm]
      · simp [hfails]

/-- A receipt requires regression exactly when some failed case is fed back. -/
theorem requiresRegression_iff : ∃ b ids, r.requiresRegression = .ok b ∧ r.failedCaseIds = .ok ids ∧
    (b = true ↔ ∃ pair ∈ r.val.pairs, r.Fails pair) ∧ (b = true ↔ ids ≠ []) := by
  obtain ⟨b, hb, hfails⟩ := r.regressionAmong_eq (fun _ h => h)
  obtain ⟨ids, hids, hmem⟩ := r.mapM_failedCaseId_eq (fun _ h => h)
  refine ⟨b, (ids.filterMap id).eraseDups, hb, ?_, hfails, ?_⟩
  · rw [failedCaseIds, hids]
    rfl
  · rw [hfails]
    constructor
    · rintro ⟨pair, hpair, h⟩
      apply List.ne_nil_of_mem (a := pair.caseId)
      simpa using (hmem pair.caseId).mpr ⟨pair, hpair, rfl, h⟩
    · intro hne
      obtain ⟨caseId, h⟩ := List.exists_mem_of_ne_nil _ hne
      obtain ⟨pair, hpair, -, h⟩ := (hmem caseId).mp (by simpa using h)
      exact ⟨pair, hpair, h⟩

end MatchedExecutionReceipt

/-! ### Selections -/

theorem raiseValue_ne_ok {α : Type} {message : String} {a : α} :
    (raiseValue message : Except HandoffRaised α) ≠ .ok a := nofun

/-- Selecting a local candidate raises nothing but a `ValueError`. -/
theorem requireLocalHandoff_value {r : MatchedExecutionReceipt H} {cloud : MatchedComparisonPlan I}
    {e : HandoffRaised} (h : requireLocalHandoff r cloud = .error e) : ∃ v, e = .value v := by
  obtain ⟨b, -, hb, -⟩ := r.requiresRegression_iff
  unfold requireLocalHandoff at h
  rw [hb] at h
  split at h
  · cases b with
    | true => exact ⟨_, (Except.error.inj h).symm⟩
    | false =>
      dsimp only at h
      unfold requireContinuation at h
      split at h
      · exact ⟨_, (Except.error.inj h).symm⟩
      · split_ifs at h <;> exact ⟨_, (Except.error.inj h).symm⟩
  · exact ⟨_, (Except.error.inj h).symm⟩

/-- What a selection requires. -/
theorem requireLocalHandoff_eq_ok {r : MatchedExecutionReceipt H} {cloud : MatchedComparisonPlan I}
    (h : requireLocalHandoff r cloud = .ok ()) : ∃ plan summary, r.val.plan = some plan ∧
      r.val.lane = some .localLane ∧ r.val.status = .completed ∧ r.requiresRegression = .ok false ∧
      r.summary = .ok (some summary) ∧ summary.val.decision = .candidate ∧ cloud.continues plan := by
  unfold requireLocalHandoff at h
  split at h
  · rename_i plan hstatus hlane hplan
    split at h
    · cases h
    · cases h
    · rename_i hregression
      unfold requireContinuation at h
      split at h
      · cases h
      · rename_i summary hsummary
        by_cases hdecision : summary.map (·.val.decision) = some .candidate
        · rw [if_neg (not_not.mpr hdecision)] at h
          by_cases hcontinues : cloud.continues plan
          · obtain ⟨s, rfl, hs⟩ := Option.map_eq_some_iff.mp hdecision
            exact ⟨plan, s, hplan, hlane, hstatus, hregression, hsummary, hs, hcontinues⟩
          · rw [if_pos hcontinues] at h
            exact absurd h raiseValue_ne_ok
        · rw [if_pos hdecision] at h
          exact absurd h raiseValue_ne_ok
  · cases h

/-- A receipt that requires no regression kept every score and passed every check. -/
theorem MatchedExecutionReceipt.not_fails {r : MatchedExecutionReceipt H} (h : r.requiresRegression = .ok false)
    {plan : MatchedComparisonPlan I} {lane : MatchedLane} (hplan : r.val.plan = some plan)
    (hlane : r.val.lane = some lane) {pair : MatchedExecutedPair} (hpair : pair ∈ r.val.pairs) :
    candidateFails pair = false ∧ ∃ values,
      matchedPairValues plan lane pair.baseline pair.candidate = .ok values ∧
        values.baselineScore ≤ values.candidateScore := by
  obtain ⟨b, -, hb, -, hfails, -⟩ := r.requiresRegression_iff
  obtain rfl := Except.ok.inj (hb.symm.trans h)
  have hnot : ¬ r.Fails pair := fun hf => by simpa using hfails.mpr ⟨pair, hpair, hf⟩
  obtain ⟨plan', lane', values, hplan', hlane', hvalues⟩ := r.values_ok hpair
  obtain rfl := Option.some.inj (hplan'.symm.trans hplan)
  obtain rfl := Option.some.inj (hlane'.symm.trans hlane)
  refine ⟨?_, values, hvalues, ?_⟩
  · apply Bool.eq_false_iff.mpr
    exact fun hf => hnot (Or.inl ((r.candidateFails_iff hpair).mp hf))
  · by_contra hlt
    apply hnot
    refine Or.inr ?_
    rw [MatchedExecutionReceipt.pairRegressionRequired, hplan, hlane]
    simp only [hvalues]
    show Except.ok (decide _) = _
    rw [decide_eq_true (not_le.mp hlt)]

/-! ### Handoffs -/

theorem MatchedCloudHandoffData.eligible_eq {h : MatchedCloudHandoffData H} {r : MatchedExecutionReceipt H}
    {cloud : MatchedComparisonPlan I} (hlocal : h.localReceipt = some r) (hcloud : h.cloudPlan = some cloud) :
    h.eligible = (requireLocalHandoff r cloud).isOk := by
  rw [eligible, hlocal, hcloud]

/-- The arguments of a handoff fit its boundary, and each model among them its own. -/
def ArgumentsFit (arguments : List (String × Stored)) : Prop :=
  (argumentsMember arguments).Fits matchedHandoffBoundary ∧ ∀ p ∈ Stored.limitedFields arguments, p.2.Fits p.1

instance (arguments : List (String × Stored)) : Decidable (ArgumentsFit arguments) :=
  inferInstanceAs (Decidable (_ ∧ _))

theorem canonicalMembers_eq_ok_iff {arguments : List (String × Stored)} :
    canonicalMembers arguments = .ok () ↔ ArgumentsFit arguments := by
  have hclean : (argumentsMember arguments).Clean := ⟨rfl, Stored.asInstanceFields_clean arguments⟩
  rw [canonicalMembers, bind_eq_ok_iff, ArgumentsFit, ← matchedHandoffBoundary.exists_visit_iff hclean,
    ← Stored.reread_eq_ok_iff (Stored.limitedFields_clean arguments)]
  simp

section

variable (observed : Option (MatchedExecutionReceipt H)) (plan : Option (MatchedComparisonPlan I))

/-- The status and the blocker of a selection are those derived again from what it retains. -/
def IsDerived (status : HandoffStatus) (blocker : Option PackageSafetyBlocker) : Prop :=
  status = .ready ∧ blocker = none ∧
      (MatchedCloudHandoffData.mk observed plan (observed.map receiptSha256) status blocker).eligible = true ∨
    status = .blocked ∧ blocker = some handoffBlocker ∧
      (MatchedCloudHandoffData.mk observed plan (observed.map receiptSha256) status blocker).eligible = false

/-- Such a selection is accepted exactly when its arguments fit. -/
theorem exists_handoffReceipt_iff {status : HandoffStatus} {blocker : Option PackageSafetyBlocker}
    (hderived : IsDerived receiptSha256 observed plan status blocker)
    {P : MatchedCloudHandoff receiptSha256 → Prop}
    (hP : ∀ h : MatchedCloudHandoff receiptSha256,
      h.val = ⟨observed, plan, observed.map receiptSha256, status, blocker⟩ → P h) :
    (∃ h, handoffReceipt bundleStored receiptSha256 observed plan status blocker = .ok h ∧ P h) ↔
      ArgumentsFit (handoffArguments bundleStored observed plan blocker) := by
  have hvalid : (MatchedCloudHandoffData.mk observed plan (observed.map receiptSha256) status blocker).validate
      receiptSha256 = .ok () := by
    refine validateWith_eq_ok.mpr ⟨rfl, ?_⟩
    unfold MatchedCloudHandoffData.selectionMatchesEvidence
    rcases hderived with ⟨rfl, rfl, heligible⟩ | ⟨rfl, rfl, heligible⟩
    · simp [heligible]
    · simp [heligible, handoffBlocker_code]
  rw [← canonicalMembers_eq_ok_iff]
  constructor
  · rintro ⟨h, hh, -⟩
    obtain ⟨⟨⟩, hmembers, -⟩ := bind_eq_ok_iff.mp hh
    exact mapError_eq_ok_iff.mp hmembers
  · intro hmembers
    refine ⟨⟨_, hvalid⟩, ?_, hP _ rfl⟩
    exact bind_eq_ok_iff.mpr ⟨(), mapError_eq_ok_iff.mpr hmembers,
      mapError_eq_ok_iff.mpr (construct_of_ok hvalid)⟩

end

/-- A selection is prepared when it returns a handoff that is ready exactly when both values are valid
and the handoff itself derives its selection again. -/
def IsPrepared (localValue : Presented (MatchedExecutionReceiptData H))
    (cloudValue : Presented (MatchedComparisonPlanData I)) : Prop :=
  ∃ h, prepareMatchedCloudHandoff bundleStored receiptSha256 localValue cloudValue = .ok h ∧
    (h.val.status = .ready ↔ ∃ r plan, readReceipt localValue = .ok r ∧ readPlan cloudValue = .ok plan ∧
      h.val.localReceipt = some r ∧ h.val.cloudPlan = some plan ∧ h.val.eligible = true)

/-- Neither value is an instance without its storage, and what the selection retains of them fits
again. -/
def RetainsFitting (localValue : Presented (MatchedExecutionReceiptData H))
    (cloudValue : Presented (MatchedComparisonPlanData I)) : Prop :=
  match readReceipt localValue with
  | .error e => e ≠ .attributeError
  | .ok r =>
    match readPlan cloudValue with
    | .error e =>
      e ≠ .attributeError ∧ ArgumentsFit (handoffArguments bundleStored (some r) none (some handoffBlocker))
    | .ok plan =>
      ArgumentsFit (handoffArguments bundleStored (some r) (some plan)
        (if (requireLocalHandoff r plan).isOk then none else some handoffBlocker))

/-- A blocked selection that retains nothing fits. -/
theorem argumentsFit_none : ArgumentsFit (handoffArguments bundleStored none none (some handoffBlocker)) := by
  have harguments : handoffArguments bundleStored none none (some handoffBlocker) =
      [("local", .scalar), ("cloud_plan", .scalar), ("local_receipt_sha256", .scalar), ("status", .scalar),
        ("blocker", .record none [("code", .scalar), ("message", .scalar), ("evidence_refs", .many [])])] := rfl
  rw [harguments]
  decide

/-- A selection is prepared exactly when what it retains fits again. -/
theorem isPrepared_iff (localValue : Presented (MatchedExecutionReceiptData H))
    (cloudValue : Presented (MatchedComparisonPlanData I)) :
    IsPrepared bundleStored receiptSha256 localValue cloudValue ↔
      RetainsFitting bundleStored localValue cloudValue := by
  unfold IsPrepared RetainsFitting prepareMatchedCloudHandoff
  rcases hlocal : readReceipt localValue with (e | -) | r
  · -- nothing is retained, and the handoff is blocked
    refine iff_of_true ?_ nofun
    refine (exists_handoffReceipt_iff bundleStored receiptSha256 none none (Or.inr ⟨rfl, rfl, rfl⟩) ?_).mpr
      (argumentsFit_none bundleStored)
    intro h hh
    simp [hh]
  · exact iff_of_false (by simp) (by simp)
  dsimp only
  rcases hcloud : readPlan cloudValue with (e | -) | plan
  · -- the receipt is retained alone
    dsimp only
    rw [exists_handoffReceipt_iff bundleStored receiptSha256 (some r) none (Or.inr ⟨rfl, rfl, rfl⟩)]
    · simp
    · intro h hh
      simp [hh]
  · exact iff_of_false (by simp) (by simp)
  dsimp only
  -- both are retained, with a blocker or without one
  rcases hselect : requireLocalHandoff r plan with e | ⟨⟩
  · obtain ⟨v, rfl⟩ := requireLocalHandoff_value hselect
    refine exists_handoffReceipt_iff bundleStored receiptSha256 (some r) (some plan) (Or.inr ⟨rfl, rfl, ?_⟩) ?_
    · rw [MatchedCloudHandoffData.eligible_eq rfl rfl, hselect]
      rfl
    · intro h hh
      simp [hh, MatchedCloudHandoffData.eligible, hselect, Except.isOk, Except.toBool]
  · refine exists_handoffReceipt_iff bundleStored receiptSha256 (some r) (some plan) (Or.inl ⟨rfl, rfl, ?_⟩) ?_
    · rw [MatchedCloudHandoffData.eligible_eq rfl rfl, hselect]
      rfl
    · intro h hh
      simp [hh, MatchedCloudHandoffData.eligible, hselect, Except.isOk, Except.toBool]

/-- A local lane whose candidate a cloud plan may take as its baseline. -/
structure SelectsCandidate (r : MatchedExecutionReceipt H) (plan cloud : MatchedComparisonPlan I) : Prop where
  bound : r.val.plan = some plan
  lane : r.val.lane = some .localLane
  completed : r.val.status = .completed
  scores_kept : ∀ pair ∈ r.val.pairs, ∃ values,
    matchedPairValues plan .localLane pair.baseline pair.candidate = .ok values ∧
      values.baselineScore ≤ values.candidateScore
  checks_passed : ∀ pair ∈ r.val.pairs, pair.candidateEvaluation.val.status = .pass ∧
    ∀ result ∈ pair.candidateEvaluation.val.caseResults, result.val.status = .pass
  decision : ∃ summary, r.summary = .ok (some summary) ∧ summary.val.decision = .candidate
  baseline : cloud.val.pluginScope.val.baseline = plan.val.pluginScope.val.candidate
  inputs : cloud.val.caseBindings.map (·.val.baselineInputSha256) =
    plan.val.caseBindings.map (·.val.candidateInputSha256)
  cases : cloud.val.pluginScope.val.cases.map (·.controlled) = plan.val.pluginScope.val.cases.map (·.controlled)

theorem selectsCandidate_of {r : MatchedExecutionReceipt H} {cloud : MatchedComparisonPlan I}
    (h : requireLocalHandoff r cloud = .ok ()) : ∃ plan, SelectsCandidate r plan cloud := by
  obtain ⟨plan, summary, hplan, hlane, hcompleted, hregression, hsummary, hdecision, hcontinues⟩ :=
    requireLocalHandoff_eq_ok h
  have hkept := fun pair (hpair : pair ∈ r.val.pairs) =>
    MatchedExecutionReceipt.not_fails hregression hplan hlane hpair
  have hcases := congrArg (List.map Prod.snd) hcontinues.2.2.2.2.2.2.2.2.2.2.2
  simp only [List.map_map] at hcases
  refine ⟨plan, hplan, hlane, hcompleted, fun pair hpair => (hkept pair hpair).2, fun pair hpair => ?_,
    ⟨summary, hsummary, hdecision⟩, hcontinues.1, hcontinues.2.1, hcases⟩
  have hpass := (hkept pair hpair).1
  simpa [MatchedExecutionReceipt.candidateFails] using hpass

/-- **The handoff of a local candidate.**  A handoff is prepared from two values exactly when what it
retains of them fits the work limits again; a ready one rests on a local candidate that never fell
behind; and failed cases are fed back exactly when the local receipt requires regression. -/
theorem cloud_handoff_sound_iff :
    (∀ (localValue : Presented (MatchedExecutionReceiptData H))
        (cloudValue : Presented (MatchedComparisonPlanData I)),
      IsPrepared bundleStored receiptSha256 localValue cloudValue ↔
        RetainsFitting bundleStored localValue cloudValue) ∧
    (∀ h : MatchedCloudHandoff receiptSha256, h.val.status = .ready → ∃ r plan cloud,
      h.val.localReceipt = some r ∧ h.val.cloudPlan = some cloud ∧ SelectsCandidate r plan cloud) ∧
    ∀ r : MatchedExecutionReceipt H, ∃ b ids, r.requiresRegression = .ok b ∧ r.failedCaseIds = .ok ids ∧
      (b = true ↔ ids ≠ []) := by
  refine ⟨isPrepared_iff bundleStored receiptSha256, fun h hready => ?_, fun r => ?_⟩
  · have hrules := (validateWith_eq_ok.mp h.2).2
    simp only [MatchedCloudHandoffData.selectionMatchesEvidence, hready, List.forall_mem_cons, violation_fst,
      not_or, Bool.not_eq_false] at hrules
    obtain ⟨-, ⟨heligible, -⟩, -⟩ := hrules
    rcases hlocal : h.val.localReceipt with - | r
    · simp [MatchedCloudHandoffData.eligible, hlocal] at heligible
    · rcases hcloud : h.val.cloudPlan with - | cloud
      · simp [MatchedCloudHandoffData.eligible, hlocal, hcloud] at heligible
      · rw [MatchedCloudHandoffData.eligible_eq hlocal hcloud] at heligible
        rcases hselect : requireLocalHandoff r cloud with e | ⟨⟩
        · rw [hselect] at heligible
          cases heligible
        · obtain ⟨plan, hselects⟩ := selectsCandidate_of hselect
          exact ⟨r, plan, cloud, rfl, rfl, hselects⟩
  · obtain ⟨b, ids, hb, hids, -, hiff⟩ := r.requiresRegression_iff
    exact ⟨b, ids, hb, hids, hiff⟩

/-! ### A receipt that does not fit again -/

theorem isHex_of_mem_toDigits {i : ℕ} {c : Char} (hc : c ∈ Nat.toDigits 10 i) : isHex c = true := by
  have hdigit := Nat.isDigit_of_mem_toDigits (by decide) (by decide) hc
  have hdigit : isDigit c = true := by
    simpa [isDigit, Char.isDigit, Char.le_def] using hdigit
  simp [isHex, hdigit]

/-- No digit is a blank, a dot or a letter that a path reserves. -/
theorem digit_plain {i : ℕ} {c : Char} (hc : c ∈ Nat.toDigits 10 i) :
    isSpace c = false ∧ oneOf "./\\\r\n:" c = false := by
  have hall : (hexAlphabet.all fun c => !isSpace c && !oneOf "./\\\r\n:" c) = true := by decide +kernel
  have hplain := List.all_eq_true.mp hall c (mem_hexAlphabet (isHex_of_mem_toDigits hc))
  simpa using hplain

/-- A number written out is a portable path. -/
theorem isPortable_toDigits (i : ℕ) : isPortable (Nat.toDigits 10 i) = true := by
  obtain ⟨c, cs, hcons⟩ := List.exists_cons_of_ne_nil (l := Nat.toDigits 10 i) Nat.toDigits_ne_nil
  have hdot : '.' ∉ Nat.toDigits 10 i := fun hmem => absurd (digit_plain hmem).2 (by decide)
  have hgood : GoodSegment (Nat.toDigits 10 i) :=
    ⟨Nat.toDigits_ne_nil, fun h => hdot (by simp [h]), fun h => hdot (by simp [h])⟩
  have hmem : c ∈ Nat.toDigits 10 i := by simp [hcons]
  refine portable_iff.mpr (portable_of_letters hgood ⟨c, hmem, (digit_plain hmem).1⟩ fun c hc hreserved => ?_)
  have hplain := (digit_plain hc).2
  simp only [List.mem_cons, List.not_mem_nil, or_false] at hreserved
  rcases hreserved with rfl | rfl | rfl | rfl | rfl <;> exact absurd hplain (by decide)

/-- The numbers below `count`, as paths. -/
def numberedRefs (count : ℕ) : List PortablePath :=
  (List.range count).map fun i => ⟨Nat.toDigits 10 i, isPortable_toDigits i⟩

theorem numberedRefs_nodup (count : ℕ) : (numberedRefs count).Nodup := by
  refine List.nodup_range.map fun i j h => ?_
  have hdigits : Nat.toDigits 10 i = Nat.toDigits 10 j := congrArg Subtype.val h
  have hread := congrArg (fun l => Nat.ofDigitChars 10 l 0) hdigits
  simpa using hread

theorem numberedRefs_public (count : ℕ) :
    (numberedRefs count).all (fun r => publicTextIsRedactionSafe r.val) = true := by
  rw [List.all_eq_true]
  intro r hr
  obtain ⟨i, -, rfl⟩ := List.mem_map.mp hr
  exact lifecycleTextIsPublicSafe_of_hex fun c hc => isHex_of_mem_toDigits hc

section

set_option maxRecDepth 4000

/-- A blocker with `count` evidence references. -/
def numberedBlocker (count : ℕ) : PackageSafetyBlockerData where
  code := ⟨"invalid_matched_execution".toList, by decide +kernel⟩
  message := ⟨"The matched execution input is invalid.".toList, by decide +kernel⟩
  evidenceRefs := numberedRefs count

theorem numberedBlocker_valid (count : ℕ) : (numberedBlocker count).validate = .ok () := by
  have hcode : publicTextIsRedactionSafe "invalid_matched_execution".toList = true := by decide +kernel
  have hmessage : publicTextIsRedactionSafe "The matched execution input is invalid.".toList = true := by
    decide +kernel
  refine validateWith_eq_ok.mpr ⟨?_, by simp⟩
  simp only [List.append_eq_nil_iff, check_eq_nil]
  exact ⟨⟨⟨hcode, hmessage⟩, decide_eq_true (numberedRefs_nodup count)⟩, numberedRefs_public count⟩

end

/-- The standard digest, exact arithmetic, no letters folded. -/
def plainInterpreter : Interpreter := ⟨hashlibSha256, DecimalArithmetic.exact, id⟩

/-- A host without calibration bundles. -/
def plainHost : MatchedHost plainInterpreter where
  Bundle := Empty
  bundleEq := inferInstance
  calibrates := fun _ _ _ bundle => bundle.elim
  planDigest := fun _ => hashlibSha256 []
  dimensionDigest := fun _ _ => hashlibSha256 []

/-- What its bundles store. -/
def plainBundleStored : plainHost.Bundle → Stored := Empty.elim

/-- A receipt that an invalid input left behind. -/
def numberedReceipt (count : ℕ) : MatchedExecutionReceiptData plainHost where
  plan := none
  lane := none
  status := .blocked
  calibrations := []
  pairs := []
  providerInvocationCount := 0
  judgeInvocationCount := 0
  elapsedSeconds := 0
  blocker := some ⟨numberedBlocker count, numberedBlocker_valid count⟩

theorem numberedReceipt_code (count : ℕ) :
    (numberedReceipt count).code = some "invalid_matched_execution".toList := rfl

theorem numberedReceipt_binding? (count : ℕ) : (numberedReceipt count).binding? = none := rfl

theorem numberedReceipt_valid (count : ℕ) : (numberedReceipt count).validate = .ok () := by
  refine validateWith_eq_ok.mpr ⟨rfl, ?_⟩
  rw [MatchedExecutionReceiptData.observationsMatchDeclaredPrefix, numberedReceipt_binding?,
    MatchedExecutionReceiptData.blockerRules, numberedReceipt_code]
  dsimp only [numberedReceipt]
  rw [if_pos (by decide)]
  simp [MatchedExecutionReceiptData.countRules, MatchedExecutionReceiptData.unboundRules]

/-- The dictionary of such a receipt without its defaults. -/
def presentedReceipt (count : ℕ) : Presented (MatchedExecutionReceiptData plainHost) where
  member := .items none [.scalar, .scalar, .scalar, .scalar,
    .items none [.scalar, .scalar, .items none (List.replicate count .scalar)]]
  parsed := .ok (numberedReceipt count)

/-- `None` is no plan. -/
def absentPlan : Presented (MatchedComparisonPlanData plainInterpreter) where
  member := .scalar
  parsed := .error ⟨"MatchedComparisonPlan".toList, [([], "Input should be a dictionary".toList)]⟩

/-- Without its defaults the receipt is read. -/
theorem readReceipt_presented {count : ℕ} (h : count + 9 ≤ matchedReceiptBoundary.work) :
    readReceipt (presentedReceipt count) = .ok ⟨numberedReceipt count, numberedReceipt_valid count⟩ := by
  have hclean : (presentedReceipt count).member.Clean := by
    simp [presentedReceipt, Member.Clean, Member.CleanAll, Member.cleanAll_replicate]
  have hfits : (presentedReceipt count).member.Fits matchedReceiptBoundary := by
    have := Member.heightAll_replicate count
    constructor
    · simp only [presentedReceipt, Member.height, Member.heightAll, matchedReceiptBoundary, matchedBoundary]
      omega
    · simp only [presentedReceipt, Member.nodes, Member.nodesAll, Member.nodesAll_replicate]
      omega
  obtain ⟨rest, hvisit⟩ := (matchedReceiptBoundary.exists_visit_iff hclean).mpr hfits
  rw [readReceipt, Presented.modelValidate, hvisit]
  exact mapError_eq_ok_iff.mpr (construct_of_ok (numberedReceipt_valid count))

/-- With its defaults it has eight members more. -/
theorem nodes_copied_receipt (count : ℕ) : (MatchedExecutionReceipt.stored plainBundleStored
    (⟨numberedReceipt count, numberedReceipt_valid count⟩ : MatchedExecutionReceipt plainHost)).asCopy.nodes =
      count + 17 := by
  have hrefs : (numberedBlocker count).evidenceRefs = numberedRefs count := rfl
  have hlength : (numberedRefs count).length = count := by simp [numberedRefs]
  simp only [MatchedExecutionReceipt.stored, numberedReceipt, PackageSafetyBlocker.stored, Stored.optional,
    Stored.tupleOf, Stored.scalars, Stored.texts, List.map_nil, List.map_cons, List.cons_append,
    List.nil_append, Stored.asCopy, Stored.asCopyFields, Stored.asCopies, Member.nodes, Member.nodesAll, hrefs,
    Stored.nodesAll_copied_texts, hlength]
  omega

/-- A receipt at the limit is read, but not read again with its defaults. -/
theorem exists_raised_of_numbered {count : ℕ} (hread : count + 9 ≤ matchedReceiptBoundary.work)
    (hstored : matchedReceiptBoundary.work < count + 17) : ∃ e, prepareMatchedCloudHandoff plainBundleStored
      (fun _ => hashlibSha256 []) (presentedReceipt count) absentPlan = .error e := by
  have hplan : readPlan absentPlan = .error (.validationError ⟨"MatchedComparisonPlan".toList,
      [([], "Input should be a dictionary".toList)]⟩) := rfl
  unfold prepareMatchedCloudHandoff
  rw [readReceipt_presented hread, hplan]
  dsimp only
  rcases hreceipt : handoffReceipt plainBundleStored (fun _ => hashlibSha256 [])
    (some ⟨numberedReceipt count, numberedReceipt_valid count⟩) none .blocked (some handoffBlocker) with e | h
  · exact ⟨e, rfl⟩
  · have hfit := (exists_handoffReceipt_iff plainBundleStored (fun _ => hashlibSha256 []) _ _
      (Or.inr ⟨rfl, rfl, rfl⟩) (P := fun _ => True) fun _ _ => trivial).mp ⟨h, hreceipt, trivial⟩
    have hown := (hfit.2 _ List.mem_cons_self).2
    exact absurd ((nodes_copied_receipt count).symm.le.trans hown) (Nat.not_le.mpr hstored)

/-- **A receipt that was read is not handed over.**  The handoff reads it again with its defaults, these
exceed the work limit of the receipt, and the preparation raises. -/
theorem oversized_receipt_raises : ∃ e, prepareMatchedCloudHandoff plainBundleStored
    (fun _ => hashlibSha256 []) (presentedReceipt 2999990) absentPlan = .error e :=
  exists_raised_of_numbered (by decide) (by decide)

end SkillsSdk
