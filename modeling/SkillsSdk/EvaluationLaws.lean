/-
SkillsSdk/EvaluationLaws.lean

What an evaluation returns.

An evaluation never raises; its receipt is blocked exactly when the input cannot
be evaluated (`Evaluable`), and otherwise it reports one outcome for each case,
in order, and the float nearest to the ratio of passing cases
(`scenario_evaluation_exact`).  The order of the observations and of the probes
does not show.

The argument is shared by the two versions: the screening is empty exactly on
screened input, every case then finds its only observation, and each version
adds what one case evaluates to (`CaseOutcome`).
-/
import SkillsSdk.ScenarioEvaluation
import Mathlib.Data.List.Dedup
import Mathlib.Data.List.Perm.Basic

namespace SkillsSdk

variable {C O R : Type} (case : C → ScenarioCase) (observed : O → ScenarioObservationData)
variable (base : R → ScenarioCaseResultData)

/-! ### Screened input -/

/-- What both versions need before they look at a case. -/
structure Screened (set : ScenarioSetData C) (scorer : ScorerProfile) (observations : List O)
    (supplied : List SuppliedProbe) : Prop where
  same_candidate : scorer.val.candidate = set.candidate
  deterministic : scorer.val.scorerType = .deterministic
  probes_nonempty : ∀ probe ∈ supplied, probe.isNonEmptyText = true
  probes_nodup : supplied.Nodup
  probes_declared : ∀ probe ∈ supplied, probe ∈ scorer.val.calibrationProbeIds.map suppliedAs
  calibrated : scorer.val.calibrationRequired = true →
    ∀ probe ∈ scorer.val.calibrationProbeIds, suppliedAs probe ∈ supplied
  ids_nodup : (observations.map fun o => (observed o).caseId).Nodup
  covers : ∀ id, (∃ o ∈ observations, (observed o).caseId = id) ↔ id ∈ set.caseIds case
  bound : ∀ o ∈ observations, (observed o).candidate = set.candidate ∧
    (observed o).scenarioSetId = set.scenarioSetId

@[simp] theorem refusal_fst {c : Prop} [Decidable c] {blocker : PackageReceiptBlocker}
    {completed : List NonEmptyText} : (refusal c blocker completed).1 = false ↔ ¬ c := by
  simp [refusal]

variable {case observed base}
variable {set : ScenarioSetData C} {scorer : ScorerProfile} {observations observations' : List O}
variable {supplied supplied' : List SuppliedProbe}

theorem screening_clear_iff :
    (screening case observed set scorer observations supplied).find? (·.1) = none ↔
      Screened case observed set scorer observations supplied := by
  rw [List.find?_eq_none]
  simp only [screening, List.forall_mem_cons, Bool.not_eq_true, refusal_fst, not_not, not_exists,
    not_and, not_or, Bool.not_eq_false, sameSet_iff]
  constructor
  · rintro ⟨hcandidate, htype, hnonempty, hnodup, hdeclared, hcalibrated, hids, hcovers, hbound, -⟩
    refine ⟨hcandidate, htype, hnonempty, hnodup, hdeclared, fun hreq p hp => ?_, hids,
      fun id => ?_, hbound⟩
    · exact (hcalibrated hreq _).mpr (List.mem_map.mpr ⟨p, hp, rfl⟩)
    · exact List.mem_map.symm.trans (hcovers id)
  · intro h
    refine ⟨h.same_candidate, h.deterministic, h.probes_nonempty, h.probes_nodup, h.probes_declared,
      fun hreq p => ⟨h.probes_declared p, fun hp => ?_⟩, h.ids_nodup,
      fun id => List.mem_map.trans (h.covers id), h.bound, by simp⟩
    obtain ⟨probe, hprobe, rfl⟩ := List.mem_map.mp hp
    exact h.calibrated hreq probe hprobe

theorem completedProbes_perm (h : supplied.Perm supplied') :
    completedProbes scorer supplied = completedProbes scorer supplied' := by
  apply List.filter_congr
  intro p hp
  rw [decide_eq_decide]
  exact h.mem_iff

theorem sameSet_perm {α : Type*} [DecidableEq α] {a a' b : List α} (h : a.Perm a') :
    sameSet a b = sameSet a' b := by
  rw [Bool.eq_iff_iff, sameSet_iff, sameSet_iff]
  simp only [h.mem_iff]

/-- The screening does not see the order of the observations or of the probes. -/
theorem screening_perm (h : observations.Perm observations') (hs : supplied.Perm supplied') :
    screening case observed set scorer observations supplied =
      screening case observed set scorer observations' supplied' := by
  have hids := h.map fun o => (observed o).caseId
  simp only [screening, refusal, completedProbes_perm hs, sameSet_perm hs, sameSet_perm hids,
    hs.nodup_iff, hids.nodup_iff, hs.mem_iff, h.mem_iff]

/-- Why the first refusal leaves a receipt that its validator accepts. -/
theorem screening_some {b : Bool} {blocker : PackageReceiptBlocker} {completed : List NonEmptyText}
    (h : (screening case observed set scorer observations supplied).find? (·.1) =
      some (b, blocker, completed)) :
    (scorer.val.candidate = set.candidate ∨ blocker = scorerCandidateMismatch) ∧
      (completed = [] ∨ completed = completedProbes scorer supplied) := by
  constructor
  · by_cases hc : scorer.val.candidate = set.candidate
    · exact Or.inl hc
    · rw [screening, List.find?_cons_of_pos (by simp [refusal, hc])] at h
      simp only [refusal, Option.some.injEq, Prod.mk.injEq] at h
      exact Or.inr h.2.1.symm
  · have hmem := List.mem_of_find?_eq_some h
    simp only [screening, refusal, List.mem_cons, Prod.mk.injEq, List.not_mem_nil, or_false] at hmem
    tauto

/-! ### The observation of a case -/

theorem byCaseId_eq_ok_iff (hids : (observations.map fun o => (observed o).caseId).Nodup)
    {id : NonEmptyText} {o : O} :
    byCaseId observed observations id = .ok o ↔ o ∈ observations ∧ (observed o).caseId = id := by
  rw [byCaseId]
  constructor
  · split
    · rename_i o' h
      intro ho
      obtain rfl := Except.ok.inj ho
      exact ⟨List.mem_reverse.mp (List.mem_of_find?_eq_some h), by simpa using List.find?_some h⟩
    · intro h
      cases h
  · rintro ⟨hmem, rfl⟩
    split
    · rename_i o' h
      have hmem' := List.mem_reverse.mp (List.mem_of_find?_eq_some h)
      have hid : (observed o').caseId = (observed o).caseId := by simpa using List.find?_some h
      rw [List.inj_on_of_nodup_map hids hmem' hmem hid]
    · rename_i h
      exact absurd (List.find?_eq_none.mp h o (List.mem_reverse.mpr hmem)) (by simp)

theorem byCaseId_perm (h : observations.Perm observations')
    (hids : (observations.map fun o => (observed o).caseId).Nodup) (id : NonEmptyText) :
    byCaseId observed observations id = byCaseId observed observations' id := by
  have hids' := (h.map fun o => (observed o).caseId).nodup_iff.mp hids
  rcases hx : byCaseId observed observations' id with e | o
  · rcases hy : byCaseId observed observations id with e' | o
    · -- the only error is the missing key
      have herror : ∀ {l : List O} {e}, byCaseId observed l id = .error e → e = .lookupError := by
        intro l e he
        rw [byCaseId] at he
        split at he
        · cases he
        · exact (Except.error.inj he).symm
      rw [herror hx, herror hy]
    · obtain ⟨hmem, hid⟩ := (byCaseId_eq_ok_iff hids).mp hy
      rw [(byCaseId_eq_ok_iff hids').mpr ⟨h.mem_iff.mp hmem, hid⟩] at hx
      cases hx
  · obtain ⟨hmem, hid⟩ := (byCaseId_eq_ok_iff hids').mp hx
    exact (byCaseId_eq_ok_iff hids).mpr ⟨h.mem_iff.mpr hmem, hid⟩

/-! ### All cases -/

/-- What a result says of a case and its observation. -/
structure CaseOutcome (evaluable passes : Prop) (c : ScenarioCase) (o : ScenarioObservationData)
    (r : ScenarioCaseResultData) : Prop where
  caseId_eq : r.caseId = c.caseId
  candidate_eq : r.candidate = o.candidate
  scenarioSetId_eq : r.scenarioSetId = o.scenarioSetId
  blocked_iff : r.status = .blocked ↔ ¬ evaluable
  pass_iff : r.status = .pass ↔ passes

variable {evaluable passes : C → O → Prop} {evaluate : C → O → Except EvaluationRaised R}

/-- The outcomes of all cases, in order. -/
def Outcomes (evaluable passes : C → O → Prop) (case : C → ScenarioCase)
    (observed : O → ScenarioObservationData) (base : R → ScenarioCaseResultData)
    (observations : List O) (cases : List C) (results : List R) : Prop :=
  List.Forall₂ (fun c r => ∃ o ∈ observations, (observed o).caseId = (case c).caseId ∧
    CaseOutcome (evaluable c o) (passes c o) (case c) (observed o) (base r)) cases results

theorem evaluateCases_eq_ok (base : R → ScenarioCaseResultData)
    (hcase : ∀ c o, ∃ r, evaluate c o = .ok r ∧
      CaseOutcome (evaluable c o) (passes c o) (case c) (observed o) (base r))
    (hids : (observations.map fun o => (observed o).caseId).Nodup) {cases : List C}
    (hcovers : ∀ c ∈ cases, ∃ o ∈ observations, (observed o).caseId = (case c).caseId) :
    ∃ results, (cases.mapM fun c => do evaluate c (← byCaseId observed observations (case c).caseId)) =
        .ok results ∧
      Outcomes evaluable passes case observed base observations cases results ∧
        ∀ r ∈ results, ∃ c, ∃ o ∈ observations, evaluate c o = .ok r := by
  induction cases with
  | nil => exact ⟨[], rfl, .nil, by simp⟩
  | cons c cases ih =>
    obtain ⟨results, hresults, houtcomes, hfrom⟩ := ih fun d hd => hcovers d (by simp [hd])
    obtain ⟨o, ho, hid⟩ := hcovers c (by simp)
    obtain ⟨r, hr, houtcome⟩ := hcase c o
    refine ⟨r :: results, ?_, .cons ⟨o, ho, hid, houtcome⟩ houtcomes,
      List.forall_mem_cons.mpr ⟨⟨c, o, ho, hr⟩, hfrom⟩⟩
    rw [List.mapM_cons, (byCaseId_eq_ok_iff hids).mpr ⟨ho, hid⟩, hresults]
    show (evaluate c o >>= fun r => pure (r :: results)) = .ok (r :: results)
    rw [hr]
    rfl

section

variable {cases : List C} {results : List R}

theorem Outcomes.caseIds (h : Outcomes evaluable passes case observed base observations cases results) :
    (results.map fun r => (base r).caseId) = cases.map fun c => (case c).caseId := by
  induction h with
  | nil => rfl
  | cons h _ ih =>
    obtain ⟨o, -, -, houtcome⟩ := h
    rw [List.map_cons, List.map_cons, ih, houtcome.caseId_eq]

theorem Outcomes.length_eq (h : Outcomes evaluable passes case observed base observations cases results) :
    results.length = cases.length := (List.Forall₂.length_eq h).symm

/-- Every result is that of some observation. -/
theorem Outcomes.mem (h : Outcomes evaluable passes case observed base observations cases results)
    {r : R} (hr : r ∈ results) : ∃ c ∈ cases, ∃ o ∈ observations,
      (observed o).caseId = (case c).caseId ∧
        CaseOutcome (evaluable c o) (passes c o) (case c) (observed o) (base r) := by
  induction h with
  | nil => simp at hr
  | cons h _ ih =>
    rcases List.mem_cons.mp hr with rfl | hr
    · exact ⟨_, by simp, h⟩
    · obtain ⟨c, hc, h⟩ := ih hr
      exact ⟨c, by simp [hc], h⟩

theorem Outcomes.mem_cases (h : Outcomes evaluable passes case observed base observations cases results)
    {c : C} (hc : c ∈ cases) : ∃ r ∈ results, ∃ o ∈ observations,
      (observed o).caseId = (case c).caseId ∧
        CaseOutcome (evaluable c o) (passes c o) (case c) (observed o) (base r) := by
  induction h with
  | nil => simp at hc
  | cons h _ ih =>
    rcases List.mem_cons.mp hc with rfl | hc
    · exact ⟨_, by simp, h⟩
    · obtain ⟨r, hr, h⟩ := ih hc
      exact ⟨r, by simp [hr], h⟩

end

/-! ### What is asked of a receipt -/

/-- The input can be evaluated: it is screened, and so is every case. -/
structure Evaluable (case : C → ScenarioCase) (observed : O → ScenarioObservationData)
    (evaluable : C → O → Prop) (set : ScenarioSetData C) (scorer : ScorerProfile)
    (observations : List O) (supplied : List SuppliedProbe) : Prop
    extends Screened case observed set scorer observations supplied where
  cases_evaluable : ∀ c ∈ set.cases, ∀ o ∈ observations, (observed o).caseId = (case c).caseId →
    evaluable c o

/-- How many cases pass. -/
def passing (passes : C → O → Prop) [∀ c o, Decidable (passes c o)] (case : C → ScenarioCase)
    (observed : O → ScenarioObservationData) (observations : List O) (cases : List C) : ℕ :=
  cases.countP fun c => ∃ o ∈ observations, (observed o).caseId = (case c).caseId ∧ passes c o

/-- The score is the float nearest to the ratio of passing cases, and decides. -/
structure Scored (passed total : ℕ) (r : EvaluationReceiptData R) : Prop where
  score_eq : r.score = some (Binary64.trueDiv passed total)
  nearest : ∀ y : Binary64, |(Binary64.trueDiv passed total).val - passed / total| ≤
    |y.val - passed / total|
  pass_iff : r.status = .pass ↔ r.scorer.val.passThreshold.val ≤ (Binary64.trueDiv passed total).val
  pass_of_ratio : r.scorer.val.passThreshold.val ≤ (passed / total : ℚ) → r.status = .pass

/-- What a receipt reports, of input that is `screened`, or even `possible` to evaluate. -/
structure ExactReport (evaluable passes : C → O → Prop) [∀ c o, Decidable (passes c o)] (case : C → ScenarioCase)
    (observed : O → ScenarioObservationData) (base : R → ScenarioCaseResultData)
    (set : ScenarioSetData C) (scorer : ScorerProfile) (observations : List O)
    (screened possible : Prop) (r : EvaluationReceiptData R) : Prop where
  scorer_eq : r.scorer = scorer
  blocked_iff : r.status = .blocked ↔ ¬ possible
  score_none : ¬ possible → r.score = none
  outcomes : screened → Outcomes evaluable passes case observed base observations set.cases r.caseResults
  scored : possible → Scored (passing passes case observed observations set.cases) set.cases.length r

theorem ScorerProfile.passThreshold_nonneg (s : ScorerProfile) : 0 ≤ s.val.passThreshold.val := by
  have h := (validateWith_eq_ok.mp s.2).1
  simp only [check_eq_nil, Bool.and_eq_true, decide_eq_true_eq] at h
  exact h.1

theorem scored_of {passed total : ℕ} {r : EvaluationReceiptData R}
    (hscore : r.score = some (Binary64.trueDiv passed total)) (hstatus : r.status = r.expectedStatus) :
    Scored passed total r := by
  have hpass : r.status = .pass ↔
      r.scorer.val.passThreshold.val ≤ (Binary64.trueDiv passed total).val := by
    rw [hstatus, EvaluationReceiptData.expectedStatus, hscore]
    simp
  have hratio : (0 : ℚ) ≤ passed / total := div_nonneg (Nat.cast_nonneg _) (Nat.cast_nonneg _)
  refine ⟨hscore, fun y => Binary64.round_nearest hratio y.2, hpass, fun h => hpass.mpr ?_⟩
  exact Binary64.le_round r.scorer.val.passThreshold.2 r.scorer.passThreshold_nonneg h

/-- The results count as many passes as there are passing cases. -/
theorem Outcomes.passed_eq [∀ c o, Decidable (passes c o)] {cases : List C} {results : List R}
    (h : Outcomes evaluable passes case observed base observations cases results)
    (hids : (observations.map fun o => (observed o).caseId).Nodup) :
    (results.countP fun r => (base r).status = .pass) =
      passing passes case observed observations cases := by
  rw [passing]
  induction h with
  | nil => rfl
  | @cons c r _ _ h _ ih =>
    obtain ⟨o, ho, hid, houtcome⟩ := h
    have hiff : (base r).status = .pass ↔
        ∃ o ∈ observations, (observed o).caseId = (case c).caseId ∧ passes c o := by
      rw [houtcome.pass_iff]
      constructor
      · exact fun h => ⟨o, ho, hid, h⟩
      · rintro ⟨o', ho', hid', h⟩
        rwa [List.inj_on_of_nodup_map hids ho ho' (hid.trans hid'.symm)]
    rw [List.countP_cons, List.countP_cons, ih]
    simp only [decide_eq_true_eq, hiff]

/-! ### Receipts that the validators accept -/

/-- The results bind the set, each case once. -/
structure ResultsBound (base : R → ScenarioCaseResultData) (set : ScenarioSetData C) (results : List R) :
    Prop where
  ids_nodup : (results.map fun r => (base r).caseId).Nodup
  bound : ∀ r ∈ results, (base r).candidate = set.candidate ∧ (base r).scenarioSetId = set.scenarioSetId

theorem ResultsBound.nil : ResultsBound base set [] := ⟨List.nodup_nil, by simp⟩

theorem Outcomes.bound {results : List R}
    (h : Outcomes evaluable passes case observed base observations set.cases results)
    (hscreened : Screened case observed set scorer observations supplied)
    (hids : (set.caseIds case).Nodup) : ResultsBound base set results := by
  refine ⟨h.caseIds ▸ hids, fun r hr => ?_⟩
  obtain ⟨c, -, o, ho, -, houtcome⟩ := h.mem hr
  rw [houtcome.candidate_eq, houtcome.scenarioSetId_eq]
  exact hscreened.bound o ho

theorem scorerMismatchBlocked_of {r : EvaluationReceiptData R} (hstatus : r.status = .blocked)
    (hblocker : r.blocker = some scorerCandidateMismatch) : r.scorerMismatchBlocked := by
  refine ⟨hstatus, ?_⟩
  simp [hblocker, scorerCandidateMismatch, literal]

theorem bindings_hold {r : EvaluationReceiptData R} (hbound : ResultsBound base set r.caseResults)
    (hcandidate : r.candidate = set.candidate) (hset : r.scenarioSetId = set.scenarioSetId)
    (hscorer : r.scorer.val.candidate = r.candidate ∨ r.scorerMismatchBlocked) :
    ∀ v ∈ r.bindings base, v.1 = false := by
  simp only [EvaluationReceiptData.bindings, List.forall_mem_cons, violation_fst, not_and, not_not,
    not_exists, not_or]
  refine ⟨fun hne => hscorer.resolve_left hne, hbound.ids_nodup, fun result hresult => ?_, by simp⟩
  rw [hcandidate, hset]
  exact hbound.bound result hresult

theorem completedProbes_canonical {completed : List NonEmptyText}
    (h : completed = [] ∨ completed = completedProbes scorer supplied) :
    completed.Nodup ∧ (∀ p ∈ completed, p ∈ scorer.val.calibrationProbeIds) ∧
      completed = scorer.val.calibrationProbeIds.filter (· ∈ completed) := by
  rcases h with rfl | rfl
  · exact ⟨List.nodup_nil, by simp, by simp⟩
  · refine ⟨scorer.calibrationProbeIds_nodup.filter _, fun p hp => (List.mem_filter.mp hp).1, ?_⟩
    apply List.filter_congr
    intro p hp
    simp [completedProbes, hp]

theorem Screened.completedProbes_eq (h : Screened case observed set scorer observations supplied)
    (hreq : scorer.val.calibrationRequired = true) :
    sameSet (completedProbes scorer supplied) scorer.val.calibrationProbeIds = true := by
  rw [sameSet_iff]
  intro p
  simp only [completedProbes, List.mem_filter, decide_eq_true_eq, and_iff_left_iff_imp]
  exact h.calibrated hreq p

/-- No case of screened input is blocked exactly when every case can be evaluated. -/
theorem Outcomes.evaluable_iff {results : List R}
    (h : Outcomes evaluable passes case observed base observations set.cases results)
    (hscreened : Screened case observed set scorer observations supplied) :
    (∀ r ∈ results, (base r).status ≠ .blocked) ↔
      Evaluable case observed evaluable set scorer observations supplied := by
  constructor
  · intro hall
    refine ⟨hscreened, fun c hc o ho hid => ?_⟩
    obtain ⟨r, hr, o', ho', hid', houtcome⟩ := h.mem_cases hc
    obtain rfl : o = o' := List.inj_on_of_nodup_map hscreened.ids_nodup ho ho' (hid.trans hid'.symm)
    by_contra hnot
    exact hall r hr (houtcome.blocked_iff.mpr hnot)
  · intro hpossible r hr hblocked
    obtain ⟨c, hc, o, ho, hid, houtcome⟩ := h.mem hr
    exact houtcome.blocked_iff.mp hblocked (hpossible.cases_evaluable c hc o ho hid)

/-! ### Version 1 -/

/-- Version 1 evaluates expected signals only. -/
def CaseEvaluable (c : ScenarioCase) (o : ScenarioObservationData) : Prop :=
  o.status = .completed ∧ c.oracle = .expectedSignal

def CasePasses (c : ScenarioCase) (o : ScenarioObservationData) : Prop :=
  CaseEvaluable c o ∧ (∀ signal ∈ c.expectedSignals.val, signal ∈ o.observedSignals) ∧
    ∀ command ∈ o.observedCommands, command ∉ c.forbiddenCommands

instance (c : ScenarioCase) (o : ScenarioObservationData) : Decidable (CaseEvaluable c o) :=
  inferInstanceAs (Decidable (_ ∧ _))

instance (c : ScenarioCase) (o : ScenarioObservationData) : Decidable (CasePasses c o) :=
  inferInstanceAs (Decidable (_ ∧ _))

theorem missingSignals_eq_nil {c : ScenarioCase} {o : ScenarioObservationData} :
    missingSignals c o = [] ↔ ∀ signal ∈ c.expectedSignals.val, signal ∈ o.observedSignals := by
  simp [missingSignals, List.filter_eq_nil_iff]

theorem forbiddenObserved_eq_nil {c : ScenarioCase} {o : ScenarioObservationData} :
    forbiddenObserved c o = [] ↔ ∀ command ∈ o.observedCommands, command ∉ c.forbiddenCommands := by
  simp [forbiddenObserved, List.filter_eq_nil_iff]

theorem status_ne_completed {status : ObservationStatus} : status ≠ .completed ↔ status = .blocked := by
  cases status <;> simp

/-- A case that cannot be evaluated. -/
theorem CaseOutcome.blocked {evaluable passes : Prop} {c : ScenarioCase} {o : ScenarioObservationData}
    {r : ScenarioCaseResultData} (hid : r.caseId = c.caseId) (hcandidate : r.candidate = o.candidate)
    (hset : r.scenarioSetId = o.scenarioSetId) (hstatus : r.status = .blocked) (hnot : ¬ evaluable)
    (hpasses : passes → evaluable) : CaseOutcome evaluable passes c o r :=
  ⟨hid, hcandidate, hset, iff_of_true hstatus hnot,
    iff_of_false (by simp [hstatus]) fun h => hnot (hpasses h)⟩

/-- A call of a constructor returns what its validator accepts. -/
theorem exists_evaluated {α : Type*} {validate : α → Except ValidationError Unit} {d : α}
    {P : α → Prop} (hvalid : validate d = .ok ()) (hP : P d) :
    ∃ r, evaluated (construct validate d) = .ok r ∧ P r.val :=
  ⟨⟨d, hvalid⟩, evaluated_construct_of_ok hvalid, hP⟩

theorem evaluateCase_eq_ok (c : ScenarioCase) (o : ScenarioObservation) :
    ∃ r, evaluateCase c o = .ok r ∧
      CaseOutcome (CaseEvaluable c o.val) (CasePasses c o.val) c o.val r.val := by
  have hsound := o.sound
  have hrefs := hsound.refs_nodup
  rw [evaluateCase]
  by_cases hstatus : o.val.status = .blocked
  · obtain ⟨⟨blocker, hblocker⟩, -⟩ := hsound.blocked hstatus
    simp only [if_pos hstatus, hblocker]
    apply exists_evaluated
    · refine validateWith_eq_ok.mpr ⟨?_, ?_⟩
      · exact check_eq_nil.mpr (decide_eq_true hrefs)
      · simp [violation, ScenarioCaseResultData.hasFailure, resultOfObservation]
    · exact .blocked rfl rfl rfl rfl (by simp [CaseEvaluable, hstatus]) And.left
  · have hcompleted : o.val.status = .completed := by
      by_contra h
      exact hstatus (status_ne_completed.mp h)
    rw [if_neg hstatus]
    -- only the expected-signal oracle is evaluated here; any other blocks
    by_cases horacle : c.oracle = .expectedSignal
    · obtain ⟨-, digest, hdigest⟩ := hsound.completed hcompleted
      have hevaluable : CaseEvaluable c o.val := ⟨hcompleted, horacle⟩
      simp only [ne_eq, horacle, not_true_eq_false, if_false, hdigest]
      by_cases hfail : missingSignals c o.val ≠ [] ∨ forbiddenObserved c o.val ≠ []
      · simp only [ne_eq] at hfail
        simp only [if_pos hfail]
        apply exists_evaluated
        · refine validateWith_eq_ok.mpr ⟨?_, ?_⟩
          · exact check_eq_nil.mpr (decide_eq_true hrefs)
          · simp [violation, ScenarioCaseResultData.hasFailure, resultOfObservation, hfail]
        · refine ⟨rfl, rfl, rfl, iff_of_false (by simp [resultOfObservation]) (not_not.mpr hevaluable),
            iff_of_false (by simp [resultOfObservation]) fun h => ?_⟩
          exact hfail.elim (absurd (missingSignals_eq_nil.mpr h.2.1))
            (absurd (forbiddenObserved_eq_nil.mpr h.2.2))
      · have hnone := not_or.mp hfail
        rw [not_not, not_not] at hnone
        simp only [hnone.1, hnone.2, not_true_eq_false, or_self, if_false]
        apply exists_evaluated
        · refine validateWith_eq_ok.mpr ⟨?_, ?_⟩
          · exact check_eq_nil.mpr (decide_eq_true hrefs)
          · simp [violation, ScenarioCaseResultData.hasFailure, resultOfObservation]
        · exact ⟨rfl, rfl, rfl, iff_of_false (by simp [resultOfObservation]) (not_not.mpr hevaluable),
            iff_of_true rfl ⟨hevaluable, missingSignals_eq_nil.mp hnone.1,
              forbiddenObserved_eq_nil.mp hnone.2⟩⟩
    · rw [if_pos horacle]
      apply exists_evaluated
      · refine validateWith_eq_ok.mpr ⟨?_, ?_⟩
        · exact check_eq_nil.mpr (decide_eq_true hrefs)
        · simp [violation, ScenarioCaseResultData.hasFailure, resultOfObservation]
      · exact .blocked rfl rfl rfl rfl (fun h => horacle h.2) And.left

section

variable (sha256 : List UInt8 → Sha256) (floatRepr : Binary64 → Text)
variable {set : ScenarioSet} {observations observations' : List ScenarioObservation}
variable {results : List ScenarioCaseResult} {completed : List NonEmptyText}

theorem blockedReceipt_eq_ok (blocker : PackageReceiptBlocker)
    (hcandidate : scorer.val.candidate = set.val.candidate ∨ blocker = scorerCandidateMismatch)
    (hcompleted : completed = [] ∨ completed = completedProbes scorer supplied)
    (hresults : ResultsBound Subtype.val set.val results) :
    ∃ r, blockedReceipt sha256 floatRepr set scorer blocker results completed = .ok r ∧
      (r.val.status = .blocked ∧ r.val.score = none ∧ r.val.scorer = scorer ∧
        r.val.caseResults = results) := by
  obtain ⟨hnodup, hdeclared, hcanonical⟩ := completedProbes_canonical hcompleted
  rw [blockedReceipt]
  refine exists_evaluated (P := fun r : EvaluationReceiptData ScenarioCaseResult =>
    r.status = .blocked ∧ r.score = none ∧ r.scorer = scorer ∧ r.caseResults = results)
    (validateWith_eq_ok.mpr ⟨rfl, ?_⟩) ⟨rfl, rfl, rfl, rfl⟩
  rw [if_pos rfl, List.forall_mem_append, List.forall_mem_append]
  refine ⟨⟨bindings_hold hresults rfl rfl ?_, ?_⟩, ?_⟩
  · rcases hcandidate with h | rfl
    · exact Or.inl h
    · exact Or.inr (scorerMismatchBlocked_of rfl rfl)
  · simp only [List.forall_mem_cons, violation_fst, not_not, not_exists, not_and]
    exact ⟨hnodup, hdeclared, hcanonical, fun h => absurd rfl h, by simp⟩
  · simp [EvaluationReceiptData.blockedRules, violation]

theorem scoredReceipt_eq_ok (hscreened : Screened id Subtype.val set.val scorer observations supplied)
    (hresults : ResultsBound Subtype.val set.val results) (hne : results ≠ [])
    (hblocked : ∀ r ∈ results, r.val.status ≠ .blocked) :
    ∃ r, scoredReceipt sha256 floatRepr set scorer results (completedProbes scorer supplied) = .ok r ∧
      (r.val.status ≠ .blocked ∧ r.val.scorer = scorer ∧ r.val.caseResults = results ∧
        Scored (results.countP fun r => r.val.status = .pass) results.length r.val) := by
  obtain ⟨hnodup, hdeclared, hcanonical⟩ :=
    completedProbes_canonical (Or.inr (rfl : _ = completedProbes scorer supplied))
  rw [scoredReceipt]
  set score := Binary64.trueDiv (results.countP fun r => r.val.status = .pass) results.length with hscore
  set status := if scorer.val.passThreshold.val ≤ score.val then EvaluationStatus.pass else .fail
    with hstatus
  have hstatus' : status ≠ .blocked := by
    rw [hstatus]
    split <;> simp
  refine exists_evaluated (P := fun r : EvaluationReceiptData ScenarioCaseResult =>
    r.status ≠ .blocked ∧ r.scorer = scorer ∧ r.caseResults = results ∧
      Scored (results.countP fun r => r.val.status = .pass) results.length r) ?_ ?_
  · refine validateWith_eq_ok.mpr ⟨check_eq_nil.mpr ?_, ?_⟩
    · simp only [Option.all_some, Bool.and_eq_true, decide_eq_true_eq]
      exact ⟨Binary64.trueDiv_nonneg _ _, Binary64.trueDiv_le_one List.countP_le_length⟩
    rw [if_neg hstatus', List.forall_mem_append, List.forall_mem_append, List.forall_mem_append]
    refine ⟨⟨bindings_hold hresults rfl rfl (Or.inl hscreened.same_candidate), ?_⟩,
      ?_, ?_⟩
    · simp only [List.forall_mem_cons, violation_fst, not_not, not_exists, not_and, Bool.not_eq_false]
      exact ⟨hnodup, hdeclared, hcanonical, fun _ hreq => hscreened.completedProbes_eq hreq, by simp⟩
    · simp only [List.forall_mem_cons, violation_fst, not_not, not_or]
      exact ⟨⟨trivial, fun ⟨r, hr, h⟩ => hblocked r hr h⟩, ⟨by simp, hne⟩, hscreened.deterministic,
        by simp⟩
    · simp only [EvaluationReceiptData.scoreRules, List.forall_mem_cons, violation_fst, not_not]
      exact ⟨rfl, by simp [EvaluationReceiptData.expectedStatus, hstatus], by simp⟩
  · exact ⟨hstatus', rfl, rfl, scored_of rfl (by simp [EvaluationReceiptData.expectedStatus, hstatus])⟩

/-- **Version 1**: the receipt of every input. -/
theorem evaluateScenarioSet_exact (set : ScenarioSet) (scorer : ScorerProfile)
    (observations : List ScenarioObservation) (supplied : List SuppliedProbe) :
    ∃ r, evaluateScenarioSet sha256 floatRepr set scorer observations supplied = .ok r ∧
      ExactReport (fun c o => CaseEvaluable c o.val) (fun c o => CasePasses c o.val) id Subtype.val
        Subtype.val set.val scorer observations
        (Screened id Subtype.val set.val scorer observations supplied)
        (Evaluable id Subtype.val (fun c o => CaseEvaluable c o.val) set.val scorer observations supplied)
        r.val := by
  rw [evaluateScenarioSet]
  rcases hfind : (screening id Subtype.val set.val scorer observations supplied).find? (·.1) with
    - | ⟨b, blocker, completed⟩
  · have hscreened := screening_clear_iff.mp hfind
    obtain ⟨results, hresults, houtcomes, -⟩ := evaluateCases_eq_ok Subtype.val
      evaluateCase_eq_ok hscreened.ids_nodup
      fun c (hc : c ∈ set.val.cases) => (hscreened.covers c.caseId).mpr (List.mem_map_of_mem hc)
    have hbound := houtcomes.bound hscreened (ScenarioSetData.caseIds_nodup set)
    have hpossible := houtcomes.evaluable_iff hscreened
    rw [hfind]
    simp only [hresults]
    show ∃ r, receiptOfResults sha256 floatRepr set scorer results (completedProbes scorer supplied) =
      .ok r ∧ _
    rw [receiptOfResults]
    -- one blocked case blocks the whole set
    by_cases hblocked : ∃ r ∈ results, r.val.status = .blocked
    · rw [if_pos (List.any_eq_true.mpr (by simpa using hblocked))]
      have hnot : ¬ Evaluable id Subtype.val (fun c o => CaseEvaluable c o.val) set.val scorer
          observations supplied := fun h => by
        obtain ⟨r, hr, h'⟩ := hblocked
        exact hpossible.mpr h r hr h'
      obtain ⟨r, hr, hstatus, hscore, hscorer, hcase⟩ := blockedReceipt_eq_ok sha256 floatRepr
        scenarioBlocked (Or.inl hscreened.same_candidate)
        (Or.inr (rfl : _ = completedProbes scorer supplied)) hbound
      exact ⟨r, hr, hscorer, iff_of_true hstatus hnot, fun _ => hscore, fun _ => hcase ▸ houtcomes,
        fun h => absurd h hnot⟩
    · rw [if_neg (by simpa [List.any_eq_true] using hblocked)]
      have hall : ∀ r ∈ results, r.val.status ≠ .blocked := fun r hr h => hblocked ⟨r, hr, h⟩
      have hne : results ≠ [] := by
        rw [← List.length_pos_iff, houtcomes.length_eq, List.length_pos_iff]
        exact ScenarioSetData.cases_ne_nil set
      obtain ⟨r, hr, hstatus, hscorer, hcase, hscored⟩ := scoredReceipt_eq_ok sha256 floatRepr
        hscreened hbound hne hall
      exact ⟨r, hr, hscorer, iff_of_false hstatus (not_not.mpr (hpossible.mp hall)),
        fun h => absurd (hpossible.mp hall) h, fun _ => hcase ▸ houtcomes,
        fun _ => houtcomes.passed_eq hscreened.ids_nodup ▸ houtcomes.length_eq ▸ hscored⟩
  -- the first check that fails names the blocker
  · have hnot : ¬ Screened id Subtype.val set.val scorer observations supplied := fun h => by
      rw [screening_clear_iff.mpr h] at hfind
      cases hfind
    obtain ⟨hcandidate, hcompleted⟩ := screening_some hfind
    obtain ⟨r, hr, hstatus, hscore, hscorer, -⟩ := blockedReceipt_eq_ok sha256 floatRepr blocker
      hcandidate hcompleted ResultsBound.nil
    rw [hfind]
    exact ⟨r, hr, hscorer, iff_of_true hstatus fun h => hnot h.toScreened, fun _ => hscore,
      fun h => absurd h hnot, fun h => absurd h.toScreened hnot⟩

theorem evaluateScenarioSet_perm (h : observations.Perm observations') (hs : supplied.Perm supplied') :
    evaluateScenarioSet sha256 floatRepr set scorer observations supplied =
      evaluateScenarioSet sha256 floatRepr set scorer observations' supplied' := by
  rw [evaluateScenarioSet, evaluateScenarioSet, screening_perm h hs, completedProbes_perm hs]
  rcases hfind : (screening id Subtype.val set.val scorer observations' supplied').find? (·.1) with
    - | ⟨b, blocker, completed⟩
  · have hids := (screening_clear_iff.mp (screening_perm h hs ▸ hfind)).ids_nodup
    simp only [byCaseId_perm h hids]
  · rw [hfind]

end

/-! ### Version 2 -/

/-- Version 2 evaluates expected signals, and exact matches against a known digest. -/
def CaseEvaluableV2 (c : ScenarioCaseV2) (o : ScenarioObservationV2) : Prop :=
  o.val.status = .completed ∧ c.val.oracle ≠ .structured ∧
    (c.val.oracle = .exactMatch → c.val.expectedOutputSha256 ≠ none)

def CasePassesV2 (c : ScenarioCaseV2) (o : ScenarioObservationV2) : Prop :=
  CaseEvaluableV2 c o ∧
    (c.val.oracle = .expectedSignal →
      ∀ signal ∈ c.val.expectedSignals.val, signal ∈ o.val.observedSignals) ∧
    (∀ command ∈ o.val.observedCommands, command ∉ c.val.forbiddenCommands) ∧
    (c.val.oracle = .exactMatch → o.val.outputSha256 = c.val.expectedOutputSha256)

instance (c : ScenarioCaseV2) (o : ScenarioObservationV2) : Decidable (CaseEvaluableV2 c o) :=
  inferInstanceAs (Decidable (_ ∧ _))

instance (c : ScenarioCaseV2) (o : ScenarioObservationV2) : Decidable (CasePassesV2 c o) :=
  inferInstanceAs (Decidable (_ ∧ _))

/-- All observations come from one provider. -/
def OneProvider (observations : List ScenarioObservationV2) : Prop :=
  ∀ o ∈ observations, ∀ o' ∈ observations, o.val.provider = o'.val.provider

theorem blockedResultV2_eq_ok {c : ScenarioCaseV2} {o : ScenarioObservationV2}
    (blocker : PackageReceiptBlocker) (hnot : ¬ CaseEvaluableV2 c o) :
    ∃ r, blockedResultV2 c o (some blocker) = .ok r ∧
      (CaseOutcome (CaseEvaluableV2 c o) (CasePassesV2 c o) c.base o.base r.val.toScenarioCaseResultData ∧
        r.val.provider = o.val.provider) := by
  rw [blockedResultV2]
  refine exists_evaluated (P := fun r : ScenarioCaseResultV2Data =>
    CaseOutcome (CaseEvaluableV2 c o) (CasePassesV2 c o) c.base o.base r.toScenarioCaseResultData ∧
      r.provider = o.val.provider) (validateWith_eq_ok.mpr ⟨?_, ?_⟩)
    ⟨.blocked rfl rfl rfl rfl hnot And.left, rfl⟩
  · exact check_eq_nil.mpr (decide_eq_true o.sound.refs_nodup)
  · simp [violation, ScenarioCaseResultV2Data.hasFailureV2, ScenarioCaseResultData.hasFailure,
      resultOfObservation]

theorem evaluateCaseV2_eq_ok (c : ScenarioCaseV2) (o : ScenarioObservationV2) :
    ∃ r, evaluateCaseV2 c o = .ok r ∧
      (CaseOutcome (CaseEvaluableV2 c o) (CasePassesV2 c o) c.base o.base r.val.toScenarioCaseResultData ∧
        r.val.provider = o.val.provider) := by
  rw [evaluateCaseV2]
  by_cases hstatus : o.val.status = .blocked
  · obtain ⟨⟨blocker, hblocker⟩, -⟩ := o.sound.blocked hstatus
    rw [if_pos hstatus, show o.val.blocker = some blocker from hblocker]
    exact blockedResultV2_eq_ok blocker fun h => by simp [h.1] at hstatus
  rw [if_neg hstatus]
  by_cases hstructured : c.val.oracle = .structured
  · rw [if_pos hstructured]
    exact blockedResultV2_eq_ok _ fun h => h.2.1 hstructured
  rw [if_neg hstructured]
  by_cases hdigestless : c.val.oracle = .exactMatch ∧ c.val.expectedOutputSha256 = none
  · rw [if_pos hdigestless]
    exact blockedResultV2_eq_ok _ fun h => h.2.2 hdigestless.1 hdigestless.2
  rw [if_neg hdigestless]
  have hcompleted : o.val.status = .completed := by
    by_contra h
    exact hstatus (status_ne_completed.mp h)
  have hevaluable : CaseEvaluableV2 c o :=
    ⟨hcompleted, hstructured, fun horacle hnone => hdigestless ⟨horacle, hnone⟩⟩
  obtain ⟨-, digest, hdigest⟩ := o.sound.completed hcompleted
  have hdigest : o.val.outputSha256 = some digest := hdigest
  simp only [hdigest]
  set missing := if c.val.oracle = .expectedSignal then missingSignals c.base o.base else [] with hmissing
  set forbidden := forbiddenObserved c.base o.base with hforbidden
  set mismatch := decide (c.val.oracle = .exactMatch ∧ some digest ≠ c.val.expectedOutputSha256)
    with hmismatch
  have hpasses : ¬ (missing ≠ [] ∨ forbidden ≠ [] ∨ mismatch = true) ↔ CasePassesV2 c o := by
    have hsignals : missing = [] ↔ (c.val.oracle = .expectedSignal →
        ∀ signal ∈ c.val.expectedSignals.val, signal ∈ o.val.observedSignals) := by
      rw [hmissing]
      split
      · rename_i horacle
        exact missingSignals_eq_nil.trans (by simp [horacle])
      · rename_i horacle
        simp [horacle]
    rw [not_or, not_or, not_not, not_not, hsignals, hforbidden, forbiddenObserved_eq_nil, hmismatch,
      decide_eq_true_eq, not_and, CasePassesV2, hdigest]
    simp only [not_not, hevaluable, true_and]
  -- a digest to compare with is there exactly when the digests are compared
  have hcompared : c.val.expectedOutputSha256 ≠ none →
      mismatch = decide (c.val.expectedOutputSha256 ≠ some digest) := fun hsome => by
    have horacle : c.val.oracle = .exactMatch := by
      by_contra h
      exact hsome (c.expectedOutputSha256_eq_none h)
    simp [hmismatch, horacle, eq_comm]
  have hexpected : mismatch = true → c.val.expectedOutputSha256 ≠ none := fun h =>
    hevaluable.2.2 (decide_eq_true_eq.mp h).1
  by_cases hfail : missing ≠ [] ∨ forbidden ≠ [] ∨ mismatch = true
  · simp only [if_pos hfail]
    refine exists_evaluated (P := fun r : ScenarioCaseResultV2Data =>
      CaseOutcome (CaseEvaluableV2 c o) (CasePassesV2 c o) c.base o.base r.toScenarioCaseResultData ∧
        r.provider = o.val.provider) (validateWith_eq_ok.mpr
          ⟨check_eq_nil.mpr (decide_eq_true o.sound.refs_nodup), ?_⟩)
      ⟨⟨rfl, rfl, rfl, iff_of_false (by simp [resultOfObservation]) (not_not.mpr hevaluable),
        iff_of_false (by simp [resultOfObservation]) fun h => hpasses.mpr h hfail⟩, rfl⟩
    simp only [List.forall_mem_cons, violation_fst, ScenarioCaseResultV2Data.hasFailureV2,
      ScenarioCaseResultData.hasFailure, resultOfObservation]
    refine ⟨by simp, ?_, by simp, by simp, fun h => hexpected h.1 h.2, fun h => h.2.2 (hcompared h.1),
      by simp⟩
    rw [or_assoc]
    simp [hfail]
  · have hnone := hfail
    rw [not_or, not_or, not_not, not_not] at hnone
    simp only [if_neg hfail]
    refine exists_evaluated (P := fun r : ScenarioCaseResultV2Data =>
      CaseOutcome (CaseEvaluableV2 c o) (CasePassesV2 c o) c.base o.base r.toScenarioCaseResultData ∧
        r.provider = o.val.provider) (validateWith_eq_ok.mpr
          ⟨check_eq_nil.mpr (decide_eq_true o.sound.refs_nodup), ?_⟩)
      ⟨⟨rfl, rfl, rfl, iff_of_false (by simp [resultOfObservation]) (not_not.mpr hevaluable),
        iff_of_true rfl (hpasses.mp hfail)⟩, rfl⟩
    simp only [List.forall_mem_cons, violation_fst, ScenarioCaseResultV2Data.hasFailureV2,
      ScenarioCaseResultData.hasFailure, resultOfObservation]
    refine ⟨?_, by simp, by simp, by simp, fun h => hexpected h.1 h.2, fun h => h.2.2 (hcompared h.1),
      by simp⟩
    rw [or_assoc]
    simp [hnone]

section

variable (sha256 : List UInt8 → Sha256) (floatRepr : Binary64 → Text)
variable {set : ScenarioSetV2} {observations observations' : List ScenarioObservationV2}
variable {results : List ScenarioCaseResultV2} {completed : List NonEmptyText}

theorem blockedReceiptV2_eq_ok (blocker : PackageReceiptBlocker) (provider : Option ProviderIdentityV2)
    (hcandidate : scorer.val.candidate = set.val.candidate ∨ blocker = scorerCandidateMismatch)
    (hcompleted : completed = [] ∨ completed = completedProbes scorer supplied)
    (hresults : ResultsBound ScenarioCaseResultV2.base set.val results)
    (hprovider : ∀ r ∈ results, provider = some r.val.provider) :
    ∃ r, blockedReceiptV2 sha256 floatRepr set scorer blocker provider results completed = .ok r ∧
      (r.val.status = .blocked ∧ r.val.score = none ∧ r.val.scorer = scorer ∧
        r.val.caseResults = results) := by
  obtain ⟨hnodup, hdeclared, hcanonical⟩ := completedProbes_canonical hcompleted
  rw [blockedReceiptV2]
  refine exists_evaluated (P := fun r : EvaluationReceiptV2Data =>
    r.status = .blocked ∧ r.score = none ∧ r.scorer = scorer ∧ r.caseResults = results)
    (validateWith_eq_ok.mpr ⟨rfl, ?_⟩) ⟨rfl, rfl, rfl, rfl⟩
  rw [if_pos rfl, List.forall_mem_append, List.forall_mem_append]
  refine ⟨⟨bindings_hold hresults rfl rfl ?_, ?_⟩, ?_⟩
  · rcases hcandidate with h | rfl
    · exact Or.inl h
    · exact Or.inr (scorerMismatchBlocked_of rfl rfl)
  · simp only [List.forall_mem_cons, violation_fst, not_not, not_exists, not_and, not_or]
    refine ⟨fun hne hnone => ?_, fun p hp r hr => ?_, ⟨hnodup, hdeclared⟩, hcanonical, by simp⟩
    · obtain ⟨r, hr⟩ := List.exists_mem_of_ne_nil _ hne
      rw [hprovider r hr] at hnone
      cases hnone
    · rw [hprovider r hr] at hp
      exact Option.some.inj hp
  · simp [EvaluationReceiptData.blockedRules, violation]

theorem scoredReceiptV2_eq_ok {provider : ProviderIdentityV2}
    (hscreened : Screened ScenarioCaseV2.base ScenarioObservationV2.base set.val scorer observations
      supplied)
    (hresults : ResultsBound ScenarioCaseResultV2.base set.val results) (hne : results ≠ [])
    (hprovider : ∀ r ∈ results, r.val.provider = provider)
    (hblocked : ∀ r ∈ results, r.base.status ≠ .blocked) :
    ∃ r, scoredReceiptV2 sha256 floatRepr set scorer provider results (completedProbes scorer supplied) =
        .ok r ∧
      (r.val.status ≠ .blocked ∧ r.val.scorer = scorer ∧ r.val.caseResults = results ∧
        Scored (results.countP fun r => r.base.status = .pass) results.length
          r.val.toEvaluationReceiptData) := by
  obtain ⟨hnodup, hdeclared, hcanonical⟩ :=
    completedProbes_canonical (Or.inr (rfl : _ = completedProbes scorer supplied))
  rw [scoredReceiptV2]
  set score := Binary64.trueDiv (results.countP fun r => r.base.status = .pass) results.length with hscore
  set status := if scorer.val.passThreshold.val ≤ score.val then EvaluationStatus.pass else .fail
    with hstatus
  have hstatus' : status ≠ .blocked := by
    rw [hstatus]
    split <;> simp
  refine exists_evaluated (P := fun r : EvaluationReceiptV2Data =>
    r.status ≠ .blocked ∧ r.scorer = scorer ∧ r.caseResults = results ∧
      Scored (results.countP fun r => r.base.status = .pass) results.length r.toEvaluationReceiptData)
    ?_ ?_
  -- the fields, then the bindings, the provider rules and the score rules
  · refine validateWith_eq_ok.mpr ⟨check_eq_nil.mpr ?_, ?_⟩
    · simp only [Option.all_some, Bool.and_eq_true, decide_eq_true_eq]
      exact ⟨Binary64.trueDiv_nonneg _ _, Binary64.trueDiv_le_one List.countP_le_length⟩
    rw [if_neg hstatus', List.forall_mem_append, List.forall_mem_append, List.forall_mem_append]
    refine ⟨⟨bindings_hold hresults rfl rfl (Or.inl hscreened.same_candidate), ?_⟩,
      ?_, ?_⟩
    · simp only [List.forall_mem_cons, violation_fst, not_not, not_exists, not_and, not_or]
      refine ⟨by simp, fun p hp r hr => ?_, ⟨hnodup, hdeclared⟩, hcanonical, by simp⟩
      rw [hprovider r hr]
      exact Option.some.inj hp
    · simp only [List.forall_mem_cons, violation_fst, not_not, not_or, not_and, Bool.not_eq_false]
      exact ⟨⟨by simp, trivial, fun ⟨r, hr, h⟩ => hblocked r hr h⟩,
        ⟨by simp, hne, hscreened.deterministic⟩, hscreened.completedProbes_eq, by simp⟩
    · simp only [EvaluationReceiptData.scoreRules, List.forall_mem_cons, violation_fst, not_not]
      exact ⟨rfl, by simp [EvaluationReceiptData.expectedStatus, hstatus], by simp⟩
  · exact ⟨hstatus', rfl, rfl, scored_of rfl (by simp [EvaluationReceiptData.expectedStatus, hstatus])⟩

theorem dedup_length_eq_one_iff {α : Type*} [DecidableEq α] {l : List α} :
    l.dedup.length = 1 ↔ l ≠ [] ∧ ∀ a ∈ l, ∀ b ∈ l, a = b := by
  constructor
  · intro h
    obtain ⟨a, ha⟩ := List.length_eq_one_iff.mp h
    have hall : ∀ b ∈ l, b = a := fun b hb => by
      rw [← List.mem_dedup, ha] at hb
      exact List.mem_singleton.mp hb
    refine ⟨?_, fun b hb c hc => (hall b hb).trans (hall c hc).symm⟩
    rintro rfl
    simp at ha
  · rintro ⟨hne, hall⟩
    obtain ⟨a, ha⟩ := List.exists_mem_of_ne_nil l hne
    have hperm : l.dedup.Perm [a] := by
      rw [List.perm_ext_iff_of_nodup (List.nodup_dedup l) (List.nodup_singleton a)]
      intro b
      rw [List.mem_dedup, List.mem_singleton]
      exact ⟨fun hb => hall b hb a ha, fun hb => hb ▸ ha⟩
    exact hperm.length_eq

theorem providers_dedup_iff :
    (observations.map fun o => o.val.provider).dedup.length = 1 ↔
      observations ≠ [] ∧ OneProvider observations := by
  simp only [dedup_length_eq_one_iff, ne_eq, List.map_eq_nil_iff, List.forall_mem_map, OneProvider]

/-- **Version 2**: the receipt of every input. -/
theorem evaluateScenarioSetV2_exact (set : ScenarioSetV2) (scorer : ScorerProfile)
    (observations : List ScenarioObservationV2) (supplied : List SuppliedProbe) :
    ∃ r, evaluateScenarioSetV2 sha256 floatRepr set scorer observations supplied = .ok r ∧
      ExactReport CaseEvaluableV2 CasePassesV2 ScenarioCaseV2.base ScenarioObservationV2.base
        ScenarioCaseResultV2.base set.val scorer observations
        (Screened ScenarioCaseV2.base ScenarioObservationV2.base set.val scorer observations supplied ∧
          OneProvider observations)
        (Evaluable ScenarioCaseV2.base ScenarioObservationV2.base CaseEvaluableV2 set.val scorer
          observations supplied ∧ OneProvider observations)
        r.val.toEvaluationReceiptData := by
  rw [evaluateScenarioSetV2]
  rcases hfind : (screening ScenarioCaseV2.base ScenarioObservationV2.base set.val scorer observations
      supplied).find? (·.1) with - | ⟨b, blocker, completed⟩
  · have hscreened := screening_clear_iff.mp hfind
    have hnonempty : observations ≠ [] := by
      rintro rfl
      obtain ⟨c, hc⟩ := List.exists_mem_of_ne_nil _ (ScenarioSetData.cases_ne_nil set)
      obtain ⟨o, ho, -⟩ := (hscreened.covers c.base.caseId).mpr (List.mem_map_of_mem hc)
      simp at ho
    rw [hfind]
    simp only
    -- the observations are screened: the providers and the cases decide
    by_cases hone : OneProvider observations
    · rw [if_neg (not_not.mpr (providers_dedup_iff.mpr ⟨hnonempty, hone⟩))]
      obtain ⟨results, hresults, houtcomes, hfrom⟩ := evaluateCases_eq_ok
        ScenarioCaseResultV2.base
        (fun c o => (evaluateCaseV2_eq_ok c o).imp fun r h => ⟨h.1, h.2.1⟩) hscreened.ids_nodup
        fun c (hc : c ∈ set.val.cases) => (hscreened.covers c.base.caseId).mpr (List.mem_map_of_mem hc)
      have hbound := houtcomes.bound hscreened (ScenarioSetData.caseIds_nodup set)
      have hpossible := houtcomes.evaluable_iff hscreened
      rcases observations with - | ⟨first, rest⟩
      · exact absurd rfl hnonempty
      have hprovider : ∀ r ∈ results, r.val.provider = first.val.provider := fun r hr => by
        obtain ⟨c, o, ho, hrun⟩ := hfrom r hr
        obtain ⟨r', hr', -, hprovider⟩ := evaluateCaseV2_eq_ok c o
        obtain rfl : r' = r := Except.ok.inj (hr'.symm.trans hrun)
        rw [hprovider]
        exact hone o ho first (by simp)
      simp only [hresults]
      show ∃ r, receiptOfResultsV2 sha256 floatRepr set scorer first.val.provider results
        (completedProbes scorer supplied) = .ok r ∧ _
      rw [receiptOfResultsV2]
      -- one blocked case blocks the whole set
      by_cases hblocked : ∃ r ∈ results, r.base.status = .blocked
      · rw [if_pos (List.any_eq_true.mpr (by simpa using hblocked))]
        have hnot : ¬ Evaluable ScenarioCaseV2.base ScenarioObservationV2.base CaseEvaluableV2 set.val
            scorer (first :: rest) supplied := fun h => by
          obtain ⟨r, hr, h'⟩ := hblocked
          exact hpossible.mpr h r hr h'
        obtain ⟨r, hr, hstatus, hscore, hscorer, hcase⟩ := blockedReceiptV2_eq_ok sha256 floatRepr
          scenarioBlocked (some first.val.provider) (Or.inl hscreened.same_candidate)
          (Or.inr (rfl : _ = completedProbes scorer supplied)) hbound fun r hr => congrArg some (hprovider r hr).symm
        exact ⟨r, hr, hscorer, iff_of_true hstatus fun h => hnot h.1, fun _ => hscore,
          fun _ => hcase ▸ houtcomes, fun h => absurd h.1 hnot⟩
      · rw [if_neg (by simpa [List.any_eq_true] using hblocked)]
        have hall : ∀ r ∈ results, r.base.status ≠ .blocked := fun r hr h => hblocked ⟨r, hr, h⟩
        have hne : results ≠ [] := by
          rw [← List.length_pos_iff, houtcomes.length_eq, List.length_pos_iff]
          exact ScenarioSetData.cases_ne_nil set
        obtain ⟨r, hr, hstatus, hscorer, hcase, hscored⟩ := scoredReceiptV2_eq_ok sha256 floatRepr
          hscreened hbound hne hprovider hall
        exact ⟨r, hr, hscorer, iff_of_false hstatus (not_not.mpr ⟨hpossible.mp hall, hone⟩),
          fun h => absurd ⟨hpossible.mp hall, hone⟩ h, fun _ => hcase ▸ houtcomes,
          fun _ => houtcomes.passed_eq hscreened.ids_nodup ▸ houtcomes.length_eq ▸ hscored⟩
    · rw [if_pos fun h => hone (providers_dedup_iff.mp h).2]
      obtain ⟨r, hr, hstatus, hscore, hscorer, -⟩ := blockedReceiptV2_eq_ok sha256 floatRepr
        providerIdentityMismatch none (Or.inl hscreened.same_candidate)
        (Or.inr (rfl : _ = completedProbes scorer supplied)) ResultsBound.nil (by simp)
      exact ⟨r, hr, hscorer, iff_of_true hstatus fun h => hone h.2, fun _ => hscore,
        fun h => absurd h.2 hone, fun h => absurd h.2 hone⟩
  -- the first check that fails names the blocker
  · have hnot : ¬ Screened ScenarioCaseV2.base ScenarioObservationV2.base set.val scorer observations
        supplied := fun h => by
      rw [screening_clear_iff.mpr h] at hfind
      cases hfind
    obtain ⟨hcandidate, hcompleted⟩ := screening_some hfind
    obtain ⟨r, hr, hstatus, hscore, hscorer, -⟩ := blockedReceiptV2_eq_ok sha256 floatRepr
      blocker none hcandidate hcompleted ResultsBound.nil (by simp)
    rw [hfind]
    exact ⟨r, hr, hscorer, iff_of_true hstatus fun h => hnot h.1.toScreened, fun _ => hscore,
      fun h => absurd h.1 hnot, fun h => absurd h.1.toScreened hnot⟩

theorem evaluateScenarioSetV2_perm (h : observations.Perm observations')
    (hs : supplied.Perm supplied') :
    evaluateScenarioSetV2 sha256 floatRepr set scorer observations supplied =
      evaluateScenarioSetV2 sha256 floatRepr set scorer observations' supplied' := by
  rw [evaluateScenarioSetV2, evaluateScenarioSetV2, screening_perm h hs, completedProbes_perm hs]
  rcases hfind : (screening ScenarioCaseV2.base ScenarioObservationV2.base set.val scorer observations'
      supplied').find? (·.1) with - | ⟨b, blocker, completed⟩
  · have hids := (screening_clear_iff.mp (screening_perm h hs ▸ hfind)).ids_nodup
    have hlength := ((h.map fun o : ScenarioObservationV2 => o.val.provider).dedup).length_eq
    simp only [byCaseId_perm h hids, hlength]
    by_cases hone : (observations'.map fun o => o.val.provider).dedup.length = 1
    · obtain ⟨-, hone'⟩ := providers_dedup_iff.mp hone
      rw [if_neg (not_not.mpr hone), if_neg (not_not.mpr hone)]
      rcases observations with - | ⟨first, rest⟩
      · rw [List.nil_perm.mp h]
      rcases observations' with - | ⟨first', rest'⟩
      · exact absurd h.length_eq (by simp)
      have hfirst : first.val.provider = first'.val.provider :=
        hone' first (h.mem_iff.mp (by simp)) first' (by simp)
      simp only [hfirst]
    · rw [if_pos hone, if_pos hone]
  · rw [hfind]

end

/-! ### Both versions -/

/-- **Evaluation is total, exact up to one rounding and independent of order.** -/
theorem scenario_evaluation_exact (sha256 : List UInt8 → Sha256) (floatRepr : Binary64 → Text)
    (scorer : ScorerProfile) (supplied : List SuppliedProbe) :
    (∀ (set : ScenarioSet) (observations : List ScenarioObservation),
      (∃ r, evaluateScenarioSet sha256 floatRepr set scorer observations supplied = .ok r ∧
        ExactReport (fun c o => CaseEvaluable c o.val) (fun c o => CasePasses c o.val) id Subtype.val
          Subtype.val set.val scorer observations
          (Screened id Subtype.val set.val scorer observations supplied)
          (Evaluable id Subtype.val (fun c o => CaseEvaluable c o.val) set.val scorer observations
            supplied)
          r.val) ∧
      ∀ observations' supplied', observations.Perm observations' → supplied.Perm supplied' →
        evaluateScenarioSet sha256 floatRepr set scorer observations supplied =
          evaluateScenarioSet sha256 floatRepr set scorer observations' supplied') ∧
    ∀ (set : ScenarioSetV2) (observations : List ScenarioObservationV2),
      (∃ r, evaluateScenarioSetV2 sha256 floatRepr set scorer observations supplied = .ok r ∧
        ExactReport CaseEvaluableV2 CasePassesV2 ScenarioCaseV2.base ScenarioObservationV2.base
          ScenarioCaseResultV2.base set.val scorer observations
          (Screened ScenarioCaseV2.base ScenarioObservationV2.base set.val scorer observations supplied ∧
            OneProvider observations)
          (Evaluable ScenarioCaseV2.base ScenarioObservationV2.base CaseEvaluableV2 set.val scorer
            observations supplied ∧ OneProvider observations)
          r.val.toEvaluationReceiptData) ∧
      ∀ observations' supplied', observations.Perm observations' → supplied.Perm supplied' →
        evaluateScenarioSetV2 sha256 floatRepr set scorer observations supplied =
          evaluateScenarioSetV2 sha256 floatRepr set scorer observations' supplied' := by
  refine ⟨fun set observations => ⟨?_, fun _ _ h hs => ?_⟩, fun set observations => ⟨?_, fun _ _ h hs => ?_⟩⟩
  · exact evaluateScenarioSet_exact sha256 floatRepr set scorer observations supplied
  · exact evaluateScenarioSet_perm sha256 floatRepr h hs
  · exact evaluateScenarioSetV2_exact sha256 floatRepr set scorer observations supplied
  · exact evaluateScenarioSetV2_perm sha256 floatRepr h hs

/-! Six cases, of which five pass, against the float that is nearest to 5/6. -/

def sampleCandidate : PackageCandidateIdentity :=
  ⟨⟨"scored-skill".toList, by decide +kernel⟩, ⟨List.replicate 40 'd', by decide +kernel⟩,
    ⟨List.replicate 64 '5', by decide +kernel⟩⟩

def sampleIds : List NonEmptyText :=
  [⟨['a'], by decide⟩, ⟨['b'], by decide⟩, ⟨['c'], by decide⟩, ⟨['d'], by decide⟩, ⟨['e'], by decide⟩,
    ⟨['f'], by decide⟩]

/-- A case that expects its own name as a signal. -/
def sampleCase (id : NonEmptyText) : ScenarioCase :=
  ⟨id, .happy, id, ⟨[id], by simp⟩, [], .expectedSignal⟩

def sampleSet : ScenarioSet :=
  ⟨⟨sampleCandidate, ⟨['s'], by decide⟩, false, sampleIds.map sampleCase⟩, by decide +kernel⟩

def sampleScorer : ScorerProfile :=
  ⟨⟨sampleCandidate, ⟨['s'], by decide⟩, .deterministic, ⟨['1'], by decide⟩,
    ⟨7505999378950827 / 9007199254740992, by decide +kernel⟩, true, false, []⟩, by decide +kernel⟩

def sampleObservation (id : NonEmptyText) : ScenarioObservation :=
  ⟨⟨sampleCandidate, ⟨['s'], by decide⟩, id, .completed, if id.val = ['f'] then [] else [id], [], [],
    some sampleCandidate.contentSha256, ⟨['r'], by decide⟩, ⟨['1'], by decide⟩, none⟩, rfl⟩

/-- Five of six cases pass, less than the threshold asks, and the receipt passes:
the score is a float above 5/6. -/
theorem score_is_rounded : ∃ r,
    evaluateScenarioSet hashlibSha256 (fun _ => "0.8333333333333334".toList) sampleSet sampleScorer
      (sampleIds.map sampleObservation) [] = .ok r ∧
    passing (fun c o => CasePasses c o.val) id Subtype.val (sampleIds.map sampleObservation)
      sampleSet.val.cases = 5 ∧ sampleSet.val.cases.length = 6 ∧
    (5 / 6 : ℚ) < sampleScorer.val.passThreshold.val ∧ r.val.status = .pass ∧
    r.val.score.map Subtype.val ≠ some (5 / 6) := by
  obtain ⟨r, hr, hreport⟩ := evaluateScenarioSet_exact hashlibSha256
    (fun _ => "0.8333333333333334".toList) sampleSet sampleScorer (sampleIds.map sampleObservation) []
  have hpassing : passing (fun c o => CasePasses c o.val) id Subtype.val
      (sampleIds.map sampleObservation) sampleSet.val.cases = 5 := by decide +kernel
  have hpossible : Evaluable id Subtype.val (fun c o => CaseEvaluable c o.val) sampleSet.val
      sampleScorer (sampleIds.map sampleObservation) [] := by
    refine ⟨screening_clear_iff.mp (by decide +kernel), ?_⟩
    decide +kernel
  have hscored := hreport.scored hpossible
  rw [hpassing] at hscored
  refine ⟨r, hr, hpassing, rfl, by decide +kernel, ?_, ?_⟩
  · rw [hscored.pass_iff, hreport.scorer_eq]
    decide +kernel
  · rw [hscored.score_eq]
    decide +kernel

end SkillsSdk
