/-
SkillsSdk/MatchedDecisions.lean

The decisions about a matched lane, over exact rationals.

A summary is built exactly when its observations are admitted, and its decision
is then a function of the observations alone (`decides_iff`).  On observations
the symmetries are those of means and spreads: exchanging the variants negates
every delta, reordering changes nothing, and a common gain raises every mean by
the same amount.

A pair is scored one variant at a time, so its values exchange with its variants
(`contractPairValues_exchange`), and its decision reads the difference of the
two scores alone.
-/
import Mathlib.Data.List.Dedup
import SkillsSdk.Models.MatchedComparison

namespace SkillsSdk

open Samples

/-! ### Exact arithmetic -/

theorem meanOf_exact (values : List ℚ) : meanOf .exact values = mean values := by
  show decimalSum .exact values / values.length = values.sum / values.length
  rw [decimalSum, List.sum_eq_foldl]
  rfl

theorem spreadOf_exact (deltas : List ℚ) : spreadOf .exact deltas = spread deltas := rfl

/-! ### Observations -/

namespace CaseObservation

/-- What the summary of a case records. -/
def summary (o : CaseObservation) : MatchedCaseSummaryData where
  caseId := o.caseId
  deltas := o.deltas
  qualifyingConfidence := o.confidence
  meanDelta := mean o.deltas
  deltaRange := spread o.deltas

/-- A case that the summary takes. -/
structure Admitted (o : CaseObservation) : Prop where
  token : isCaseToken o.caseId = true ∧ o.caseId.length ≤ 128
  trials : 1 ≤ o.deltas.length ∧ o.deltas.length ≤ 64
  deltas : ∀ x ∈ o.deltas, -1 ≤ x ∧ x ≤ 1
  confidence : o.deltas.length = o.confidence.length

theorem Admitted.deltas_ne_nil {o : CaseObservation} (h : o.Admitted) : o.deltas ≠ [] :=
  List.length_pos_iff.mp h.trials.1

theorem buildCase_eq_ok_iff {o : CaseObservation} {c : MatchedCaseSummary .exact} :
    buildCase .exact o = .ok c ↔ o.Admitted ∧ c.val = o.summary := by
  simp only [buildCase, raiseValueErrors_bind_eq_ok_iff, validated_eq_ok_iff, construct_eq_ok_iff,
    meanOf_exact, spreadOf_exact]
  constructor
  · rintro ⟨-, hc⟩
    have hvalid := validateWith_eq_ok.mp c.2
    rw [hc] at hvalid
    obtain ⟨hfields, hviolations⟩ := hvalid
    simp only [List.append_eq_nil_iff, check_eq_nil, Bool.and_eq_true, decide_eq_true_eq] at hfields
    simp only [List.forall_mem_cons, violation_fst, ne_eq, not_not] at hviolations
    refine ⟨⟨hfields.1.1.1.1, hfields.1.1.1.2, ?_, hviolations.1⟩, hc⟩
    simpa using hviolations.2.1
  · rintro ⟨h, hc⟩
    refine ⟨?_, hc⟩
    simpa [h.trials] using h.deltas

/-- An admitted case has a summary. -/
theorem Admitted.summary_ok {o : CaseObservation} (h : o.Admitted) :
    o.summary.validate .exact = .ok () := by
  obtain ⟨hmean, hmean'⟩ := mean_bounds h.deltas_ne_nil h.deltas
  have hspread : spread o.deltas ≤ 2 := le_trans (spread_le h.deltas_ne_nil h.deltas) (by norm_num)
  have hspread' := spread_nonneg h.deltas_ne_nil
  have hconfidence := h.confidence ▸ h.trials
  refine validateWith_eq_ok.mpr ⟨?_, ?_⟩
  · simp [summary, h.token, h.trials, hmean, hmean', hspread, hspread', hconfidence]
  · simpa [summary, h.confidence, meanOf_exact, spreadOf_exact] using h.deltas

end CaseObservation

/-- Observations that a lane summary takes. -/
structure AdmittedLane (observations : List CaseObservation) (threshold : ℚ) : Prop where
  threshold_bounds : 0 < threshold ∧ threshold ≤ 1
  ten : observations.length = 10
  cases : ∀ o ∈ observations, o.Admitted
  unique : (observations.map (·.caseId)).Nodup

/-- The case is not stable enough to decide on. -/
def CaseObservation.isUnstable (policy : MatchedSelectionPolicy) (o : CaseObservation) : Bool :=
  decide (o.deltas.length < policy.val.minimumTrialsPerCase) || !o.confidence.all id ||
    decide (policy.val.maximumTrialDeltaRange < spread o.deltas)

/-- The mean of the case means. -/
def laneMean (observations : List CaseObservation) : ℚ := mean (observations.map (mean ·.deltas))

/-- The decision that a lane summary records, of any number of cases. -/
def observedDecision (observations : List CaseObservation) (policy : MatchedSelectionPolicy)
    (threshold : ℚ) : LaneDecision :=
  if observations.any (·.isUnstable policy) then .inconclusive
  else if |laneMean observations| < threshold then .unchanged
  else
    let direction : ℚ := if 0 < laneMean observations then 1 else -1
    let count := observations.countP fun o => decide (threshold ≤ direction * mean o.deltas)
    if count < policy.val.minimumQualifyingCaseCount then .inconclusive
    else if direction = 1 then .candidate
    else .baseline

section

variable {observations : List CaseObservation} {policy : MatchedSelectionPolicy} {threshold : ℚ}

/-- The summaries of observed cases decide what the observations decide. -/
theorem decisionOf_eq {values : List (MatchedCaseSummary .exact)}
    (h : values.map Subtype.val = observations.map CaseObservation.summary) :
    decisionOf values policy threshold (meanOf .exact (values.map (·.val.meanDelta))) =
      observedDecision observations policy threshold := by
  have hmean : values.map (·.val.meanDelta) = observations.map (mean ·.deltas) := by
    rw [show (fun v : MatchedCaseSummary .exact => v.val.meanDelta) =
      MatchedCaseSummaryData.meanDelta ∘ Subtype.val from rfl, ← List.map_map, h, List.map_map]
    rfl
  have hany : values.any (·.isUnstable policy) = observations.any (·.isUnstable policy) := by
    have := congrArg (List.any · fun c => decide (c.deltas.length < policy.val.minimumTrialsPerCase) ||
      !c.qualifyingConfidence.all id || decide (policy.val.maximumTrialDeltaRange < c.deltaRange)) h
    simp only [List.any_map] at this
    exact this
  have hcount : ∀ direction : ℚ,
      values.countP (fun c => decide (threshold ≤ direction * c.val.meanDelta)) =
        observations.countP fun o => decide (threshold ≤ direction * mean o.deltas) := by
    intro direction
    have := congrArg (List.countP fun c => decide (threshold ≤ direction * c.meanDelta)) h
    simp only [List.countP_map] at this
    exact this
  rw [decisionOf, observedDecision, hany, meanOf_exact, hmean, ← laneMean]
  simp only [hcount]

theorem mapM_buildCase_eq_ok_iff {values : List (MatchedCaseSummary .exact)} :
    observations.mapM (buildCase .exact) = .ok values ↔ (∀ o ∈ observations, o.Admitted) ∧
      values.map Subtype.val = observations.map CaseObservation.summary := by
  induction observations generalizing values with
  | nil => rcases values with - | ⟨v, values⟩ <;> simp [pure, Except.pure]
  | cons o observations ih =>
    simp only [List.mapM_cons, bind_eq_ok_iff, CaseObservation.buildCase_eq_ok_iff, ih, pure, Except.pure,
      Except.ok.injEq, List.forall_mem_cons, List.map_cons]
    constructor
    · rintro ⟨v, ⟨ho, hv⟩, values, ⟨hos, hvalues⟩, rfl⟩
      exact ⟨⟨ho, hos⟩, by rw [List.map_cons, hv, hvalues]⟩
    · rintro ⟨⟨ho, hos⟩, h⟩
      rcases values with - | ⟨v, values⟩
      · cases h
      · obtain ⟨hv, hvalues⟩ := List.cons.inj h
        exact ⟨v, ⟨ho, hv⟩, values, ⟨hos, hvalues⟩, rfl⟩

theorem exists_summaries (h : ∀ o ∈ observations, o.Admitted) :
    ∃ values : List (MatchedCaseSummary .exact),
      values.map Subtype.val = observations.map CaseObservation.summary := by
  induction observations with
  | nil => exact ⟨[], rfl⟩
  | cons o observations ih =>
    obtain ⟨values, hvalues⟩ := ih fun o' ho' => h o' (by simp [ho'])
    exact ⟨⟨o.summary, (h o (by simp)).summary_ok⟩ :: values, by rw [List.map_cons, List.map_cons, hvalues]⟩

/-- The summary of the observations is built, and records the decision. -/
def Decides (observations : List CaseObservation) (policy : MatchedSelectionPolicy) (threshold : ℚ)
    (decision : LaneDecision) : Prop :=
  ∃ summary, buildMatchedLaneSummary .exact observations policy threshold = .ok summary ∧
    summary.val.decision = decision

theorem decides_iff {decision : LaneDecision} :
    Decides observations policy threshold decision ↔
      AdmittedLane observations threshold ∧ observedDecision observations policy threshold = decision := by
  have hids : ∀ {values : List (MatchedCaseSummary .exact)},
      values.map Subtype.val = observations.map CaseObservation.summary →
      values.map (·.val.caseId) = observations.map (·.caseId) := by
    intro values h
    have := congrArg (List.map MatchedCaseSummaryData.caseId) h
    rw [List.map_map, List.map_map] at this
    exact this
  -- of ten ids ten are left when none is repeated
  have hnodup : ∀ {l : List Text}, l.length = 10 → (l.dedup.length = 10 ↔ l.Nodup) := by
    intro l hl
    rw [← List.dedup_eq_self]
    exact ⟨fun h => (List.dedup_sublist l).eq_of_length (by rw [h, hl]), fun h => by rw [h, hl]⟩
  simp only [Decides, buildMatchedLaneSummary, raiseValueErrors_bind_eq_ok_iff, List.forall_mem_cons,
    violation_fst, not_not, ne_eq]
  simp only [bind_eq_ok_iff, mapM_buildCase_eq_ok_iff, validated_eq_ok_iff, construct_eq_ok_iff]
  constructor
  · rintro ⟨s, ⟨⟨hthreshold, hten, -⟩, values, ⟨hcases, hvalues⟩, hs⟩, rfl⟩
    have hvalid := validateWith_eq_ok.mp s.2
    rw [hs] at hvalid
    have hunique := (violation_fst.mp (hvalid.2 _ List.mem_cons_self))
    rw [not_not, hids hvalues, hnodup (by rw [List.length_map, hten])] at hunique
    refine ⟨⟨hthreshold, hten, hcases, hunique⟩, ?_⟩
    rw [hs]
    exact (decisionOf_eq hvalues).symm
  · rintro ⟨⟨hthreshold, hten, hcases, hunique⟩, rfl⟩
    obtain ⟨values, hvalues⟩ := exists_summaries hcases
    have hlength : values.length = 10 := by
      rw [← List.length_map Subtype.val, hvalues, List.length_map, hten]
    have hmeans : ∀ x ∈ values.map (·.val.meanDelta), -1 ≤ x ∧ x ≤ 1 := by
      intro x hx
      obtain ⟨v, hv, rfl⟩ := List.mem_map.mp hx
      have hvalid := (validateWith_eq_ok.mp v.2).1
      simp only [List.append_eq_nil_iff, check_eq_nil, Bool.and_eq_true, decide_eq_true_eq] at hvalid
      exact hvalid.1.2
    -- the mean of numbers between -1 and 1 is between them
    have hmean := mean_bounds (l := values.map (·.val.meanDelta))
      (List.ne_nil_of_length_pos (by rw [List.length_map, hlength]; decide)) hmeans
    have hvalid : MatchedLaneSummaryData.validate (A := .exact)
        { policy := policy
          minimumNormalizedDelta := threshold
          cases := values
          meanDelta := meanOf .exact (values.map (·.val.meanDelta))
          decision := decisionOf values policy threshold
            (meanOf .exact (values.map (·.val.meanDelta))) } = .ok () := by
      refine validateWith_eq_ok.mpr ⟨?_, ?_⟩
      · simpa [hthreshold, hlength, meanOf_exact] using hmean
      · simp [hids hvalues, (hnodup (by rw [List.length_map, hten])).mpr hunique]
    exact ⟨⟨_, hvalid⟩, ⟨⟨hthreshold, hten, by simp⟩, values, ⟨hcases, hvalues⟩, rfl⟩,
      decisionOf_eq hvalues⟩

end

/-! ### The transformations -/

namespace LaneDecision

/-- The decision of the exchanged variants. -/
def exchange : LaneDecision → LaneDecision
  | candidate => baseline
  | baseline => candidate
  | d => d

@[simp] theorem exchange_exchange (d : LaneDecision) : d.exchange.exchange = d := by
  cases d <;> rfl

end LaneDecision

namespace CaseObservation

/-- The observation of the exchanged variants. -/
def negate (o : CaseObservation) : CaseObservation := { o with deltas := o.deltas.map Neg.neg }

/-- The observation with one amount added to every delta. -/
def shift (c : ℚ) (o : CaseObservation) : CaseObservation := { o with deltas := o.deltas.map (· + c) }

/-- The same trials in another order, each with its own confidence. -/
structure Reordered (o o' : CaseObservation) : Prop where
  caseId : o'.caseId = o.caseId
  trials : ∃ trials trials' : List (ℚ × Bool), trials.Perm trials' ∧
    o.deltas = trials.map Prod.fst ∧ o.confidence = trials.map Prod.snd ∧
    o'.deltas = trials'.map Prod.fst ∧ o'.confidence = trials'.map Prod.snd

theorem negate_negate (o : CaseObservation) : o.negate.negate = o := by
  simp [negate]

theorem Admitted.negate {o : CaseObservation} (h : o.Admitted) : o.negate.Admitted where
  token := h.token
  trials := by simpa [CaseObservation.negate] using h.trials
  deltas x hx := by
    obtain ⟨y, hy, rfl⟩ := List.mem_map.mp hx
    obtain ⟨hlow, hhigh⟩ := h.deltas y hy
    exact ⟨neg_le_neg hhigh, by linarith⟩
  confidence := by simpa [CaseObservation.negate] using h.confidence

theorem Admitted.shift {o : CaseObservation} (h : o.Admitted) {c : ℚ}
    (hc : ∀ x ∈ o.deltas, -1 ≤ x + c ∧ x + c ≤ 1) : (o.shift c).Admitted where
  token := h.token
  trials := by simpa [CaseObservation.shift] using h.trials
  deltas x hx := by
    obtain ⟨y, hy, rfl⟩ := List.mem_map.mp hx
    exact hc y hy
  confidence := by simpa [CaseObservation.shift] using h.confidence

namespace Reordered

variable {o o' : CaseObservation}

theorem symm (h : o.Reordered o') : o'.Reordered o := by
  obtain ⟨hid, ts, ts', hperm, h₁, h₂, h₃, h₄⟩ := h
  exact ⟨hid.symm, ts', ts, hperm.symm, h₃, h₄, h₁, h₂⟩

theorem deltas_perm (h : o.Reordered o') : o.deltas.Perm o'.deltas := by
  obtain ⟨-, ts, ts', hperm, h₁, -, h₃, -⟩ := h
  rw [h₁, h₃]
  exact hperm.map _

theorem confidence_perm (h : o.Reordered o') : o.confidence.Perm o'.confidence := by
  obtain ⟨-, ts, ts', hperm, -, h₂, -, h₄⟩ := h
  rw [h₂, h₄]
  exact hperm.map _

theorem admitted (h : o.Reordered o') (ho : o.Admitted) : o'.Admitted where
  token := by
    rw [h.caseId]
    exact ho.token
  trials := by
    rw [← h.deltas_perm.length_eq]
    exact ho.trials
  deltas x hx := ho.deltas x (h.deltas_perm.mem_iff.mpr hx)
  confidence := by
    rw [← h.deltas_perm.length_eq, ← h.confidence_perm.length_eq]
    exact ho.confidence

theorem isUnstable_eq (h : o.Reordered o') (policy : MatchedSelectionPolicy) :
    o.isUnstable policy = o'.isUnstable policy := by
  have hall : o.confidence.all id = o'.confidence.all id := by
    rw [Bool.eq_iff_iff, List.all_eq_true, List.all_eq_true]
    exact ⟨fun hc b hb => hc b (h.confidence_perm.mem_iff.mpr hb),
      fun hc b hb => hc b (h.confidence_perm.mem_iff.mp hb)⟩
  rw [isUnstable, isUnstable, h.deltas_perm.length_eq, hall, spread_perm h.deltas_perm]

end Reordered

theorem isUnstable_negate {o : CaseObservation} (h : o.Admitted) (policy : MatchedSelectionPolicy) :
    o.negate.isUnstable policy = o.isUnstable policy := by
  rw [isUnstable, isUnstable, negate, List.length_map, spread_neg h.deltas_ne_nil]

theorem isUnstable_shift {o : CaseObservation} (h : o.Admitted) (c : ℚ)
    (policy : MatchedSelectionPolicy) : (o.shift c).isUnstable policy = o.isUnstable policy := by
  rw [isUnstable, isUnstable, shift, List.length_map, spread_shift h.deltas_ne_nil]

end CaseObservation

section

variable {observations observations' : List CaseObservation} {policy : MatchedSelectionPolicy}
  {threshold : ℚ}

/-- A decision depends on the instability and the mean of each case, up to order. -/
theorem observedDecision_congr
    (hunstable : (observations.map (·.isUnstable policy)).Perm (observations'.map (·.isUnstable policy)))
    (hmeans : (observations.map (mean ·.deltas)).Perm (observations'.map (mean ·.deltas))) :
    observedDecision observations policy threshold = observedDecision observations' policy threshold := by
  have hany : observations.any (·.isUnstable policy) = observations'.any (·.isUnstable policy) := by
    have : (observations.map (·.isUnstable policy)).any id = (observations'.map (·.isUnstable policy)).any id := by
      rw [Bool.eq_iff_iff, List.any_eq_true, List.any_eq_true]
      simp only [hunstable.mem_iff]
    rwa [List.any_map, List.any_map] at this
  have hcount : ∀ p : ℚ → Bool, observations.countP (fun o => p (mean o.deltas)) =
      observations'.countP fun o => p (mean o.deltas) := by
    intro p
    have := hmeans.countP_eq p
    rwa [List.countP_map, List.countP_map] at this
  have hmean : laneMean observations = laneMean observations' := mean_perm hmeans
  rw [observedDecision, observedDecision, hany, hmean]
  dsimp only
  rw [hcount fun x => decide (threshold ≤ (if 0 < laneMean observations' then 1 else -1) * x)]

theorem AdmittedLane.perm (h : AdmittedLane observations threshold)
    (hperm : observations.Perm observations') : AdmittedLane observations' threshold where
  threshold_bounds := h.threshold_bounds
  ten := by rw [← hperm.length_eq, h.ten]
  cases o ho := h.cases o (hperm.mem_iff.mpr ho)
  unique := (hperm.map _).nodup_iff.mp h.unique

theorem AdmittedLane.reordered (h : AdmittedLane observations threshold)
    (hre : List.Forall₂ CaseObservation.Reordered observations observations') :
    AdmittedLane observations' threshold where
  threshold_bounds := h.threshold_bounds
  ten := by rw [← hre.length_eq, h.ten]
  cases o' ho' := by
    obtain ⟨i, hi, rfl⟩ := List.getElem_of_mem ho'
    have hi' : i < observations.length := by rwa [hre.length_eq]
    exact (hre.get hi' hi).admitted (h.cases _ (List.getElem_mem hi'))
  unique := by
    have hids : observations.map (·.caseId) = observations'.map (·.caseId) := by
      clear h
      induction hre with
      | nil => rfl
      | cons hoo' _ ih => rw [List.map_cons, List.map_cons, hoo'.caseId, ih]
    rw [← hids]
    exact h.unique

/-- A lane keeps its ids and its number of cases when only deltas change. -/
theorem AdmittedLane.map (h : AdmittedLane observations threshold) {f : CaseObservation → CaseObservation}
    (hid : ∀ o, (f o).caseId = o.caseId) (hf : ∀ o ∈ observations, (f o).Admitted) :
    AdmittedLane (observations.map f) threshold where
  threshold_bounds := h.threshold_bounds
  ten := by rw [List.length_map, h.ten]
  cases o' ho' := by
    obtain ⟨o, ho, rfl⟩ := List.mem_map.mp ho'
    exact hf o ho
  unique := by
    rw [List.map_map, Function.comp_def]
    simp only [hid]
    exact h.unique

theorem laneMean_negate : laneMean (observations.map CaseObservation.negate) = -laneMean observations := by
  rw [laneMean, laneMean, List.map_map, ← mean_neg, List.map_map]
  congr 1
  refine List.map_congr_left fun o _ => ?_
  exact mean_neg o.deltas

/-- Exchanging the variants exchanges the decision. -/
theorem observedDecision_negate (h : AdmittedLane observations threshold) :
    observedDecision (observations.map CaseObservation.negate) policy threshold =
      (observedDecision observations policy threshold).exchange := by
  have hany : (observations.map CaseObservation.negate).any (·.isUnstable policy) =
      observations.any (·.isUnstable policy) := by
    rw [List.any_map, Bool.eq_iff_iff, List.any_eq_true, List.any_eq_true]
    refine exists_congr fun o => and_congr_right fun ho => ?_
    rw [Function.comp_apply, CaseObservation.isUnstable_negate (h.cases o ho)]
  have hcount : ∀ direction : ℚ,
      (observations.map CaseObservation.negate).countP
        (fun o => decide (threshold ≤ -direction * mean o.deltas)) =
      observations.countP fun o => decide (threshold ≤ direction * mean o.deltas) := by
    intro direction
    rw [List.countP_map]
    refine List.countP_congr fun o _ => ?_
    rw [Function.comp_apply, CaseObservation.negate, mean_neg, neg_mul_neg]
  rw [observedDecision, observedDecision, hany, laneMean_negate, abs_neg]
  by_cases hunstable : observations.any (·.isUnstable policy) = true
  · rw [if_pos hunstable, if_pos hunstable]
    rfl
  rw [if_neg hunstable, if_neg hunstable]
  by_cases hsmall : |laneMean observations| < threshold
  · rw [if_pos hsmall, if_pos hsmall]
    rfl
  rw [if_neg hsmall, if_neg hsmall]
  -- the mean is not zero, so the two directions are opposite
  have hne : laneMean observations ≠ 0 := by
    intro hzero
    rw [hzero, abs_zero] at hsmall
    exact hsmall h.threshold_bounds.1
  rcases lt_or_gt_of_ne hne with hneg | hpos
  · have hcount' := hcount (-1)
    rw [neg_neg] at hcount'
    simp only [if_pos (neg_pos.mpr hneg), if_neg (not_lt.mpr hneg.le), hcount']
    split_ifs <;> first | rfl | (exfalso; linarith)
  · have hcount' := hcount 1
    simp only [if_neg (not_lt.mpr (neg_nonpos.mpr hpos.le)), if_pos hpos, hcount']
    split_ifs <;> first | rfl | (exfalso; linarith)

theorem laneMean_shift (h : AdmittedLane observations threshold) (c : ℚ) :
    laneMean (observations.map (CaseObservation.shift c)) = laneMean observations + c := by
  have hne : observations.map (mean ·.deltas) ≠ [] := by
    refine List.ne_nil_of_length_pos ?_
    rw [List.length_map, h.ten]
    decide
  rw [laneMean, laneMean, List.map_map, ← mean_shift hne, List.map_map]
  congr 1
  refine List.map_congr_left fun o ho => ?_
  exact mean_shift (h.cases o ho).deltas_ne_nil c

/-- A candidate decision says that the mean and enough case means reach the threshold. -/
theorem observedDecision_eq_candidate_iff (hthreshold : 0 < threshold) :
    observedDecision observations policy threshold = .candidate ↔
      observations.any (·.isUnstable policy) = false ∧ threshold ≤ laneMean observations ∧
        policy.val.minimumQualifyingCaseCount ≤
          observations.countP fun o => decide (threshold ≤ mean o.deltas) := by
  rw [observedDecision]
  by_cases hunstable : observations.any (·.isUnstable policy) = true
  · rw [if_pos hunstable]
    simp [hunstable]
  rw [if_neg hunstable]
  by_cases hsmall : |laneMean observations| < threshold
  · rw [if_pos hsmall]
    refine iff_of_false (by simp) fun h => ?_
    exact absurd (lt_of_le_of_lt (le_abs_self _) hsmall) (not_lt.mpr h.2.1)
  rw [if_neg hsmall]
  -- only a positive mean can prefer the candidate
  by_cases hpos : 0 < laneMean observations
  · rw [abs_of_pos hpos] at hsmall
    simp only [if_pos hpos, one_mul]
    by_cases hcount : (observations.countP fun o => decide (threshold ≤ mean o.deltas)) <
        policy.val.minimumQualifyingCaseCount
    · rw [if_pos hcount]
      refine iff_of_false (by simp) fun h => ?_
      exact absurd h.2.2 (not_le.mpr hcount)
    · rw [if_neg hcount]
      exact iff_of_true rfl ⟨by simpa using hunstable, not_lt.mp hsmall, not_lt.mp hcount⟩
  · simp only [if_neg hpos]
    refine iff_of_false ?_ fun h => hpos (lt_of_lt_of_le hthreshold h.2.1)
    split_ifs with h₁ h₂
    · simp
    · norm_num at h₂
    · simp

/-- A common gain keeps a candidate decision. -/
theorem observedDecision_shift (h : AdmittedLane observations threshold) {c : ℚ} (hc : 0 ≤ c)
    (hcandidate : observedDecision observations policy threshold = .candidate) :
    observedDecision (observations.map (CaseObservation.shift c)) policy threshold = .candidate := by
  obtain ⟨hstable, hmean, hcount⟩ :=
    (observedDecision_eq_candidate_iff h.threshold_bounds.1).mp hcandidate
  refine (observedDecision_eq_candidate_iff h.threshold_bounds.1).mpr ⟨?_, ?_, le_trans hcount ?_⟩
  · rw [List.any_map, List.any_eq_false]
    intro o ho
    rw [Function.comp_apply, CaseObservation.isUnstable_shift (h.cases o ho)]
    exact List.any_eq_false.mp hstable o ho
  · rw [laneMean_shift h]
    linarith
  · rw [List.countP_map]
    refine List.countP_mono_left fun o ho hle => ?_
    rw [decide_eq_true_eq] at hle
    rw [Function.comp_apply, decide_eq_true_eq, CaseObservation.shift,
      mean_shift (h.cases o ho).deltas_ne_nil]
    linarith

/-- The cases in another order, and the trials of each case in another order. -/
def PermutedLane (observations observations' : List CaseObservation) : Prop :=
  ∃ reordered, observations.Perm reordered ∧
    List.Forall₂ CaseObservation.Reordered reordered observations'

theorem PermutedLane.admitted (h : PermutedLane observations observations')
    (hadmitted : AdmittedLane observations threshold) : AdmittedLane observations' threshold := by
  obtain ⟨reordered, hperm, hre⟩ := h
  exact (hadmitted.perm hperm).reordered hre

theorem PermutedLane.symm (h : PermutedLane observations observations') :
    PermutedLane observations' observations := by
  obtain ⟨reordered, hperm, hre⟩ := h
  have hback : List.Forall₂ CaseObservation.Reordered observations' reordered :=
    hre.flip.imp fun _ _ h => h.symm
  obtain ⟨reordered', hre', hperm'⟩ := List.perm_comp_forall₂ hperm hback.flip
  exact ⟨reordered', hperm'.symm, hre'.flip⟩

/-- Reordered trials leave each case as stable, and its mean, as they were. -/
theorem map_eq_of_reordered (hre : List.Forall₂ CaseObservation.Reordered observations observations')
    (policy : MatchedSelectionPolicy) :
    observations.map (·.isUnstable policy) = observations'.map (·.isUnstable policy) ∧
      observations.map (mean ·.deltas) = observations'.map (mean ·.deltas) := by
  induction hre with
  | nil => exact ⟨rfl, rfl⟩
  | cons hoo' _ ih =>
    obtain ⟨hunstable, hmeans⟩ := ih
    refine ⟨?_, ?_⟩
    · rw [List.map_cons, List.map_cons, hoo'.isUnstable_eq, hunstable]
    · rw [List.map_cons, List.map_cons, mean_perm hoo'.deltas_perm, hmeans]

theorem observedDecision_permuted (h : PermutedLane observations observations') :
    observedDecision observations policy threshold = observedDecision observations' policy threshold := by
  obtain ⟨reordered, hperm, hre⟩ := h
  obtain ⟨hunstable, hmeans⟩ := map_eq_of_reordered hre policy
  rw [observedDecision_congr (hperm.map _) (hperm.map _)]
  apply observedDecision_congr
  · rw [hunstable]
  · rw [hmeans]

/-! ### Lane summaries under the transformations -/

theorem decides_negate_iff {decision : LaneDecision} :
    Decides (observations.map CaseObservation.negate) policy threshold decision.exchange ↔
      Decides observations policy threshold decision := by
  have hback : (observations.map CaseObservation.negate).map CaseObservation.negate = observations := by
    rw [List.map_map, show CaseObservation.negate ∘ CaseObservation.negate = id from
      funext CaseObservation.negate_negate, List.map_id]
  have hadmitted : ∀ {l : List CaseObservation}, AdmittedLane l threshold →
      AdmittedLane (l.map CaseObservation.negate) threshold :=
    fun h => h.map (fun _ => rfl) fun o ho => (h.cases o ho).negate
  rw [decides_iff, decides_iff]
  constructor
  · rintro ⟨h, hdecision⟩
    have h' := hadmitted h
    rw [hback] at h'
    rw [observedDecision_negate h'] at hdecision
    refine ⟨h', ?_⟩
    rw [← LaneDecision.exchange_exchange (observedDecision observations policy threshold), hdecision,
      LaneDecision.exchange_exchange]
  · rintro ⟨h, rfl⟩
    exact ⟨hadmitted h, observedDecision_negate h⟩

theorem decides_permuted_iff (h : PermutedLane observations observations') {decision : LaneDecision} :
    Decides observations policy threshold decision ↔ Decides observations' policy threshold decision := by
  rw [decides_iff, decides_iff, observedDecision_permuted h]
  exact and_congr_left fun _ => ⟨h.admitted, h.symm.admitted⟩

theorem decides_shift {c : ℚ} (hc : 0 ≤ c)
    (hbounds : ∀ o ∈ observations, ∀ x ∈ o.deltas, -1 ≤ x + c ∧ x + c ≤ 1)
    (h : Decides observations policy threshold .candidate) :
    Decides (observations.map (CaseObservation.shift c)) policy threshold .candidate := by
  obtain ⟨hadmitted, hdecision⟩ := decides_iff.mp h
  refine decides_iff.mpr ⟨?_, observedDecision_shift hadmitted hc hdecision⟩
  exact hadmitted.map (fun _ => rfl) fun o ho => (hadmitted.cases o ho).shift (hbounds o ho)

end

/-! ### Pairs -/

namespace PairDecision

/-- The decision of the exchanged judgments. -/
def exchange : PairDecision → PairDecision
  | baseline => candidate
  | candidate => baseline
  | inconclusive => inconclusive

end PairDecision

/-- The values of the exchanged judgments. -/
def PairValues.exchange (v : PairValues) : PairValues :=
  ⟨v.candidateScore, v.baselineScore, v.decision.exchange⟩

section

variable {A : DecimalArithmetic} {rubric : MatchedComparisonRubric A} {left right : VariantContract}
  {baseline candidate judgment : MatchedVariantJudgment}

/-- The score of a judgment does not depend on what the judgment is bound to. -/
theorem variantScore_eq_ok {contract : VariantContract} {score : ℚ}
    (h : variantScore rubric contract judgment = .ok score) :
    score = matchedWeightedScore A judgment rubric := by
  obtain ⟨-, -, hscore⟩ := bind_eq_ok_iff.mp h
  exact (Except.ok.inj hscore).symm

theorem contractPairValues_eq_ok_iff {v : PairValues} :
    contractPairValues rubric left right baseline candidate = .ok v ↔
      (∃ score, variantScore rubric left baseline = .ok score) ∧
      (∃ score, variantScore rubric right candidate = .ok score) ∧
      v = ⟨A.toFloat (matchedWeightedScore A baseline rubric),
        A.toFloat (matchedWeightedScore A candidate rubric),
        pairDecision rubric (matchedWeightedScore A baseline rubric)
          (matchedWeightedScore A candidate rubric) baseline.val.confidence candidate.val.confidence⟩ := by
  simp only [contractPairValues, bind_eq_ok_iff, pure, Except.pure, Except.ok.injEq]
  constructor
  · rintro ⟨left, hleft, right, hright, rfl⟩
    rw [← variantScore_eq_ok hleft, ← variantScore_eq_ok hright]
    exact ⟨⟨left, hleft⟩, ⟨right, hright⟩, rfl⟩
  · rintro ⟨⟨left, hleft⟩, ⟨right, hright⟩, rfl⟩
    refine ⟨left, hleft, right, hright, ?_⟩
    rw [variantScore_eq_ok hleft, variantScore_eq_ok hright]

end

section

variable {rubric : MatchedComparisonRubric .exact} {left right : VariantContract}
  {baseline candidate : MatchedVariantJudgment}

theorem pairDecision_exchange (x y : ℚ) (cx cy : Confidence) :
    pairDecision rubric y x cy cx = (pairDecision rubric x y cx cy).exchange := by
  rw [pairDecision, pairDecision, min_comm]
  by_cases hconfidence : min cx.rank cy.rank < rubric.val.minimumConfidence.rank
  · rw [if_pos hconfidence, if_pos hconfidence]
    rfl
  rw [if_neg hconfidence, if_neg hconfidence]
  show (if |x - y| < _ ∨ x - y = 0 then _ else if 0 < x - y then _ else _) =
    PairDecision.exchange (if |y - x| < _ ∨ y - x = 0 then _ else if 0 < y - x then _ else _)
  have hcloses : (|x - y| < rubric.val.minimumNormalizedDelta ∨ x - y = 0) ↔
      (|y - x| < rubric.val.minimumNormalizedDelta ∨ y - x = 0) := by
    rw [abs_sub_comm x y, sub_eq_zero, sub_eq_zero, eq_comm]
  by_cases hclose : |y - x| < rubric.val.minimumNormalizedDelta ∨ y - x = 0
  · rw [if_pos (hcloses.mpr hclose), if_pos hclose]
    rfl
  rw [if_neg (hcloses.not.mpr hclose), if_neg hclose]
  -- the scores differ, so exactly one of the two differences is positive
  obtain ⟨-, hne⟩ := not_or.mp hclose
  rcases lt_or_gt_of_ne hne with hneg | hpos
  · rw [if_pos (by linarith : 0 < x - y), if_neg (not_lt.mpr hneg.le)]
    rfl
  · rw [if_neg (not_lt.mpr (by linarith : x - y ≤ 0)), if_pos hpos]
    rfl

/-- Exchanging the judgments together with what they are bound to exchanges the values. -/
theorem contractPairValues_exchange {v : PairValues} :
    contractPairValues rubric right left candidate baseline = .ok v.exchange ↔
      contractPairValues rubric left right baseline candidate = .ok v := by
  rw [contractPairValues_eq_ok_iff, contractPairValues_eq_ok_iff, pairDecision_exchange]
  obtain ⟨x, y, d⟩ := v
  have hd : ∀ d' : PairDecision, d.exchange = d'.exchange ↔ d = d' := by
    intro d'
    cases d <;> cases d' <;> simp [PairDecision.exchange]
  simp only [PairValues.exchange, PairValues.mk.injEq, hd]
  tauto

/-- A pair is decided for the candidate when confidence allows and its lead reaches the threshold. -/
theorem pairDecision_eq_candidate_iff {x y : ℚ} {cx cy : Confidence} :
    pairDecision rubric x y cx cy = .candidate ↔
      rubric.val.minimumConfidence.rank ≤ min cx.rank cy.rank ∧ 0 < y - x ∧
        rubric.val.minimumNormalizedDelta ≤ y - x := by
  rw [pairDecision]
  show (if _ then _ else if |y - x| < _ ∨ y - x = 0 then _ else if 0 < y - x then _ else _) = _ ↔ _
  by_cases hconfidence : min cx.rank cy.rank < rubric.val.minimumConfidence.rank
  · rw [if_pos hconfidence]
    exact iff_of_false (by simp) fun h => absurd hconfidence (not_lt.mpr h.1)
  rw [if_neg hconfidence]
  by_cases hpos : 0 < y - x
  · rw [abs_of_pos hpos]
    by_cases hclose : y - x < rubric.val.minimumNormalizedDelta
    · rw [if_pos (Or.inl hclose)]
      exact iff_of_false (by simp) fun h => absurd hclose (not_lt.mpr h.2.2)
    · rw [if_neg (not_or.mpr ⟨hclose, hpos.ne'⟩), if_pos hpos]
      exact iff_of_true rfl ⟨not_lt.mp hconfidence, hpos, not_lt.mp hclose⟩
  · refine iff_of_false ?_ fun h => hpos h.2.1
    rw [if_neg hpos]
    split_ifs <;> simp

end

section

variable {I : Interpreter} {plan : MatchedComparisonPlan I} {lane : MatchedLane}
  {baseline candidate : MatchedVariantJudgment} {v v' : PairValues}

theorem matchedPairValues_eq_ok_iff :
    matchedPairValues plan lane baseline candidate = .ok v ↔
      ∃ contracts, variantContracts plan lane baseline.val.evidence.val.caseId
        candidate.val.evidence.val.caseId = .ok contracts ∧
      contractPairValues plan.val.rubric contracts.1 contracts.2 baseline candidate = .ok v :=
  bind_eq_ok_iff

end

/-- The same plan compares the exchanged judgments, when it takes them, with exchanged values. -/
theorem matchedPairValues_exchange {sha256 : List UInt8 → Sha256} {casefold : Text → Text}
    {plan : MatchedComparisonPlan ⟨sha256, .exact, casefold⟩} {lane : MatchedLane}
    {baseline candidate : MatchedVariantJudgment} {v v' : PairValues}
    (h : matchedPairValues plan lane baseline candidate = .ok v)
    (h' : matchedPairValues plan lane candidate baseline = .ok v') : v' = v.exchange := by
  obtain ⟨contracts, -, hv⟩ := matchedPairValues_eq_ok_iff.mp h
  obtain ⟨contracts', -, hv'⟩ := matchedPairValues_eq_ok_iff.mp h'
  obtain ⟨-, -, rfl⟩ := contractPairValues_eq_ok_iff.mp hv
  obtain ⟨-, -, rfl⟩ := contractPairValues_eq_ok_iff.mp hv'
  rw [PairValues.exchange, ← pairDecision_exchange]

/-- A pair decided for the candidate shows its lead. -/
theorem matchedPairValues_candidate {sha256 : List UInt8 → Sha256} {casefold : Text → Text}
    {plan : MatchedComparisonPlan ⟨sha256, .exact, casefold⟩} {lane : MatchedLane}
    {baseline candidate : MatchedVariantJudgment} {v : PairValues}
    (h : matchedPairValues plan lane baseline candidate = .ok v) (hdecision : v.decision = .candidate) :
    v.baselineScore + plan.val.rubric.val.minimumNormalizedDelta ≤ v.candidateScore := by
  obtain ⟨contracts, -, hv⟩ := matchedPairValues_eq_ok_iff.mp h
  obtain ⟨-, -, rfl⟩ := contractPairValues_eq_ok_iff.mp hv
  obtain ⟨-, -, hlead⟩ := pairDecision_eq_candidate_iff.mp hdecision
  show matchedWeightedScore .exact baseline plan.val.rubric + plan.val.rubric.val.minimumNormalizedDelta ≤
    matchedWeightedScore .exact candidate plan.val.rubric
  linarith

/-- **Symmetry and monotonicity of the decisions**, over exact rationals.  On a
lane, negating every delta exchanges the decision, reordering cases and trials
keeps it, and a common gain never takes a candidate decision away.  On a pair,
exchanging the judgments exchanges the values, and a decision for the candidate
shows a lead of at least the threshold. -/
theorem matched_decisions_symmetric :
    (∀ (observations : List CaseObservation) (policy : MatchedSelectionPolicy) (threshold : ℚ),
      (∀ decision, Decides (observations.map CaseObservation.negate) policy threshold decision.exchange ↔
        Decides observations policy threshold decision) ∧
      (∀ observations' decision, PermutedLane observations observations' →
        (Decides observations policy threshold decision ↔
          Decides observations' policy threshold decision)) ∧
      (∀ c, 0 ≤ c → (∀ o ∈ observations, ∀ x ∈ o.deltas, -1 ≤ x + c ∧ x + c ≤ 1) →
        Decides observations policy threshold .candidate →
        Decides (observations.map (CaseObservation.shift c)) policy threshold .candidate)) ∧
    (∀ (rubric : MatchedComparisonRubric .exact) (left right : VariantContract)
        (baseline candidate : MatchedVariantJudgment) (v : PairValues),
      contractPairValues rubric right left candidate baseline = .ok v.exchange ↔
        contractPairValues rubric left right baseline candidate = .ok v) ∧
    (∀ (sha256 : List UInt8 → Sha256) (casefold : Text → Text)
        (plan : MatchedComparisonPlan ⟨sha256, .exact, casefold⟩) (lane : MatchedLane)
        (baseline candidate : MatchedVariantJudgment) (v : PairValues),
      matchedPairValues plan lane baseline candidate = .ok v →
        (∀ v', matchedPairValues plan lane candidate baseline = .ok v' → v' = v.exchange) ∧
        (v.decision = .candidate →
          v.baselineScore + plan.val.rubric.val.minimumNormalizedDelta ≤ v.candidateScore)) := by
  refine ⟨fun observations policy threshold => ⟨fun decision => decides_negate_iff,
    fun observations' decision h => decides_permuted_iff h, fun c hc hbounds h => decides_shift hc hbounds h⟩,
    fun rubric left right baseline candidate v => contractPairValues_exchange, ?_⟩
  intro sha256 casefold plan lane baseline candidate v h
  exact ⟨fun v' h' => matchedPairValues_exchange h h', matchedPairValues_candidate h⟩

end SkillsSdk
