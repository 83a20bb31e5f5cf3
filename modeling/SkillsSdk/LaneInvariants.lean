/-
SkillsSdk/LaneInvariants.lean

What holds at every receipt of a matched lane.

The budget keeps its own books (`RuntimeBudget.Sound`): every refusal it
remembers is one its counts and its clock still show.  The loop keeps the plan
(`LaneRun.Pending`): the pairs kept and the rounds to come are always the
planned ones.  Each stage fixes how many callbacks of the present round are
counted (`VariantStage.counts`), and a receipt reads all three.
-/
import SkillsSdk.LaneRuns

namespace SkillsSdk

open Runs

variable {I : Interpreter} {H : MatchedHost I}

/-! ### Budgets -/

namespace RuntimeBudget

variable {b b' : RuntimeBudget} {kind : LaneCall}

/-- The budget shows why it refused a callback. -/
def Shows (b : RuntimeBudget) : LaneBlockerCode → Prop
  | .timeExhausted => b.isLate
  | .providerExhausted => b.providerInvocations = b.limits.val.maximumProviderInvocations
  | .judgeExhausted => b.judgeInvocations = b.limits.val.maximumJudgeInvocations
  | _ => False

/-- The books of a budget with the given limits. -/
structure Sound (limits : MatchedRunBudget) (b : RuntimeBudget) : Prop where
  limits : b.limits = limits
  elapsed : 0 ≤ b.elapsed
  within : ∀ kind, b.invocations kind ≤ b.allowance kind
  refusal : ∀ code, b.blockerCode = some code → b.Shows code

/-- A later budget: no count is taken back. -/
structure Later (b b' : RuntimeBudget) : Prop where
  provider : b.providerInvocations ≤ b'.providerInvocations
  judge : b.judgeInvocations ≤ b'.judgeInvocations

theorem Later.refl (b : RuntimeBudget) : Later b b := ⟨le_refl _, le_refl _⟩

theorem Later.trans {b'' : RuntimeBudget} (h : Later b b') (h' : Later b' b'') : Later b b'' :=
  ⟨h.provider.trans h'.provider, h.judge.trans h'.judge⟩

variable {limits : MatchedRunBudget}

theorem Sound.block (h : Sound limits b) {code : LaneBlockerCode} (hcode : b.Shows code) :
    Sound limits (b.block code) := by
  refine ⟨h.limits, h.elapsed, h.within, fun code' hcode' => ?_⟩
  have hshows : b.Shows code' := by
    rcases hb : b.blockerCode with - | first
    · rw [RuntimeBudget.block, hb] at hcode'
      obtain rfl : code = code' := Option.some.inj hcode'
      exact hcode
    · rw [RuntimeBudget.block, hb] at hcode'
      obtain rfl : first = code' := Option.some.inj hcode'
      exact h.refusal _ hb
  cases code' <;> exact hshows

/-- Time passes. -/
theorem Sound.tick (h : Sound limits b) {elapsed : ℚ} (hle : b.elapsed ≤ elapsed) :
    Sound limits { b with elapsed } := by
  refine ⟨h.limits, h.elapsed.trans hle, h.within, fun code hcode => ?_⟩
  have hshows := h.refusal code hcode
  cases code with
  | timeExhausted => exact le_trans hshows hle
  | _ => exact hshows

theorem Sound.count (h : Sound limits b) (hroom : b.invocations kind < b.allowance kind) :
    Sound limits (b.count kind) := by
  have hwithin := h.within
  refine ⟨by cases kind <;> exact h.limits, by cases kind <;> exact h.elapsed, fun other => ?_,
    fun code hcode => ?_⟩
  · cases kind <;> cases other
    · exact hroom
    · exact hwithin .judge
    · exact hwithin .provider
    · exact hroom
  · have hshows := h.refusal code (by cases kind <;> exact hcode)
    cases kind <;> cases code <;> first | exact hshows | exact absurd hshows (ne_of_lt hroom)

/-- What a callback does to the budget. -/
theorem begin_cases (h : Sound limits b) (kind : LaneCall) :
    (∃ b', b.begin kind = .ok b' ∧ b' = b.count kind ∧ Sound limits b') ∨
    ∃ b', b.begin kind = .error b' ∧ Sound limits b' ∧ b'.providerInvocations = b.providerInvocations ∧
      b'.judgeInvocations = b.judgeInvocations := by
  unfold begin
  by_cases hlate : b.isLate
  · rw [if_pos hlate]
    exact Or.inr ⟨_, rfl, h.block hlate, rfl, rfl⟩
  · rw [if_neg hlate]
    by_cases hroom : b.allowance kind ≤ b.invocations kind
    · rw [if_pos hroom]
      refine Or.inr ⟨_, rfl, h.block ?_, rfl, rfl⟩
      have := le_antisymm (h.within kind) hroom
      cases kind <;> exact this
    · rw [if_neg hroom]
      exact Or.inl ⟨_, rfl, rfl, h.count (not_le.mp hroom)⟩

/-- What the end of a callback does to the budget. -/
theorem finish_cases (h : Sound limits b) : b.finish = .ok () ∧ ¬ b.isLate ∨
    ∃ b', b.finish = .error b' ∧ Sound limits b' ∧ b'.providerInvocations = b.providerInvocations ∧
      b'.judgeInvocations = b.judgeInvocations := by
  unfold finish
  by_cases hlate : b.isLate
  · rw [if_pos hlate]
    exact Or.inr ⟨_, rfl, h.block hlate, rfl, rfl⟩
  · rw [if_neg hlate]
    exact Or.inl ⟨rfl, hlate⟩

theorem refused_eq_some (h : Sound limits b) (hb : b.refused = some b') : Sound limits b' ∧
    b'.providerInvocations = b.providerInvocations ∧ b'.judgeInvocations = b.judgeInvocations := by
  unfold refused at hb
  rcases finish_cases h with ⟨hok, -⟩ | ⟨b'', herror, hsound, hcounts⟩
  · rw [hok] at hb
    cases hb
  · rw [herror] at hb
    obtain rfl : b'' = b' := Option.some.inj hb
    exact ⟨hsound, hcounts⟩

end RuntimeBudget

/-! ### Places -/

/-- A pair of a receipt, by what the plan fixes of it. -/
abbrev PairPlace := Text × Nat × Sha256 × Sha256

def MatchedExecutedPair.place (p : MatchedExecutedPair) : PairPlace :=
  (p.caseId, p.trialIndex, p.baselineInputSha256, p.candidateInputSha256)

/-- The place of a planned pair. -/
def plannedPlace (p : MatchedCaseBinding × Nat) : PairPlace :=
  (p.1.val.caseId.val, p.2, p.1.val.baselineInputSha256, p.1.val.candidateInputSha256)

/-- The place of a round of the loop. -/
def roundPlace (r : MatchedCaseExecution × Nat) : PairPlace :=
  (r.1.baseline.request.val.caseId.val, r.2, r.1.baseline.request.val.inputSha256,
    r.1.candidate.request.val.inputSha256)

namespace LaneContext

variable (ctx : LaneContext H)

/-- The planned places, in order. -/
def places : List PairPlace := (ctx.plan.planned ctx.specification).map plannedPlace

/-- The context is that of an admitted lane. -/
def Admitted : Prop :=
  ∃ calibrations : List (Option H.Bundle), ctx.calibrations = calibrations.reduceOption ∧
    LaneAdmitted ctx.plan ctx.lane ctx.specification calibrations ctx.executions

variable {ctx}

/-- An execution that binds a case takes its place. -/
theorem roundPlace_eq {e : MatchedCaseExecution} {c : PlannedCase} (h : e.Binds ctx.specification c)
    (hc : c ∈ ctx.plan.plannedCases) (trial : Nat) :
    roundPlace (e, trial) = plannedPlace (c.binding, trial) := by
  have hid := h.caseId hc .baseline
  obtain ⟨⟨-, -, -, -, -, -, -, hbaseline⟩, -⟩ := h .baseline
  obtain ⟨⟨-, -, -, -, -, -, -, hcandidate⟩, -⟩ := h .candidate
  exact Prod.ext hid (Prod.ext rfl (Prod.ext hbaseline hcandidate))

theorem map_eq_of_zip {α β γ : Type*} {f : α → γ} {g : β → γ} : ∀ {as : List α} {bs : List β},
    as.length = bs.length → (∀ p ∈ as.zip bs, f p.1 = g p.2) → as.map f = bs.map g
  | [], [], _, _ => rfl
  | a :: as, b :: bs, hlength, h => by
    rw [List.zip_cons_cons, List.forall_mem_cons] at h
    rw [List.map_cons, List.map_cons, h.1, map_eq_of_zip (by simpa using hlength) h.2]

/-- The rounds of an admitted lane are the planned pairs. -/
theorem Admitted.places_eq (h : ctx.Admitted) : ctx.rounds.map roundPlace = ctx.places := by
  obtain ⟨calibrations, -, hadmitted⟩ := h
  obtain ⟨hbindings, hbaseline, hcandidate⟩ := ctx.plan.ten_rows
  have hlength : ctx.executions.length = ctx.plan.plannedCases.length := by
    rw [hadmitted.ten, MatchedComparisonPlan.plannedCases]
    simp [hbindings, hbaseline, hcandidate]
  have hrows : ctx.executions.map (fun e => (List.range ctx.specification.trialCount).map fun trial =>
        roundPlace (e, trial)) =
      ctx.plan.plannedCases.map fun c => (List.range ctx.specification.trialCount).map fun trial =>
        plannedPlace (c.binding, trial) := by
    apply map_eq_of_zip hlength
    intro p hp
    have hbinds := hadmitted.bound p hp
    exact List.map_congr_left fun trial _ => roundPlace_eq hbinds (List.of_mem_zip hp).2 trial
  rw [rounds, places, MatchedComparisonPlan.planned, ← ctx.plan.plannedCases_binding]
  simp only [List.flatMap_def, List.map_flatten, List.map_map, Function.comp_def] at hrows ⊢
  rw [hrows]

end LaneContext

/-! ### Receipts -/

namespace LaneBlockerCode

/-- The values are different texts. -/
theorem value_eq_iff {code code' : LaneBlockerCode} : code.value.toList = code'.value.toList ↔ code = code' := by
  constructor
  · intro h
    cases code <;> cases code' <;> first | rfl | exact absurd h (toList_ofList_ne (by decide))
  · rintro rfl
    rfl

/-- The codes of a lane that has started. -/
def isRuntime : LaneBlockerCode → Bool
  | incomplete | sourceChanged | safetyChanged | timeExhausted | providerExhausted | judgeExhausted => true
  | _ => false

theorem value_mem_map_iff {code : LaneBlockerCode} {codes : List LaneBlockerCode} :
    code.value.toList ∈ codes.map (·.value.toList) ↔ code ∈ codes := by
  constructor
  · intro h
    obtain ⟨code', hmem, hvalue⟩ := List.mem_map.mp h
    exact value_eq_iff.mp hvalue ▸ hmem
  · exact fun h => List.mem_map_of_mem h

theorem inputBlockerCodes_eq : inputBlockerCodes =
    [invalidExecution, costUnavailable, runInsufficient, safetyEvidenceRequired, safetyRejected].map
      (·.value.toList) :=
  rfl

theorem executionBlockerCodes_eq : executionBlockerCodes =
    [incomplete, sourceChanged, safetyChanged, timeExhausted, providerExhausted, judgeExhausted].map
      (·.value.toList) :=
  rfl

theorem mem_executionBlockerCodes {code : LaneBlockerCode} (h : code.isRuntime = true) :
    code.value.toList ∉ inputBlockerCodes ∧ code.value.toList ∈ executionBlockerCodes := by
  rw [inputBlockerCodes_eq, executionBlockerCodes_eq, value_mem_map_iff, value_mem_map_iff]
  revert h
  cases code <;> decide

theorem mem_inputBlockerCodes {code : LaneBlockerCode} (h : code.isRuntime = false) :
    code.value.toList ∈ inputBlockerCodes := by
  rw [inputBlockerCodes_eq, value_mem_map_iff]
  revert h
  cases code <;> decide

end LaneBlockerCode

/-- The blocker of a lane that was not admitted. -/
theorem blockerRules_input {r : MatchedExecutionReceiptData H} (code : LaneBlockerCode)
    (hstatus : r.status = .blocked) (hcode : r.code = some code.value.toList) (h : code.isRuntime = false) :
    r.blockerRules =
      [violation (r.pairs ≠ [] ∨ r.calibrations ≠ [] ∨ r.providerInvocationCount ≠ 0)
          "input blocker cannot retain completed matched observations",
        violation (r.elapsedSeconds ≠ 0) "input blocker cannot claim callback elapsed time"] := by
  unfold MatchedExecutionReceiptData.blockerRules
  rw [hstatus, hcode]
  exact if_pos (LaneBlockerCode.mem_inputBlockerCodes h)

/-- The blocker of a lane that has started. -/
theorem blockerRules_execution {r : MatchedExecutionReceiptData H} {code : LaneBlockerCode}
    (hstatus : r.status = .blocked) (hcode : r.code = some code.value.toList) (h : code.isRuntime = true) :
    r.blockerRules =
      [violation (r.calibrations.length ≠ 2 ∨
          (r.binding?.all fun b => decide (r.pairs.length = (b.1.planned b.2.2).length)) = true)
        "execution blocker requires an unfinished bound batch"] := by
  have hcodes := LaneBlockerCode.mem_executionBlockerCodes h
  unfold MatchedExecutionReceiptData.blockerRules
  rw [hstatus, hcode]
  exact (if_neg hcodes.1).trans (if_pos hcodes.2)

/-- What a receipt of a run says. -/
structure LaneLaws (ctx : LaneContext H) (r : MatchedExecutionReceiptData H) : Prop where
  bound : r.plan = some ctx.plan ∧ r.lane = some ctx.lane
  /-- The pairs are the first of the planned ones, in their order. -/
  ordered : r.pairs.map MatchedExecutedPair.place <+: ctx.places
  judged : 2 * r.pairs.length ≤ r.judgeInvocationCount
  provided : r.judgeInvocationCount ≤ r.providerInvocationCount
  unfinished : r.providerInvocationCount ≤ 2 * r.pairs.length + 2
  preceded : r.providerInvocationCount = 2 * r.pairs.length + 2 → 2 * r.pairs.length + 1 ≤ r.judgeInvocationCount
  within : r.providerInvocationCount ≤ ctx.specification.val.budget.val.maximumProviderInvocations ∧
    r.judgeInvocationCount ≤ ctx.specification.val.budget.val.maximumJudgeInvocations
  completed_iff : r.status = .completed ↔ r.pairs.length = ctx.places.length ∧
    r.providerInvocationCount = 2 * ctx.places.length ∧ r.judgeInvocationCount = 2 * ctx.places.length ∧
    r.elapsedSeconds < ctx.specification.val.budget.val.maximumElapsedSeconds
  /-- The counts, the budgets and the blocker pass the rules of the receipt model. -/
  permitted : ∀ v ∈ r.countRules ++ r.budgetRules ctx.specification ++ r.blockerRules, v.1 = false

namespace LaneRun

variable {ctx : LaneContext H} {s t : LaneRun H}

/-- How the counts stand to the retained pairs. -/
structure Tallied (s : LaneRun H) : Prop where
  judged : 2 * s.pairs.length ≤ s.budget.judgeInvocations
  provided : s.budget.judgeInvocations ≤ s.budget.providerInvocations
  unfinished : s.budget.providerInvocations ≤ 2 * s.pairs.length + 2
  preceded : s.budget.providerInvocations = 2 * s.pairs.length + 2 → 2 * s.pairs.length + 1 ≤ s.budget.judgeInvocations

/-- The code of a blocked receipt is one that the run has evidence of. -/
def Permits (s : LaneRun H) (code : LaneBlockerCode) : Prop :=
  s.budget.Shows code ∨ code = .incomplete ∨ code = .sourceChanged ∨ code = .safetyChanged

theorem places_length (ctx : LaneContext H) :
    ctx.places.length = (ctx.plan.planned ctx.specification).length := List.length_map _

theorem Permits.isRuntime {code : LaneBlockerCode} (h : s.Permits code) : code.isRuntime = true := by
  rcases h with h | rfl | rfl | rfl
  · cases code <;> first | rfl | cases h
  · rfl
  · rfl
  · rfl

theorem Permits.shows {code : LaneBlockerCode} (h : s.Permits code) : ∀ code' ∈
    [LaneBlockerCode.timeExhausted, .providerExhausted, .judgeExhausted], code = code' → s.budget.Shows code' := by
  rintro code' hcode' rfl
  rcases h with h | rfl | rfl | rfl
  · exact h
  · exact absurd hcode' (by decide)
  · exact absurd hcode' (by decide)
  · exact absurd hcode' (by decide)

/-- The budget rules of a blocked receipt. -/
theorem blocked_budgetRules {calibrations : List (Option H.Bundle)}
    (hlane : LaneAdmitted ctx.plan ctx.lane ctx.specification calibrations ctx.executions)
    (hbudget : s.budget.Sound ctx.specification.val.budget) {pairs : List MatchedExecutedPair}
    {code : LaneBlockerCode} (hcode : s.Permits code) :
    ∀ v ∈ (s.receipt ctx pairs (some code)).budgetRules ctx.specification, v.1 = false := by
  have hruntime := hcode.isRuntime
  have hshows := hcode.shows
  have hlimits := hbudget.limits
  have hprovider := hbudget.within .provider
  have hjudge := hbudget.within .judge
  simp only [List.forall_mem_cons, RuntimeBudget.Shows, RuntimeBudget.isLate, RuntimeBudget.invocations,
    RuntimeBudget.allowance, hlimits] at hshows hprovider hjudge
  obtain ⟨htime, hproviders, hjudges, -⟩ := hshows
  -- a lane that runs was admitted, so it is not blocked for what admits it
  have hcost : ¬ code.value.toList = "matched_cost_budget_unavailable".toList := fun h => by
    have hcode : code = .costUnavailable := LaneBlockerCode.value_eq_iff.mp h
    rw [hcode] at hruntime
    cases hruntime
  have hrun : ¬ code.value.toList = "matched_run_budget_insufficient".toList := fun h => by
    have hcode : code = .runInsufficient := LaneBlockerCode.value_eq_iff.mp h
    rw [hcode] at hruntime
    cases hruntime
  unfold MatchedExecutionReceiptData.budgetRules
  have hreceipt : (s.receipt ctx pairs (some code)).code = some code.value.toList := rfl
  simp only [hreceipt, List.forall_mem_cons, violation_fst, Option.some.injEq, hcost, hrun, false_and,
    not_false_eq_true, hlane.unpriced, ne_eq, not_true_eq_false, true_and, List.not_mem_nil, false_implies,
    implies_true, and_true, not_and, not_or, not_lt, not_not]
  refine ⟨⟨hprovider, hjudge⟩, fun h => htime (LaneBlockerCode.value_eq_iff.mp h), ?_,
    fun h => hproviders (LaneBlockerCode.value_eq_iff.mp h), fun h => hjudges (LaneBlockerCode.value_eq_iff.mp h)⟩
  exact fun h => absurd h (by simp [receipt, laneReceipt])

/-- A blocked receipt of an unfinished lane obeys the laws. -/
theorem blocked_laws (hadmitted : ctx.Admitted) (hbudget : s.budget.Sound ctx.specification.val.budget)
    (htally : s.Tallied) (hordered : s.pairs.map MatchedExecutedPair.place <+: ctx.places)
    (hopen : s.pairs.length < ctx.places.length) {code : LaneBlockerCode} (hcode : s.Permits code) :
    LaneLaws ctx (s.receipt ctx s.pairs (some code)) := by
  obtain ⟨calibrations, hcalibrations, hlane⟩ := hadmitted
  have htwo : ctx.calibrations.length = 2 := hlane.two_bundles hcalibrations
  have hlimits := hbudget.limits
  have hprovider := hbudget.within .provider
  have hjudge := hbudget.within .judge
  simp only [RuntimeBudget.invocations, RuntimeBudget.allowance, hlimits] at hprovider hjudge
  refine ⟨⟨rfl, rfl⟩, hordered, htally.judged, htally.provided, htally.unfinished, htally.preceded,
    ⟨hprovider, hjudge⟩, ?_, ?_⟩
  · refine iff_of_false (by simp [receipt, laneReceipt]) fun h => ?_
    exact absurd h.1 (ne_of_lt hopen)
  · refine List.forall_mem_append.mpr ⟨List.forall_mem_append.mpr ⟨?_, blocked_budgetRules hlane hbudget hcode⟩, ?_⟩
    · simp only [MatchedExecutionReceiptData.countRules, List.forall_mem_cons, violation_fst]
      refine ⟨not_not.mpr ⟨htally.judged, htally.provided⟩, not_lt.mpr htally.unfinished, fun h => ?_, by simp⟩
      exact absurd (htally.preceded h.1) (not_le.mpr h.2)
    · have hbinding : (s.receipt ctx s.pairs (some code)).binding? =
          some (ctx.plan, ctx.lane, ctx.specification) := by
        simp [MatchedExecutionReceiptData.binding?, receipt, laneReceipt, hlane.specified]
      rw [blockerRules_execution rfl rfl hcode.isRuntime, hbinding]
      rw [places_length] at hopen
      simpa [receipt, laneReceipt, htwo] using ne_of_lt hopen

/-- The completed receipt obeys the laws. -/
theorem completed_laws (hadmitted : ctx.Admitted) (hbudget : s.budget.Sound ctx.specification.val.budget)
    {pairs : List MatchedExecutedPair} (hplaces : pairs.map MatchedExecutedPair.place = ctx.places)
    (hprovider : s.budget.providerInvocations = 2 * pairs.length)
    (hjudge : s.budget.judgeInvocations = 2 * pairs.length) (hintime : ¬ s.budget.isLate) :
    LaneLaws ctx (s.receipt ctx pairs none) := by
  obtain ⟨calibrations, hcalibrations, hlane⟩ := hadmitted
  have htwo : ctx.calibrations.length = 2 := hlane.two_bundles hcalibrations
  have hlimits := hbudget.limits
  have hprovider' := hbudget.within .provider
  have hjudge' := hbudget.within .judge
  simp only [RuntimeBudget.invocations, RuntimeBudget.allowance, hlimits] at hprovider' hjudge'
  simp only [RuntimeBudget.isLate, hlimits, not_le] at hintime
  have hlength : pairs.length = ctx.places.length := by rw [← hplaces, List.length_map]
  refine ⟨⟨rfl, rfl⟩, hplaces ▸ List.prefix_refl _, hjudge.ge, ?_, ?_, ?_, ⟨hprovider', hjudge'⟩, ?_, ?_⟩
  · show s.budget.judgeInvocations ≤ s.budget.providerInvocations
    omega
  · show s.budget.providerInvocations ≤ 2 * pairs.length + 2
    omega
  · show s.budget.providerInvocations = 2 * pairs.length + 2 → 2 * pairs.length + 1 ≤ s.budget.judgeInvocations
    omega
  · exact iff_of_true rfl ⟨hlength, hlength ▸ hprovider, hlength ▸ hjudge, hintime⟩
  · refine List.forall_mem_append.mpr ⟨List.forall_mem_append.mpr ⟨?_, ?_⟩, ?_⟩
    · simp only [MatchedExecutionReceiptData.countRules, List.forall_mem_cons, violation_fst]
      refine ⟨not_not.mpr ⟨hjudge.ge, ?_⟩, ?_, ?_, by simp⟩
      · exact (hjudge.trans hprovider.symm).le
      · exact not_lt.mpr (hprovider.trans_le (Nat.le_add_right _ _))
      · rintro ⟨h, -⟩
        have hover : s.budget.providerInvocations = 2 * pairs.length + 2 := h
        omega
    · have hcode : (s.receipt ctx pairs none).code = none := rfl
      unfold MatchedExecutionReceiptData.budgetRules
      simp only [hcode, List.forall_mem_cons, violation_fst, reduceCtorEq, false_and, not_false_eq_true,
        hlane.unpriced, ne_eq, not_true_eq_false, true_and, List.not_mem_nil, false_implies, implies_true,
        and_true, not_or, not_lt, not_and, not_le]
      exact ⟨⟨hprovider', hjudge'⟩, fun _ => hintime⟩
    · show ∀ v ∈ ([violation (_ ∨ ctx.calibrations.length ≠ 2) _] : List (Bool × String)), v.1 = false
      simp [htwo, receipt, laneReceipt]

end LaneRun

/-! ### The invariant -/

/-- The callbacks that are counted at a point of a variant. -/
def CaseProgress.counts : CaseProgress → Nat × Nat
  | preparing => (0, 0)
  | providing => (1, 0)
  | provided => (1, 0)
  | judging => (1, 1)
  | judged _ => (1, 1)

def VariantStage.counts : VariantStage → Nat × Nat
  | opening => (0, 0)
  | running _ progress => progress.counts

theorem CaseProgress.counts_le (progress : CaseProgress) :
    progress.counts.2 ≤ progress.counts.1 ∧ progress.counts.1 ≤ 1 := by
  cases progress <;> simp [CaseProgress.counts]

theorem VariantStage.counts_le (stage : VariantStage) :
    stage.counts.2 ≤ stage.counts.1 ∧ stage.counts.1 ≤ 1 := by
  cases stage with
  | opening => decide
  | running request progress => exact CaseProgress.counts_le progress

/-- The callbacks of the present round. -/
def LanePhase.counts : LanePhase H → Nat × Nat
  | observing none stage => stage.counts
  | observing (some _) stage => (stage.counts.1 + 1, stage.counts.2 + 1)
  | _ => (2, 2)

/-- The variant that is observed next. -/
def nextVariant (baseline : Option MatchedObservation) : MatchedVariant :=
  if baseline.isNone then .baseline else .candidate

namespace LaneRun

variable (ctx : LaneContext H) (s : LaneRun H)

/-- The pairs kept and the rounds to come are the plan. -/
structure Pending : Prop where
  rounds : s.remaining ≠ []
  places : s.pairs.map MatchedExecutedPair.place ++ s.remaining.map roundPlace = ctx.places

/-- The request is for the present case, in the given variant. -/
def Requests (variant : MatchedVariant) (request : ProviderExecutionRequest) : Prop :=
  ∀ r ∈ s.remaining.head?, request.val.caseId = (r.1.item variant).request.val.caseId ∧
    request.val.inputSha256 = (r.1.item variant).request.val.inputSha256

/-- The counts are those of the retained pairs and of the present round. -/
structure Counted (counts : Nat × Nat) : Prop where
  provider : s.budget.providerInvocations = 2 * s.pairs.length + counts.1
  judge : s.budget.judgeInvocations = 2 * s.pairs.length + counts.2

/-- What the observed variants and the present one are requested for. -/
def Requested : LanePhase H → Prop
  | .observing baseline stage =>
    (∀ o ∈ baseline, s.Requests .baseline o.request) ∧
      (∀ request progress, stage = .running request progress → s.Requests (nextVariant baseline) request)
  | .pairing baseline candidate =>
    s.Requests .baseline baseline.request ∧ s.Requests .candidate candidate.request
  | _ => True

/-- Where the run is in the loop. -/
def Settled : Prop :=
  match s.phase with
  | .observing baseline stage =>
    s.Pending ctx ∧ s.Counted (LanePhase.observing (H := H) baseline stage).counts ∧ s.Requested s.phase
  | .pairing _ _ => s.Pending ctx ∧ s.Counted (2, 2) ∧ s.Requested s.phase
  | .declined => s.Pending ctx ∧ s.Tallied
  | .reported receipt => LaneLaws ctx receipt
  | .raised => True

structure Inv : Prop where
  budget : s.budget.Sound ctx.specification.val.budget
  provided : s.budget.providerInvocations = s.calls.count .provider
  judged : s.budget.judgeInvocations = s.calls.count .judge
  guardCode : ∀ code, s.guardCode = some code → code = .sourceChanged ∨ code = .safetyChanged
  settled : s.Settled ctx

variable {ctx s} {t : LaneRun H}

theorem Counted.tallied {counts : Nat × Nat} (h : s.Counted counts) (hle : counts.2 ≤ counts.1)
    (htwo : counts.1 ≤ 2) (hone : counts.1 = 2 → 1 ≤ counts.2) : s.Tallied := by
  have hprovider := h.provider
  have hjudge := h.judge
  refine ⟨by omega, by omega, by omega, fun htop => ?_⟩
  have := hone (by omega)
  omega

/-- Counts at any point of a round are those that a receipt allows. -/
theorem Counted.tallied_of_observing {baseline : Option MatchedObservation} {stage : VariantStage}
    (h : s.Counted (LanePhase.observing (H := H) baseline stage).counts) : s.Tallied := by
  obtain ⟨hle, hone⟩ := VariantStage.counts_le stage
  cases baseline with
  | none =>
    have hcounts : (LanePhase.observing (H := H) none stage).counts = stage.counts := rfl
    rw [hcounts] at h
    exact h.tallied hle (by omega) (by omega)
  | some observation =>
    have hcounts : (LanePhase.observing (H := H) (some observation) stage).counts =
      (stage.counts.1 + 1, stage.counts.2 + 1) := rfl
    rw [hcounts] at h
    exact h.tallied (by dsimp only; omega) (by dsimp only; omega) (by dsimp only; omega)

/-- Before the receipt the loop keeps the plan and its counts. -/
theorem Inv.open (h : s.Inv ctx) (hphase : (∃ baseline stage, s.phase = .observing baseline stage) ∨
    (∃ baseline candidate, s.phase = .pairing baseline candidate) ∨ s.phase = .declined) :
    s.Pending ctx ∧ s.Tallied := by
  have hsettled := h.settled
  unfold Settled at hsettled
  rcases hphase with ⟨baseline, stage, hphase⟩ | ⟨baseline, candidate, hphase⟩ | hphase
  · rw [hphase] at hsettled
    exact ⟨hsettled.1, hsettled.2.1.tallied_of_observing⟩
  · rw [hphase] at hsettled
    exact ⟨hsettled.1, hsettled.2.1.tallied (by decide) (by decide) (by decide)⟩
  · rw [hphase] at hsettled
    exact hsettled

/-- A step that touches neither the plan nor the counts keeps the tally. -/
theorem Tallied.congr (h : s.Tallied) (hpairs : t.pairs = s.pairs)
    (hprovider : t.budget.providerInvocations = s.budget.providerInvocations)
    (hjudge : t.budget.judgeInvocations = s.budget.judgeInvocations) : t.Tallied := by
  refine ⟨?_, ?_, ?_, ?_⟩
  · rw [hpairs, hjudge]
    exact h.judged
  · rw [hprovider, hjudge]
    exact h.provided
  · rw [hpairs, hprovider]
    exact h.unfinished
  · rw [hpairs, hprovider, hjudge]
    exact h.preceded

theorem Pending.congr (h : s.Pending ctx) (hpairs : t.pairs = s.pairs) (hremaining : t.remaining = s.remaining) :
    t.Pending ctx := by
  refine ⟨?_, ?_⟩
  · rw [hremaining]
    exact h.rounds
  · rw [hpairs, hremaining]
    exact h.places

theorem Counted.congr {counts : Nat × Nat} (h : s.Counted counts) (hpairs : t.pairs = s.pairs)
    (hprovider : t.budget.providerInvocations = s.budget.providerInvocations)
    (hjudge : t.budget.judgeInvocations = s.budget.judgeInvocations) : t.Counted counts := by
  refine ⟨?_, ?_⟩
  · rw [hpairs, hprovider]
    exact h.provider
  · rw [hpairs, hjudge]
    exact h.judge

theorem Requested.congr {phase : LanePhase H} (h : s.Requested phase) (hremaining : t.remaining = s.remaining) :
    t.Requested phase := by
  unfold Requested Requests at *
  rw [hremaining]
  exact h

/-- What the loop owns is as it was: the rounds, the pairs, the counts and the calls. -/
structure Keeps (s t : LaneRun H) : Prop where
  remaining : t.remaining = s.remaining
  pairs : t.pairs = s.pairs
  provider : t.budget.providerInvocations = s.budget.providerInvocations
  judge : t.budget.judgeInvocations = s.budget.judgeInvocations
  calls : t.calls = s.calls

theorem Keeps.later (h : Keeps s t) : s.budget.Later t.budget := ⟨h.provider.ge, h.judge.ge⟩

/-- A step that keeps the loop preserves the invariant when it settles its phase. -/
theorem Inv.of_keeps (h : s.Inv ctx) (hkeeps : Keeps s t)
    (hbudget : t.budget.Sound ctx.specification.val.budget)
    (hguard : ∀ code, t.guardCode = some code → code = .sourceChanged ∨ code = .safetyChanged)
    (hsettled : t.Settled ctx) : t.Inv ctx ∧ s.budget.Later t.budget := by
  refine ⟨⟨hbudget, ?_, ?_, hguard, hsettled⟩, hkeeps.later⟩
  · rw [hkeeps.provider, hkeeps.calls]
    exact h.provided
  · rw [hkeeps.judge, hkeeps.calls]
    exact h.judged

/-- The phase stays too. -/
theorem Settled.congr (h : s.Settled ctx) (hkeeps : Keeps s t) (hphase : t.phase = s.phase) : t.Settled ctx := by
  unfold Settled at *
  rw [hphase]
  split at h
  · exact ⟨h.1.congr hkeeps.pairs hkeeps.remaining, h.2.1.congr hkeeps.pairs hkeeps.provider hkeeps.judge,
      hphase ▸ h.2.2.congr hkeeps.remaining⟩
  · exact ⟨h.1.congr hkeeps.pairs hkeeps.remaining, h.2.1.congr hkeeps.pairs hkeeps.provider hkeeps.judge,
      hphase ▸ h.2.2.congr hkeeps.remaining⟩
  · exact ⟨h.1.congr hkeeps.pairs hkeeps.remaining, h.2.congr hkeeps.pairs hkeeps.provider hkeeps.judge⟩
  · exact h
  · trivial

/-- The run declines. -/
theorem Settled.declined (hopen : s.Pending ctx ∧ s.Tallied) (hkeeps : Keeps s t) (hphase : t.phase = .declined) :
    t.Settled ctx := by
  unfold Settled
  rw [hphase]
  exact ⟨hopen.1.congr hkeeps.pairs hkeeps.remaining, hopen.2.congr hkeeps.pairs hkeeps.provider hkeeps.judge⟩

theorem failGuard_guardCode (hguard : ∀ code, s.guardCode = some code → code = .sourceChanged ∨ code = .safetyChanged)
    (failure : GuardFailure) :
    ∀ code, (s.failGuard failure).guardCode = some code → code = .sourceChanged ∨ code = .safetyChanged := by
  intro code hcode
  rcases hg : s.guardCode with - | first
  · rw [failGuard, hg] at hcode
    obtain rfl : failure.code = code := Option.some.inj hcode
    cases failure with
    | sourceChanged => exact Or.inl rfl
    | safetyChanged => exact Or.inr rfl
  · rw [failGuard, hg] at hcode
    obtain rfl : first = code := Option.some.inj hcode
    exact hguard _ hg

/-! ### Steps -/

/-- A variant that is still to be opened has requested nothing. -/
theorem requested_opening {baseline : Option MatchedObservation}
    (h : ∀ o ∈ baseline, s.Requests .baseline o.request) : s.Requested (.observing baseline .opening) :=
  ⟨h, fun _ _ hstage => VariantStage.noConfusion hstage⟩

theorem requested_start : s.Requested (.observing none .opening) := requested_opening fun _ ho => nomatch ho

/-- A new guard has no code. -/
theorem newGuard {p : LaneBlockerCode → Prop} : ∀ code, (none : Option LaneBlockerCode) = some code → p code :=
  fun _ h => nomatch h

/-- The counts after a callback are those of its stage. -/
theorem counts_calling (baseline : Option MatchedObservation) (request : ProviderExecutionRequest) :
    (LanePhase.observing (H := H) baseline (.running request (.calling .provider))).counts =
        ((LanePhase.observing (H := H) baseline (.running request .preparing)).counts.1 + 1,
          (LanePhase.observing (H := H) baseline (.running request .preparing)).counts.2) ∧
      (LanePhase.observing (H := H) baseline (.running request (.calling .judge))).counts =
        ((LanePhase.observing (H := H) baseline (.running request .provided)).counts.1,
          (LanePhase.observing (H := H) baseline (.running request .provided)).counts.2 + 1) := by
  cases baseline <;> exact ⟨rfl, rfl⟩

theorem inv_openVariant (h : s.Inv ctx) {baseline : Option MatchedObservation}
    (hphase : s.phase = .observing baseline .opening) {e : MatchedCaseExecution} {trial : Nat}
    {rest : List (MatchedCaseExecution × Nat)} (hremaining : s.remaining = (e, trial) :: rest) :
    (s.openVariant ctx baseline e trial).Inv ctx ∧
      s.budget.Later (s.openVariant ctx baseline e trial).budget := by
  have hsettled := h.settled
  unfold Settled at hsettled
  rw [hphase] at hsettled
  obtain ⟨hpending, hcounted, hbaseline, -⟩ := hsettled
  unfold openVariant
  dsimp only
  split
  · exact h.of_keeps ⟨rfl, rfl, rfl, rfl, rfl⟩ h.budget h.guardCode trivial
  · rename_i request hrequest
    refine h.of_keeps ⟨rfl, rfl, rfl, rfl, rfl⟩ h.budget newGuard ⟨hpending.congr rfl rfl, ?_, ?_, ?_⟩
    · cases baseline <;> exact hcounted.congr rfl rfl rfl
    · exact hbaseline
    · rintro _ _ hstage
      obtain ⟨rfl, -⟩ := VariantStage.running.inj hstage
      -- a request of a trial differs from the supplied one in its identity only
      have hdata : request.val.caseId = (e.item (nextVariant baseline)).request.val.caseId ∧
          request.val.inputSha256 = (e.item (nextVariant baseline)).request.val.inputSha256 := by
        unfold trialRequest at hrequest
        split at hrequest
        · cases hrequest
        · have hval := construct_eq_ok_iff.mp hrequest
          rw [hval]
          exact ⟨rfl, rfl⟩
      intro r hr
      rw [show ({ s with guardCode := none, phase := .observing baseline (.running request .preparing) } :
        LaneRun H).remaining = s.remaining from rfl, hremaining] at hr
      obtain rfl : (e, trial) = r := Option.some.inj hr
      exact hdata

theorem inv_call (h : s.Inv ctx) {kind : LaneCall} {baseline : Option MatchedObservation}
    {request : ProviderExecutionRequest} {progress : CaseProgress}
    (hphase : s.phase = .observing baseline (.running request progress))
    (hkind : kind = .provider ∧ progress = .preparing ∨ kind = .judge ∧ progress = .provided) :
    (s.call kind baseline request).Inv ctx ∧ s.budget.Later (s.call kind baseline request).budget := by
  have hsettled := h.settled
  unfold Settled at hsettled
  rw [hphase] at hsettled
  obtain ⟨hpending, hcounted, hbaseline, hrequest⟩ := hsettled
  unfold call
  -- the budget counts the call, or refuses it and ends the variant
  rcases RuntimeBudget.begin_cases h.budget kind with
    ⟨budget, hbegin, rfl, hsound⟩ | ⟨budget, hbegin, hsound, hprovider, hjudge⟩
  · rw [hbegin]
    obtain ⟨hproviding, hjudging⟩ := counts_calling (H := H) baseline request
    -- the call is under way on the request that the stage was opened with
    have hrequested : Requested ({ s with
        budget := s.budget.count kind
        calls := s.calls ++ [kind]
        phase := .observing baseline (.running request (.calling kind)) } : LaneRun H)
        (.observing baseline (.running request (.calling kind))) := by
      refine ⟨hbaseline, ?_⟩
      rintro _ _ hstage
      obtain ⟨rfl, -⟩ := VariantStage.running.inj hstage
      exact hrequest _ _ rfl
    rcases hkind with ⟨rfl, rfl⟩ | ⟨rfl, rfl⟩
    · refine ⟨⟨hsound, ?_, ?_, h.guardCode, hpending.congr rfl rfl, ?_, hrequested⟩, ?_⟩
      · show s.budget.providerInvocations + 1 = _
        rw [List.count_append, ← h.provided]
        rfl
      · show s.budget.judgeInvocations = _
        rw [List.count_append, ← h.judged]
        rfl
      · rw [hproviding]
        exact ⟨congrArg (· + 1) hcounted.provider, hcounted.judge⟩
      · exact ⟨Nat.le_succ _, le_refl _⟩
    · refine ⟨⟨hsound, ?_, ?_, h.guardCode, hpending.congr rfl rfl, ?_, hrequested⟩, ?_⟩
      · show s.budget.providerInvocations = _
        rw [List.count_append, ← h.provided]
        rfl
      · show s.budget.judgeInvocations + 1 = _
        rw [List.count_append, ← h.judged]
        rfl
      · rw [hjudging]
        exact ⟨hcounted.provider, congrArg (· + 1) hcounted.judge⟩
      · exact ⟨le_refl _, Nat.le_succ _⟩
  · rw [hbegin]
    exact h.of_keeps ⟨rfl, rfl, hprovider, hjudge, rfl⟩ hsound h.guardCode
      (Settled.declined (h.open (Or.inl ⟨_, _, hphase⟩)) ⟨rfl, rfl, hprovider, hjudge, rfl⟩ rfl)

/-- A callback returns. -/
theorem inv_progress (h : s.Inv ctx) {baseline : Option MatchedObservation} {request : ProviderExecutionRequest}
    {progress progress' : CaseProgress} (hphase : s.phase = .observing baseline (.running request progress))
    (hcounts : (LanePhase.observing (H := H) baseline (.running request progress')).counts =
      (LanePhase.observing (H := H) baseline (.running request progress)).counts) :
    ({ s with phase := .observing baseline (.running request progress') } : LaneRun H).Inv ctx ∧
      s.budget.Later s.budget := by
  have hsettled := h.settled
  unfold Settled at hsettled
  rw [hphase] at hsettled
  obtain ⟨hpending, hcounted, hbaseline, hrequest⟩ := hsettled
  refine h.of_keeps ⟨rfl, rfl, rfl, rfl, rfl⟩ h.budget h.guardCode
    ⟨hpending.congr rfl rfl, hcounts ▸ hcounted.congr rfl rfl rfl, hbaseline, ?_⟩
  rintro _ _ hstage
  obtain ⟨rfl, -⟩ := VariantStage.running.inj hstage
  exact hrequest _ _ rfl

theorem inv_settle (h : s.Inv ctx) {baseline : Option MatchedObservation} (observation : MatchedObservation)
    {judgment : MatchedVariantJudgment}
    (hphase : s.phase = .observing baseline (.running observation.request (.judged judgment))) :
    (s.settle baseline observation).Inv ctx ∧ s.budget.Later (s.settle baseline observation).budget := by
  have hopen := h.open (Or.inl ⟨_, _, hphase⟩)
  have hsettled := h.settled
  unfold Settled at hsettled
  rw [hphase] at hsettled
  obtain ⟨hpending, hcounted, hbaseline, hrequest⟩ := hsettled
  have hrequest := hrequest _ _ rfl
  unfold settle
  by_cases hblocked : observation.evaluation.val.status = .blocked
  · rw [if_pos hblocked]
    exact h.of_keeps ⟨rfl, rfl, rfl, rfl, rfl⟩ h.budget h.guardCode
      (Settled.declined hopen ⟨rfl, rfl, rfl, rfl, rfl⟩ rfl)
  · rw [if_neg hblocked]
    rcases RuntimeBudget.finish_cases h.budget with ⟨hfinish, -⟩ | ⟨budget, hfinish, hsound, hprovider, hjudge⟩
    · rw [hfinish]
      -- the first observation opens the other variant, the second makes the pair
      cases baseline with
      | none =>
        refine h.of_keeps ⟨rfl, rfl, rfl, rfl, rfl⟩ h.budget h.guardCode
          ⟨hpending.congr rfl rfl, hcounted.congr rfl rfl rfl, requested_opening ?_⟩
        rintro o ho
        obtain rfl : observation = o := Option.some.inj ho
        exact hrequest
      | some left =>
        exact h.of_keeps ⟨rfl, rfl, rfl, rfl, rfl⟩ h.budget newGuard
          ⟨hpending.congr rfl rfl, hcounted.congr rfl rfl rfl, hbaseline left rfl, hrequest⟩
    · rw [hfinish]
      exact h.of_keeps ⟨rfl, rfl, hprovider, hjudge, rfl⟩ hsound h.guardCode
        (Settled.declined hopen ⟨rfl, rfl, hprovider, hjudge, rfl⟩ rfl)

/-- A kept pair takes the place of its round. -/
theorem place_newPair {baseline candidate : MatchedObservation} {e : MatchedCaseExecution} {trial : Nat}
    {rest : List (MatchedCaseExecution × Nat)} (hremaining : s.remaining = (e, trial) :: rest)
    (hbaseline : s.Requests .baseline baseline.request) (hcandidate : s.Requests .candidate candidate.request) :
    (newPair baseline candidate trial).place = roundPlace (e, trial) := by
  have hleft := hbaseline (e, trial) (by rw [hremaining]; rfl)
  have hright := hcandidate (e, trial) (by rw [hremaining]; rfl)
  exact Prod.ext (congrArg Subtype.val hleft.1) (Prod.ext rfl (Prod.ext hleft.2 hright.2))

theorem inv_keepPair (hadmitted : ctx.Admitted) (h : s.Inv ctx) {baseline candidate : MatchedObservation}
    (hphase : s.phase = .pairing baseline candidate) {e : MatchedCaseExecution} {trial : Nat}
    {rest : List (MatchedCaseExecution × Nat)} (hremaining : s.remaining = (e, trial) :: rest) :
    (s.keepPair ctx (newPair baseline candidate trial)).Inv ctx ∧
      s.budget.Later (s.keepPair ctx (newPair baseline candidate trial)).budget := by
  have hopen := h.open (Or.inr (Or.inl ⟨_, _, hphase⟩))
  have hsettled := h.settled
  unfold Settled at hsettled
  rw [hphase] at hsettled
  obtain ⟨hpending, hcounted, hbaseline, hcandidate⟩ := hsettled
  have hplace := place_newPair hremaining hbaseline hcandidate
  have hplaces := hpending.places
  rw [hremaining, List.map_cons, ← hplace] at hplaces
  -- the new pair takes the place of the round, so the places still split the plan
  have hkept : (s.pairs ++ [newPair baseline candidate trial]).map MatchedExecutedPair.place ++ rest.map roundPlace =
      ctx.places := by
    rw [List.map_append, List.append_assoc]
    exact hplaces
  have hprovider := hcounted.provider
  have hjudge := hcounted.judge
  unfold keepPair
  rcases RuntimeBudget.finish_cases h.budget with ⟨hfinish, hintime⟩ | ⟨budget, hfinish, hsound, hp, hj⟩
  · rw [hfinish]
    refine ⟨⟨h.budget, h.provided, h.judged, h.guardCode, ?_⟩, RuntimeBudget.Later.refl _⟩
    rw [hremaining, List.tail_cons]
    -- the last round completes the lane; any other goes back to the loop
    by_cases hlast : rest = []
    · rw [if_pos hlast]
      rw [hlast, List.map_nil, List.append_nil] at hkept
      refine completed_laws hadmitted h.budget hkept ?_ ?_ hintime
      · rw [List.length_append, List.length_singleton, hprovider]
        rfl
      · rw [List.length_append, List.length_singleton, hjudge]
        rfl
    · rw [if_neg hlast]
      refine ⟨⟨hlast, hkept⟩, ⟨?_, ?_⟩, requested_start⟩
      · show s.budget.providerInvocations = 2 * (s.pairs ++ [_]).length + 0
        rw [List.length_append, List.length_singleton, hprovider]
        rfl
      · show s.budget.judgeInvocations = 2 * (s.pairs ++ [_]).length + 0
        rw [List.length_append, List.length_singleton, hjudge]
        rfl
  · rw [hfinish]
    exact h.of_keeps ⟨rfl, rfl, hp, hj, rfl⟩ hsound h.guardCode
      (Settled.declined hopen ⟨rfl, rfl, hp, hj, rfl⟩ rfl)

/-- An unfinished lane keeps fewer pairs than are planned. -/
theorem Pending.unfinished (h : s.Pending ctx) : s.pairs.length < ctx.places.length := by
  rw [← h.places, List.length_append, List.length_map, List.length_map]
  exact Nat.lt_add_of_pos_right (List.length_pos_iff.mpr h.rounds)

theorem Inv.permits (h : s.Inv ctx) : s.Permits s.blockerCode := by
  unfold Permits blockerCode
  rcases hbudget : s.budget.blockerCode with - | code
  · rcases hguard : s.guardCode with - | code
    · exact Or.inr (Or.inl rfl)
    · exact Or.inr (Or.inr (h.guardCode code hguard))
  · exact Or.inl (h.budget.refusal code hbudget)

/-- A time limit that expires is remembered. -/
theorem inv_refused (h : s.Inv ctx) {budget : RuntimeBudget} (hrefused : s.budget.refused = some budget)
    (hkept : t = { s with budget } ∨ t = { s with budget, phase := .declined } ∧ s.Pending ctx ∧ s.Tallied) :
    t.Inv ctx ∧ s.budget.Later t.budget := by
  obtain ⟨hsound, hprovider, hjudge⟩ := RuntimeBudget.refused_eq_some h.budget hrefused
  rcases hkept with rfl | ⟨rfl, hopen⟩
  · exact h.of_keeps ⟨rfl, rfl, hprovider, hjudge, rfl⟩ hsound h.guardCode
      (h.settled.congr ⟨rfl, rfl, hprovider, hjudge, rfl⟩ rfl)
  · exact h.of_keeps ⟨rfl, rfl, hprovider, hjudge, rfl⟩ hsound h.guardCode
      (Settled.declined hopen ⟨rfl, rfl, hprovider, hjudge, rfl⟩ rfl)

/-- **Step lemma.**  A step keeps the invariant and takes back no count. -/
theorem inv_step (hadmitted : ctx.Admitted) (h : s.Inv ctx) {a : LaneAction} (hstep : s.step ctx a = some t) :
    t.Inv ctx ∧ s.budget.Later t.budget := by
  unfold step at hstep
  -- one case for each action; where its guard fails there is no step
  cases a with
  | tick elapsed =>
    dsimp only at hstep
    split at hstep
    · cases hstep
    · obtain ⟨hle, hstep⟩ := Option.ite_none_right_eq_some.mp hstep
      obtain rfl := Option.some.inj hstep
      exact h.of_keeps ⟨rfl, rfl, rfl, rfl, rfl⟩ (h.budget.tick hle) h.guardCode
        (h.settled.congr ⟨rfl, rfl, rfl, rfl, rfl⟩ rfl)
  | openVariant =>
    dsimp only at hstep
    split at hstep
    · rename_i hphase hremaining
      obtain rfl := Option.some.inj hstep
      exact inv_openVariant h hphase hremaining
    · cases hstep
  | guardFails failure =>
    dsimp only at hstep
    split at hstep
    · rename_i hphase
      obtain rfl := Option.some.inj hstep
      exact h.of_keeps ⟨rfl, rfl, rfl, rfl, rfl⟩ h.budget (failGuard_guardCode h.guardCode failure)
        (Settled.declined (h.open (Or.inl ⟨_, _, hphase⟩)) ⟨rfl, rfl, rfl, rfl, rfl⟩ rfl)
    · rename_i hphase
      obtain rfl := Option.some.inj hstep
      exact h.of_keeps ⟨rfl, rfl, rfl, rfl, rfl⟩ h.budget (failGuard_guardCode h.guardCode failure)
        (Settled.declined (h.open (Or.inr (Or.inl ⟨_, _, hphase⟩))) ⟨rfl, rfl, rfl, rfl, rfl⟩ rfl)
    · cases hstep
  | finishFails =>
    dsimp only at hstep
    split at hstep
    · rename_i hphase
      obtain ⟨budget, hrefused, rfl⟩ := Option.map_eq_some_iff.mp hstep
      exact inv_refused h hrefused (Or.inr ⟨rfl, h.open (Or.inl ⟨_, _, hphase⟩)⟩)
    · cases hstep
  | lateGuardFails failure =>
    dsimp only at hstep
    split at hstep
    · obtain rfl := Option.some.inj hstep
      exact h.of_keeps ⟨rfl, rfl, rfl, rfl, rfl⟩ h.budget (failGuard_guardCode h.guardCode failure)
        (h.settled.congr ⟨rfl, rfl, rfl, rfl, rfl⟩ rfl)
    · obtain rfl := Option.some.inj hstep
      exact h.of_keeps ⟨rfl, rfl, rfl, rfl, rfl⟩ h.budget (failGuard_guardCode h.guardCode failure)
        (h.settled.congr ⟨rfl, rfl, rfl, rfl, rfl⟩ rfl)
    · cases hstep
  | lateFinishFails =>
    dsimp only at hstep
    split at hstep
    · obtain ⟨budget, hrefused, rfl⟩ := Option.map_eq_some_iff.mp hstep
      exact inv_refused h hrefused (Or.inl rfl)
    · obtain ⟨budget, hrefused, rfl⟩ := Option.map_eq_some_iff.mp hstep
      exact inv_refused h hrefused (Or.inl rfl)
    · cases hstep
  | callProvider =>
    dsimp only at hstep
    split at hstep
    · rename_i hphase
      obtain rfl := Option.some.inj hstep
      exact inv_call h hphase (Or.inl ⟨rfl, rfl⟩)
    · cases hstep
  | providerReturns =>
    dsimp only at hstep
    split at hstep
    · rename_i baseline request hphase
      obtain rfl := Option.some.inj hstep
      exact inv_progress h hphase (by cases baseline <;> rfl)
    · cases hstep
  | callJudge =>
    dsimp only at hstep
    split at hstep
    · rename_i hphase
      obtain rfl := Option.some.inj hstep
      exact inv_call h hphase (Or.inr ⟨rfl, rfl⟩)
    · cases hstep
  | judgeReturns judgment =>
    dsimp only at hstep
    split at hstep
    · rename_i baseline request hphase
      obtain rfl := Option.some.inj hstep
      exact inv_progress h hphase (by cases baseline <;> rfl)
    · cases hstep
  | settle evaluation =>
    dsimp only at hstep
    split at hstep
    · rename_i baseline request judgment hphase
      obtain rfl := Option.some.inj hstep
      exact inv_settle h ⟨judgment, evaluation, request, request.val.inputSha256⟩ hphase
    · cases hstep
  | variantFails =>
    dsimp only at hstep
    split at hstep
    · rename_i hphase
      obtain rfl := Option.some.inj hstep
      exact h.of_keeps ⟨rfl, rfl, rfl, rfl, rfl⟩ h.budget h.guardCode
        (Settled.declined (h.open (Or.inl ⟨_, _, hphase⟩)) ⟨rfl, rfl, rfl, rfl, rfl⟩ rfl)
    · cases hstep
  | keepPair =>
    dsimp only at hstep
    split at hstep
    · rename_i hphase hremaining
      obtain rfl := Option.some.inj hstep
      exact inv_keepPair hadmitted h hphase hremaining
    · cases hstep
  | report =>
    dsimp only at hstep
    split at hstep
    · rename_i hphase
      obtain rfl := Option.some.inj hstep
      obtain ⟨hpending, htally⟩ := h.open (Or.inr (Or.inr hphase))
      refine h.of_keeps ⟨rfl, rfl, rfl, rfl, rfl⟩ h.budget h.guardCode ?_
      -- the pairs kept so far are a proper prefix of the plan
      exact blocked_laws hadmitted h.budget htally (hpending.places ▸ List.prefix_append _ _) hpending.unfinished
        h.permits
    · cases hstep
  | raise =>
    dsimp only at hstep
    split at hstep
    · cases hstep
    · obtain rfl := Option.some.inj hstep
      exact h.of_keeps ⟨rfl, rfl, rfl, rfl, rfl⟩ h.budget h.guardCode trivial

/-- **Run lemma.** -/
theorem inv_run (hadmitted : ctx.Admitted) (h : s.Inv ctx) (hrun : Reaches (step ctx) anyStep s t) :
    t.Inv ctx ∧ s.budget.Later t.budget := by
  refine @Reaches.invariant _ _ _ _ _ _ (fun u => u.Inv ctx ∧ s.budget.Later u.budget) hrun
    ⟨h, RuntimeBudget.Later.refl _⟩ ?_
  rintro u a v ⟨hinv, hlater⟩ - hstep
  obtain ⟨hinv', hlater'⟩ := inv_step hadmitted hinv hstep
  exact ⟨hinv', hlater.trans hlater'⟩

theorem inv_initial (hadmitted : ctx.Admitted) : (ctx.initial).Inv ctx := by
  have hplaces := hadmitted.places_eq
  obtain ⟨calibrations, -, hlane⟩ := hadmitted
  refine ⟨⟨rfl, le_refl _, fun kind => ?_, newGuard⟩, rfl, rfl, newGuard, ⟨?_, ?_⟩, ⟨rfl, rfl⟩, requested_start⟩
  · cases kind <;> exact Nat.zero_le _
  · have hlength : ctx.rounds.length = 10 * ctx.specification.trialCount := by
      rw [LaneContext.rounds, List.length_flatMap]
      simp [List.map_const', hlane.ten]
      omega
    have htrials : 1 ≤ ctx.specification.trialCount := by
      have hfields := (validateWith_eq_ok.mp ctx.specification.val.generatorParameters.2).1
      simpa using hfields
    intro hnil
    rw [show ctx.initial.remaining = ctx.rounds from rfl] at hnil
    rw [hnil] at hlength
    simp only [List.length_nil] at hlength
    omega
  · exact hplaces

end LaneRun

/-! ### Lanes -/

theorem openLane_admitted {planValue : Except ValidationError (MatchedComparisonPlanData I)} {lane : MatchedLane}
    {calibrations : List (Option H.Bundle)} {executions : List MatchedCaseExecution} {ctx : LaneContext H}
    (h : openLane H planValue lane calibrations executions = .ok ctx) : ctx.Admitted := by
  unfold openLane at h
  split at h
  · cases h
  · rename_i plan hplan
    split at h
    · cases h
    · rename_i hpreflight
      split at h
      · cases h
      · rename_i specification hspecification
        obtain rfl := Except.ok.inj h
        obtain ⟨specification', hadmitted⟩ := preflightMatchedLane_eq_none hpreflight
        obtain rfl := Option.some.inj (hadmitted.specified.symm.trans hspecification)
        exact ⟨calibrations, rfl, hadmitted⟩

/-- A lane that is not admitted has a receipt without observations, whose blocker its inputs permit. -/
structure RefusedLaws (r : MatchedExecutionReceiptData H) : Prop where
  blocked : r.status = .blocked
  unspent : r.pairs = [] ∧ r.providerInvocationCount = 0 ∧ r.judgeInvocationCount = 0
  permitted : ∀ v ∈ r.observationsMatchDeclaredPrefix, v.1 = false

/-- The receipt of a lane whose plan cannot be read. -/
theorem unbound_laws : RefusedLaws (laneReceipt none none [] [] (0, 0) (some .invalidExecution) 0 :
    MatchedExecutionReceiptData H) := by
  refine ⟨rfl, ⟨rfl, rfl, rfl⟩, List.forall_mem_append.mpr ⟨List.forall_mem_append.mpr ⟨?_, ?_⟩, ?_⟩⟩
  · simp [MatchedExecutionReceiptData.countRules, laneReceipt]
  · show ∀ v ∈ MatchedExecutionReceiptData.unboundRules _, v.1 = false
    simp [MatchedExecutionReceiptData.unboundRules, laneReceipt]
  · rw [blockerRules_input .invalidExecution rfl rfl rfl]
    simp [laneReceipt]

/-- A refusal for its budget shows it. -/
theorem refused_budgetRules {plan : MatchedComparisonPlan I} {lane : MatchedLane} {specification : MatchedLaneSpec}
    {code : LaneBlockerCode} (hwhy : code = .invalidExecution ∨ budgetProblem specification = some code ∨
      budgetProblem specification = none ∧ code.refusesCase = true) :
    ∀ v ∈ (laneReceipt (some plan) (some lane) [] [] (0, 0) (some code) 0 :
      MatchedExecutionReceiptData H).budgetRules specification, v.1 = false := by
  have hcode : (laneReceipt (some plan) (some lane) [] [] (0, 0) (some code) 0 :
    MatchedExecutionReceiptData H).code = some code.value.toList := rfl
  -- a lane that is refused before its first round has exhausted nothing
  have hwhy' : ∀ code' ∈ [LaneBlockerCode.timeExhausted, .providerExhausted, .judgeExhausted], code ≠ code' := by
    rintro code' hcode' rfl
    rcases hwhy with rfl | hbudget | ⟨-, hcase⟩
    · exact absurd hcode' (by decide)
    · rcases budgetProblem_eq_some hbudget with ⟨rfl, -⟩ | ⟨rfl, -⟩
      · exact absurd hcode' (by decide)
      · exact absurd hcode' (by decide)
    · revert hcode' hcase
      cases code <;> decide
  simp only [List.forall_mem_cons] at hwhy'
  obtain ⟨htime, hprovider, hjudge, -⟩ := hwhy'
  unfold MatchedExecutionReceiptData.budgetRules
  simp only [hcode, List.forall_mem_cons, violation_fst, Option.some.injEq]
  -- what remains are the rules about unknown cost and about too few runs
  refine ⟨by simp [laneReceipt], ?_, ?_, ?_, fun h => htime (LaneBlockerCode.value_eq_iff.mp h.1),
    fun h => absurd h.1 (by simp [laneReceipt]), fun h => hprovider (LaneBlockerCode.value_eq_iff.mp h.1),
    fun h => hjudge (LaneBlockerCode.value_eq_iff.mp h.1), by simp⟩
  · rintro ⟨h, hcost⟩
    obtain rfl : code = .costUnavailable := LaneBlockerCode.value_eq_iff.mp h
    rcases hwhy with h | hbudget | ⟨-, h⟩
    · cases h
    · rcases budgetProblem_eq_some hbudget with ⟨-, h⟩ | ⟨h, -⟩
      · exact h hcost
      · cases h
    · cases h
  · rintro ⟨hcost, hne, hinvalid⟩
    rcases hwhy with rfl | hbudget | ⟨hnone, -⟩
    · exact hinvalid rfl
    · rcases budgetProblem_eq_some hbudget with ⟨rfl, -⟩ | ⟨-, h, -⟩
      · exact hne rfl
      · exact hcost h
    · exact hcost (budgetProblem_eq_none hnone).1
  · rintro ⟨h, hcover⟩
    obtain rfl : code = .runInsufficient := LaneBlockerCode.value_eq_iff.mp h
    rcases hwhy with h | hbudget | ⟨-, h⟩
    · cases h
    · rcases budgetProblem_eq_some hbudget with ⟨h, -⟩ | ⟨-, -, hlt⟩
      · cases h
      · exact absurd hcover (not_le.mpr hlt)
    · cases h

theorem refused_laws {plan : MatchedComparisonPlan I} {lane : MatchedLane} {specification : MatchedLaneSpec}
    {calibrations : List (Option H.Bundle)} {executions : List MatchedCaseExecution} {code : LaneBlockerCode}
    (h : preflightMatchedLane H plan lane calibrations executions = some code)
    (hspecification : plan.specification? lane = some specification) :
    RefusedLaws (laneReceipt (some plan) (some lane) [] [] (0, 0) (some code) 0 :
      MatchedExecutionReceiptData H) := by
  -- nothing has run: the receipt holds no pair, no call and no time
  have hwhy := preflightMatchedLane_eq_some h hspecification
  have hruntime : code.isRuntime = false := by
    rcases hwhy with rfl | hbudget | ⟨-, hcase⟩
    · rfl
    · rcases budgetProblem_eq_some hbudget with ⟨rfl, -⟩ | ⟨rfl, -⟩
      · rfl
      · rfl
    · cases code <;> first | rfl | cases hcase
  have hbinding : (laneReceipt (some plan) (some lane) [] [] (0, 0) (some code) 0 :
      MatchedExecutionReceiptData H).binding? = some (plan, lane, specification) := by
    simp [MatchedExecutionReceiptData.binding?, laneReceipt, hspecification]
  refine ⟨rfl, ⟨rfl, rfl, rfl⟩, List.forall_mem_append.mpr ⟨List.forall_mem_append.mpr ⟨?_, ?_⟩, ?_⟩⟩
  · simp [MatchedExecutionReceiptData.countRules, laneReceipt]
  · rw [hbinding]
    refine List.forall_mem_append.mpr ⟨List.forall_mem_append.mpr ⟨?_, ?_⟩, ?_⟩
    · refine List.forall_mem_append.mpr ⟨refused_budgetRules hwhy, ?_⟩
      simp [MatchedExecutionReceiptData.calibrationRules, laneReceipt]
    · simp [laneReceipt]
    · simp [laneReceipt]
  · rw [blockerRules_input code rfl rfl hruntime]
    simp [laneReceipt]

/-- **The lane invariant.**  An admitted lane counts the callbacks that it dispatched, never takes a
count back, and every receipt of its runs obeys the laws; a lane that is not admitted calls nothing. -/
theorem lane_run_laws {I : Interpreter} (H : MatchedHost I)
    (planValue : Except ValidationError (MatchedComparisonPlanData I)) (lane : MatchedLane)
    (calibrations : List (Option H.Bundle)) (executions : List MatchedCaseExecution) :
    (∀ ctx, openLane H planValue lane calibrations executions = .ok ctx →
      ∀ s, Reaches (LaneRun.step ctx) anyStep ctx.initial s →
        (s.budget.providerInvocations = s.calls.count .provider ∧
          s.budget.judgeInvocations = s.calls.count .judge) ∧
        (∀ t, Reaches (LaneRun.step ctx) anyStep s t →
          s.budget.providerInvocations ≤ t.budget.providerInvocations ∧
            s.budget.judgeInvocations ≤ t.budget.judgeInvocations) ∧
        ∀ receipt, s.phase = .reported receipt → LaneLaws ctx receipt) ∧
    ∀ receipt, openLane H planValue lane calibrations executions = .error receipt → RefusedLaws receipt := by
  refine ⟨fun ctx hctx s hrun => ?_, fun receipt hreceipt => ?_⟩
  · have hadmitted := openLane_admitted hctx
    obtain ⟨hinv, -⟩ := LaneRun.inv_run hadmitted (LaneRun.inv_initial hadmitted) hrun
    refine ⟨⟨hinv.provided, hinv.judged⟩, fun t ht => ?_, fun receipt hphase => ?_⟩
    -- the later state is reached from one that has the invariant
    · obtain ⟨-, hlater⟩ := LaneRun.inv_run hadmitted hinv ht
      exact ⟨hlater.provider, hlater.judge⟩
    · have hsettled := hinv.settled
      unfold LaneRun.Settled at hsettled
      rw [hphase] at hsettled
      exact hsettled
  · unfold openLane at hreceipt
    split at hreceipt
    · obtain rfl := Except.error.inj hreceipt
      exact unbound_laws
    · rename_i plan hplan
      obtain ⟨specification, hspecification⟩ := MatchedComparisonPlan.exists_specification plan lane
      split at hreceipt
      · rename_i code hpreflight
        obtain rfl := Except.error.inj hreceipt
        exact refused_laws hpreflight hspecification
      · rw [hspecification] at hreceipt
        cases hreceipt

end SkillsSdk
