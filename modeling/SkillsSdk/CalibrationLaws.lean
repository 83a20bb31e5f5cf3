/-
SkillsSdk/CalibrationLaws.lean

An observed calibration yields a receipt, unless an exception leaves it, and the
receipt says what was observed.

    observe_spec                        the loop, from any point of the schedule
    preflightCalibration_names           a refused batch has the fault that is named
    executeScorerCalibration_observed   the whole run

The loop keeps that the results so far are bound to the slots before the point
where it stands, and that it has counted one invocation for each.  The receipt
checks both again.
-/
import SkillsSdk.ObservedCalibration

namespace SkillsSdk

variable {plan : ObservedCalibrationPlan}

/-! ### Results and slots -/

/-- The result belongs to the slot, and has the label of its score. -/
structure BoundTo (plan : ObservedCalibrationPlan) (result : ObservedCalibrationProbeResult)
    (slot : CalibrationSlot) : Prop where
  trial : result.val.trialIndex = slot.2
  probe : result.val.probeId = slot.1.probeId
  output : result.val.outputSha256 = slot.1.outputSha256
  expected : result.val.expectedLabel = slot.1.expectedLabel
  predicted : result.val.predictedLabel = predictedLabel plan.val.policy result.val.score

namespace ObservedCalibrationReceiptData

theorem resultRules_of_bound {result : ObservedCalibrationProbeResult} {slot : CalibrationSlot}
    (h : BoundTo plan result slot) : ∀ v ∈ resultRules plan result slot, v.1 = false := by
  simp [resultRules, h.trial, h.probe, h.output, h.expected, h.predicted]

/-- Results that are bound to the first slots pass the rules of all slots. -/
theorem zipWith_resultRules {results : List ObservedCalibrationProbeResult} {slots rest : List CalibrationSlot}
    (h : List.Forall₂ (BoundTo plan) results slots) :
    ∀ v ∈ (List.zipWith (resultRules plan) results (slots ++ rest)).flatten, v.1 = false := by
  induction h with
  | nil => simp
  | cons hbound _ ih =>
    intro v hv
    rw [List.cons_append, List.zipWith_cons_cons, List.flatten_cons, List.mem_append] at hv
    exact hv.elim (resultRules_of_bound hbound v) (ih v)

end ObservedCalibrationReceiptData

/-! ### Plans -/

theorem length_expected (plan : ObservedCalibrationPlan) :
    plan.expected.length = plan.val.probes.length * plan.val.parameters.val.trialCount := by
  simp [ObservedCalibrationPlan.expected, List.length_flatMap]

/-- `bindings_and_coverage` bounds the schedule. -/
theorem length_expected_le (plan : ObservedCalibrationPlan) : plan.expected.length ≤ 128 := by
  have h := (validateWith_eq_ok.mp plan.2).2
  rw [length_expected]
  simp only [ObservedCalibrationPlanData.bindingsAndCoverage, List.forall_mem_cons, violation_fst] at h
  omega

theorem expected_pos (plan : ObservedCalibrationPlan) : 0 < plan.expected.length := by
  have hprobes := (validateWith_eq_ok.mp plan.2).1
  have htrials := (validateWith_eq_ok.mp plan.val.parameters.2).1
  rw [check_eq_nil, Bool.and_eq_true, decide_eq_true_iff] at hprobes
  rw [check_eq_nil, decide_eq_true_iff] at htrials
  rw [length_expected]
  exact Nat.mul_pos (by omega) (by omega)

/-! ### Frames -/

/-- The result is what a bound call of the judge said. -/
structure JudgedBy (plan : ObservedCalibrationPlan) (slot : CalibrationSlot) (call : JudgeCall)
    (result : ObservedCalibrationProbeResult) : Prop where
  bound : BoundTo plan result slot
  output : call.outputSha256 = slot.1.outputSha256
  before : call.identityBefore = some (plan.val.judge, plan.val.parameters)
  after : call.identityAfter = some (plan.val.judge, plan.val.parameters)
  verdict : ∃ v, call.verdict = some v ∧ result.val.score = v.val.score ∧
    result.val.judgeResultSha256 = v.val.dumpSha256

/-- A frame with a result has invoked the judge, and one of the calls gave the result. -/
def CalibrationFrame.Sound (plan : ObservedCalibrationPlan) (slot : CalibrationSlot) (calls : List JudgeCall)
    (f : CalibrationFrame) : Prop :=
  ∀ result, f.result = some result → f.invoked = true ∧ ∃ call ∈ calls, JudgedBy plan slot call result

section Frames

variable {slot : CalibrationSlot} {call : JudgeCall} {calls : List JudgeCall} {f : CalibrationFrame}

theorem frameIdentity_eq_some {read : Option (ProviderIdentityV2 × ScorerJudgeParameters)}
    {identity : ProviderIdentityV2} (h : frameIdentity plan read = some identity) :
    read = some (plan.val.judge, plan.val.parameters) := by
  rw [frameIdentity, Option.bind_eq_some_iff] at h
  obtain ⟨adapter, rfl, h⟩ := h
  split at h
  · cases h
  · rename_i hsame
    push Not at hsame
    rw [← hsame.1, ← hsame.2]

theorem probeResult_judgedBy {verdict : CalibrationJudgeVerdict} {result : ObservedCalibrationProbeResult}
    (houtput : call.outputSha256 = slot.1.outputSha256)
    (hbefore : call.identityBefore = some (plan.val.judge, plan.val.parameters))
    (hafter : call.identityAfter = some (plan.val.judge, plan.val.parameters))
    (hverdict : call.verdict = some verdict) (h : probeResult plan slot call verdict = .ok result) :
    JudgedBy plan slot call result := by
  rw [probeResult, construct_eq_ok_iff] at h
  refine ⟨⟨?_, ?_, ?_, ?_, ?_⟩, houtput, hbefore, hafter, verdict, hverdict, ?_, ?_⟩ <;> rw [h]
  exact houtput

/-- What the answer of the callback adds to a frame. -/
theorem CalibrationFrame.Sound.settle (h : f.Sound plan slot calls) (hcall : call ∈ calls)
    {before : ProviderIdentityV2} (houtput : call.outputSha256 = slot.1.outputSha256)
    (hbefore : frameIdentity plan call.identityBefore = some before) :
    ({ f with invoked := true }.settle plan slot before call).Sound plan slot calls := by
  have hkept : ({ f with invoked := true } : CalibrationFrame).Sound plan slot calls :=
    fun result hresult => ⟨rfl, (h result hresult).2⟩
  rw [CalibrationFrame.settle]
  split
  · exact hkept
  rename_i hafter
  split
  · exact hkept
  rename_i verdict hverdict
  split
  · rename_i result hresult
    intro result' hresult'
    obtain rfl := Option.some.inj hresult'
    exact ⟨rfl, call, hcall, probeResult_judgedBy houtput (frameIdentity_eq_some hbefore)
      (frameIdentity_eq_some (not_not.mp hafter)) hverdict hresult⟩
  · exact hkept

/-- **One call** keeps a frame sound. -/
theorem CalibrationFrame.Sound.judge (h : f.Sound plan slot calls) (hcall : call ∈ calls) :
    (f.judge plan slot call).Sound plan slot calls := by
  rw [CalibrationFrame.judge]
  split
  · exact h
  rename_i houtput
  split
  · exact h
  split
  · exact h
  · rename_i before hbefore
    exact h.settle hcall (not_not.mp houtput) hbefore

theorem CalibrationFrame.Sound.foldl {later : List JudgeCall} (h : f.Sound plan slot calls) (hlater : later ⊆ calls) :
    (later.foldl (CalibrationFrame.judge plan slot) f).Sound plan slot calls := by
  induction later generalizing f with
  | nil => exact h
  | cons call later ih =>
    rw [List.cons_subset] at hlater
    exact ih (h.judge hlater.1) hlater.2

/-- **A whole step**: its frame is sound. -/
theorem frameOf_sound (step : CalibrationStep) : (frameOf plan step).Sound plan step.1 step.2.calls :=
  CalibrationFrame.Sound.foldl (f := {}) (fun _ h => by cases h) (List.Subset.refl _)

theorem completedResult?_eq_some {step : CalibrationStep} {result : ObservedCalibrationProbeResult}
    (h : completedResult? plan step = some result) :
    step.2.ended = .returned false ∧ (frameOf plan step).invoked = true ∧
      ∃ call ∈ step.2.calls, JudgedBy plan step.1 call result := by
  rw [completedResult?] at h
  split at h
  · rename_i hended
    exact ⟨hended, frameOf_sound step result h⟩
  · cases h

end Frames

/-! ### Receipts -/

section Receipts

variable {results : List ObservedCalibrationProbeResult} {done rest : List CalibrationSlot} {count : Nat}

/-- Results of the first slots pass the order rules of a receipt, whatever else is in it. -/
theorem orderRules_ok {r : ObservedCalibrationReceiptData} (hslots : done ++ rest = plan.expected)
    (hresults : List.Forall₂ (BoundTo plan) r.results done) (hcount : r.judgeInvocationCount ≤ plan.expected.length) :
    ∀ v ∈ r.orderRules plan, v.1 = false := by
  rw [ObservedCalibrationReceiptData.orderRules, List.forall_mem_cons, violation_fst, not_lt, ← hslots]
  exact ⟨hslots ▸ hcount, ObservedCalibrationReceiptData.zipWith_resultRules hresults⟩

theorem code_blocked (code : CalibrationBlockerCode) {performed : Bool} :
    (⟨some plan, .blocked, results, some (calibrationBlocker code), count, performed⟩ :
      ObservedCalibrationReceiptData).code = some code.value.toList := rfl

/-- A blocked receipt with a plan is accepted when its code fits what it retains. -/
theorem blockedCalibration_ok {code : CalibrationBlockerCode} (hslots : done ++ rest = plan.expected)
    (hresults : List.Forall₂ (BoundTo plan) results done) (hle : results.length ≤ count)
    (hcount : count ≤ results.length + 1) (hexpected : count ≤ plan.expected.length)
    (hcode : ∀ v ∈ (ObservedCalibrationReceiptData.blockedEvidenceMatchesCode
      ⟨some plan, .blocked, results, some (calibrationBlocker code), count, decide (0 < count)⟩ plan), v.1 = false) :
    ∃ receipt, blockedCalibration code (some plan) results count = .ok receipt ∧ receipt.val =
      ⟨some plan, .blocked, results, some (calibrationBlocker code), count, decide (0 < count)⟩ := by
  refine ⟨⟨_, ?_⟩, mapError_eq_ok_iff.mpr (construct_eq_ok_iff.mpr rfl), rfl⟩
  refine validateWith_eq_ok.mpr ⟨?_, ?_⟩
  · rw [check_eq_nil, decide_eq_true_iff]
    exact hexpected.trans (length_expected_le plan)
  · rw [ObservedCalibrationReceiptData.completedResultsBindPlan, List.forall_mem_append]
    refine ⟨?_, ?_⟩
    · simp [ObservedCalibrationReceiptData.executionRules, hle]
    · show ∀ v ∈ ObservedCalibrationReceiptData.plannedRules _ plan, v.1 = false
      rw [ObservedCalibrationReceiptData.plannedRules, List.forall_mem_append, if_pos rfl,
        ObservedCalibrationReceiptData.blockedRules, List.forall_mem_append]
      exact ⟨orderRules_ok hslots hresults hexpected, by simpa using hcount, hcode⟩

/-- The data of a passing receipt. -/
def passingData (plan : ObservedCalibrationPlan) (results : List ObservedCalibrationProbeResult) :
    ObservedCalibrationReceiptData :=
  ⟨some plan, .pass, results, none, results.length, true⟩

/-- Complete results pass exactly when they meet the policy. -/
theorem passingData_validate_iff (hresults : List.Forall₂ (BoundTo plan) results plan.expected) :
    (passingData plan results).validate = .ok () ↔ ¬ (confusionCounts results).Misses plan.val.policy := by
  have hlength : results.length = plan.expected.length := hresults.length_eq
  have hpos : 0 < results.length := hlength ▸ expected_pos plan
  have horder : ∀ v ∈ (passingData plan results).orderRules plan, v.1 = false :=
    orderRules_ok (List.append_nil _) hresults hlength.le
  have hrules : (passingData plan results).completedResultsBindPlan =
      (passingData plan results).executionRules ++
        ((passingData plan results).orderRules plan ++ (passingData plan results).passingRules plan) := rfl
  rw [ObservedCalibrationReceiptData.validate, validateWith_eq_ok, hrules, List.forall_mem_append,
    List.forall_mem_append]
  constructor
  · rintro ⟨-, -, -, hpassing⟩
    simpa [ObservedCalibrationReceiptData.passingRules, passingData, hlength] using hpassing
  · intro hmeets
    refine ⟨?_, ?_, horder, ?_⟩
    · rw [check_eq_nil, decide_eq_true_iff]
      exact hlength.le.trans (length_expected_le plan)
    · simp [ObservedCalibrationReceiptData.executionRules, passingData, hpos]
    · simpa [ObservedCalibrationReceiptData.passingRules, passingData, hlength] using hmeets

/-- **A finished run** passes, or fails the policy. -/
theorem finishCalibration_spec (hresults : List.Forall₂ (BoundTo plan) results plan.expected) :
    ∃ receipt, finishCalibration plan results results.length = .ok receipt ∧
      receipt.val = if (confusionCounts results).Misses plan.val.policy then
        ⟨some plan, .blocked, results, some (calibrationBlocker .policyFailed), results.length,
          decide (0 < results.length)⟩
        else passingData plan results := by
  have hlength : results.length = plan.expected.length := hresults.length_eq
  by_cases hmisses : (confusionCounts results).Misses plan.val.policy
  -- the passing receipt is refused by its own model, and blocked instead
  · have hrefused : ∀ receipt, construct ObservedCalibrationReceiptData.validate (passingData plan results) ≠
        .ok receipt := by
      intro receipt hok
      have hvalid := receipt.2
      rw [construct_eq_ok_iff.mp hok, passingData_validate_iff hresults] at hvalid
      exact hvalid hmisses
    have hcode : ∀ v ∈ ObservedCalibrationReceiptData.blockedEvidenceMatchesCode
        ⟨some plan, .blocked, results, some (calibrationBlocker .policyFailed), results.length,
          decide (0 < results.length)⟩ plan, v.1 = false := by
      rw [ObservedCalibrationReceiptData.blockedEvidenceMatchesCode, code_blocked,
        if_pos (show some CalibrationBlockerCode.policyFailed.value.toList =
          some "calibration_policy_failed".toList from rfl)]
      simp [hlength, hmisses]
    obtain ⟨receipt, hreceipt, hdata⟩ :=
      blockedCalibration_ok (List.append_nil _) hresults le_rfl (Nat.le_succ _) hlength.le hcode
    refine ⟨receipt, ?_, by rw [if_pos hmisses, hdata]⟩
    rw [finishCalibration]
    split
    · rename_i passing hpassing
      exact absurd hpassing (hrefused passing)
    · exact hreceipt
  · have hvalid := (passingData_validate_iff hresults).mpr hmisses
    refine ⟨⟨_, hvalid⟩, ?_, by rw [if_neg hmisses]⟩
    rw [finishCalibration, show construct ObservedCalibrationReceiptData.validate
      ⟨some plan, .pass, results, none, results.length, true⟩ = .ok ⟨_, hvalid⟩ from construct_of_ok hvalid]

end Receipts

/-! ### The loop -/

/-- The results before the first step without a judgment. -/
def retained (plan : ObservedCalibrationPlan) : List CalibrationStep → List ObservedCalibrationProbeResult
  | [] => []
  | step :: rest =>
    match completedResult? plan step with
    | none => []
    | some result => result :: retained plan rest

/-- The first step without a judgment. -/
def stopped? (plan : ObservedCalibrationPlan) (steps : List CalibrationStep) : Option CalibrationStep :=
  steps.find? fun step => (completedResult? plan step).isNone

/-- The code of a step without a judgment. -/
def stopCode (step : CalibrationStep) : CalibrationBlockerCode :=
  if step.2.ended = .raised .caught then .executionFailed else .executionIncomplete

/-- The run leaves its handlers: the first step without a judgment raises past them. -/
def Escapes (plan : ObservedCalibrationPlan) (steps : List CalibrationStep) : Prop :=
  ∃ step, stopped? plan steps = some step ∧ step.2.ended = .raised .escaped

/-- What a receipt says of the steps from some point on, with the results before it. -/
structure Observed (plan : ObservedCalibrationPlan) (earlier : List ObservedCalibrationProbeResult)
    (steps : List CalibrationStep) (r : ObservedCalibrationReceiptData) : Prop where
  plan_eq : r.plan = some plan
  /-- Exactly the judgments before the first stop are retained. -/
  results : r.results = earlier ++ retained plan steps
  /-- Each took one invocation, and the step that stopped at most one more. -/
  count : r.judgeInvocationCount =
    r.results.length + ((stopped? plan steps).map fun step => (frameOf plan step).invoked.toNat).getD 0
  stop : ∀ step, stopped? plan steps = some step →
    r.status = .blocked ∧ r.code = some (stopCode step).value.toList
  /-- A run without a stop passes or fails by the policy alone. -/
  finish : stopped? plan steps = none →
    if (confusionCounts r.results).Misses plan.val.policy then
      r.status = .blocked ∧ r.code = some CalibrationBlockerCode.policyFailed.value.toList
    else r.status = .pass ∧ r.blocker = none

theorem retained_cons {step : CalibrationStep} {rest : List CalibrationStep} {result : ObservedCalibrationProbeResult}
    (h : completedResult? plan step = some result) : retained plan (step :: rest) = result :: retained plan rest := by
  rw [retained, h]

theorem stopped?_cons {step : CalibrationStep} {rest : List CalibrationStep} {result : ObservedCalibrationProbeResult}
    (h : completedResult? plan step = some result) : stopped? plan (step :: rest) = stopped? plan rest := by
  rw [stopped?, List.find?_cons_of_neg (by simp [h]), stopped?]

theorem retained_of_stop {step : CalibrationStep} {rest : List CalibrationStep}
    (h : completedResult? plan step = none) : retained plan (step :: rest) = [] := by
  rw [retained, h]

theorem stopped?_of_stop {step : CalibrationStep} {rest : List CalibrationStep}
    (h : completedResult? plan step = none) : stopped? plan (step :: rest) = some step := by
  rw [stopped?, List.find?_cons_of_pos (by simp [h])]

/-- A step without a judgment stops the run. -/
theorem observe_stop {results : List ObservedCalibrationProbeResult} {count : Nat} {step : CalibrationStep}
    {rest : List CalibrationStep} (h : completedResult? plan step = none) (hended : step.2.ended ≠ .raised .escaped) :
    observe plan results count (step :: rest) =
      blockedCalibration (stopCode step) (some plan) results (count + (frameOf plan step).invoked.toNat) := by
  rw [observe, stopCode, h]
  rcases hcase : step.2.ended with (- | -) | isBlocked
  · rw [if_pos rfl]
  · exact absurd hcase hended
  · rw [if_neg nofun]

/-- An exception that no handler takes ends the run. -/
theorem observe_escaped {results : List ObservedCalibrationProbeResult} {count : Nat} {step : CalibrationStep}
    {rest : List CalibrationStep} (hended : step.2.ended = .raised .escaped) :
    observe plan results count (step :: rest) = .error .escaped := by
  rw [observe, hended]

theorem observe_next {results : List ObservedCalibrationProbeResult} {step : CalibrationStep}
    {rest : List CalibrationStep} {result : ObservedCalibrationProbeResult}
    (h : completedResult? plan step = some result) :
    observe plan results results.length (step :: rest) =
      observe plan (results ++ [result]) (results ++ [result]).length rest := by
  obtain ⟨hended, hinvoked, -⟩ := completedResult?_eq_some h
  rw [observe, hended, hinvoked]
  simp [h]

/-- The evidence rule of the two codes that stop a run. -/
theorem stopCode_evidence {step : CalibrationStep} {results : List ObservedCalibrationProbeResult} {count : Nat}
    (h : results.length < plan.expected.length) :
    ∀ v ∈ ObservedCalibrationReceiptData.blockedEvidenceMatchesCode
      ⟨some plan, .blocked, results, some (calibrationBlocker (stopCode step)), count, decide (0 < count)⟩ plan,
      v.1 = false := by
  rw [ObservedCalibrationReceiptData.blockedEvidenceMatchesCode, code_blocked, stopCode]
  split
  · rw [if_neg (by simp [CalibrationBlockerCode.value]), if_pos (.inl rfl)]
    simp [h]
  · rw [if_neg (by simp [CalibrationBlockerCode.value]), if_pos (.inr rfl)]
    simp [h]

/-- **The loop**, from any point of the schedule, when no exception leaves it. -/
theorem observe_spec {results : List ObservedCalibrationProbeResult} {done steps : List CalibrationStep}
    (hslots : (done ++ steps).map Prod.fst = plan.expected)
    (hresults : List.Forall₂ (BoundTo plan) results (done.map Prod.fst)) (hends : ¬ Escapes plan steps) :
    ∃ receipt : ObservedCalibrationReceipt, observe plan results results.length steps = .ok receipt ∧
      Observed plan results steps receipt.val := by
  induction steps generalizing done results with
  | nil =>
    rw [List.append_nil] at hslots
    obtain ⟨receipt, hreceipt, hdata⟩ := finishCalibration_spec (hslots ▸ hresults)
    refine ⟨receipt, hreceipt, ?_⟩
    split at hdata
    · rename_i hmisses
      refine ⟨by rw [hdata], by rw [hdata]; simp [retained], by rw [hdata]; rfl, nofun, fun _ => ?_⟩
      rw [hdata, if_pos hmisses]
      exact ⟨rfl, rfl⟩
    · rename_i hmeets
      refine ⟨by rw [hdata]; rfl, by rw [hdata]; simp [retained, passingData], by rw [hdata]; rfl, nofun, fun _ => ?_⟩
      rw [hdata, passingData, if_neg hmeets]
      exact ⟨rfl, rfl⟩
  | cons step steps ih =>
    cases h : completedResult? plan step with
    | some result =>
      -- the step adds its result and one invocation
      obtain ⟨-, -, call, -, hjudged⟩ := completedResult?_eq_some h
      have hslots' : ((done ++ [step]) ++ steps).map Prod.fst = plan.expected := by
        rw [List.append_assoc, List.singleton_append]
        exact hslots
      have hresults' : List.Forall₂ (BoundTo plan) (results ++ [result]) ((done ++ [step]).map Prod.fst) := by
        rw [List.map_append]
        exact List.rel_append hresults (.cons hjudged.bound .nil)
      have hends' : ¬ Escapes plan steps := by
        rintro ⟨last, hlast, hended⟩
        exact hends ⟨last, (stopped?_cons h).trans hlast, hended⟩
      obtain ⟨receipt, hreceipt, hobserved⟩ := ih hslots' hresults' hends'
      refine ⟨receipt, (observe_next h).trans hreceipt, ?_⟩
      refine ⟨hobserved.plan_eq, ?_, ?_, ?_, ?_⟩
      · rw [hobserved.results, retained_cons h, List.append_assoc, List.singleton_append]
      · rw [stopped?_cons h]
        exact hobserved.count
      · rw [stopped?_cons h]
        exact hobserved.stop
      · rw [stopped?_cons h]
        exact hobserved.finish
    | none =>
      -- the step stops the run with the results before it
      have hlength : results.length = done.length := by
        rw [hresults.length_eq, List.length_map]
      have hexpected : done.length + (steps.length + 1) = plan.expected.length := by
        rw [← hslots, List.length_map, List.length_append, List.length_cons]
      have hinvoked : (frameOf plan step).invoked.toNat ≤ 1 := Bool.toNat_le _
      rw [List.map_append] at hslots
      obtain ⟨receipt, hreceipt, hdata⟩ := blockedCalibration_ok hslots hresults (Nat.le_add_right _ _)
        (Nat.add_le_add_left hinvoked _) (by omega) (stopCode_evidence (by omega))
      have hended : step.2.ended ≠ .raised .escaped := fun hended => hends ⟨step, stopped?_of_stop h, hended⟩
      refine ⟨receipt, (observe_stop h hended).trans hreceipt, ?_⟩
      refine ⟨by rw [hdata], ?_, ?_, ?_, ?_⟩
      · rw [hdata, retained_of_stop h, List.append_nil]
      · rw [hdata, stopped?_of_stop h]
        rfl
      · rw [hdata, stopped?_of_stop h]
        rintro _ ⟨⟩
        exact ⟨rfl, rfl⟩
      · rw [stopped?_of_stop h]
        exact nofun

/-- An exception that leaves the loop does so after the judgments before it. -/
theorem observe_of_escapes (results : List ObservedCalibrationProbeResult) {steps : List CalibrationStep}
    (h : Escapes plan steps) : observe plan results results.length steps = .error .escaped := by
  induction steps generalizing results with
  | nil =>
    obtain ⟨step, hstep, -⟩ := h
    cases hstep
  | cons step steps ih =>
    obtain ⟨last, hlast, hended⟩ := h
    cases hstep : completedResult? plan step with
    | some result =>
      rw [observe_next hstep]
      exact ih _ ⟨last, (stopped?_cons hstep).symm.trans hlast, hended⟩
    | none =>
      obtain rfl := Option.some.inj ((stopped?_of_stop hstep).symm.trans hlast)
      exact observe_escaped hended

/-! ### The whole run -/

/-- Each retained result is what a bound call of its own step said. -/
theorem retained_judged (steps : List CalibrationStep) :
    List.Forall₂ (fun step result => ∃ call ∈ step.2.calls, JudgedBy plan step.1 call result)
      (steps.take (retained plan steps).length) (retained plan steps) := by
  induction steps with
  | nil => exact .nil
  | cons step steps ih =>
    cases h : completedResult? plan step with
    | none =>
      rw [retained_of_stop h]
      exact .nil
    | some result =>
      rw [retained_cons h, List.length_cons, List.take_succ_cons]
      exact .cons (completedResult?_eq_some h).2.2 ih

theorem exists_map_some {α : Type} {l : List (Option α)} (h : l.any (·.isNone) = false) :
    ∃ typed : List α, l = typed.map some := by
  induction l with
  | nil => exact ⟨[], rfl⟩
  | cons a l ih =>
    rw [List.any_cons, Bool.or_eq_false_iff] at h
    obtain ⟨typed, rfl⟩ := ih h.2
    cases a with
    | none => cases h.1
    | some a => exact ⟨a :: typed, rfl⟩

theorem filterMap_id_map_some {α : Type} (l : List α) : (l.map some).filterMap id = l := by
  rw [List.filterMap_map]
  exact List.filterMap_some

/-- What the schedule check leaves: every item has as many later pairs as the plan has later trials. -/
theorem scheduleProblem_eq_none {seen : List Nat} {items : List (Option CalibrationProbeExecution)}
    (h : scheduleProblem plan seen items = none) :
    ∃ typed : List CalibrationProbeExecution, items = typed.map some ∧
      ∀ item ∈ typed, item.trialSchedule.length = plan.val.parameters.val.trialCount := by
  have htrials := (validateWith_eq_ok.mp plan.val.parameters.2).1
  rw [check_eq_nil, decide_eq_true_iff] at htrials
  induction items generalizing seen with
  | nil => exact ⟨[], rfl, by simp⟩
  | cons item items ih =>
    cases item with
    | none => cases h
    | some item =>
      rw [scheduleProblem] at h
      split at h
      · cases h
      rename_i pairs hpairs
      split at h
      · cases h
      rename_i hlength
      split at h
      · cases h
      rename_i htyped
      split at h
      · cases h
      -- an item without a problem is typed, and so are the trials after its first
      obtain ⟨typed, rfl, hall⟩ := ih h
      refine ⟨item :: typed, rfl, List.forall_mem_cons.mpr ⟨?_, hall⟩⟩
      obtain ⟨later, rfl⟩ := exists_map_some (Bool.not_eq_true _ ▸ htyped)
      rw [List.length_map, not_not] at hlength
      rw [CalibrationProbeExecution.trialSchedule, hpairs, Option.getD_some, filterMap_id_map_some,
        List.length_cons, hlength]
      omega

/-- As many items as probes, each with every trial, expand to all slots. -/
theorem expand_all {n : Nat} {probes : List HeldOutCalibrationProbe} {items : List CalibrationProbeExecution}
    (hlength : items.length = probes.length) (hall : ∀ item ∈ items, item.trialSchedule.length = n) :
    (probes.zip items).flatMap (fun execution =>
        (List.range execution.2.trialSchedule.length).map fun trial => (execution.1, trial)) =
      probes.flatMap fun probe => (List.range n).map fun trial => (probe, trial) := by
  induction probes generalizing items with
  | nil => rfl
  | cons probe probes ih =>
    cases items with
    | nil => cases hlength
    | cons item items =>
      rw [List.forall_mem_cons] at hall
      rw [List.zip_cons_cons, List.flatMap_cons, List.flatMap_cons, hall.1,
        ih (Nat.succ.inj hlength) hall.2]

/-- An admitted batch is expanded to the schedule that the receipt expects. -/
theorem expandedSlots_of_admitted {executions : Option (List (Option CalibrationProbeExecution))}
    (h : preflightCalibration plan executions = .ok none) :
    expandedSlots plan (typedItems executions) = plan.expected := by
  have hschedule : capabilityScheduleProblem plan executions = none := by
    rw [preflightCalibration] at h
    split at h
    · cases h
    · assumption
  unfold capabilityScheduleProblem at hschedule
  split at hschedule
  · cases hschedule
  rename_i items
  split at hschedule
  · cases hschedule
  rename_i hlength
  obtain ⟨typed, rfl, hall⟩ := scheduleProblem_eq_none hschedule
  rw [List.length_map, not_not] at hlength
  rw [expandedSlots, typedItems, Option.getD_some, filterMap_id_map_some]
  exact expand_all hlength hall

theorem value_ne_policyFailed {code : CalibrationBlockerCode} (h : code ≠ .policyFailed) :
    code.value.toList ≠ "calibration_policy_failed".toList := by
  cases code with
  | policyFailed => exact absurd rfl h
  | safety code => cases code <;> simp [CalibrationBlockerCode.value, ExecutionSafetyCode.value]
  | _ => simp [CalibrationBlockerCode.value]

/-! ### What a refusal says -/

/-- A read of the item raises what the run takes. -/
def CalibrationProbeExecution.Raises (item : CalibrationProbeExecution) : Prop :=
  item.definition = .error .caught ∨ item.request = .error .caught ∨ item.payloadSha256 = .error .caught ∨
    item.matchesDefinition = .error .caught ∨ item.safety = .error .caught

/-- The fault of a batch that a code names; the codes of a run name none. -/
def CalibrationBlockerCode.Says (plan : ObservedCalibrationPlan)
    (executions : Option (List (Option CalibrationProbeExecution))) : CalibrationBlockerCode → Prop
  | invalidInput => ∃ item ∈ typedItems executions, item.Raises
  | executionCoverage => ∀ items, executions = some items → items.length ≠ plan.val.probes.length
  | invalidExecution => ∃ items, executions = some items ∧ (none ∈ items ∨
      ∃ item, some item ∈ items ∧ (item.inputsTyped = false ∨ ∃ pairs, item.trialAdapters = some pairs ∧ none ∈ pairs))
  | trialCoverage => ∃ item ∈ typedItems executions, ∀ pairs, item.trialAdapters = some pairs →
      pairs.length ≠ plan.val.parameters.val.trialCount - 1
  | capabilityReuse => ∃ items, items <+: typedItems executions ∧
      ¬ ∃ capabilities : List Nat, items.flatMap (·.capabilities) = capabilities.map some ∧ capabilities.Nodup
  | candidateOrRubricMismatch => ∃ item ∈ typedItems executions, ∃ definition request,
      item.definition = .ok definition ∧ item.request = .ok request ∧
        (definition.1 ≠ plan.val.candidate ∨ request.1 ≠ plan.val.candidate ∨
          definition.2 ≠ plan.val.assertionContractSha256)
  | inputMismatch => ∃ item ∈ typedItems executions, ∃ request payload,
      item.request = .ok request ∧ item.payloadSha256 = .ok payload ∧ payload ≠ request.2
  | requestMismatch => ∃ item ∈ typedItems executions, item.matchesDefinition = .ok false
  | safety code => ∃ item ∈ typedItems executions, item.safety = .ok (some code)
  | executionFailed => False
  | executionIncomplete => False
  | policyFailed => False

/-- The faults of one item that its checks name. -/
def CalibrationProbeExecution.Fault (plan : ObservedCalibrationPlan) (item : CalibrationProbeExecution) :
    CalibrationBlockerCode → Prop
  | .invalidExecution => item.inputsTyped = false
  | .candidateOrRubricMismatch => ∃ definition request, item.definition = .ok definition ∧ item.request = .ok request ∧
      (definition.1 ≠ plan.val.candidate ∨ request.1 ≠ plan.val.candidate ∨
        definition.2 ≠ plan.val.assertionContractSha256)
  | .inputMismatch => ∃ request payload,
      item.request = .ok request ∧ item.payloadSha256 = .ok payload ∧ payload ≠ request.2
  | .requestMismatch => item.matchesDefinition = .ok false
  | .safety code => item.safety = .ok (some code)
  | _ => False

section Faults

variable {item : CalibrationProbeExecution} {code : CalibrationBlockerCode}

/-- **One item**: what its checks return is a fault of it. -/
theorem itemProblem_fault (h : itemProblem plan item = .ok (some code)) : item.Fault plan code := by
  unfold itemProblem at h
  split_ifs at h with htyped
  · obtain rfl := Option.some.inj (Except.ok.inj h)
    exact htyped
  obtain ⟨definition, hdefinition, h⟩ := bind_eq_ok_iff.mp h
  obtain ⟨request, hrequest, h⟩ := bind_eq_ok_iff.mp h
  split_ifs at h with hmismatch
  · obtain rfl := Option.some.inj (Except.ok.inj h)
    exact ⟨definition, request, hdefinition, hrequest, hmismatch⟩
  obtain ⟨payload, hpayload, h⟩ := bind_eq_ok_iff.mp h
  split_ifs at h with hinput
  · obtain rfl := Option.some.inj (Except.ok.inj h)
    exact ⟨request, payload, hrequest, hpayload, hinput⟩
  obtain ⟨matchesDefinition, hmatches, h⟩ := bind_eq_ok_iff.mp h
  split_ifs at h with hrequest'
  · obtain rfl := Option.some.inj (Except.ok.inj h)
    exact hmatches.trans (congrArg Except.ok hrequest')
  obtain ⟨safety, hsafety, h⟩ := bind_eq_ok_iff.mp h
  obtain ⟨found, rfl, rfl⟩ := Option.map_eq_some_iff.mp (Except.ok.inj h)
  exact hsafety

theorem itemProblem_raises (h : itemProblem plan item = .error .caught) : item.Raises := by
  unfold itemProblem at h
  split_ifs at h
  rcases bind_eq_error_iff.mp h with h | ⟨definition, -, h⟩
  · exact Or.inl h
  rcases bind_eq_error_iff.mp h with h | ⟨request, -, h⟩
  · exact Or.inr (Or.inl h)
  split_ifs at h
  rcases bind_eq_error_iff.mp h with h | ⟨payload, -, h⟩
  · exact Or.inr (Or.inr (Or.inl h))
  split_ifs at h
  rcases bind_eq_error_iff.mp h with h | ⟨matchesDefinition, -, h⟩
  · exact Or.inr (Or.inr (Or.inr (Or.inl h)))
  split_ifs at h
  rcases bind_eq_error_iff.mp h with h | ⟨safety, -, h⟩
  · exact Or.inr (Or.inr (Or.inr (Or.inr h)))
  · cases h

/-- **All items**: the first that has a problem answers for them. -/
theorem exists_of_itemsProblem {items : List CalibrationProbeExecution}
    {problem : Except CalibrationRaised (Option CalibrationBlockerCode)} (h : itemsProblem plan items = problem)
    (hproblem : problem ≠ .ok none) : ∃ item ∈ items, itemProblem plan item = problem := by
  induction items with
  | nil => exact absurd h.symm hproblem
  | cons item items ih =>
    rw [itemsProblem] at h
    split at h
    · obtain ⟨found, hmem, hfound⟩ := ih h
      exact ⟨found, List.mem_cons_of_mem _ hmem, hfound⟩
    · exact ⟨item, List.mem_cons_self, h⟩

/-- What is claimed was there, and nothing was claimed before. -/
theorem claimCapabilities_eq_some {seen claimed : List Nat} {capabilities : List (Option Nat)}
    (h : claimCapabilities seen capabilities = some claimed) :
    ∃ ids : List Nat, capabilities = ids.map some ∧ claimed = ids.reverse ++ seen := by
  induction capabilities generalizing seen with
  | nil =>
    obtain rfl := Option.some.inj h
    exact ⟨[], rfl, rfl⟩
  | cons capability rest ih =>
    cases capability with
    | none => cases h
    | some id =>
      rw [claimCapabilities] at h
      split_ifs at h
      obtain ⟨ids, rfl, rfl⟩ := ih h
      exact ⟨id :: ids, rfl, by simp⟩

theorem claimCapabilities_eq_none {seen : List Nat} {capabilities : List (Option Nat)}
    (h : claimCapabilities seen capabilities = none) :
    ¬ ∃ ids : List Nat, capabilities = ids.map some ∧ (ids.reverse ++ seen).Nodup := by
  rintro ⟨ids, rfl, hnodup⟩
  induction ids generalizing seen with
  | nil => cases h
  | cons id ids ih =>
    rw [List.map_cons, claimCapabilities] at h
    rw [List.reverse_cons, List.append_assoc, List.singleton_append] at hnodup
    split_ifs at h with hseen
    · exact (List.nodup_cons.mp hnodup.of_append_right).1 hseen
    · exact ih hnodup h

end Faults

/-- What the schedule check has seen when it is at an item: the capabilities of those before. -/
theorem scheduleProblem_names {items : List (Option CalibrationProbeExecution)} {code : CalibrationBlockerCode}
    (earlier : List CalibrationProbeExecution) (ids : List Nat)
    (hids : earlier.flatMap (·.capabilities) = ids.map some)
    (h : scheduleProblem plan ids.reverse items = some code) :
    code.Says plan (some (earlier.map some ++ items)) := by
  induction items generalizing earlier ids with
  | nil => cases h
  | cons item items ih =>
    cases item with
    | none =>
      obtain rfl := Option.some.inj h
      exact ⟨_, rfl, Or.inl (List.mem_append_right _ List.mem_cons_self)⟩
    | some item =>
      have htyped : typedItems (some (earlier.map some ++ some item :: items)) =
          earlier ++ item :: items.filterMap id := by
        rw [typedItems, Option.getD_some, List.filterMap_append, filterMap_id_map_some]
        rfl
      have hmem : item ∈ typedItems (some (earlier.map some ++ some item :: items)) := by
        rw [htyped]
        exact List.mem_append_right _ List.mem_cons_self
      rw [scheduleProblem] at h
      split at h
      · rename_i hpairs
        obtain rfl := Option.some.inj h
        refine ⟨item, hmem, fun pairs hsome => ?_⟩
        cases hpairs.symm.trans hsome
      rename_i pairs hpairs
      split_ifs at h with hlength hany
      · obtain rfl := Option.some.inj h
        refine ⟨item, hmem, fun pairs' hsome => ?_⟩
        rwa [← Option.some.inj (hpairs.symm.trans hsome)]
      · obtain rfl := Option.some.inj h
        obtain ⟨pair, hpair, hnone⟩ := List.any_eq_true.mp hany
        rw [Option.isNone_iff_eq_none] at hnone
        exact ⟨_, rfl, Or.inr ⟨item, List.mem_append_right _ List.mem_cons_self,
          Or.inr ⟨pairs, hpairs, hnone ▸ hpair⟩⟩⟩
      cases hclaim : claimCapabilities ids.reverse item.capabilities with
      | none =>
        rw [hclaim] at h
        obtain rfl := Option.some.inj h
        -- the capabilities up to this item are not all there, or not all different
        refine ⟨earlier ++ [item], ?_, ?_⟩
        · rw [htyped]
          exact ⟨items.filterMap id, by simp⟩
        · rintro ⟨all, hall, hnodup⟩
          rw [List.flatMap_append, hids, List.flatMap_singleton] at hall
          obtain ⟨before, rest, rfl, hbefore, hrest⟩ := List.append_eq_map_iff.mp hall
          obtain rfl := List.map_injective_iff.mpr (Option.some_injective _) hbefore
          refine claimCapabilities_eq_none hclaim ⟨rest, hrest.symm, ?_⟩
          rwa [← List.reverse_append, List.nodup_reverse]
      | some claimed =>
        rw [hclaim] at h
        -- they are, and the next item is checked against them too
        obtain ⟨own, hown, rfl⟩ := claimCapabilities_eq_some hclaim
        rw [← List.reverse_append] at h
        have hids' : (earlier ++ [item]).flatMap (·.capabilities) = (ids ++ own).map some := by
          rw [List.flatMap_append, hids, List.flatMap_singleton, hown, List.map_append]
        have hfault := ih (earlier ++ [item]) (ids ++ own) hids' h
        rwa [List.map_append, List.append_assoc] at hfault

/-- **A refused batch** has the fault that the code names. -/
theorem preflightCalibration_names {executions : Option (List (Option CalibrationProbeExecution))}
    {code : CalibrationBlockerCode} (h : preflightCalibration plan executions = .ok (some code)) :
    code.Says plan executions := by
  rw [preflightCalibration] at h
  split at h
  · rename_i problem hproblem
    obtain rfl := Option.some.inj (Except.ok.inj h)
    -- the schedule is checked before any item
    unfold capabilityScheduleProblem at hproblem
    split at hproblem
    · obtain rfl := Option.some.inj hproblem
      exact nofun
    · rename_i items
      split_ifs at hproblem with hlength
      · obtain rfl := Option.some.inj hproblem
        intro items' hitems
        rwa [← Option.some.inj hitems]
      · exact scheduleProblem_names [] [] rfl hproblem
  · obtain ⟨item, hmem, hitem⟩ := exists_of_itemsProblem h nofun
    have hfault := itemProblem_fault hitem
    -- each code says what is wrong with the item that it was found at
    cases code with
    | invalidExecution =>
      obtain ⟨item', hitem', heq⟩ := List.mem_filterMap.mp hmem
      obtain rfl : item' = some item := heq
      cases executions with
      | none => cases hitem'
      | some items => exact ⟨items, rfl, Or.inr ⟨item, hitem', Or.inl hfault⟩⟩
    | candidateOrRubricMismatch => exact ⟨item, hmem, hfault⟩
    | inputMismatch => exact ⟨item, hmem, hfault⟩
    | requestMismatch => exact ⟨item, hmem, hfault⟩
    | safety code => exact ⟨item, hmem, hfault⟩
    | _ => exact hfault.elim

theorem preflightCalibration_raises {executions : Option (List (Option CalibrationProbeExecution))}
    (h : preflightCalibration plan executions = .error .caught) :
    CalibrationBlockerCode.invalidInput.Says plan executions := by
  rw [preflightCalibration] at h
  split at h
  · cases h
  · obtain ⟨item, hmem, hitem⟩ := exists_of_itemsProblem h nofun
    exact ⟨item, hmem, itemProblem_raises hitem⟩

/-- The run was refused with a code before any judge was called. -/
structure Refused (plan : Option ObservedCalibrationPlan) (code : CalibrationBlockerCode)
    (r : ObservedCalibrationReceiptData) : Prop where
  plan_eq : r.plan = plan
  status : r.status = .blocked
  results : r.results = []
  count : r.judgeInvocationCount = 0
  code_eq : r.code = some code.value.toList

/-- A pre-execution blocker is accepted, with a plan or without. -/
theorem refusedCalibration_ok (plan : ObservedCalibrationPlan) {code : CalibrationBlockerCode}
    (hcode : code ≠ .policyFailed) :
    ∃ receipt, blockedCalibration code (some plan) [] 0 = .ok receipt ∧ Refused (some plan) code receipt.val := by
  have hevidence : ∀ v ∈ ObservedCalibrationReceiptData.blockedEvidenceMatchesCode
      ⟨some plan, .blocked, [], some (calibrationBlocker code), 0, decide (0 < 0)⟩ plan, v.1 = false := by
    rw [ObservedCalibrationReceiptData.blockedEvidenceMatchesCode, code_blocked,
      if_neg fun h => value_ne_policyFailed hcode (Option.some.inj h)]
    split
    · simpa [← List.length_pos_iff] using expected_pos plan
    · simp
  obtain ⟨receipt, hreceipt, hdata⟩ := blockedCalibration_ok (List.nil_append _) .nil le_rfl (Nat.zero_le _)
    (Nat.zero_le _) hevidence
  exact ⟨receipt, hreceipt, by rw [hdata], by rw [hdata], by rw [hdata], by rw [hdata]; rfl, by rw [hdata]; rfl⟩

/-- The receipt of a plan that its model refuses. -/
theorem unplannedCalibration_ok :
    ∃ receipt, blockedCalibration .invalidInput none [] 0 = .ok receipt ∧ Refused none .invalidInput receipt.val := by
  have hvalid : (⟨none, .blocked, [], some (calibrationBlocker .invalidInput), 0, decide (0 < 0)⟩ :
      ObservedCalibrationReceiptData).validate = .ok () := by
    refine validateWith_eq_ok.mpr ⟨rfl, ?_⟩
    rw [ObservedCalibrationReceiptData.completedResultsBindPlan, List.forall_mem_append]
    refine ⟨by simp [ObservedCalibrationReceiptData.executionRules], ?_⟩
    show ∀ v ∈ ObservedCalibrationReceiptData.unplannedRules _, v.1 = false
    simp only [ObservedCalibrationReceiptData.unplannedRules, List.forall_mem_cons, violation_fst, not_not]
    exact ⟨by simp, rfl, by simp⟩
  exact ⟨⟨_, hvalid⟩, mapError_eq_ok_iff.mpr (construct_of_ok hvalid), rfl, rfl, rfl, rfl, rfl⟩

/-- What an admitted run says: the schedule of the plan was followed, exactly the
judgments before the first step without one are retained, and each is what a bound
call of its own step said. -/
structure ObservedRun (plan : ObservedCalibrationPlan) (steps : List CalibrationStep)
    (r : ObservedCalibrationReceiptData) : Prop where
  schedule : steps.map Prod.fst = plan.expected
  observed : Observed plan [] steps r
  judged : List.Forall₂ (fun step result => ∃ call ∈ step.2.calls, JudgedBy plan step.1 call result)
    (steps.take r.results.length) r.results

/-- Why a run is refused: its plan is no plan, or the batch has the fault that the code names. -/
def RefusedFor (plan : Except CalibrationRaised ObservedCalibrationPlan)
    (executions : Option (List (Option CalibrationProbeExecution))) (code : CalibrationBlockerCode) : Prop :=
  match plan with
  | .error exc => exc = .caught ∧ code = .invalidInput
  | .ok p => code.Says p executions ∧ preflightCalibration p executions ≠ .ok none

/-- An exception leaves the run: that of the plan, of the preflight, or of the first case without a judgment. -/
def RunEscapes (plan : Except CalibrationRaised ObservedCalibrationPlan)
    (executions : Option (List (Option CalibrationProbeExecution))) (world : Nat → CaseRun) : Prop :=
  plan = .error .escaped ∨ ∃ p, plan = .ok p ∧ (preflightCalibration p executions = .error .escaped ∨
    preflightCalibration p executions = .ok none ∧ Escapes p (calibrationSteps p (typedItems executions) world))

/-- A batch that is refused, or that raises what the run takes, leaves no exception. -/
theorem not_runEscapes {executions : Option (List (Option CalibrationProbeExecution))} {world : Nat → CaseRun}
    (hraised : preflightCalibration plan executions ≠ .error .escaped)
    (hadmitted : preflightCalibration plan executions ≠ .ok none) : ¬ RunEscapes (.ok plan) executions world := by
  rintro (h | ⟨p, hp, h⟩)
  · cases h
  · obtain rfl := Except.ok.inj hp
    rcases h with h | ⟨h, -⟩
    · exact hraised h
    · exact hadmitted h

/-- A batch that is not admitted is refused for what the code says. -/
theorem refused_of_stopped {executions : Option (List (Option CalibrationProbeExecution))} {world : Nat → CaseRun}
    {code : CalibrationBlockerCode} (hfault : code.Says plan executions)
    (hrun : executeScorerCalibration (.ok plan) executions world = blockedCalibration code (some plan) [] 0)
    (hstopped : preflightCalibration plan executions ≠ .ok none) :
    ∃ receipt : ObservedCalibrationReceipt, executeScorerCalibration (.ok plan) executions world = .ok receipt ∧
      ∃ code, RefusedFor (.ok plan) executions code ∧ Refused (some plan) code receipt.val := by
  have hcode : code ≠ .policyFailed := by
    rintro rfl
    exact hfault
  obtain ⟨receipt, hreceipt, hrefused⟩ := refusedCalibration_ok plan hcode
  exact ⟨receipt, hrun.trans hreceipt, code, ⟨hfault, hstopped⟩, hrefused⟩

/-- **An observed calibration** yields a receipt unless an exception leaves it: of what was observed
when the batch is admitted, and else of a run in which no judge was called, with the reason. -/
theorem executeScorerCalibration_observed (plan : Except CalibrationRaised ObservedCalibrationPlan)
    (executions : Option (List (Option CalibrationProbeExecution))) (world : Nat → CaseRun) :
    RunEscapes plan executions world ∧ executeScorerCalibration plan executions world = .error .escaped ∨
    ¬ RunEscapes plan executions world ∧
    ∃ receipt : ObservedCalibrationReceipt, executeScorerCalibration plan executions world = .ok receipt ∧
      ((∃ p, plan = .ok p ∧ preflightCalibration p executions = .ok none ∧
          ObservedRun p (calibrationSteps p (typedItems executions) world) receipt.val) ∨
        ∃ code, RefusedFor plan executions code ∧ Refused plan.toOption code receipt.val) := by
  rcases plan with (- | -) | p
  · obtain ⟨receipt, hreceipt, hrefused⟩ := unplannedCalibration_ok
    refine Or.inr ⟨?_, receipt, hreceipt, Or.inr ⟨.invalidInput, ⟨rfl, rfl⟩, hrefused⟩⟩
    rintro (h | ⟨p, h, -⟩) <;> cases h
  · exact Or.inl ⟨Or.inl rfl, rfl⟩
  rcases h : preflightCalibration p executions with (- | -) | (- | code)
  · -- a check raises what the run takes
    obtain ⟨receipt, hreceipt, hrefused⟩ := refused_of_stopped (preflightCalibration_raises h)
      (show executeScorerCalibration (.ok p) executions world = _ by rw [executeScorerCalibration, h]) (by simp [h])
    refine Or.inr ⟨?_, receipt, hreceipt, Or.inr hrefused⟩
    exact not_runEscapes (by rw [h]; exact nofun) (by rw [h]; exact nofun)
  · refine Or.inl ⟨Or.inr ⟨p, rfl, Or.inl h⟩, ?_⟩
    rw [executeScorerCalibration, h]
  · let steps := calibrationSteps p (typedItems executions) world
    have hslots : steps.map Prod.fst = p.expected := by
      rw [← expandedSlots_of_admitted h]
      apply List.ext_getElem
      · simp [steps, calibrationSteps]
      · intro position _ _
        simp [steps, calibrationSteps]
    have hrun : executeScorerCalibration (.ok p) executions world = observe p [] 0 steps := by
      rw [executeScorerCalibration, h]
    by_cases hends : Escapes p steps
    · exact Or.inl ⟨Or.inr ⟨p, rfl, Or.inr ⟨h, hends⟩⟩, hrun.trans (observe_of_escapes [] hends)⟩
    obtain ⟨receipt, hreceipt, hobserved⟩ :=
      observe_spec (show (([] : List CalibrationStep) ++ steps).map Prod.fst = p.expected from hslots) .nil hends
    refine Or.inr ⟨?_, receipt, hrun.trans hreceipt, Or.inl ⟨p, rfl, h, hslots, hobserved, ?_⟩⟩
    · rintro (h' | ⟨p', hp, h'⟩)
      · cases h'
      obtain rfl := Except.ok.inj hp
      rcases h' with h' | ⟨-, h'⟩
      · cases h.symm.trans h'
      · exact hends h'
    · rw [hobserved.results, List.nil_append]
      exact retained_judged steps
  · -- a check names a fault
    obtain ⟨receipt, hreceipt, hrefused⟩ := refused_of_stopped (preflightCalibration_names h)
      (show executeScorerCalibration (.ok p) executions world = _ by rw [executeScorerCalibration, h]) (by simp [h])
    refine Or.inr ⟨?_, receipt, hreceipt, Or.inr hrefused⟩
    exact not_runEscapes (by rw [h]; exact nofun) (by rw [h]; exact nofun)

end SkillsSdk
