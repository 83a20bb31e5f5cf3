/-
SkillsSdk/Models/MatchedPolicy.lean

Budgets, selection policies and the summary of a matched lane.

A float stands for the number that its text denotes, and the arithmetic on such
numbers is a parameter (`DecimalArithmetic`): the interpreter works in a decimal
context of limited precision, the decisions are meant over exact rationals.
-/
import SkillsSdk.Lib.Samples
import SkillsSdk.Raising

namespace SkillsSdk

open Rx Rx.Regex

/-! ### Arithmetic -/

/-- `Decimal` arithmetic, and `float(…)` of a decimal. -/
structure DecimalArithmetic where
  add : ℚ → ℚ → ℚ
  sub : ℚ → ℚ → ℚ
  mul : ℚ → ℚ → ℚ
  div : ℚ → ℚ → ℚ
  toFloat : ℚ → ℚ

/-- Nothing is rounded. -/
def DecimalArithmetic.exact : DecimalArithmetic := ⟨(· + ·), (· - ·), (· * ·), (· / ·), id⟩

variable (A : DecimalArithmetic)

/-- `sum(…)` of decimals. -/
def decimalSum (values : List ℚ) : ℚ := values.foldl A.add 0

/-- `_mean`. -/
def meanOf (values : List ℚ) : ℚ := A.toFloat (A.div (decimalSum A values) values.length)

/-- `float(Decimal(str(max(deltas))) - Decimal(str(min(deltas))))`. -/
def spreadOf (deltas : List ℚ) : ℚ := A.toFloat (A.sub (Samples.upper deltas) (Samples.lower deltas))

/-! ### Policies -/

structure MatchedRunBudgetData where
  maximumProviderInvocations : Nat
  maximumJudgeInvocations : Nat
  maximumElapsedSeconds : ℚ
  maximumReportedCost : Option Text
  currency : Option Text
  deriving DecidableEq

namespace MatchedRunBudgetData

/-- `(?:0|[1-9][0-9]*)(?:\.[0-9]+)?`. -/
def costPattern : Regex Char :=
  seq (alt (word "0") (seq (cls fun c => isDigit c && c != '0') (many (cls isDigit))))
    (opt (seq (word ".") (plus (cls isDigit))))

def validate (b : MatchedRunBudgetData) : Except ValidationError Unit :=
  validateWith "MatchedRunBudget"
    (check (1 ≤ b.maximumProviderInvocations && b.maximumProviderInvocations ≤ 128)
        "maximum_provider_invocations" "Input should be between 1 and 128" ++
      check (1 ≤ b.maximumJudgeInvocations && b.maximumJudgeInvocations ≤ 128)
        "maximum_judge_invocations" "Input should be between 1 and 128" ++
      check (0 < b.maximumElapsedSeconds) "maximum_elapsed_seconds" "Input should be greater than 0" ++
      check (b.maximumReportedCost.all fun cost => fullmatch costPattern cost && cost.length ≤ 128)
        "maximum_reported_cost" "reported-cost limit requires a canonical nonnegative decimal string" ++
      check (b.currency.all fun code => code.length == 3 && code.all isUpper)
        "currency" "reported-cost currency requires three uppercase ASCII letters")
    [violation (b.maximumReportedCost.isNone ≠ b.currency.isNone)
      "reported-cost limit and currency must be supplied together"]

end MatchedRunBudgetData

abbrev MatchedRunBudget := Accepted MatchedRunBudgetData.validate

structure MatchedSelectionPolicyData where
  minimumTrialsPerCase : Nat
  minimumQualifyingCaseCount : Nat
  maximumTrialDeltaRange : ℚ
  deriving DecidableEq

def MatchedSelectionPolicyData.validate (p : MatchedSelectionPolicyData) : Except ValidationError Unit :=
  validateWith "MatchedSelectionPolicy"
    (check (2 ≤ p.minimumTrialsPerCase && p.minimumTrialsPerCase ≤ 64) "minimum_trials_per_case"
        "Input should be between 2 and 64" ++
      check (1 ≤ p.minimumQualifyingCaseCount && p.minimumQualifyingCaseCount ≤ 10)
        "minimum_qualifying_case_count" "Input should be between 1 and 10" ++
      check (0 ≤ p.maximumTrialDeltaRange && p.maximumTrialDeltaRange ≤ 1)
        "maximum_trial_delta_range" "Input should be between 0 and 1") []

abbrev MatchedSelectionPolicy := Accepted MatchedSelectionPolicyData.validate

/-! ### Cases -/

/-- `[A-Za-z0-9][A-Za-z0-9._:-]*`. -/
def isCaseToken (t : Text) : Bool :=
  fullmatch (seq (cls isAlnum) (many (cls fun c => isAlnum c || oneOf "._:-" c))) t

structure MatchedCaseSummaryData where
  caseId : Text
  deltas : List ℚ
  qualifyingConfidence : List Bool
  meanDelta : ℚ
  deltaRange : ℚ
  deriving DecidableEq

def MatchedCaseSummaryData.validate (c : MatchedCaseSummaryData) : Except ValidationError Unit :=
  validateWith "MatchedCaseSummary"
    (check (isCaseToken c.caseId && decide (c.caseId.length ≤ 128)) "case_id"
        "matched case identifier requires an exact public token" ++
      check (1 ≤ c.deltas.length && c.deltas.length ≤ 64) "deltas"
        "Tuple should have between 1 and 64 items" ++
      check (1 ≤ c.qualifyingConfidence.length && c.qualifyingConfidence.length ≤ 64)
        "qualifying_confidence" "Tuple should have between 1 and 64 items" ++
      check (-1 ≤ c.meanDelta && c.meanDelta ≤ 1) "mean_delta" "Input should be between -1 and 1" ++
      check (0 ≤ c.deltaRange && c.deltaRange ≤ 2) "delta_range" "Input should be between 0 and 2")
    [violation (c.deltas.length ≠ c.qualifyingConfidence.length)
        "every trial delta requires its confidence eligibility",
      violation (c.deltas.any fun value => !decide (-1 ≤ value ∧ value ≤ 1))
        "trial deltas must be finite normalized differences",
      violation (c.meanDelta ≠ meanOf A c.deltas ∨ c.deltaRange ≠ spreadOf A c.deltas)
        "case summaries must equal their retained observations"]

abbrev MatchedCaseSummary := Accepted (MatchedCaseSummaryData.validate A)

/-! ### Decisions -/

inductive LaneDecision where
  | candidate
  | baseline
  | unchanged
  | inconclusive
  deriving DecidableEq

variable {A} in
/-- The case has too few trials, a trial of low confidence or too wide a range. -/
def MatchedCaseSummary.isUnstable (policy : MatchedSelectionPolicy) (c : MatchedCaseSummary A) : Bool :=
  decide (c.val.deltas.length < policy.val.minimumTrialsPerCase) ||
    !c.val.qualifyingConfidence.all id || decide (policy.val.maximumTrialDeltaRange < c.val.deltaRange)

variable {A} in
/-- `_decision`. -/
def decisionOf (cases : List (MatchedCaseSummary A)) (policy : MatchedSelectionPolicy)
    (threshold mean : ℚ) : LaneDecision :=
  if cases.any (·.isUnstable policy) then .inconclusive
  else if |mean| < threshold then .unchanged
  else
    let direction : ℚ := if 0 < mean then 1 else -1
    let count := cases.countP fun c => decide (threshold ≤ direction * c.val.meanDelta)
    if count < policy.val.minimumQualifyingCaseCount then .inconclusive
    else if direction = 1 then .candidate
    else .baseline

structure MatchedLaneSummaryData where
  policy : MatchedSelectionPolicy
  minimumNormalizedDelta : ℚ
  cases : List (MatchedCaseSummary A)
  meanDelta : ℚ
  decision : LaneDecision
  deriving DecidableEq

variable {A} in
def MatchedLaneSummaryData.validate (s : MatchedLaneSummaryData A) : Except ValidationError Unit :=
  let expectedMean := meanOf A (s.cases.map (·.val.meanDelta))
  validateWith "MatchedLaneSummary"
    (check (0 < s.minimumNormalizedDelta && s.minimumNormalizedDelta ≤ 1) "minimum_normalized_delta"
        "Input should be greater than 0 and at most 1" ++
      check (s.cases.length == 10) "cases" "Tuple should have 10 items" ++
      check (-1 ≤ s.meanDelta && s.meanDelta ≤ 1) "mean_delta" "Input should be between -1 and 1")
    [violation ((s.cases.map (·.val.caseId)).dedup.length ≠ 10)
        "matched summary requires ten unique managed case identifiers",
      violation (s.meanDelta ≠ expectedMean ∨
          s.decision ≠ decisionOf s.cases s.policy s.minimumNormalizedDelta expectedMean)
        "lane summary must equal its evidence and selection policy"]

abbrev MatchedLaneSummary := Accepted (@MatchedLaneSummaryData.validate A)

/-! ### Building a summary -/

/-- One case: its id, the deltas of its trials and whether each is confident. -/
structure CaseObservation where
  caseId : Text
  deltas : List ℚ
  confidence : List Bool
  deriving DecidableEq

/-- A round of the loop of `build_matched_lane_summary`. -/
def buildCase (o : CaseObservation) : Except ValueRaised (MatchedCaseSummary A) := do
  raiseValueErrors
    [violation (¬ (1 ≤ o.deltas.length ∧ o.deltas.length ≤ 64) ∨
        o.deltas.any fun value => !decide (-1 ≤ value ∧ value ≤ 1))
      "matched deltas require bounded exact numeric tuples"]
  validated (construct (MatchedCaseSummaryData.validate A)
    { caseId := o.caseId
      deltas := o.deltas
      qualifyingConfidence := o.confidence
      meanDelta := meanOf A o.deltas
      deltaRange := spreadOf A o.deltas })

/-- `build_matched_lane_summary`. -/
def buildMatchedLaneSummary (observations : List CaseObservation) (policy : MatchedSelectionPolicy)
    (minimumNormalizedDelta : ℚ) : Except ValueRaised (MatchedLaneSummary A) := do
  raiseValueErrors
    [violation (¬ (0 < minimumNormalizedDelta ∧ minimumNormalizedDelta ≤ 1))
        "matched threshold requires a finite positive normalized delta",
      violation (observations.length ≠ 10)
        "matched summary requires exactly ten ordered case observations"]
  let values ← observations.mapM (buildCase A)
  let mean := meanOf A (values.map (·.val.meanDelta))
  validated (construct MatchedLaneSummaryData.validate
    { policy := policy
      minimumNormalizedDelta := minimumNormalizedDelta
      cases := values
      meanDelta := mean
      decision := decisionOf values policy minimumNormalizedDelta mean })

end SkillsSdk
