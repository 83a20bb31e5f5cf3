/-
SkillsSdk/Models/Coverage.lean

Which declared claims the cases of a set cover: what an audit of a coverage plan
asks for, and the result of assessing one.

An audit looks at the plan in two partial checks.  Together they report nothing
exactly when the mappings relate claims, cases and gaps as `MapsClaims` says and
map nothing but declared claims (`audit_eq_nil_iff`).
-/
import SkillsSdk.Models.MatchedScope
import SkillsSdk.Models.ScenarioQuality

namespace SkillsSdk

/-! ### What an audit asks for -/

namespace ScenarioCoveragePlanData

variable {p : ScenarioCoveragePlanData} {active : List Text}

/-- The mappings relate the declared claims to active cases and declared gaps. -/
structure MapsClaims (p : ScenarioCoveragePlanData) (active : List Text) : Prop where
  claims_unique : (p.claims.map (·.id)).Nodup
  gaps_unique : p.gapIds.Nodup
  /-- Each declared claim is mapped exactly once. -/
  mapped_once : ∀ c ∈ p.claims, (p.mappings.map (·.claimId)).count c.id = 1
  names_some : ∀ m ∈ p.mappings, m.caseIds ≠ [] ∨ m.gapIds ≠ []
  no_repeats : ∀ m ∈ p.mappings, m.caseIds.Nodup ∧ m.gapIds.Nodup
  cases_active : ∀ m ∈ p.mappings, ∀ id ∈ m.caseIds, id ∈ active
  gaps_declared : ∀ m ∈ p.mappings, ∀ id ∈ m.gapIds, id ∈ p.gapIds
  gaps_named : ∀ id ∈ p.gapIds, ∃ m ∈ p.mappings, id ∈ m.gapIds

/-- Nothing but declared claims is mapped. -/
def MapsOnlyDeclared (p : ScenarioCoveragePlanData) : Prop :=
  ∀ m ∈ p.mappings, m.claimId ∈ p.claims.map (·.id)

theorem invalidMapping_eq_false_iff {m : ClaimCoverage} :
    p.invalidMapping m = false ↔ (m.caseIds ≠ [] ∨ m.gapIds ≠ []) ∧ m.claimId ∈ p.claims.map (·.id) ∧
      (m.caseIds.Nodup ∧ m.gapIds.Nodup) ∧ ∀ id ∈ m.gapIds, id ∈ p.gapIds := by
  simp only [invalidMapping, Bool.or_eq_false_iff, Bool.and_eq_false_iff, decide_eq_false_iff_not,
    not_not, Bool.not_eq_false', List.all_eq_true, decide_eq_true_eq]
  tauto

/-- The first check finds nothing. -/
theorem declarationFindings_eq_nil_iff : p.declarationFindings = [] ↔
    ((p.claims.map (·.id)).Nodup ∧ p.gapIds.Nodup ∧ (p.mappings.map (·.claimId)).Nodup) ∧
      (∀ m ∈ p.mappings, p.invalidMapping m = false) ∧
      sameSet (p.mappings.flatMap (·.gapIds)) p.gapIds = true := by
  rw [declarationFindings, List.append_eq_nil_iff, List.append_eq_nil_iff, List.map_eq_nil_iff,
    List.filter_eq_nil_iff, and_assoc]
  refine and_congr ?_ (and_congr ?_ ?_)
  · split_ifs with h
    · refine iff_of_false (by simp) fun hall => ?_
      rcases h with h | h | h
      · exact h hall.1
      · exact h hall.2.1
      · exact h hall.2.2
    · push Not at h
      exact iff_of_true rfl h
  · exact forall₂_congr fun m _ => Bool.eq_false_iff.symm
  · split_ifs with h
    · exact iff_of_true rfl h
    · exact iff_of_false (by simp) h

/-- The second check finds nothing more. -/
theorem audit_eq_nil_iff_declared : p.audit active = [] ↔ p.declarationFindings = [] ∧
    sameSet (p.mappings.map (·.claimId)) (p.claims.map (·.id)) = true ∧
      ∀ m ∈ p.mappings, ∀ id ∈ m.caseIds, id ∈ active := by
  rw [audit, List.append_eq_nil_iff, List.append_eq_nil_iff, List.map_eq_nil_iff,
    List.filter_eq_nil_iff, and_assoc]
  refine and_congr_right fun _ => and_congr ?_ ?_
  · split_ifs with h
    · exact iff_of_true rfl h
    · exact iff_of_false (by simp) h
  · refine forall₂_congr fun m _ => ?_
    rw [Bool.not_eq_true, Bool.not_eq_false', List.all_eq_true]
    simp only [decide_eq_true_eq]

/-- A list that mentions only what another declares, each of it once, has no repeats. -/
theorem nodup_of_counts {α : Type*} [BEq α] [LawfulBEq α] {l declared : List α}
    (hsub : ∀ a ∈ l, a ∈ declared) (hcount : ∀ a ∈ declared, l.count a = 1) : l.Nodup :=
  List.nodup_iff_count_le_one.mpr fun a => by
    by_contra hmore
    have ha : a ∈ l := List.count_pos_iff.mp (Nat.lt_of_not_le fun h => hmore (h.trans (Nat.zero_le 1)))
    exact hmore (hcount a (hsub a ha)).le

/-- **The two checks report nothing** exactly on such a mapping of the declared claims. -/
theorem audit_eq_nil_iff : (p.declarationFindings = [] ∧ p.audit active = []) ↔
    p.MapsClaims active ∧ p.MapsOnlyDeclared := by
  rw [audit_eq_nil_iff_declared, and_self_left, declarationFindings_eq_nil_iff, sameSet_iff, sameSet_iff]
  simp only [invalidMapping_eq_false_iff]
  constructor
  · rintro ⟨⟨⟨hclaims, hgaps, hmapped⟩, hmappings, hused⟩, hsame, hactive⟩
    refine ⟨⟨hclaims, hgaps, ?_, ?_, ?_, hactive, ?_, ?_⟩, ?_⟩
    · intro c hc
      exact List.count_eq_one_of_mem hmapped ((hsame c.id).mpr (List.mem_map_of_mem hc))
    · exact fun m hm => (hmappings m hm).1
    · exact fun m hm => (hmappings m hm).2.2.1
    · exact fun m hm => (hmappings m hm).2.2.2
    · intro id hid
      exact List.mem_flatMap.mp ((hused id).mpr hid)
    · exact fun m hm => (hmappings m hm).2.1
  · rintro ⟨h, hdeclared⟩
    have honly : ∀ id ∈ p.mappings.map (·.claimId), id ∈ p.claims.map (·.id) := by
      intro id hid
      obtain ⟨m, hm, rfl⟩ := List.mem_map.mp hid
      exact hdeclared m hm
    have honce : ∀ id ∈ p.claims.map (·.id), (p.mappings.map (·.claimId)).count id = 1 := by
      intro id hid
      obtain ⟨c, hc, rfl⟩ := List.mem_map.mp hid
      exact h.mapped_once c hc
    refine ⟨⟨⟨h.claims_unique, h.gaps_unique, nodup_of_counts honly honce⟩, ?_, ?_⟩, ?_, h.cases_active⟩
    · exact fun m hm => ⟨h.names_some m hm, hdeclared m hm, h.no_repeats m hm, h.gaps_declared m hm⟩
    · intro id
      constructor
      · intro hid
        obtain ⟨m, hm, hid⟩ := List.mem_flatMap.mp hid
        exact h.gaps_declared m hm id hid
      · exact fun hid => List.mem_flatMap.mpr (h.gaps_named id hid)
    · intro id
      constructor
      · exact honly id
      · intro hid
        exact List.count_pos_iff.mp ((honce id hid).symm ▸ Nat.one_pos)

/-- What an audit says is one of four fixed findings. -/
theorem mem_audit {f : String × String} (h : f ∈ p.audit active) :
    f ∈ [("duplicate_coverage_id", "coverage ids must be unique"),
      ("invalid_claim_mapping", "map claims only to active cases or declared gaps"),
      ("unused_coverage_gap", "every gap must map to a claim"),
      ("unmapped_claim", "map every declared claim exactly once")] := by
  rw [audit, declarationFindings] at h
  simp only [List.mem_append, List.mem_map] at h
  rcases h with (((h | ⟨m, -, rfl⟩) | h) | h) | ⟨m, -, rfl⟩
  · split_ifs at h
    · simp [List.mem_singleton.mp h]
    · exact absurd h List.not_mem_nil
  · simp
  · split_ifs at h
    · exact absurd h List.not_mem_nil
    · simp [List.mem_singleton.mp h]
  · split_ifs at h
    · exact absurd h List.not_mem_nil
    · simp [List.mem_singleton.mp h]
  · simp

/-- The gaps that the plan leaves open, sorted. -/
def sortedGapIds (p : ScenarioCoveragePlanData) : List PackageId :=
  p.gapIds.insertionSort fun a b => a.val ≤ b.val

theorem sortedGapIds_eq_nil_iff : p.sortedGapIds = [] ↔ p.gaps = [] := by
  rw [sortedGapIds, ← List.length_eq_zero_iff, List.length_insertionSort, gapIds, List.length_map,
    List.length_eq_zero_iff]

end ScenarioCoveragePlanData

/-! ### The result -/

/-- A receipt of the second version. -/
abbrev ScenarioQualityReceiptV2 := { r : ScenarioQualityReceipt // r.val.version = .v2 }

structure ScenarioCoverageResultData where
  candidate : Option PackageCandidateIdentity
  scenarioSetId : Option NonEmptyText
  status : VerificationStatus
  quality : ScenarioQualityReceiptV2
  plan : Option ScenarioCoveragePlan := none
  activeCaseIds : List Text := []
  openGapIds : List PackageId := []
  coverageComplete : Bool := false
  findings : List ScenarioQualityFinding := []

namespace ScenarioCoverageResultData

/-- The gaps that the plan of the result leaves open. -/
def expectedGaps (plan : Option ScenarioCoveragePlan) : List PackageId :=
  (plan.map fun p => p.val.sortedGapIds).getD []

/-- `result_matches_evidence`. -/
def resultMatchesEvidence (r : ScenarioCoverageResultData) : List (Bool × String) :=
  [violation (r.candidate ≠ r.quality.val.val.candidate ∨ r.scenarioSetId ≠ r.quality.val.val.scenarioSetId)
      "coverage must bind its quality receipt",
    violation (¬ r.activeCaseIds.Nodup) "active coverage case ids must be unique",
    violation (r.openGapIds ≠ expectedGaps r.plan) "coverage must preserve all declared gaps",
    violation (r.status = .pass ∧ (r.findings ≠ [] ∨ r.quality.val.val.status ≠ .pass ∨ r.plan.isNone ∨
        r.activeCaseIds.length ≠ 10))
      "passing coverage requires quality, a plan, ten active cases and no findings",
    violation (r.status = .pass ∧ r.plan.any fun p =>
        !decide (some p.val.candidate = r.candidate) || !decide (some p.val.scenarioSetId = r.scenarioSetId))
      "passing coverage plan must bind the same candidate and set",
    violation (r.status = .pass ∧ r.plan.any fun p => !decide (p.val.audit r.activeCaseIds = []))
      "passing coverage requires a complete declared map",
    violation (r.status = .blocked ∧ r.findings = []) "blocked coverage requires findings",
    violation (r.coverageComplete ≠ (decide (r.status = .pass) && r.openGapIds.isEmpty))
      "coverage completeness requires a passing audit without open gaps"]

def validate (r : ScenarioCoverageResultData) : Except ValidationError Unit :=
  validateWith "ScenarioCoverageResult"
    (check (r.activeCaseIds.all ScenarioCoveragePlanData.isExactCaseId) "active_case_ids"
      "String should match pattern '\\S'")
    r.resultMatchesEvidence

/-- What a passing result shows about its plan. -/
structure PassingPlan (r : ScenarioCoverageResultData) (p : ScenarioCoveragePlan) : Prop where
  quality_eq : r.quality.val.val.status = .pass
  ten : r.activeCaseIds.length = 10
  candidate_eq : some p.val.candidate = r.candidate
  set_eq : some p.val.scenarioSetId = r.scenarioSetId
  audit_eq : p.val.audit r.activeCaseIds = []

/-- What the model of the result takes. -/
structure Consistent (r : ScenarioCoverageResultData) : Prop where
  exact : ∀ id ∈ r.activeCaseIds, ScenarioCoveragePlanData.isExactCaseId id = true
  candidate_eq : r.candidate = r.quality.val.val.candidate
  set_eq : r.scenarioSetId = r.quality.val.val.scenarioSetId
  unique : r.activeCaseIds.Nodup
  gaps_eq : r.openGapIds = expectedGaps r.plan
  passing : r.status = .pass → r.findings = [] ∧ ∃ p, r.plan = some p ∧ r.PassingPlan p
  blocked : r.status = .blocked → r.findings ≠ []
  complete_eq : r.coverageComplete = (decide (r.status = .pass) && r.openGapIds.isEmpty)

theorem validate_eq_ok_iff {r : ScenarioCoverageResultData} : r.validate = .ok () ↔ r.Consistent := by
  rw [validate, validateWith_eq_ok, check_eq_nil, List.all_eq_true]
  simp only [resultMatchesEvidence, List.forall_mem_cons, violation_fst, List.not_mem_nil,
    false_imp_iff, implies_true, and_true]
  constructor
  -- each rule is negated in the source; the passing ones speak of the plan
  · rintro ⟨hexact, hbound, hunique, hgaps, hpass, hsame, haudit, hblocked, hcomplete⟩
    push Not at hbound hunique hgaps hcomplete
    refine ⟨hexact, hbound.1, hbound.2, hunique, hgaps, fun hstatus => ?_,
      fun hstatus hnil => hblocked ⟨hstatus, hnil⟩, hcomplete⟩
    rcases hplan : r.plan with - | p
    · exact absurd (hplan ▸ rfl) (fun h : r.plan.isNone = true => hpass ⟨hstatus, Or.inr (Or.inr (Or.inl h))⟩)
    have hsame' : some p.val.candidate = r.candidate ∧ some p.val.scenarioSetId = r.scenarioSetId := by
      rw [hplan, Option.any_some] at hsame
      simpa [hstatus] using hsame
    have haudit' : p.val.audit r.activeCaseIds = [] := by
      rw [hplan, Option.any_some] at haudit
      simpa [hstatus] using haudit
    have hfindings : r.findings = [] := by
      by_contra hne
      exact hpass ⟨hstatus, Or.inl hne⟩
    have hquality : r.quality.val.val.status = .pass := by
      by_contra hne
      exact hpass ⟨hstatus, Or.inr (Or.inl hne)⟩
    have hten : r.activeCaseIds.length = 10 := by
      by_contra hne
      exact hpass ⟨hstatus, Or.inr (Or.inr (Or.inr hne))⟩
    exact ⟨hfindings, p, rfl, hquality, hten, hsame'.1, hsame'.2, haudit'⟩
  · intro h
    refine ⟨h.exact, ?_, not_not.mpr h.unique, not_not.mpr h.gaps_eq, ?_, ?_, ?_,
      fun hb => h.blocked hb.1 hb.2, not_not.mpr h.complete_eq⟩
    · rintro (hne | hne)
      · exact hne h.candidate_eq
      · exact hne h.set_eq
    · rintro ⟨hstatus, hany⟩
      obtain ⟨hfindings, p, hplan, hp⟩ := h.passing hstatus
      rcases hany with hne | hne | hnone | hne
      · exact hne hfindings
      · exact hne hp.quality_eq
      · rw [hplan] at hnone
        cases hnone
      · exact hne hp.ten
    · rintro ⟨hstatus, hany⟩
      obtain ⟨-, p, hplan, hp⟩ := h.passing hstatus
      rw [hplan, Option.any_some, hp.candidate_eq, hp.set_eq] at hany
      simp at hany
    · rintro ⟨hstatus, hany⟩
      obtain ⟨-, p, hplan, hp⟩ := h.passing hstatus
      rw [hplan, Option.any_some, hp.audit_eq] at hany
      simp at hany

end ScenarioCoverageResultData

abbrev ScenarioCoverageResult := Accepted ScenarioCoverageResultData.validate

/-- **A complete result**: each declared claim is mapped to an active case, and no gap is open. -/
theorem ScenarioCoverageResult.covers (r : ScenarioCoverageResult) (h : r.val.coverageComplete = true) :
    r.val.status = .pass ∧ ∃ p, r.val.plan = some p ∧ r.val.PassingPlan p ∧ p.val.gaps = [] ∧
      ∀ c ∈ p.val.claims, ∃ m ∈ p.val.mappings, m.claimId = c.id ∧ ∃ id ∈ m.caseIds, id ∈ r.val.activeCaseIds := by
  have hr := ScenarioCoverageResultData.validate_eq_ok_iff.mp r.2
  rw [hr.complete_eq, Bool.and_eq_true, decide_eq_true_eq, List.isEmpty_iff] at h
  obtain ⟨hstatus, hopen⟩ := h
  obtain ⟨-, p, hplan, hp⟩ := hr.passing hstatus
  have hgaps : p.val.gaps = [] := by
    rw [hr.gaps_eq, ScenarioCoverageResultData.expectedGaps, hplan] at hopen
    exact ScenarioCoveragePlanData.sortedGapIds_eq_nil_iff.mp hopen
  refine ⟨hstatus, p, hplan, hp, hgaps, fun c hc => ?_⟩
  have hdeclared := (ScenarioCoveragePlanData.audit_eq_nil_iff_declared.mp hp.audit_eq).1
  obtain ⟨hmaps, -⟩ := ScenarioCoveragePlanData.audit_eq_nil_iff.mp ⟨hdeclared, hp.audit_eq⟩
  have hmapped : c.id ∈ p.val.mappings.map (·.claimId) :=
    List.count_pos_iff.mp ((hmaps.mapped_once c hc).symm ▸ Nat.one_pos)
  obtain ⟨m, hm, hid⟩ := List.mem_map.mp hmapped
  -- a mapping without cases would name a gap, and none is declared
  rcases hcases : m.caseIds with - | ⟨id, ids⟩
  · obtain ⟨g, hg⟩ := List.exists_mem_of_ne_nil _ ((hmaps.names_some m hm).resolve_left (not_not.mpr hcases))
    have hdecl := hmaps.gaps_declared m hm g hg
    rw [ScenarioCoveragePlanData.gapIds, hgaps] at hdecl
    exact absurd hdecl List.not_mem_nil
  · have hmem : id ∈ m.caseIds := hcases ▸ List.mem_cons_self
    exact ⟨m, hm, hid, id, hcases ▸ hmem, hmaps.cases_active m hm id hmem⟩

end SkillsSdk
