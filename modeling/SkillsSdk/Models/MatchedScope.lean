/-
SkillsSdk/Models/MatchedScope.lean

The scope of a matched comparison: which skills of two captured plugins its ten
cases exercise, and which claims they cover.

What the interpreter supplies without a source here is a parameter: the hash,
the decimal arithmetic and Unicode case folding.
-/
import SkillsSdk.Models.Evaluation
import SkillsSdk.Models.MatchedPolicy
import SkillsSdk.Models.Plugin

namespace SkillsSdk

open Rx Rx.Regex

/-- What the interpreter supplies. -/
structure Interpreter where
  sha256 : List UInt8 → Sha256
  arithmetic : DecimalArithmetic
  casefold : Text → Text

/-- `value == value.strip() and _public_text_is_redaction_safe(value)`. -/
def isNormalizedPublic (value : Text) : Bool :=
  decide (strip value = value) && publicTextIsRedactionSafe value

/-! ### Coverage -/

structure CoverageClaim where
  id : PackageId
  statement : NonEmptyText
  deriving DecidableEq

structure CoverageGap where
  id : PackageId
  reason : NonEmptyText
  owner : NonEmptyText
  deriving DecidableEq

structure ClaimCoverage where
  claimId : PackageId
  caseIds : List Text
  gapIds : List PackageId
  deriving DecidableEq

structure ScenarioCoveragePlanData where
  candidate : PackageCandidateIdentity
  scenarioSetId : NonEmptyText
  claims : List CoverageClaim
  mappings : List ClaimCoverage
  gaps : List CoverageGap
  deriving DecidableEq

namespace ScenarioCoveragePlanData

variable (p : ScenarioCoveragePlanData)

def gapIds : List PackageId := p.gaps.map (·.id)

/-- The mapping contradicts what is declared. -/
def invalidMapping (m : ClaimCoverage) : Bool :=
  (decide (m.caseIds = []) && decide (m.gapIds = [])) || decide (m.claimId ∉ p.claims.map (·.id)) ||
    decide (¬ m.caseIds.Nodup) || decide (¬ m.gapIds.Nodup) || !m.gapIds.all (· ∈ p.gapIds)

/-- `_declaration_findings`. -/
def declarationFindings : List (String × String) :=
  (if ¬ (p.claims.map (·.id)).Nodup ∨ ¬ p.gapIds.Nodup ∨ ¬ (p.mappings.map (·.claimId)).Nodup then
    [("duplicate_coverage_id", "coverage ids must be unique")] else []) ++
  (p.mappings.filter p.invalidMapping).map (fun _ =>
    ("invalid_claim_mapping", "map claims only to active cases or declared gaps")) ++
  if sameSet (p.mappings.flatMap (·.gapIds)) p.gapIds then []
  else [("unused_coverage_gap", "every gap must map to a claim")]

/-- `audit`. -/
def audit (activeCaseIds : List Text) : List (String × String) :=
  p.declarationFindings ++
  (if sameSet (p.mappings.map (·.claimId)) (p.claims.map (·.id)) then []
    else [("unmapped_claim", "map every declared claim exactly once")]) ++
  (p.mappings.filter fun m => !m.caseIds.all (· ∈ activeCaseIds)).map fun _ =>
    ("invalid_claim_mapping", "map claims only to active cases or declared gaps")

/-- `ExactCaseId`. -/
def isExactCaseId (t : Text) : Bool := t.any fun c => !isWhiteSpace c

def validate : Except ValidationError Unit :=
  validateWith "ScenarioCoveragePlan"
    (check (p.mappings.all fun m => m.caseIds.all isExactCaseId) "case_ids"
        "String should match pattern '\\S'" ++
      check (p.claims ≠ []) "claims" "Tuple should have at least 1 item after validation, not 0")
    (p.declarationFindings.map fun f => (true, f.2))

end ScenarioCoveragePlanData

abbrev ScenarioCoveragePlan := Accepted ScenarioCoveragePlanData.validate

/-! ### Cases -/

inductive CaseScope where
  | perSkill
  | crossSkill
  deriving DecidableEq

structure MatchedPluginCaseScopeData where
  caseId : Text
  scope : CaseScope
  driverSkillPath : PortablePath
  selectedSkillPaths : List PortablePath
  baselineScorer : ScorerProfile
  candidateScorer : ScorerProfile
  claimIds : List Text
  referencePaths : List PortablePath
  deriving DecidableEq

/-- `_EXCLUDED_REFERENCE_TERMS`. -/
def excludedReferenceTerms : List String :=
  ["eval", "scorer", "rubric", "calibration", "heldout", "held-out", "hidden"]

variable (I : Interpreter)

/-- `require_matched_reference_path`, of a portable path. -/
def matchedReferencePath (value : PortablePath) (selected : List PortablePath) : List (Bool × String) :=
  let parts := value.val.splitOn '/'
  let owner := List.intercalate ['/'] (parts.take 2)
  [violation (parts.head? = some "skills".toList ∧ owner ∉ selected.map Subtype.val)
      "matched references within skills must belong to a selected child",
    violation (I.casefold (pathSuffix value.val) ∉ [".md".toList, ".markdown".toList] ∨
        excludedReferenceTerms.any (fun term => parts.any fun part => search (word term) (I.casefold part)))
      "matched context excludes hidden evaluation inputs and non-Markdown references",
    violation (value.val ∈ selected.map (·.val ++ "/SKILL.md".toList))
      "matched references must not duplicate automatic selected entrypoints"]

namespace MatchedPluginCaseScopeData

/-- `[a-z0-9]+(?:[._-][a-z0-9]+)*` of every claim, each once and in order. -/
def claimErrors (s : MatchedPluginCaseScopeData) : List (Text × Text) :=
  check (1 ≤ s.claimIds.length && decide (s.claimIds.length ≤ 64)) "claim_ids"
      "Tuple should have between 1 and 64 items" ++
    check (s.claimIds.all isIdentifier) "claim_ids"
      "matched claims require exact existing coverage identifiers" ++
    check (s.claimIds.Pairwise (· < ·)) "claim_ids"
      "matched plugin selections require sorted unique exact identifiers"

def pathErrors (s : MatchedPluginCaseScopeData) : List (Text × Text) :=
  check (isDirectSkill s.driverSkillPath.val && decide (strip s.driverSkillPath.val = s.driverSkillPath.val))
      "driver_skill_path" "matched plugin skill path requires an exact direct child" ++
    check (1 ≤ s.selectedSkillPaths.length && decide (s.selectedSkillPaths.length ≤ 9))
      "selected_skill_paths" "Tuple should have between 1 and 9 items" ++
    check (s.selectedSkillPaths.all fun p => strip p.val = p.val) "selected_skill_paths"
      "matched selections require exact unpadded paths" ++
    check ((s.selectedSkillPaths.map Subtype.val).Pairwise (· < ·)) "selected_skill_paths"
      "matched plugin selections require sorted unique exact identifiers" ++
    check (s.referencePaths.length ≤ 64) "reference_paths" "Tuple should have at most 64 items" ++
    check ((s.referencePaths.map Subtype.val).Pairwise (· < ·)) "reference_paths"
      "matched references require unique sorted paths" ++
    check (s.referencePaths.all fun p => isNormalizedPublic p.val) "reference_paths"
      "matched references must be exact public paths"

/-- `scope_matches_selection`. -/
def scopeMatchesSelection (s : MatchedPluginCaseScopeData) : List (Bool × String) :=
  [violation (s.selectedSkillPaths.all (fun p => isDirectSkill p.val) = false)
      "matched plugin skill path requires an exact direct child",
    violation (s.driverSkillPath ∉ s.selectedSkillPaths) "matched plugin driver must be selected",
    violation (s.scope = .perSkill ∧ s.selectedSkillPaths ≠ [s.driverSkillPath])
      "per-skill scope selects exactly its driver",
    violation (s.scope = .crossSkill ∧ s.selectedSkillPaths.length < 2)
      "cross-skill scope requires at least two selected children"] ++
  s.referencePaths.flatMap (fun p => matchedReferencePath I p s.selectedSkillPaths) ++
  [violation ({ s.baselineScorer.val with candidate := s.candidateScorer.val.candidate } ≠
        s.candidateScorer.val)
      "matched child scorer contracts must agree across variants",
    violation ([s.baselineScorer, s.candidateScorer].any fun scorer =>
        !scorer.val.calibrationRequired || !scorer.val.deterministicChecksFirst)
      "matched child scorers require calibrated deterministic-first policy"]

def validate (s : MatchedPluginCaseScopeData) : Except ValidationError Unit :=
  validateWith "MatchedPluginCaseScope"
    (check (isCaseToken s.caseId && decide (s.caseId.length ≤ 128)) "case_id"
        "matched plugin case requires an exact public identifier" ++
      s.pathErrors ++ s.claimErrors)
    (s.scopeMatchesSelection I)

end MatchedPluginCaseScopeData

abbrev MatchedPluginCaseScope := Accepted (MatchedPluginCaseScopeData.validate I)

/-! ### The scope -/

structure MatchedPluginScopeData where
  baseline : PluginPackageValidation I.sha256
  candidate : PluginPackageValidation I.sha256
  cases : List (MatchedPluginCaseScope I)
  baselineCoverage : ScenarioCoveragePlan
  candidateCoverage : ScenarioCoveragePlan
  deriving DecidableEq

namespace MatchedPluginScopeData

variable {I} (s : MatchedPluginScopeData I)

def caseIds : List Text := s.cases.map (·.val.caseId)

/-- The skills of a capture. -/
def children (capture : PluginPackageValidation I.sha256) : List PortablePath :=
  capture.val.skills.map (·.val.path)

/-- The candidate of a captured skill. -/
def childCandidate (capture : PluginPackageValidation I.sha256) (path : PortablePath) :
    Option PackageCandidateIdentity :=
  (capture.val.skills.find? (·.val.path = path)).bind (·.val.validation.val.candidate)

/-- The rules that `complete_scope` applies to a case. -/
def caseRules (c : MatchedPluginCaseScope I) : List (Bool × String) :=
  [violation (c.val.selectedSkillPaths.all (· ∈ children s.baseline) = false)
      "matched case selects an unknown captured child",
    violation (some c.val.baselineScorer.val.candidate ≠ childCandidate s.baseline c.val.driverSkillPath ∨
        some c.val.candidateScorer.val.candidate ≠ childCandidate s.candidate c.val.driverSkillPath)
      "matched case scorer must bind its exact driver child",
    violation ([s.baseline, s.candidate].any fun capture =>
        !(c.val.referencePaths.all (· ∈ capture.val.files.map (·.val.path))))
      "matched references require both complete variant captures"]

/-- The coverage plan without its candidate. -/
def objective (p : ScenarioCoveragePlan) :
    NonEmptyText × List CoverageClaim × List ClaimCoverage × List CoverageGap :=
  (p.val.scenarioSetId, p.val.claims, p.val.mappings, p.val.gaps)

/-- `_require_coverage`. -/
def coverageRules : List (Bool × String) :=
  [violation ([(s.baseline, s.baselineCoverage), (s.candidate, s.candidateCoverage)].any fun p =>
        !decide (some p.2.val.candidate = p.1.val.candidate) || !decide (p.2.val.gaps = []) ||
          !decide (p.2.val.audit s.caseIds = []))
      "matched plugin coverage requires bound complete mapping without open gaps",
    violation (objective s.baselineCoverage ≠ objective s.candidateCoverage)
      "matched plugin variants must freeze the same coverage objective",
    violation (s.cases.any fun c => !decide (c.val.claimIds =
        ((s.baselineCoverage.val.mappings.filter fun m => decide (c.val.caseId ∈ m.caseIds)).map
          (·.claimId.val)).mergeSort))
      "matched case claims must equal the existing coverage mappings"]

/-- `complete_scope`. -/
def completeScope : List (Bool × String) :=
  let left := children s.baseline
  let drivers := (s.cases.filter (·.val.scope = .perSkill)).map (·.val.driverSkillPath)
  [violation ([s.baseline, s.candidate].any fun capture =>
        !decide (capture.val.status = .pass) || !capture.val.candidate.isSome)
      "matched plugin scope requires passing complete captures",
    violation (s.baseline.val.candidate = s.candidate.val.candidate)
      "matched plugin scope requires distinct complete candidate identities",
    violation (sameSet left (children s.candidate) = false)
      "matched plugin child inventory must agree across variants",
    violation (¬ (1 ≤ left.dedup.length ∧ left.dedup.length ≤ 9))
      "ten-case slice supports one through nine child skills",
    violation (s.caseIds.dedup.length ≠ 10)
      "matched plugin scope requires ten unique ordered case identifiers",
    violation (sameSet drivers left = false)
      "every captured child requires a per-skill driver case",
    violation (1 < left.dedup.length ∧ s.cases.any (·.val.scope = .crossSkill) = false)
      "multi-skill plugin scope requires a cross-skill case"] ++
  s.cases.flatMap s.caseRules ++ s.coverageRules

def validate : Except ValidationError Unit :=
  validateWith "MatchedPluginScope" (check (s.cases.length == 10) "cases" "Tuple should have 10 items")
    s.completeScope

end MatchedPluginScopeData

abbrev MatchedPluginScope := Accepted (@MatchedPluginScopeData.validate I)

end SkillsSdk
