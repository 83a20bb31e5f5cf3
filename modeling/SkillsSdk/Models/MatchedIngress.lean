/-
SkillsSdk/Models/MatchedIngress.lean

The walk that copies a matched input before it is coerced, and the storage of the
models that it walks through.

The walk counts the members it visits and how deep it is.  It returns a copy
exactly when it meets nothing it refuses and the whole value stays within its
boundary (`Boundary.visit_eq_ok_iff`), so the order in which it goes plays no part.

A matched model walks through whatever it is built from, and every matched model
inside walks through its own part of the copy again.  An accepted model stores its
defaults too: what it is built from again may have more members than what it was
built from first.
-/
import SkillsSdk.Models.MatchedExecution

namespace SkillsSdk

/-! ### Members -/

/-- A value as the walk meets it.  Containers carry the message of the rule on their
keys that they break, if they break one; a model is a container around the
dictionary of its fields. -/
inductive Member where
  /-- A scalar, a datetime with a fixed timezone or one of the two enumerations. -/
  | scalar
  /-- A value of another type, a datetime with another timezone or a container that is
  its own ancestor. -/
  | refused (message : String)
  /-- An instance of an SDK model that was never given its `__pydantic_extra__`. -/
  | bare
  /-- A dictionary, a list or a tuple. -/
  | items (fault : Option String) (members : List Member)
  /-- An instance of an SDK model. -/
  | model (fault fieldsFault : Option String) (members : List Member)

namespace Member

mutual

/-- How many members a walk visits. -/
def nodes : Member → ℕ
  | scalar => 1
  | refused _ => 1
  | bare => 1
  | items _ ms => nodesAll ms + 1
  | model _ _ ms => nodesAll ms + 2

def nodesAll : List Member → ℕ
  | [] => 0
  | m :: ms => nodes m + nodesAll ms

end

mutual

/-- How deep a walk goes. -/
def height : Member → ℕ
  | scalar => 0
  | refused _ => 0
  | bare => 0
  | items _ ms => heightAll ms
  | model _ _ ms => heightAll ms + 1

def heightAll : List Member → ℕ
  | [] => 0
  | m :: ms => max (height m + 1) (heightAll ms)

end

mutual

/-- The walk refuses no member of the value. -/
def Clean : Member → Prop
  | scalar => True
  | refused _ => False
  | bare => False
  | items fault ms => fault = none ∧ CleanAll ms
  | model fault fieldsFault ms => fault = none ∧ fieldsFault = none ∧ CleanAll ms

def CleanAll : List Member → Prop
  | [] => True
  | m :: ms => Clean m ∧ CleanAll ms

end

theorem nodes_pos (m : Member) : 0 < m.nodes := by
  cases m <;> simp [nodes]

theorem length_le_nodesAll (ms : List Member) : ms.length ≤ nodesAll ms := by
  induction ms with
  | nil => exact Nat.le_refl 0
  | cons m ms ih =>
    have := m.nodes_pos
    rw [List.length_cons, nodesAll]
    omega

theorem nodesAll_replicate (count : ℕ) : nodesAll (List.replicate count scalar) = count := by
  induction count with
  | zero => rfl
  | succ count ih => rw [List.replicate_succ, nodesAll, ih, nodes, Nat.add_comm]

theorem heightAll_replicate (count : ℕ) : heightAll (List.replicate count scalar) ≤ 1 := by
  induction count with
  | zero => decide
  | succ count ih => simpa [List.replicate_succ, heightAll, height] using ih

theorem cleanAll_replicate (count : ℕ) : CleanAll (List.replicate count scalar) := by
  induction count with
  | zero => trivial
  | succ count ih => exact ⟨trivial, ih⟩

end Member

/-! ### The walk -/

inductive IngressRaised where
  | valueError (message : Text)
  | attributeError
  deriving DecidableEq

/-- How many members a walk visits, how deep it goes and what it raises beyond that.
Some walks look at the size of a container before they visit its members. -/
structure Boundary where
  work : ℕ
  depth : ℕ
  message : String
  looksAhead : Bool
  deriving DecidableEq

namespace Boundary

variable (b : Boundary)

/-- A member is visited: what remains. -/
def spend (depth remaining : ℕ) : Except IngressRaised ℕ :=
  if remaining = 0 ∨ b.depth < depth then .error (.valueError b.message.toList) else .ok (remaining - 1)

/-- A container of this size is visited, before its members. -/
def enter (fault : Option String) (ahead : String) (size depth remaining : ℕ) : Except IngressRaised ℕ :=
  match b.spend depth remaining with
  | .error e => .error e
  | .ok remaining =>
    if b.looksAhead && decide (remaining < size) then .error (.valueError ahead.toList)
    else match fault with
      | some message => .error (.valueError message.toList)
      | none => .ok remaining

mutual

/-- `visit`: what remains of the work after a member. -/
def visit : Member → ℕ → ℕ → Except IngressRaised ℕ
  | .scalar, depth, remaining => b.spend depth remaining
  | .refused message, depth, remaining => do
    let _ ← b.spend depth remaining
    .error (.valueError message.toList)
  | .bare, depth, remaining => do
    let _ ← b.spend depth remaining
    .error .attributeError
  | .items fault ms, depth, remaining => do
    let remaining ← b.enter fault "matched input exceeds its work boundary" ms.length depth remaining
    visitAll ms (depth + 1) remaining
  | .model fault fieldsFault ms, depth, remaining => do
    let remaining ← b.enter fault "matched model storage requires bounded string dictionary keys" ms.length
      depth remaining
    let remaining ← b.enter fieldsFault "matched input exceeds its work boundary" ms.length
      (depth + 1) remaining
    visitAll ms (depth + 2) remaining

def visitAll : List Member → ℕ → ℕ → Except IngressRaised ℕ
  | [], _, remaining => .ok remaining
  | m :: ms, depth, remaining => do
    let remaining ← visit m depth remaining
    visitAll ms depth remaining

end

theorem spend_eq_ok_iff {depth remaining rest : ℕ} :
    b.spend depth remaining = .ok rest ↔ depth ≤ b.depth ∧ rest + 1 = remaining := by
  unfold spend
  split_ifs with h
  · refine iff_of_false nofun ?_
    omega
  · rw [Except.ok.injEq]
    omega

theorem enter_eq_ok_iff {fault : Option String} {ahead : String} {size depth remaining rest : ℕ} :
    b.enter fault ahead size depth remaining = .ok rest ↔
      fault = none ∧ depth ≤ b.depth ∧ rest + 1 = remaining ∧ (b.looksAhead = true → size ≤ rest) := by
  unfold enter
  rcases hspend : b.spend depth remaining with e | r
  · refine iff_of_false nofun fun ⟨_, hdepth, hrest, _⟩ => ?_
    rw [(b.spend_eq_ok_iff).mpr ⟨hdepth, hrest⟩] at hspend
    cases hspend
  · obtain ⟨hdepth, rfl⟩ := b.spend_eq_ok_iff.mp hspend
    dsimp only
    split_ifs with hahead
    · rw [Bool.and_eq_true, decide_eq_true_eq] at hahead
      refine iff_of_false nofun fun ⟨_, _, hrest, hsize⟩ => ?_
      have := hsize hahead.1
      omega
    · rw [Bool.and_eq_true, decide_eq_true_eq, not_and, not_lt] at hahead
      cases fault with
      | some message => exact iff_of_false nofun fun h => by cases h.1
      | none =>
        constructor
        · intro h
          obtain rfl := Except.ok.inj h
          exact ⟨rfl, hdepth, rfl, hahead⟩
        · rintro ⟨-, -, hrest, -⟩
          rw [Nat.succ.inj hrest]

mutual

/-- A walk ends exactly when the value is clean and within the boundary. -/
theorem visit_eq_ok_iff (m : Member) {depth remaining rest : ℕ} : b.visit m depth remaining = .ok rest ↔
    m.Clean ∧ depth + m.height ≤ b.depth ∧ rest + m.nodes = remaining := by
  -- a model is entered twice, once as itself and once as its fields
  match m with
  | .scalar =>
    rw [visit, spend_eq_ok_iff]
    simp [Member.Clean, Member.height, Member.nodes]
  | .refused message =>
    refine iff_of_false ?_ fun h => h.1
    rw [visit, bind_eq_ok_iff]
    rintro ⟨_, -, h⟩
    cases h
  | .bare =>
    refine iff_of_false ?_ fun h => h.1
    rw [visit, bind_eq_ok_iff]
    rintro ⟨_, -, h⟩
    cases h
  | .items fault ms =>
    have hlength := Member.length_le_nodesAll ms
    rw [visit, bind_eq_ok_iff, Member.Clean, Member.height, Member.nodes]
    constructor
    · rintro ⟨r, henter, hall⟩
      obtain ⟨hfault, hdepth, rfl, -⟩ := b.enter_eq_ok_iff.mp henter
      obtain ⟨hclean, hheight, rfl⟩ := (visitAll_eq_ok_iff ms).mp hall
      refine ⟨⟨hfault, hclean⟩, ?_, by omega⟩
      rcases hheight with rfl | hheight
      · exact hdepth
      · exact hheight
    · rintro ⟨⟨rfl, hclean⟩, hheight, rfl⟩
      refine ⟨rest + Member.nodesAll ms, b.enter_eq_ok_iff.mpr ⟨rfl, by omega, by omega, fun _ => by omega⟩, ?_⟩
      exact (visitAll_eq_ok_iff ms).mpr ⟨hclean, Or.inr hheight, rfl⟩
  | .model fault fieldsFault ms =>
    have hlength := Member.length_le_nodesAll ms
    rw [visit, bind_eq_ok_iff, Member.Clean, Member.height, Member.nodes]
    constructor
    · rintro ⟨r, henter, hrest⟩
      obtain ⟨r', henter', hall⟩ := bind_eq_ok_iff.mp hrest
      obtain ⟨hfault, -, rfl, -⟩ := b.enter_eq_ok_iff.mp henter
      obtain ⟨hfields, hdepth, rfl, -⟩ := b.enter_eq_ok_iff.mp henter'
      obtain ⟨hclean, hheight, rfl⟩ := (visitAll_eq_ok_iff ms).mp hall
      refine ⟨⟨hfault, hfields, hclean⟩, ?_, by omega⟩
      rcases hheight with rfl | hheight
      · exact hdepth
      · omega
    · rintro ⟨⟨rfl, rfl, hclean⟩, hheight, rfl⟩
      refine ⟨rest + Member.nodesAll ms + 1,
        b.enter_eq_ok_iff.mpr ⟨rfl, by omega, by omega, fun _ => by omega⟩, ?_⟩
      refine bind_eq_ok_iff.mpr ⟨rest + Member.nodesAll ms,
        b.enter_eq_ok_iff.mpr ⟨rfl, by omega, by omega, fun _ => by omega⟩, ?_⟩
      exact (visitAll_eq_ok_iff ms).mpr ⟨hclean, Or.inr (by omega), rfl⟩

/-- The members of a container are one level below it. -/
theorem visitAll_eq_ok_iff (ms : List Member) {depth remaining rest : ℕ} :
    b.visitAll ms (depth + 1) remaining = .ok rest ↔
      Member.CleanAll ms ∧ (ms = [] ∨ depth + Member.heightAll ms ≤ b.depth) ∧
        rest + Member.nodesAll ms = remaining := by
  match ms with
  | [] =>
    rw [visitAll, Except.ok.injEq]
    simp [Member.CleanAll, Member.nodesAll, eq_comm]
  | m :: ms =>
    rw [visitAll, bind_eq_ok_iff, Member.CleanAll, Member.heightAll, Member.nodesAll]
    constructor
    · rintro ⟨r, hvisit, hall⟩
      obtain ⟨hclean, hheight, rfl⟩ := (visit_eq_ok_iff m).mp hvisit
      obtain ⟨hcleans, hheights, rfl⟩ := (visitAll_eq_ok_iff ms).mp hall
      refine ⟨⟨hclean, hcleans⟩, Or.inr ?_, by omega⟩
      rcases hheights with rfl | hheights
      · rw [Member.heightAll, Nat.max_zero]
        omega
      · omega
    · rintro ⟨⟨hclean, hcleans⟩, hheight, rfl⟩
      have hheight := hheight.resolve_left (List.cons_ne_nil m ms)
      refine ⟨rest + Member.nodesAll ms, (visit_eq_ok_iff m).mpr ⟨hclean, by omega, by omega⟩, ?_⟩
      exact (visitAll_eq_ok_iff ms).mpr ⟨hcleans, Or.inr (by omega), rfl⟩

end

end Boundary

/-- The value stays within the boundary. -/
def Member.Fits (b : Boundary) (m : Member) : Prop := m.height ≤ b.depth ∧ m.nodes ≤ b.work

instance (b : Boundary) (m : Member) : Decidable (m.Fits b) := inferInstanceAs (Decidable (_ ∧ _))

/-- A clean value is copied exactly when it fits. -/
theorem Boundary.exists_visit_iff (b : Boundary) {m : Member} (hclean : m.Clean) :
    (∃ rest, b.visit m 0 b.work = .ok rest) ↔ m.Fits b := by
  simp only [b.visit_eq_ok_iff, Nat.zero_add, Member.Fits]
  constructor
  · rintro ⟨rest, -, hheight, hnodes⟩
    exact ⟨hheight, by omega⟩
  · rintro ⟨hheight, hnodes⟩
    exact ⟨b.work - m.nodes, hclean, hheight, by omega⟩

/-- The limit of a matched model, at its own `_ingress_work_limit`. -/
def matchedBoundary (work : ℕ) : Boundary :=
  ⟨work, 32, "matched input exceeds its nesting or work boundary", true⟩

/-- The budget of `_normalise`, which a captured plugin and its policy set before validation. -/
def pluginBoundary (budget : ℕ) : Boundary :=
  ⟨budget, 40, "plugin evidence exceeds its input budget", false⟩

/-! ### Stored models -/

/-- What a model stores: every field by its name, defaults included, and the boundary
within which the model reads a copy of its own storage. -/
inductive Stored where
  | scalar
  | many (items : List Stored)
  | record (boundary : Option Boundary) (fields : List (String × Stored))

namespace Stored

mutual

/-- The value as a walk meets it, with the models as instances. -/
def asInstance : Stored → Member
  | scalar => .scalar
  | many items => .items none (asInstances items)
  | record _ fields => .model none none (asInstanceFields fields)

def asInstances : List Stored → List Member
  | [] => []
  | s :: ss => asInstance s :: asInstances ss

def asInstanceFields : List (String × Stored) → List Member
  | [] => []
  | (_, s) :: fields => asInstance s :: asInstanceFields fields

end

mutual

/-- The copy that a walk returns: a dictionary for each model. -/
def asCopy : Stored → Member
  | scalar => .scalar
  | many items => .items none (asCopies items)
  | record _ fields => .items none (asCopyFields fields)

def asCopies : List Stored → List Member
  | [] => []
  | s :: ss => asCopy s :: asCopies ss

def asCopyFields : List (String × Stored) → List Member
  | [] => []
  | (_, s) :: fields => asCopy s :: asCopyFields fields

end

mutual

/-- The models inside that walk through their part of a copy, with their boundaries. -/
def limited : Stored → List (Boundary × Member)
  | scalar => []
  | many items => limitedAll items
  | record boundary fields =>
    boundary.toList.map (fun b => (b, asCopy (record boundary fields))) ++ limitedFields fields

def limitedAll : List Stored → List (Boundary × Member)
  | [] => []
  | s :: ss => limited s ++ limitedAll ss

def limitedFields : List (String × Stored) → List (Boundary × Member)
  | [] => []
  | (_, s) :: fields => limited s ++ limitedFields fields

end

mutual

theorem asInstance_clean (s : Stored) : s.asInstance.Clean := by
  match s with
  | scalar => trivial
  | many items => exact ⟨rfl, asInstances_clean items⟩
  | record _ fields => exact ⟨rfl, rfl, asInstanceFields_clean fields⟩

theorem asInstances_clean (items : List Stored) : Member.CleanAll (asInstances items) := by
  match items with
  | [] => trivial
  | s :: ss => exact ⟨asInstance_clean s, asInstances_clean ss⟩

theorem asInstanceFields_clean (fields : List (String × Stored)) :
    Member.CleanAll (asInstanceFields fields) := by
  match fields with
  | [] => trivial
  | (_, s) :: fields => exact ⟨asInstance_clean s, asInstanceFields_clean fields⟩

end

mutual

theorem asCopy_clean (s : Stored) : s.asCopy.Clean := by
  match s with
  | scalar => trivial
  | many items => exact ⟨rfl, asCopies_clean items⟩
  | record _ fields => exact ⟨rfl, asCopyFields_clean fields⟩

theorem asCopies_clean (items : List Stored) : Member.CleanAll (asCopies items) := by
  match items with
  | [] => trivial
  | s :: ss => exact ⟨asCopy_clean s, asCopies_clean ss⟩

theorem asCopyFields_clean (fields : List (String × Stored)) : Member.CleanAll (asCopyFields fields) := by
  match fields with
  | [] => trivial
  | (_, s) :: fields => exact ⟨asCopy_clean s, asCopyFields_clean fields⟩

end

mutual

theorem limited_clean (s : Stored) : ∀ p ∈ s.limited, p.2.Clean := by
  match s with
  | scalar => simp [limited]
  | many items => exact limitedAll_clean items
  | record boundary fields =>
    intro p hp
    rw [limited, List.mem_append, List.mem_map] at hp
    rcases hp with ⟨b, -, rfl⟩ | hp
    · exact asCopy_clean _
    · exact limitedFields_clean fields p hp

theorem limitedAll_clean (items : List Stored) : ∀ p ∈ limitedAll items, p.2.Clean := by
  match items with
  | [] => simp [limitedAll]
  | s :: ss =>
    intro p hp
    rcases List.mem_append.mp hp with hp | hp
    · exact limited_clean s p hp
    · exact limitedAll_clean ss p hp

theorem limitedFields_clean (fields : List (String × Stored)) : ∀ p ∈ limitedFields fields, p.2.Clean := by
  match fields with
  | [] => simp [limitedFields]
  | (_, s) :: fields =>
    intro p hp
    rcases List.mem_append.mp hp with hp | hp
    · exact limited_clean s p hp
    · exact limitedFields_clean fields p hp

end

/-- Models read their parts of a copy again. -/
def reread (models : List (Boundary × Member)) : Except IngressRaised Unit :=
  models.forM fun p => (p.1.visit p.2 0 p.1.work).map fun _ => ()

theorem reread_eq_ok_iff {models : List (Boundary × Member)} (hclean : ∀ p ∈ models, p.2.Clean) :
    reread models = .ok () ↔ ∀ p ∈ models, p.2.Fits p.1 := by
  induction models with
  | nil => exact iff_of_true rfl (by simp)
  | cons p models ih =>
    have hmodels := ih fun q hq => hclean q (List.mem_cons_of_mem _ hq)
    show ((p.1.visit p.2 0 p.1.work).map _ >>= fun _ => reread models) = .ok () ↔ _
    rw [bind_eq_ok_iff, List.forall_mem_cons, ← hmodels, ← p.1.exists_visit_iff (hclean p List.mem_cons_self)]
    simp [except_map_eq_ok_iff]

/-- Fields that hold one scalar each. -/
def scalars (names : List String) : List (String × Stored) := names.map fun name => (name, .scalar)

/-- A field that may be `None`. -/
def optional {α : Type} (stored : α → Stored) : Option α → Stored
  | none => .scalar
  | some a => stored a

/-- A tuple of models. -/
def tupleOf {α : Type} (stored : α → Stored) (l : List α) : Stored := .many (l.map stored)

/-- A tuple of scalars. -/
def texts {α : Type} (l : List α) : Stored := .many (l.map fun _ => .scalar)

theorem nodesAll_copied_texts {α : Type} (l : List α) :
    Member.nodesAll (asCopies (l.map fun _ => .scalar)) = l.length := by
  induction l with
  | nil => rfl
  | cons a l ih =>
    rw [List.map_cons, asCopies, Member.nodesAll, ih, asCopy, Member.nodes, List.length_cons, Nat.add_comm]

end Stored

/-! ### What the models of a plan store -/

open Stored

def PackageCandidateIdentity.stored (_ : PackageCandidateIdentity) : Stored :=
  .record none (scalars ["schema_version", "package_id", "source_revision", "content_sha256"])

def ProviderIdentityV2.stored (_ : ProviderIdentityV2) : Stored :=
  .record none (scalars ["schema_version", "provider_id", "provider_kind", "model_id", "version_or_digest",
    "adapter_id", "adapter_version_or_digest"])

def SkillPackageFinding.stored (f : SkillPackageFinding) : Stored :=
  .record none (scalars ["code", "severity", "message"] ++ [("evidence_refs", texts f.evidenceRefs)])

def PackageManifestFile.stored (_ : PackageManifestFile) : Stored :=
  .record none (scalars ["path", "sha256", "size_bytes", "role"])

def SkillIdentity.stored (_ : SkillIdentity) : Stored :=
  .record none (scalars ["schema_version", "package_type", "package_id", "name", "version"])

def SkillPackageValidation.stored (v : SkillPackageValidation) : Stored :=
  .record none [
    ("schema_version", .scalar),
    ("candidate", optional PackageCandidateIdentity.stored v.val.candidate),
    ("status", .scalar),
    ("identity", optional SkillIdentity.stored v.val.identity),
    ("files", tupleOf PackageManifestFile.stored v.val.files),
    ("findings", tupleOf SkillPackageFinding.stored v.val.findings),
    ("mutation_performed", .scalar)]

def PluginSkillBinding.stored (s : PluginSkillBinding) : Stored :=
  .record none [("path", .scalar), ("validation", s.val.validation.stored)]

def PluginCapturedFile.stored (_ : PluginCapturedFile) : Stored :=
  .record none (scalars ["path", "sha256", "size_bytes", "permission_mode"])

def PortablePluginManifest.stored (_ : PortablePluginManifest) : Stored :=
  .record none (scalars ["manifest_schema_uri", "name", "version", "description", "source_sha256",
    "openai_settings_source", "openai_settings_sha256"])

def PluginValidationPolicy.stored (_ : PluginValidationPolicy) : Stored :=
  .record (some (pluginBoundary 128)) (scalars ["require_version", "require_description"])

def PluginPackageValidation.stored {sha256 : List UInt8 → Sha256} (v : PluginPackageValidation sha256) :
    Stored :=
  .record (some (pluginBoundary 131072)) [
    ("schema_version", .scalar),
    ("status", .scalar),
    ("candidate", optional PackageCandidateIdentity.stored v.val.candidate),
    ("manifest", optional PortablePluginManifest.stored v.val.manifest),
    ("policy", v.val.policy.stored),
    ("files", tupleOf PluginCapturedFile.stored v.val.files),
    ("mode_manifest_sha256", .scalar),
    ("skills", tupleOf PluginSkillBinding.stored v.val.skills),
    ("findings", tupleOf SkillPackageFinding.stored v.val.findings),
    ("mutation_performed", .scalar),
    ("execution_authorized", .scalar),
    ("release_ready", .scalar)]

def ScorerProfile.stored (s : ScorerProfile) : Stored :=
  .record none (("schema_version", .scalar) :: ("candidate", s.val.candidate.stored) ::
    scalars ["scorer_id", "scorer_type", "version_or_digest", "pass_threshold", "deterministic_checks_first",
      "calibration_required"] ++ [("calibration_probe_ids", texts s.val.calibrationProbeIds)])

def CoverageClaim.stored (_ : CoverageClaim) : Stored := .record none (scalars ["id", "statement"])

def ClaimCoverage.stored (m : ClaimCoverage) : Stored :=
  .record none [("claim_id", .scalar), ("case_ids", texts m.caseIds), ("gap_ids", texts m.gapIds)]

def CoverageGap.stored (_ : CoverageGap) : Stored := .record none (scalars ["id", "reason", "owner"])

def ScenarioCoveragePlan.stored (p : ScenarioCoveragePlan) : Stored :=
  .record none [
    ("schema_version", .scalar),
    ("candidate", p.val.candidate.stored),
    ("scenario_set_id", .scalar),
    ("claims", tupleOf CoverageClaim.stored p.val.claims),
    ("mappings", tupleOf ClaimCoverage.stored p.val.mappings),
    ("gaps", tupleOf CoverageGap.stored p.val.gaps)]

section

variable {I : Interpreter}

def MatchedPluginCaseScope.stored (c : MatchedPluginCaseScope I) : Stored :=
  .record (some (matchedBoundary 4096)) [
    ("case_id", .scalar),
    ("scope", .scalar),
    ("driver_skill_path", .scalar),
    ("selected_skill_paths", texts c.val.selectedSkillPaths),
    ("baseline_scorer", c.val.baselineScorer.stored),
    ("candidate_scorer", c.val.candidateScorer.stored),
    ("claim_ids", texts c.val.claimIds),
    ("reference_paths", texts c.val.referencePaths)]

def MatchedPluginScope.stored (s : MatchedPluginScope I) : Stored :=
  .record (some (matchedBoundary 524288)) [
    ("baseline", s.val.baseline.stored),
    ("candidate", s.val.candidate.stored),
    ("cases", tupleOf MatchedPluginCaseScope.stored s.val.cases),
    ("baseline_coverage", s.val.baselineCoverage.stored),
    ("candidate_coverage", s.val.candidateCoverage.stored)]

end

def ScenarioCaseV2.stored (c : ScenarioCaseV2) : Stored :=
  .record none (scalars ["case_id", "category", "prompt"] ++ [
    ("expected_signals", texts c.val.expectedSignals.val),
    ("forbidden_commands", texts c.val.forbiddenCommands),
    ("oracle", .scalar),
    ("expected_output_sha256", .scalar)])

def ScenarioSetV2.stored (s : ScenarioSetV2) : Stored :=
  .record none [
    ("schema_version", .scalar),
    ("candidate", s.val.candidate.stored),
    ("scenario_set_id", .scalar),
    ("release", .scalar),
    ("cases", tupleOf ScenarioCaseV2.stored s.val.cases)]

def MatchedCaseBinding.stored (c : MatchedCaseBinding) : Stored :=
  .record (some (matchedBoundary 4096)) (scalars ["case_id", "baseline_scenario_set_id",
    "candidate_scenario_set_id", "assertion_contract_sha256", "check_contract_sha256",
    "baseline_input_sha256", "candidate_input_sha256"] ++
    [("semantic_signal_ids", texts c.val.semanticSignalIds)])

def MatchedRubricDimension.stored (_ : MatchedRubricDimension) : Stored :=
  .record (some (matchedBoundary 4096)) (scalars ["dimension_id", "criterion", "weight"])

def MatchedComparisonRubric.stored {A : DecimalArithmetic} (r : MatchedComparisonRubric A) : Stored :=
  .record (some (matchedBoundary 4096)) [
    ("rubric_id", .scalar),
    ("version_or_digest", .scalar),
    ("dimensions", tupleOf MatchedRubricDimension.stored r.val.dimensions),
    ("minimum_normalized_delta", .scalar),
    ("minimum_confidence", .scalar)]

def ScorerJudgeParameters.stored (_ : ScorerJudgeParameters) : Stored :=
  .record none (scalars ["model", "temperature", "trial_count"])

def MatchedRunBudget.stored (_ : MatchedRunBudget) : Stored :=
  .record (some (matchedBoundary 4096)) (scalars ["maximum_provider_invocations",
    "maximum_judge_invocations", "maximum_elapsed_seconds", "maximum_reported_cost", "currency"])

def MatchedSelectionPolicy.stored (_ : MatchedSelectionPolicy) : Stored :=
  .record (some (matchedBoundary 4096)) (scalars ["minimum_trials_per_case",
    "minimum_qualifying_case_count", "maximum_trial_delta_range"])

def MatchedLaneSpec.stored (s : MatchedLaneSpec) : Stored :=
  .record (some (matchedBoundary 4096)) [
    ("lane", .scalar),
    ("generator", s.val.generator.stored),
    ("generator_mode", .scalar),
    ("generator_parameters", s.val.generatorParameters.stored),
    ("judge", s.val.judge.stored),
    ("judge_parameters", s.val.judgeParameters.stored),
    ("baseline_calibration_sha256", .scalar),
    ("candidate_calibration_sha256", .scalar),
    ("budget", s.val.budget.stored)]

section

variable {I : Interpreter}

/-- `MatchedComparisonPlan._ingress_work_limit`. -/
def matchedPlanBoundary : Boundary := matchedBoundary 1048576

def MatchedComparisonPlan.stored (p : MatchedComparisonPlan I) : Stored :=
  .record (some matchedPlanBoundary) [
    ("schema_version", .scalar),
    ("plugin_scope", p.val.pluginScope.stored),
    ("baseline_scenarios", tupleOf ScenarioSetV2.stored p.val.baselineScenarios),
    ("candidate_scenarios", tupleOf ScenarioSetV2.stored p.val.candidateScenarios),
    ("case_bindings", tupleOf MatchedCaseBinding.stored p.val.caseBindings),
    ("rubric", p.val.rubric.stored),
    ("lanes", tupleOf MatchedLaneSpec.stored p.val.lanes),
    ("selection_policy", p.val.selectionPolicy.stored)]

end

/-! ### What the models of a receipt store -/

def SelectedCaseJudgeEvidence.stored (e : SelectedCaseJudgeEvidence) : Stored :=
  .record none [
    ("schema_version", .scalar),
    ("candidate", e.val.candidate.stored),
    ("scenario_set_id", .scalar),
    ("case_id", .scalar),
    ("provider", e.val.provider.stored),
    ("output_sha256", .scalar),
    ("assertion_contract_sha256", .scalar),
    ("judge", e.val.judge.stored),
    ("satisfied_assertion_ids", texts e.val.satisfiedAssertionIds),
    ("evidence_refs", texts e.val.evidenceRefs),
    ("judge_result_sha256", .scalar),
    ("credentials_included", .scalar),
    ("raw_output_included", .scalar),
    ("mutation_performed", .scalar)]

def MatchedDimensionJudgment.stored (d : MatchedDimensionJudgment) : Stored :=
  .record (some (matchedBoundary 4096)) (scalars ["dimension_id", "score", "rationale"] ++
    [("evidence_refs", texts d.val.evidenceRefs)])

def MatchedVariantJudgment.stored (j : MatchedVariantJudgment) : Stored :=
  .record (some (matchedBoundary 4096)) [
    ("evidence", j.val.evidence.stored),
    ("dimensions", tupleOf MatchedDimensionJudgment.stored j.val.dimensions),
    ("confidence", .scalar)]

def PackageReceiptBlocker.stored (b : PackageReceiptBlocker) : Stored :=
  .record none (scalars ["code", "message"] ++ [("evidence_refs", texts b.evidenceRefs)])

def ScenarioCaseResultV2.stored (r : ScenarioCaseResultV2) : Stored :=
  .record none [
    ("schema_version", .scalar),
    ("candidate", r.val.candidate.stored),
    ("scenario_set_id", .scalar),
    ("case_id", .scalar),
    ("provider", r.val.provider.stored),
    ("status", .scalar),
    ("missing_signals", texts r.val.missingSignals),
    ("forbidden_commands_observed", texts r.val.forbiddenCommandsObserved),
    ("evidence_refs", texts r.val.evidenceRefs),
    ("observation_sha256", .scalar),
    ("expected_output_sha256", .scalar),
    ("output_digest_mismatch", .scalar),
    ("runner_id", .scalar),
    ("runner_version_or_digest", .scalar),
    ("blocker", optional PackageReceiptBlocker.stored r.val.blocker),
    ("mutation_performed", .scalar)]

def EvaluationReceiptV2.stored (e : EvaluationReceiptV2) : Stored :=
  .record none [
    ("schema_version", .scalar),
    ("receipt_id", .scalar),
    ("candidate", e.val.candidate.stored),
    ("lane", .scalar),
    ("scenario_set_id", .scalar),
    ("provider", optional ProviderIdentityV2.stored e.val.provider),
    ("scorer", e.val.scorer.stored),
    ("status", .scalar),
    ("score", .scalar),
    ("case_results", tupleOf ScenarioCaseResultV2.stored e.val.caseResults),
    ("completed_calibration_probe_ids", texts e.val.completedCalibrationProbeIds),
    ("blocker", optional PackageReceiptBlocker.stored e.val.blocker),
    ("mutation_performed", .scalar)]

def ProviderExecutionBlocker.stored (b : ProviderExecutionBlocker) : Stored :=
  .record none (scalars ["code", "category"] ++ [("evidence_refs", texts b.val.evidenceRefs)])

def ProviderExecutionRequest.stored (r : ProviderExecutionRequest) : Stored :=
  .record none [
    ("schema_version", .scalar),
    ("request_id", .scalar),
    ("candidate", r.val.candidate.stored),
    ("scenario_set_id", .scalar),
    ("case_id", .scalar),
    ("provider", r.val.provider.stored),
    ("declared_capability", .scalar),
    ("input_sha256", .scalar),
    ("idempotency_key_sha256", .scalar),
    ("package_safety_receipt_id", .scalar),
    ("package_safety_receipt_sha256", .scalar),
    ("prepared_at", .scalar),
    ("status", .scalar),
    ("blocker", optional ProviderExecutionBlocker.stored r.val.blocker),
    ("evidence_refs", texts r.val.evidenceRefs),
    ("provider_execution_performed", .scalar),
    ("credentials_included", .scalar),
    ("raw_payloads_included", .scalar),
    ("cost_claimed", .scalar)]

def MatchedExecutedPair.stored (p : MatchedExecutedPair) : Stored :=
  .record (some (matchedBoundary 4096)) [
    ("case_id", .scalar),
    ("trial_index", .scalar),
    ("baseline", p.baseline.stored),
    ("candidate", p.candidate.stored),
    ("baseline_evaluation", p.baselineEvaluation.stored),
    ("candidate_evaluation", p.candidateEvaluation.stored),
    ("baseline_request", p.baselineRequest.stored),
    ("candidate_request", p.candidateRequest.stored),
    ("baseline_input_sha256", .scalar),
    ("candidate_input_sha256", .scalar)]

def PackageSafetyBlocker.stored (b : PackageSafetyBlocker) : Stored :=
  .record none (scalars ["code", "message"] ++ [("evidence_refs", texts b.val.evidenceRefs)])

section

variable {I : Interpreter} {H : MatchedHost I} (bundleStored : H.Bundle → Stored)

/-- `MatchedExecutionReceipt._ingress_work_limit`. -/
def matchedReceiptBoundary : Boundary := matchedBoundary 3000000

def MatchedExecutionReceipt.stored (r : MatchedExecutionReceipt H) : Stored :=
  .record (some matchedReceiptBoundary) [
    ("schema_version", .scalar),
    ("plan", optional MatchedComparisonPlan.stored r.val.plan),
    ("lane", .scalar),
    ("status", .scalar),
    ("calibrations", tupleOf bundleStored r.val.calibrations),
    ("pairs", tupleOf MatchedExecutedPair.stored r.val.pairs),
    ("provider_invocation_count", .scalar),
    ("judge_invocation_count", .scalar),
    ("elapsed_seconds", .scalar),
    ("blocker", optional PackageSafetyBlocker.stored r.val.blocker),
    ("evidence_scope", .scalar),
    ("external_authenticity_verified", .scalar),
    ("promotion_authorized", .scalar)]

end

/-! ### Values that are handed over -/

/-- A value that is handed over: what the walk meets of it, and what its copy parses into. -/
structure Presented (α : Type) where
  member : Member
  parsed : Except ValidationError α

/-- What reading a value raises. -/
inductive ReadRaised where
  | validationError (e : ValidationError)
  | attributeError
  deriving DecidableEq

/-- `model_validate` of a matched model; a `ValueError` of its walk is one of its own. -/
def Presented.modelValidate {α : Type} (model : String) (b : Boundary) (validate : α → Except ValidationError Unit)
    (p : Presented α) : Except ReadRaised (Accepted validate) :=
  match b.visit p.member 0 b.work with
  | .error (.valueError message) => .error (.validationError ⟨model.toList, [([], message)]⟩)
  | .error .attributeError => .error .attributeError
  | .ok _ => (p.parsed >>= construct validate).mapError .validationError

end SkillsSdk
