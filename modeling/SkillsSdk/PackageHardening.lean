/-
SkillsSdk/PackageHardening.lean

Package hardening: `harden_skill_package` and the path-safety rule it shares
with the scan.

Hardening makes five checks of a build receipt and returns them in a receipt of
its own.  It never raises (`hardenSkillPackage_ok`).
-/
import SkillsSdk.FileNames
import SkillsSdk.Models.Hardening
import SkillsSdk.Models.Validation
import Mathlib.Algebra.Ring.Nat
import Mathlib.Data.List.Sort

namespace SkillsSdk

/-- What hardening can raise. -/
inductive HardeningRaised where
  | validationError (e : ValidationError)
  | indexError
  deriving DecidableEq

/-! ### Path safety -/

/-- `tuple(part.lower() for part in PurePosixPath(path).parts)`. -/
def loweredParts (path : Text) : List PyStr :=
  (PurePosixPath.parse path).parts.map fun part => (PyStr.ofText part).lower

/-- `unsafe_package_path_reason`; a path without parts has no last one. -/
def unsafePackagePathReason (path : Text) : Except HardeningRaised (Option String) :=
  let parts := loweredParts path
  if parts.any (· ∈ unsafePackageDirectories) then .ok (some "forbidden_path_part")
  else
    match parts.getLast? with
    | some name => .ok (unsafePackageFileReason name)
    | none => .error .indexError

/-! ### Checks -/

/-- A decimal number. -/
def decimal (n : Nat) : Text := (toString n).toList

/-- `_check`: the evidence is stripped, and blank evidence is refused. -/
def hardeningCheck (id : BlockerCode) (status : CheckStatus) (message : NonEmptyText)
    (evidence : List Text) : Except HardeningRaised PackageHardeningCheck :=
  match evidence.mapM fun e => nonEmptyText? (PyStr.ofText e) with
  | some evidence => .ok ⟨id, status, message, evidence⟩
  | none => .error (.validationError ⟨"PackageHardeningCheck".toList,
      [("evidence".toList, "String should have at least 1 character".toList)]⟩)

def packageReceiptBuilt : FindingText :=
  (literal "package_receipt_built" (by decide +kernel),
    literal "Package hardening requires a successful immutable package receipt." (by decide +kernel))

def forbiddenPackagePaths : FindingText :=
  (literal "forbidden_package_paths" (by decide +kernel),
    literal "Package contents must exclude runtime, generated, dependency, and secret-bearing paths."
      (by decide +kernel))

def packageSizeBudget : FindingText :=
  (literal "package_size_budget" (by decide +kernel),
    literal "Package contents should remain within the explicit hardening budget." (by decide +kernel))

def provenanceTrace : FindingText :=
  (literal "provenance_trace" (by decide +kernel),
    literal
      "Package hardening requires the Skills SDK manifest builder and SKILL.md source provenance."
      (by decide +kernel))

def requiredPackageRoles : FindingText :=
  (literal "required_package_roles" (by decide +kernel),
    literal "Package manifest must include SKILL.md and, when required, root README.md roles."
      (by decide +kernel))

variable {sha256 : List UInt8 → Sha256} (p : PackageReceiptV2 sha256)
  (files : List PackageManifestFile) (policy : PackageHardeningPolicy)

/-- `_package_receipt_check`. -/
def packageReceiptCheck : Except HardeningRaised PackageHardeningCheck :=
  hardeningCheck packageReceiptBuilt.1 (if p.val.status = .built then .pass else .blocker)
    packageReceiptBuilt.2 ["package_receipt_status:".toList ++ p.val.status.value.toList]

/-- `f"{path}:{reason}"`, of a path with a reason. -/
def forbiddenPath (path : PortablePath) : Except HardeningRaised (Option Text) := do
  let reason ← unsafePackagePathReason path.val
  return reason.map fun r => path.val ++ ':' :: r.toList

/-- The forbidden paths among the included ones, each with its reason. -/
def forbiddenPaths (included : List PortablePath) : Except HardeningRaised (List Text) := do
  let found ← included.mapM forbiddenPath
  return found.filterMap id

/-- `_forbidden_paths_check`. -/
def forbiddenPathsCheck : Except HardeningRaised PackageHardeningCheck := do
  let forbidden ← forbiddenPaths p.val.includedFiles
  hardeningCheck forbiddenPackagePaths.1 (if forbidden ≠ [] then .blocker else .pass)
    forbiddenPackagePaths.2 forbidden

/-- `sum(item.size_bytes for item in files)`. -/
def totalSize : Nat := (files.map (·.sizeBytes)).sum

/-- `_size_budget_check`. -/
def sizeBudgetCheck : Except HardeningRaised PackageHardeningCheck :=
  let withinBudget :=
    files.length ≤ policy.maxFileCount.val ∧ totalSize files ≤ policy.maxTotalBytes.val
  hardeningCheck packageSizeBudget.1 (if withinBudget then .pass else .warning) packageSizeBudget.2
    ["files:".toList ++ decimal files.length ++ '/' :: decimal policy.maxFileCount.val,
      "total_size_bytes:".toList ++ decimal (totalSize files) ++ '/' ::
        decimal policy.maxTotalBytes.val]

/-- `_provenance_check`. -/
def provenanceCheck : Except HardeningRaised PackageHardeningCheck :=
  let provenance := p.val.manifest.map (·.val.provenance)
  let valid := provenance.any fun v =>
    v.builder.val = "skills-sdk.packaging.manifest/v1".toList ∧
      "SKILL.md".toList ∈ v.source.val.map Subtype.val
  let evidence := match provenance with
    | none => []
    | some v => ("builder:".toList ++ v.builder.val) :: v.source.val.map Subtype.val
  hardeningCheck provenanceTrace.1 (if valid then .pass else .blocker) provenanceTrace.2 evidence

/-- `_required_role_check`. -/
def requiredRoleCheck : Except HardeningRaised PackageHardeningCheck :=
  let roles := (files.map fun f => f.role.value.toList).eraseDups.insertionSort (· ≤ ·)
  let hasSkill : Bool := "skill_md".toList ∈ roles
  let hasReadme := files.any fun f => f.role = .readme ∧ f.path.val = "README.md".toList
  let valid := hasSkill ∧ (hasReadme ∨ ¬ policy.requireReadme)
  hardeningCheck requiredPackageRoles.1 (if valid then .pass else .blocker) requiredPackageRoles.2 roles

/-! ### Receipts -/

/-- `_ACCEPTANCE_TRACE`. -/
def acceptanceTrace : List NonEmptyText :=
  [literal "portable-package" (by decide +kernel), literal "immutable-candidate" (by decide +kernel),
    literal "non-mutating-hardening" (by decide +kernel)]

/-- The manifest files that the receipt includes. -/
def includedManifestFiles : List PackageManifestFile :=
  ((p.val.manifest.map (·.val.files)).getD []).filter (·.path ∈ p.val.includedFiles)

/-- The receipt of the checks. -/
def hardeningReceiptData (checks : List PackageHardeningCheck) : PackageHardeningReceiptData :=
  let files := includedManifestFiles p
  let blockers := checks.filter (·.status = .blocker)
  { candidate := p.val.candidate
    buildStatus := p.val.status
    status := if blockers ≠ [] then .blocked else .pass
    packageDigest := p.val.packageDigest
    effectivePolicy := policy
    includedFiles := p.val.includedFiles
    fileCount := files.length
    totalSizeBytes := totalSize files
    hardeningChecks := checks
    blockers := blockers
    warnings := checks.filter (·.status = .warning)
    acceptanceTrace := acceptanceTrace }

/-- `harden_skill_package`. -/
def hardenSkillPackage (policy : Option PackageHardeningPolicy) :
    Except HardeningRaised PackageHardeningReceipt := do
  let activePolicy := policy.getD {}
  let files := includedManifestFiles p
  let built ← packageReceiptCheck p
  let forbidden ← forbiddenPathsCheck p
  let budget ← sizeBudgetCheck files activePolicy
  let provenance ← provenanceCheck p
  let roles ← requiredRoleCheck files activePolicy
  (construct PackageHardeningReceiptData.validate
    (hardeningReceiptData p activePolicy [built, forbidden, budget, provenance, roles])).mapError
      .validationError

/-! ### Hardening returns -/

section

variable {p : PackageReceiptV2 sha256} {files : List PackageManifestFile}
  {policy : PackageHardeningPolicy}

/-- A text with a letter that is no blank. -/
def Visible (t : Text) : Prop := ∃ c ∈ t, isWhiteSpace c = false

theorem Visible.append_left {t : Text} (h : Visible t) (u : Text) : Visible (t ++ u) := by
  obtain ⟨c, hc, hblank⟩ := h
  exact ⟨c, List.mem_append_left u hc, hblank⟩

theorem visible_of_portablePath (path : PortablePath) : Visible path.val := by
  obtain ⟨c, hc, hspace⟩ := (portable_iff.mp path.2).notBlank
  rw [isSpace, Bool.or_eq_false_iff] at hspace
  exact ⟨c, hc, hspace.1⟩

/-- A check with visible evidence succeeds. -/
theorem hardeningCheck_ok {evidence : List Text} (h : ∀ e ∈ evidence, Visible e) (id : BlockerCode)
    (status : CheckStatus) (message : NonEmptyText) :
    ∃ c, hardeningCheck id status message evidence = .ok c ∧ c.id = id ∧ c.status = status := by
  obtain ⟨ts, hts⟩ : ∃ ts, (evidence.mapM fun e => nonEmptyText? (PyStr.ofText e)) = some ts := by
    induction evidence with
    | nil => exact ⟨[], rfl⟩
    | cons e evidence ih =>
      obtain ⟨ts, hts⟩ := ih fun e' he' => h e' (List.mem_cons_of_mem e he')
      obtain ⟨t, ht⟩ := nonEmptyText?_isSome (PyStr.encode?_ofText e) (h e List.mem_cons_self)
      refine ⟨t :: ts, ?_⟩
      rw [List.mapM_cons, ht, hts]
      rfl
  refine ⟨⟨id, status, message, ts⟩, ?_, rfl, rfl⟩
  rw [hardeningCheck, hts]

/-- A portable path has a last part. -/
theorem unsafePackagePathReason_ok (path : PortablePath) :
    ∃ reason, unsafePackagePathReason path.val = .ok reason := by
  have hparts : loweredParts path.val ≠ [] := by
    rw [loweredParts, (portable_iff.mp path.2).parse_eq]
    simp [PurePosixPath.parts, List.splitOn_ne_nil]
  rw [unsafePackagePathReason]
  by_cases hdir : (loweredParts path.val).any (· ∈ unsafePackageDirectories) = true
  · exact ⟨_, if_pos hdir⟩
  · rw [if_neg hdir, List.getLast?_eq_some_getLast hparts]
    exact ⟨_, rfl⟩

/-- The reasons found for the included paths, in their order. -/
theorem forbiddenPaths_ok (included : List PortablePath) :
    ∃ forbidden, forbiddenPaths included = .ok forbidden ∧ (∀ e ∈ forbidden, Visible e) ∧
      (forbidden = [] ↔ ∀ path ∈ included, unsafePackagePathReason path.val = .ok none) := by
  induction included with
  | nil => exact ⟨[], rfl, by simp, by simp⟩
  | cons path included ih =>
    obtain ⟨forbidden, hforbidden, hvisible, hnil⟩ := ih
    obtain ⟨reason, hreason⟩ := unsafePackagePathReason_ok path
    obtain ⟨found, hfound, hlist⟩ := bind_eq_ok_iff.mp hforbidden
    obtain rfl : found.filterMap id = forbidden := Except.ok.inj hlist
    have hpath : forbiddenPath path = .ok (reason.map fun r => path.val ++ ':' :: r.toList) := by
      rw [forbiddenPath, hreason]
      rfl
    refine ⟨((reason.map fun r => path.val ++ ':' :: r.toList) :: found).filterMap id, ?_, ?_, ?_⟩
    · rw [forbiddenPaths, List.mapM_cons, hpath, hfound]
      rfl
    · cases reason with
      | none => exact hvisible
      | some r =>
        intro e he
        rcases List.mem_cons.mp he with rfl | he
        · exact (visible_of_portablePath path).append_left _
        · exact hvisible e he
    · rw [List.forall_mem_cons, hreason]
      cases reason with
      | none => simpa using hnil
      | some r => simp

/-- The included paths are paths of the manifest, each listed once. -/
theorem PackageReceiptV2.included (p : PackageReceiptV2 sha256) :
    p.val.includedFiles.Nodup ∧ ∀ path ∈ p.val.includedFiles, path ∈ p.val.manifestPaths := by
  obtain ⟨hfields, hp⟩ := validateWith_eq_ok.mp p.2
  simp only [List.append_eq_nil_iff, check_eq_nil, decide_eq_true_eq] at hfields
  refine ⟨hfields.1.2, ?_⟩
  cases hs : p.val.status with
  | built =>
    simp only [PackageReceiptData.receiptMatchesManifest, hs, List.forall_mem_append,
      List.forall_mem_cons, violation_fst, not_or] at hp
    have hsame := hp.1.1.2.2.1.2
    rw [Bool.not_eq_false, sameSet_iff] at hsame
    exact fun path => (hsame path).mp
  | blocked =>
    simp only [PackageReceiptData.receiptMatchesManifest, hs, List.forall_mem_append,
      List.forall_mem_cons, violation_fst, not_not] at hp
    have hall := hp.1.1.2.2.2.2.1
    simpa [List.all_eq_true] using hall

/-- As many manifest files are kept as paths are included. -/
theorem length_includedManifestFiles (p : PackageReceiptV2 sha256) :
    (includedManifestFiles p).length = p.val.includedFiles.length := by
  obtain ⟨hnodup, hmem⟩ := p.included
  have hpaths : (includedManifestFiles p).map (·.path) =
      p.val.manifestPaths.filter (· ∈ p.val.includedFiles) := by
    rw [includedManifestFiles, PackageReceiptData.manifestPaths]
    cases p.val.manifest with
    | none => rfl
    | some manifest =>
      show (manifest.val.files.filter _).map (·.path) = (manifest.val.files.map (·.path)).filter _
      rw [List.filter_map]
      rfl
  have hmanifest : p.val.manifestPaths.Nodup := by
    rw [PackageReceiptData.manifestPaths]
    cases p.val.manifest with
    | none => exact List.nodup_nil
    | some manifest => exact manifest.paths_nodup
  have hperm : (p.val.manifestPaths.filter (· ∈ p.val.includedFiles)).Perm p.val.includedFiles := by
    rw [List.perm_ext_iff_of_nodup (hmanifest.filter _) hnodup]
    intro path
    simp only [List.mem_filter, decide_eq_true_eq]
    exact ⟨And.right, fun h => ⟨hmem path h, h⟩⟩
  rw [← List.length_map (·.path), hpaths, hperm.length_eq]

theorem visible_role (role : PackageFileRole) : Visible role.value.toList := by
  cases role <;> exact ⟨_, List.mem_cons_self, by decide⟩

theorem visible_of_mem_sorted_roles {e : Text}
    (he : e ∈ (files.map fun f => f.role.value.toList).eraseDups.insertionSort (· ≤ ·)) :
    Visible e := by
  have hperm := List.perm_insertionSort (· ≤ ·) (files.map fun f => f.role.value.toList).eraseDups
  rw [hperm.mem_iff, List.mem_eraseDups] at he
  obtain ⟨f, -, rfl⟩ := List.mem_map.mp he
  exact visible_role f.role

/-- The receipt of five checks with the ids of the source is valid, when the
first of them passes exactly for a built package. -/
theorem hardeningReceiptData_validate {built forbidden budget provenance roles : PackageHardeningCheck}
    (hids : [built, forbidden, budget, provenance, roles].map (·.id) =
      [packageReceiptBuilt.1, forbiddenPackagePaths.1, packageSizeBudget.1, provenanceTrace.1,
        requiredPackageRoles.1])
    (hbuilt : built.status = if p.val.status = .built then .pass else .blocker) :
    (hardeningReceiptData p policy [built, forbidden, budget, provenance, roles]).validate = .ok () := by
  have hdistinct : ([built, forbidden, budget, provenance, roles].map (·.id)).Nodup := by
    rw [hids]
    decide +kernel
  have hlength := length_includedManifestFiles p
  rw [PackageHardeningReceiptData.validate, validateWith_eq_ok]
  refine ⟨by simp [hardeningReceiptData, acceptanceTrace, p.included.1], ?_⟩
  rw [PackageHardeningReceiptData.statusMatchesChecks, List.forall_mem_append]
  constructor
  · simp only [List.forall_mem_cons, violation_fst, not_not]
    exact ⟨hdistinct, by simp [hardeningReceiptData, PackageHardeningReceiptData.checksOf], hlength,
      by simp⟩
  -- the two branches on the status of the receipt
  by_cases hpass : [built, forbidden, budget, provenance, roles].filter (·.status = .blocker) = []
  · have hstatus : (hardeningReceiptData p policy [built, forbidden, budget, provenance, roles]).status =
        .pass := if_neg (not_not.mpr hpass)
    have hs : p.val.status = .built := by
      by_contra hs
      have hmem : built ∈ [built, forbidden, budget, provenance, roles].filter (·.status = .blocker) := by
        simp [hbuilt, hs]
      rw [hpass] at hmem
      cases hmem
    obtain ⟨candidate, manifest, digest, hp⟩ := p.built hs
    rw [hstatus]
    simp only [List.forall_mem_cons, violation_fst, not_not]
    refine ⟨hpass, ?_, by simp⟩
    simp [hardeningReceiptData, hs, hp.candidate_eq, hp.packageDigest_eq]
  · have hstatus : (hardeningReceiptData p policy [built, forbidden, budget, provenance, roles]).status =
        .blocked := if_pos hpass
    rw [hstatus]
    simp only [List.forall_mem_cons, violation_fst]
    refine ⟨hpass, ?_⟩
    cases hs : p.val.status with
    | built =>
      obtain ⟨candidate, manifest, digest, hp⟩ := p.built hs
      simp [hardeningReceiptData, hs, hp.candidate_eq, hp.packageDigest_eq]
    | blocked => simp [hardeningReceiptData, hs, (p.blocked hs).2]

theorem packageReceiptCheck_ok (p : PackageReceiptV2 sha256) :
    ∃ c, packageReceiptCheck p = .ok c ∧ c.id = packageReceiptBuilt.1 ∧
      c.status = if p.val.status = .built then .pass else .blocker := by
  refine hardeningCheck_ok (fun e he => ?_) _ _ _
  rw [List.mem_singleton.mp he]
  exact Visible.append_left ⟨'p', by decide +kernel, by decide⟩ _

theorem forbiddenPathsCheck_ok (p : PackageReceiptV2 sha256) :
    ∃ c, forbiddenPathsCheck p = .ok c ∧ c.id = forbiddenPackagePaths.1 ∧
      (c.status = .blocker ↔
        ∃ path ∈ p.val.includedFiles, unsafePackagePathReason path.val ≠ .ok none) := by
  obtain ⟨forbidden, hforbidden, hvisible, hnil⟩ := forbiddenPaths_ok p.val.includedFiles
  obtain ⟨c, hc, hid, hstatus⟩ := hardeningCheck_ok hvisible forbiddenPackagePaths.1
    (if forbidden ≠ [] then .blocker else .pass) forbiddenPackagePaths.2
  refine ⟨c, ?_, hid, ?_⟩
  · rw [forbiddenPathsCheck, hforbidden]
    exact hc
  · have hsome : forbidden ≠ [] ↔
        ∃ path ∈ p.val.includedFiles, unsafePackagePathReason path.val ≠ .ok none := by
      rw [Ne, hnil]
      push Not
      rfl
    rw [hstatus, ← hsome]
    split <;> simp_all

theorem sizeBudgetCheck_ok (files : List PackageManifestFile) (policy : PackageHardeningPolicy) :
    ∃ c, sizeBudgetCheck files policy = .ok c ∧ c.id = packageSizeBudget.1 := by
  have hvisible : ∀ e ∈ ["files:".toList ++ decimal files.length ++ '/' :: decimal policy.maxFileCount.val,
      "total_size_bytes:".toList ++ decimal (totalSize files) ++ '/' ::
        decimal policy.maxTotalBytes.val], Visible e := by
    simp only [List.forall_mem_cons, List.append_assoc]
    exact ⟨Visible.append_left ⟨'f', by decide +kernel, by decide⟩ _,
      Visible.append_left ⟨'t', by decide +kernel, by decide⟩ _, by simp⟩
  obtain ⟨c, hc, hid, -⟩ := hardeningCheck_ok hvisible packageSizeBudget.1 _ packageSizeBudget.2
  exact ⟨c, hc, hid⟩

theorem provenanceCheck_ok (p : PackageReceiptV2 sha256) :
    ∃ c, provenanceCheck p = .ok c ∧ c.id = provenanceTrace.1 := by
  unfold provenanceCheck
  cases p.val.manifest with
  | none =>
    have hnone : ∀ e ∈ ([] : List Text), Visible e := by simp
    obtain ⟨c, hc, hid, -⟩ := hardeningCheck_ok hnone provenanceTrace.1 _ provenanceTrace.2
    exact ⟨c, hc, hid⟩
  | some manifest =>
    have hvisible : ∀ e ∈ ("builder:".toList ++ manifest.val.provenance.builder.val) ::
        manifest.val.provenance.source.val.map Subtype.val, Visible e := by
      intro e he
      rcases List.mem_cons.mp he with rfl | he
      · exact Visible.append_left ⟨'b', by decide +kernel, by decide⟩ _
      · obtain ⟨path, -, rfl⟩ := List.mem_map.mp he
        exact visible_of_portablePath path
    obtain ⟨c, hc, hid, -⟩ := hardeningCheck_ok hvisible provenanceTrace.1 _ provenanceTrace.2
    exact ⟨c, hc, hid⟩

theorem requiredRoleCheck_ok (files : List PackageManifestFile) (policy : PackageHardeningPolicy) :
    ∃ c, requiredRoleCheck files policy = .ok c ∧ c.id = requiredPackageRoles.1 := by
  obtain ⟨c, hc, hid, -⟩ := hardeningCheck_ok (fun e => visible_of_mem_sorted_roles)
    requiredPackageRoles.1 _ requiredPackageRoles.2
  exact ⟨c, hc, hid⟩

/-- Hardening returns, and has a blocker for forbidden paths exactly when the
package includes one. -/
theorem hardenSkillPackage_ok (p : PackageReceiptV2 sha256) (policy : Option PackageHardeningPolicy) :
    ∃ h, hardenSkillPackage p policy = .ok h ∧
      ((∃ b ∈ h.val.blockers, b.id = forbiddenPackagePaths.1) ↔
        ∃ path ∈ p.val.includedFiles, unsafePackagePathReason path.val ≠ .ok none) := by
  obtain ⟨built, hbuilt, hbuiltId, hbuiltStatus⟩ := packageReceiptCheck_ok p
  obtain ⟨forbidden, hforbidden, hforbiddenId, hforbiddenStatus⟩ := forbiddenPathsCheck_ok p
  obtain ⟨budget, hbudget, hbudgetId⟩ := sizeBudgetCheck_ok (includedManifestFiles p) (policy.getD {})
  obtain ⟨provenance, hprovenance, hprovenanceId⟩ := provenanceCheck_ok p
  obtain ⟨roles, hroles, hrolesId⟩ := requiredRoleCheck_ok (includedManifestFiles p) (policy.getD {})
  have hids : [built, forbidden, budget, provenance, roles].map (·.id) =
      [packageReceiptBuilt.1, forbiddenPackagePaths.1, packageSizeBudget.1, provenanceTrace.1,
        requiredPackageRoles.1] := by
    simp only [List.map_cons, List.map_nil, hbuiltId, hforbiddenId, hbudgetId, hprovenanceId, hrolesId]
  have hvalid : (hardeningReceiptData p (policy.getD {})
      [built, forbidden, budget, provenance, roles]).validate = .ok () :=
    hardeningReceiptData_validate hids hbuiltStatus
  refine ⟨⟨_, hvalid⟩, ?_, ?_⟩
  · unfold hardenSkillPackage
    dsimp only
    rw [hbuilt, hforbidden, hbudget, hprovenance, hroles]
    show Except.mapError _ (construct _ _) = _
    rw [construct_of_ok hvalid]
    rfl
  · rw [← hforbiddenStatus]
    have hids' : ∀ i ∈ [packageReceiptBuilt.1, packageSizeBudget.1, provenanceTrace.1,
        requiredPackageRoles.1], i ≠ forbiddenPackagePaths.1 := by
      simp only [List.forall_mem_cons]
      exact ⟨by decide +kernel, by decide +kernel, by decide +kernel, by decide +kernel, by simp⟩
    simp only [List.forall_mem_cons] at hids'
    constructor
    · rintro ⟨b, hb, hid⟩
      obtain ⟨hb, hblocker⟩ := List.mem_filter.mp hb
      have hcase : b = forbidden := by
        rcases List.mem_cons.mp hb with rfl | hb
        · exact absurd (hbuiltId.symm.trans hid) hids'.1
        simp only [List.mem_cons, List.not_mem_nil, or_false] at hb
        rcases hb with rfl | rfl | rfl | rfl
        · rfl
        · exact absurd (hbudgetId.symm.trans hid) hids'.2.1
        · exact absurd (hprovenanceId.symm.trans hid) hids'.2.2.1
        · exact absurd (hrolesId.symm.trans hid) hids'.2.2.2.1
      rw [← hcase]
      simpa using hblocker
    · intro hblocker
      refine ⟨forbidden, List.mem_filter.mpr ⟨?_, by simpa using hblocker⟩, hforbiddenId⟩
      exact List.mem_cons_of_mem _ List.mem_cons_self

end

end SkillsSdk
