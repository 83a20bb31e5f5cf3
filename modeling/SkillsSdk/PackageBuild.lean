/-
SkillsSdk/PackageBuild.lean

Building a package: `build_skill_package`.

A directory is validated, and what passes becomes a manifest and a built
receipt.  What the receipt includes are the files of the scan
(`buildSkillPackage_built`).
-/
import SkillsSdk.Models.Evaluation
import SkillsSdk.ScanCompleteness

namespace SkillsSdk

/-! ### JSON of a validation -/

def ValidationSeverity.value : ValidationSeverity → String
  | warning => "warning"
  | blocker => "blocker"

def VerificationStatus.value : VerificationStatus → String
  | pass => "pass"
  | blocked => "blocked"

def SkillPackageFinding.toJson (f : SkillPackageFinding) : Json :=
  .obj [field "code" (jsonText f.code.val),
    field "severity" (jsonLit f.severity.value),
    field "message" (jsonText f.message.val),
    field "evidence_refs" (jsonList (fun p : PortablePath => jsonText p.val) f.evidenceRefs)]

def SkillIdentityData.toJson (i : SkillIdentityData) : Json :=
  .obj [field "schema_version" (jsonLit "skill-identity/v1"),
    field "package_type" (jsonLit "skill"),
    field "package_id" (jsonText i.packageId.val),
    field "name" (jsonText i.name.val),
    field "version" (jsonText i.version.val)]

def SkillPackageValidationData.toJson (r : SkillPackageValidationData) : Json :=
  .obj [field "schema_version" (jsonLit "skill-package-validation/v1"),
    field "candidate" (jsonOption PackageCandidateIdentity.toJson r.candidate),
    field "status" (jsonLit r.status.value),
    field "identity" (jsonOption (fun i : SkillIdentity => i.val.toJson) r.identity),
    field "files" (jsonList PackageManifestFile.toJson r.files),
    field "findings" (jsonList SkillPackageFinding.toJson r.findings),
    field "mutation_performed" (.bool false)]

/-! ### Receipts -/

/-- What a build can raise. -/
inductive BuildRaised where
  | skill (e : SkillRaised)
  | validationError (e : ValidationError)
  | assertionError
  | indexError
  deriving DecidableEq

/-- A model call of the build. -/
def built {α : Type*} (x : Except ValidationError α) : Except BuildRaised α :=
  x.mapError .validationError

/-- A `ReceiptId` field: the text must match the pattern. -/
def newReceiptId (t : Text) : Except BuildRaised ReceiptId :=
  if h : isIdentifier t = true then .ok ⟨t, h⟩
  else .error (.validationError ⟨"PackageReceiptV2".toList, [("receipt_id".toList,
    "String should match pattern '^[a-z0-9]+(?:[._-][a-z0-9]+)*$'".toList)]⟩)

/-- `_receipt_id` of a build. -/
def buildReceiptId (candidate : PackageCandidateIdentity) : Text :=
  candidate.packageId.val ++ '-' :: candidate.contentSha256.val.take 16

variable (sha256 : List UInt8 → Sha256)

/-- `_blocked_receipt_id`. -/
def blockedReceiptId (validation : SkillPackageValidation) : Text :=
  "blocked-".toList ++ (canonicalJsonSha256 sha256 validation.val.toJson).val.take 16

theorem skillMd_portable : isPortable "SKILL.md".toList = true := by decide +kernel

/-- `tuple(item.path for item in validation.files) or ("SKILL.md",)`. -/
def buildEvidence (validation : SkillPackageValidation) : List PortablePath :=
  let paths := validation.val.files.map (·.path)
  if paths = [] then [literal "SKILL.md" skillMd_portable] else paths

/-- `PackageManifestProvenance(source=("SKILL.md",), builder=…)`. -/
def buildProvenance : PackageManifestProvenance :=
  ⟨⟨[literal "SKILL.md" skillMd_portable], List.cons_ne_nil _ _⟩,
    literal "skills-sdk.packaging.manifest/v1" (by decide +kernel)⟩

/-- The receipt of a validation that blocks. -/
def blockedBuild (validation : SkillPackageValidation) (startedAt finishedAt : Int) :
    Except BuildRaised (PackageReceiptV2 sha256) :=
  match validation.val.findings with
  | [] => .error .indexError
  | first :: _ => do
    let receiptId ← newReceiptId (match validation.val.candidate with
      | some candidate => buildReceiptId candidate
      | none => blockedReceiptId sha256 validation)
    built (construct (PackageReceiptData.validate sha256)
      { receiptId := receiptId
        candidate := validation.val.candidate
        status := .blocked
        startedAt := startedAt
        finishedAt := finishedAt
        evidence := buildEvidence validation
        blocker := some ⟨first.code, first.message, first.evidenceRefs⟩
        packageDigest := none
        manifest := none
        includedFiles := []
        excludedFiles := [] })

/-- The receipt of a validation that passes. -/
def passedBuild (validation : SkillPackageValidation) (startedAt finishedAt : Int) :
    Except BuildRaised (PackageReceiptV2 sha256) :=
  match validation.val.candidate, validation.val.identity with
  | some candidate, some identity => do
    let manifest ← built (construct PackageManifestData.validate
      { candidate := candidate
        version := identity.val.version
        files := validation.val.files
        provenance := buildProvenance })
    let receiptId ← newReceiptId (buildReceiptId candidate)
    built (construct (PackageReceiptData.validate sha256)
      { receiptId := receiptId
        candidate := some candidate
        status := .built
        startedAt := startedAt
        finishedAt := finishedAt
        evidence := buildEvidence validation
        blocker := none
        packageDigest := some (canonicalJsonSha256 sha256 manifest.val.toJson)
        manifest := some manifest
        includedFiles := buildEvidence validation
        excludedFiles := [] })
  | _, _ => .error .assertionError

/-- `build_skill_package`, with the readings of its clock. -/
def buildSkillPackage (parsers : Parsers) (source : PackageSource) (sourceRevision : PyStr)
    (policy : SkillValidationPolicy) (startedAt finishedAt : Int) :
    Except BuildRaised (PackageReceiptV2 sha256) := do
  let validation ←
    (validateSkillPackage parsers sha256 source sourceRevision policy).mapError .skill
  match validation.val.status with
  | .blocked => blockedBuild sha256 validation startedAt finishedAt
  | .pass => passedBuild sha256 validation startedAt finishedAt

variable {sha256}

theorem built_construct_eq_ok_iff {α : Type*} {validate : α → Except ValidationError Unit} {d : α}
    {m : Accepted validate} : built (construct validate d) = .ok m ↔ m.val = d := by
  rw [built, mapError_eq_ok_iff, construct_eq_ok_iff]

/-- A validation that blocks builds nothing. -/
theorem blockedBuild_eq_ok {validation : SkillPackageValidation} {startedAt finishedAt : Int}
    {p : PackageReceiptV2 sha256}
    (h : blockedBuild sha256 validation startedAt finishedAt = .ok p) : p.val.status = .blocked := by
  rw [blockedBuild] at h
  split at h
  · cases h
  · obtain ⟨receiptId, -, h⟩ := bind_eq_ok_iff.mp h
    rw [built_construct_eq_ok_iff] at h
    rw [h]

/-- A validation that passes is built with its files. -/
theorem passedBuild_eq_ok {validation : SkillPackageValidation} {startedAt finishedAt : Int}
    {p : PackageReceiptV2 sha256} (h : passedBuild sha256 validation startedAt finishedAt = .ok p) :
    p.val.status = .built ∧ p.val.includedFiles = buildEvidence validation := by
  rw [passedBuild] at h
  split at h
  · obtain ⟨manifest, -, h⟩ := bind_eq_ok_iff.mp h
    obtain ⟨receiptId, -, h⟩ := bind_eq_ok_iff.mp h
    rw [built_construct_eq_ok_iff] at h
    rw [h]
    exact ⟨rfl, rfl⟩
  · cases h

/-- A built receipt includes the files of a scan without blockers. -/
theorem buildSkillPackage_built {parsers : Parsers} {source : PackageSource} {sourceRevision : PyStr}
    {policy : SkillValidationPolicy} {startedAt finishedAt : Int} {p : PackageReceiptV2 sha256}
    (h : buildSkillPackage sha256 parsers source sourceRevision policy startedAt finishedAt = .ok p)
    (hs : p.val.status = .built) :
    ∃ scan, scanFiles sha256 policy source.root = .ok scan ∧
      (∀ f ∈ scan.findings, f.severity ≠ .blocker) ∧
      p.val.includedFiles = scan.files.map (·.path) := by
  obtain ⟨validation, hvalidation, hbuild⟩ := bind_eq_ok_iff.mp h
  rw [mapError_eq_ok_iff] at hvalidation
  cases hstatus : validation.val.status with
  | blocked =>
    rw [hstatus] at hbuild
    exact absurd ((blockedBuild_eq_ok hbuild).symm.trans hs) (by decide)
  | pass =>
    rw [hstatus] at hbuild
    obtain ⟨scan, hscan, hfiles, hquiet⟩ := validateSkillPackage_pass hvalidation hstatus
    refine ⟨scan, hscan, hquiet, ?_⟩
    -- a validation that passes has files, so the evidence is their paths
    have hne : validation.val.files ≠ [] :=
      ((SkillPackageValidationData.validate_pass_iff hstatus).mp validation.2).2.1.2.2
    rw [(passedBuild_eq_ok hbuild).2, buildEvidence, if_neg (by simpa using hne), hfiles]

end SkillsSdk
