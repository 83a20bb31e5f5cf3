/-
SkillsSdk/Models/Packaging.lean

Package identity, package manifests and package receipts.

A built receipt binds three things to each other: the candidate, whose digest
is the content digest of the manifest's files, the manifest, and the package
digest, which is the digest of the manifest's canonical JSON
(`PackageReceiptV2.built`).
-/
import SkillsSdk.Digests
import SkillsSdk.Paths

namespace SkillsSdk

/-! ### Shared field types -/

/-- A `PortablePath` field under the models' portable-path validator. -/
abbrev PortablePath := { t : Text // isPortable t = true }

instance : LawfulBEq PortablePath := inferInstance

/-- `set(a) == set(b)`. -/
def sameSet {α : Type*} [DecidableEq α] (a b : List α) : Bool :=
  a.all (· ∈ b) && b.all (· ∈ a)

/-- `set(a) & set(b)` is empty. -/
def disjointSets {α : Type*} [DecidableEq α] (a b : List α) : Bool := a.all (· ∉ b)

theorem sameSet_iff {α : Type*} [DecidableEq α] {a b : List α} :
    sameSet a b = true ↔ ∀ x, x ∈ a ↔ x ∈ b := by
  simp only [sameSet, Bool.and_eq_true, List.all_eq_true, decide_eq_true_eq]
  exact ⟨fun h x => ⟨h.1 x, h.2 x⟩, fun h => ⟨fun x => (h x).mp, fun x => (h x).mpr⟩⟩

/-! ### Candidate identity -/

structure PackageCandidateIdentity where
  packageId : PackageId
  sourceRevision : GitRevision
  contentSha256 : Sha256
  deriving DecidableEq

def PackageCandidateIdentity.toJson (c : PackageCandidateIdentity) : Json :=
  .obj [field "schema_version" (jsonLit "package-candidate/v1"),
    field "package_id" (jsonText c.packageId.val),
    field "source_revision" (jsonText c.sourceRevision.val),
    field "content_sha256" (jsonText c.contentSha256.val)]

theorem PackageCandidateIdentity.ints_toJson (c : PackageCandidateIdentity) : c.toJson.ints = [] := by
  simp only [PackageCandidateIdentity.toJson, Json.ints, Json.intsMembers, field, ints_jsonText, ints_jsonLit,
    List.append_nil]

/-! ### Manifests -/

inductive PackageFileRole where
  | skillMd
  | readme
  | reference
  | script
  | asset
  | eval
  deriving DecidableEq

def PackageFileRole.value : PackageFileRole → String
  | skillMd => "skill_md"
  | readme => "readme"
  | reference => "reference"
  | script => "script"
  | asset => "asset"
  | eval => "eval"

structure PackageManifestFile where
  path : PortablePath
  sha256 : Sha256
  sizeBytes : Nat
  role : PackageFileRole
  deriving DecidableEq

def PackageManifestFile.toJson (f : PackageManifestFile) : Json :=
  .obj [field "path" (jsonText f.path.val),
    field "sha256" (jsonText f.sha256.val),
    field "size_bytes" (.int f.sizeBytes),
    field "role" (jsonLit f.role.value)]

/-- What the candidate digest reads of a manifest file. -/
def PackageManifestFile.record (f : PackageManifestFile) : Text × Sha256 := (f.path.val, f.sha256)

structure PackageManifestProvenance where
  source : { l : List PortablePath // l ≠ [] }
  builder : NonEmptyText
  deriving DecidableEq

def PackageManifestProvenance.toJson (p : PackageManifestProvenance) : Json :=
  .obj [field "source" (jsonList (fun s : PortablePath => jsonText s.val) p.source.val),
    field "builder" (jsonText p.builder.val)]

structure PackageManifestData where
  candidate : PackageCandidateIdentity
  version : NonEmptyText
  files : List PackageManifestFile
  provenance : PackageManifestProvenance
  deriving DecidableEq

namespace PackageManifestData

def paths (m : PackageManifestData) : List PortablePath := m.files.map (·.path)

def validate (m : PackageManifestData) : Except ValidationError Unit :=
  validateWith "PackageManifest"
    (check (m.files ≠ []) "files" "Tuple should have at least 1 item after validation, not 0")
    [violation (¬ m.paths.Nodup) "package manifest paths must be unique"]

def toJson (m : PackageManifestData) : Json :=
  .obj [field "schema_version" (jsonLit "package-manifest/v1"),
    field "candidate" m.candidate.toJson,
    field "version" (jsonText m.version.val),
    field "files" (jsonList PackageManifestFile.toJson m.files),
    field "provenance" m.provenance.toJson]

theorem ints_toJson (m : PackageManifestData) : m.toJson.ints = m.files.map fun f => (f.sizeBytes : Int) := by
  have hfile : ∀ f : PackageManifestFile, f.toJson.ints = [(f.sizeBytes : Int)] := by
    intro f
    simp only [PackageManifestFile.toJson, Json.ints, Json.intsMembers, field, ints_jsonText, ints_jsonLit,
      List.append_nil, List.nil_append]
  have hfiles : (jsonList PackageManifestFile.toJson m.files).ints = m.files.map fun f => (f.sizeBytes : Int) := by
    rw [jsonList, Json.ints, Json.intsItems_eq_flatMap, List.flatMap_map, List.map_eq_flatMap]
    exact congrArg (fun f => m.files.flatMap f) (funext hfile)
  simp only [toJson, PackageManifestProvenance.toJson, Json.ints, Json.intsMembers, field, ints_jsonText,
    ints_jsonLit, PackageCandidateIdentity.ints_toJson, ints_jsonList fun _ => ints_jsonText _, hfiles,
    List.append_nil, List.nil_append]

theorem validate_eq_ok {m : PackageManifestData} :
    m.validate = .ok () ↔ m.files ≠ [] ∧ m.paths.Nodup := by
  simp [validate, validateWith_eq_ok]

end PackageManifestData

abbrev PackageManifest := Accepted PackageManifestData.validate

theorem PackageManifest.files_ne_nil (m : PackageManifest) : m.val.files ≠ [] :=
  (PackageManifestData.validate_eq_ok.mp m.2).1

theorem PackageManifest.paths_nodup (m : PackageManifest) : m.val.paths.Nodup :=
  (PackageManifestData.validate_eq_ok.mp m.2).2

/-! ### Receipts -/

structure PackageReceiptBlocker where
  code : BlockerCode
  message : NonEmptyText
  evidenceRefs : List PortablePath
  deriving DecidableEq

inductive BuildStatus where
  | built
  | blocked
  deriving DecidableEq

structure PackageReceiptData where
  receiptId : ReceiptId
  candidate : Option PackageCandidateIdentity
  status : BuildStatus
  startedAt : Int
  finishedAt : Int
  evidence : List PortablePath
  blocker : Option PackageReceiptBlocker
  packageDigest : Option Sha256
  manifest : Option PackageManifest
  includedFiles : List PortablePath
  excludedFiles : List PortablePath
  deriving DecidableEq

namespace PackageReceiptData

/-- The paths of the manifest, none without one. -/
def manifestPaths (r : PackageReceiptData) : List PortablePath :=
  (r.manifest.map fun m => m.val.paths).getD []

/-- `PackageReceipt.receipt_matches_manifest`. -/
def receiptMatchesManifest (r : PackageReceiptData) : List (Bool × String) :=
  [violation (r.finishedAt < r.startedAt) "package receipt finished_at must not precede started_at",
    violation (r.manifest.any fun m => some m.val.candidate ≠ r.candidate)
      "package receipt and manifest must bind the same candidate"] ++
  (match r.status with
    | .built =>
      [violation (r.candidate = none ∨ r.packageDigest = none ∨ r.manifest = none)
          "built package receipt requires candidate, package_digest, and manifest",
        violation (r.includedFiles = [] ∨ sameSet r.includedFiles r.manifestPaths = false)
          "built package receipt must include every manifest path",
        violation (r.blocker ≠ none) "built package receipt cannot contain a blocker"]
    | .blocked =>
      [violation (r.blocker = none) "blocked package receipt requires a blocker",
        violation (r.packageDigest ≠ none) "blocked package receipt cannot claim a package digest",
        violation (r.manifest = none ∧ (r.includedFiles ≠ [] ∨ r.excludedFiles ≠ []))
          "blocked receipt paths require a manifest",
        violation (¬ r.includedFiles.all (· ∈ r.manifestPaths))
          "blocked package receipt included files must be manifested",
        violation (disjointSets r.excludedFiles r.manifestPaths = false)
          "blocked package receipt excluded files must not be manifested"]) ++
  [violation (disjointSets r.includedFiles r.excludedFiles = false)
    "included and excluded package paths must be disjoint"]

variable (sha256 : List UInt8 → Sha256)

/-- `PackageReceiptV2.package_digest_matches_manifest`. -/
def packageDigestMatchesManifest (r : PackageReceiptData) : List (Bool × String) :=
  match r.status, r.candidate, r.manifest with
  | .built, some candidate, some manifest =>
    [violation (candidate.contentSha256 ≠
          candidateContentSha256 sha256 (manifest.val.files.map PackageManifestFile.record))
        "built package receipt candidate digest must match manifest files",
      violation (hasLongInt manifest.val.toJson = true)
        "Exceeds the limit (4300 digits) for integer string conversion; use sys.set_int_max_str_digits() to increase the limit",
      violation (r.packageDigest ≠ some (canonicalJsonSha256 sha256 manifest.val.toJson))
        "built package receipt digest must match the canonical manifest"]
  | _, _, _ => []

def validate (r : PackageReceiptData) : Except ValidationError Unit :=
  validateWith "PackageReceiptV2"
    (check (r.evidence ≠ []) "evidence" "Tuple should have at least 1 item after validation, not 0" ++
      check r.evidence.Nodup "evidence" "package receipt paths must be unique" ++
      check r.includedFiles.Nodup "included_files" "package receipt paths must be unique" ++
      check r.excludedFiles.Nodup "excluded_files" "package receipt paths must be unique")
    (r.receiptMatchesManifest ++ r.packageDigestMatchesManifest sha256)

end PackageReceiptData

abbrev PackageReceiptV2 (sha256 : List UInt8 → Sha256) := Accepted (PackageReceiptData.validate sha256)

variable {sha256 : List UInt8 → Sha256}

/-- What a built receipt binds together. -/
structure PackageReceiptData.Built (sha256 : List UInt8 → Sha256) (r : PackageReceiptData)
    (candidate : PackageCandidateIdentity) (manifest : PackageManifest) (digest : Sha256) : Prop where
  candidate_eq : r.candidate = some candidate
  manifest_eq : r.manifest = some manifest
  packageDigest_eq : r.packageDigest = some digest
  same_candidate : manifest.val.candidate = candidate
  content : candidate.contentSha256 =
    candidateContentSha256 sha256 (manifest.val.files.map PackageManifestFile.record)
  /-- The digest has been taken. -/
  written : hasLongInt manifest.val.toJson = false
  canonical : digest = canonicalJsonSha256 sha256 manifest.val.toJson

/-- Every built receipt binds a candidate, a manifest and a digest. -/
theorem PackageReceiptV2.built (r : PackageReceiptV2 sha256) (h : r.val.status = .built) :
    ∃ candidate manifest digest, r.val.Built sha256 candidate manifest digest := by
  obtain ⟨r, hr⟩ := r
  obtain ⟨-, hr⟩ := validateWith_eq_ok.mp hr
  simp only at h
  simp only [PackageReceiptData.receiptMatchesManifest, h, List.forall_mem_append,
    List.forall_mem_cons, violation_fst, not_or] at hr
  obtain ⟨⟨⟨⟨-, hsame, -⟩, ⟨hc, hd, hm⟩, -⟩, -⟩, hdigest⟩ := hr
  obtain ⟨candidate, hc⟩ := Option.ne_none_iff_exists'.mp hc
  obtain ⟨digest, hd⟩ := Option.ne_none_iff_exists'.mp hd
  obtain ⟨manifest, hm⟩ := Option.ne_none_iff_exists'.mp hm
  simp only [PackageReceiptData.packageDigestMatchesManifest, h, hc, hm, List.forall_mem_cons,
    violation_fst, not_not, hd, Option.some.injEq] at hdigest
  have hsame : manifest.val.candidate = candidate := by simpa [hm, hc] using hsame
  exact ⟨candidate, manifest, digest, hc, hm, hd, hsame, hdigest.1, Bool.eq_false_iff.mpr hdigest.2.1,
    hdigest.2.2.1⟩

/-- A blocked receipt names its blocker and no package digest. -/
theorem PackageReceiptV2.blocked (r : PackageReceiptV2 sha256) (h : r.val.status = .blocked) :
    (∃ b, r.val.blocker = some b) ∧ r.val.packageDigest = none := by
  have hr := (validateWith_eq_ok.mp r.2).2
  simp only [PackageReceiptData.receiptMatchesManifest, h, List.forall_mem_append,
    List.forall_mem_cons, violation_fst, not_not] at hr
  exact ⟨Option.ne_none_iff_exists'.mp hr.1.1.2.1, hr.1.1.2.2.1⟩

end SkillsSdk
