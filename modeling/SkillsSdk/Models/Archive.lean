/-
SkillsSdk/Models/Archive.lean

The policy and the receipt of archive verification.

A passing receipt carries the whole proof (`validate_ofManifest_iff`) and a
blocked one none of it.
-/
import SkillsSdk.Models.Packaging

namespace SkillsSdk

/-- `PackageArchiveVerificationPolicy`: every bound is at least one. -/
structure PackageArchiveVerificationPolicy where
  maxArchiveBytes : Nat := 25 * 1024 * 1024
  maxEntryCount : Nat := 500
  maxTotalUncompressedBytes : Nat := 20 * 1024 * 1024
  maxArchiveBytes_pos : 1 ≤ maxArchiveBytes := by decide
  maxEntryCount_pos : 1 ≤ maxEntryCount := by decide
  maxTotalUncompressedBytes_pos : 1 ≤ maxTotalUncompressedBytes := by decide

inductive VerificationStatus where
  | pass
  | blocked
  deriving DecidableEq

structure PackageArchiveVerificationReceiptData where
  status : VerificationStatus
  archiveSha256 : Option Sha256 := none
  candidate : Option PackageCandidateIdentity := none
  packageDigest : Option Sha256 := none
  manifest : Option PackageManifest := none
  verifiedFiles : List PortablePath := []
  blocker : Option PackageReceiptBlocker := none
  deriving DecidableEq

namespace PackageArchiveVerificationReceiptData

variable (sha256 : List UInt8 → Sha256)

/-- `PackageArchiveVerificationReceipt.status_matches_proof`. -/
def statusMatchesProof (r : PackageArchiveVerificationReceiptData) : List (Bool × String) :=
  match r.status with
  | .pass =>
    [violation (r.archiveSha256 = none ∨ r.candidate = none ∨ r.packageDigest = none ∨ r.manifest = none)
        "passing archive verification requires complete digest and manifest proof",
      violation (r.blocker ≠ none) "passing archive verification cannot contain a blocker"] ++
    (match r.candidate, r.manifest with
      | some candidate, some manifest =>
        [violation (candidate ≠ manifest.val.candidate)
            "archive verification candidate must match the manifest",
          violation (candidate.contentSha256 ≠
              candidateContentSha256 sha256 (manifest.val.files.map PackageManifestFile.record))
            "archive verification candidate digest must match manifest files",
          violation (r.packageDigest ≠ some (canonicalJsonSha256 sha256 manifest.val.toJson))
            "archive verification package digest must match the canonical manifest",
          violation (sameSet r.verifiedFiles manifest.val.paths = false)
            "passing archive verification must verify every manifest file"]
      | _, _ => [])
  | .blocked =>
    [violation (r.blocker = none) "blocked archive verification requires a blocker",
      violation (r.archiveSha256 ≠ none ∨ r.candidate ≠ none ∨ r.packageDigest ≠ none ∨
          r.manifest ≠ none ∨ r.verifiedFiles ≠ [])
        "blocked archive verification cannot claim package proof"]

def validate (r : PackageArchiveVerificationReceiptData) : Except ValidationError Unit :=
  validateWith "PackageArchiveVerificationReceipt"
    (check r.verifiedFiles.Nodup "verified_files" "verified archive paths must be unique")
    (r.statusMatchesProof sha256)

/-- A blocked receipt without proof. -/
def ofBlocker (b : PackageReceiptBlocker) : PackageArchiveVerificationReceiptData where
  status := .blocked
  blocker := some b

/-- A passing receipt for a manifest. -/
def ofManifest (archiveDigest packageDigest : Sha256) (manifest : PackageManifest) :
    PackageArchiveVerificationReceiptData where
  status := .pass
  archiveSha256 := some archiveDigest
  candidate := some manifest.val.candidate
  packageDigest := some packageDigest
  manifest := some manifest
  verifiedFiles := manifest.val.paths

variable {sha256}

theorem validate_ofBlocker (b : PackageReceiptBlocker) : (ofBlocker b).validate sha256 = .ok () := by
  simp [validate, validateWith_eq_ok, statusMatchesProof, ofBlocker]

/-- The proof of a manifest passes when both digests are those of the manifest. -/
theorem validate_ofManifest_iff {archiveDigest packageDigest : Sha256} {manifest : PackageManifest} :
    (ofManifest archiveDigest packageDigest manifest).validate sha256 = .ok () ↔
      manifest.val.candidate.contentSha256 =
          candidateContentSha256 sha256 (manifest.val.files.map PackageManifestFile.record) ∧
        packageDigest = canonicalJsonSha256 sha256 manifest.val.toJson := by
  have hpaths := manifest.paths_nodup
  have hsame : sameSet manifest.val.paths manifest.val.paths = true := sameSet_iff.mpr fun _ => Iff.rfl
  simp [validate, validateWith_eq_ok, statusMatchesProof, ofManifest, hpaths, hsame]

end PackageArchiveVerificationReceiptData

abbrev PackageArchiveVerificationReceipt (sha256 : List UInt8 → Sha256) :=
  Accepted (PackageArchiveVerificationReceiptData.validate sha256)

end SkillsSdk
