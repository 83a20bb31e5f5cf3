/-
SkillsSdk/Models/Intake.lean

Contexts and receipts of the intake of a skill package.

There are three versions of the contract, one for each way a package was
obtained: from a repository, out of a saved release, out of an archive.  They
differ in the evidence of the source (`IntakeProvenance`) and in what binds it
to the candidate (`requireSourceBinding`); the rest of a receipt, and of its
validator, is one for all three.
-/
import SkillsSdk.Models.PublicText
import SkillsSdk.Models.Validation

namespace SkillsSdk

open Rx Rx.Regex

/-! ### Owners -/

/-- The value of a secret after one of the nine credential shapes. -/
def ownerCredential : Regex Char :=
  let key := cls fun c => isAlnum c || oneOf "_-" c
  union [
    concat (asciiWord "aiza" :: List.replicate 35 key),
    concat (asciiWord "akia" :: List.replicate 16 (cls isAlnum)),
    concat [asciiWord "bearer", plus (cls isSpace), plus (cls fun c => !isSpace c)],
    asciiWord "ghp_", asciiWord "github_pat_", asciiWord "hf_", asciiWord "sk-",
    concat [asciiWord "xox", alt (asciiLetter 'b') (asciiLetter 'p'), word "-"],
    concat [
      union [concat [asciiWord "api", opt (cls (oneOf "_-")), asciiWord "key"],
        asciiWord "token", asciiWord "secret", asciiWord "password", asciiWord "credential"],
      opt (cls fun c => c == '"' || c == '\''), many (cls isSpace), cls (oneOf ":=")]]

/-- `[\\/]`. -/
def eitherSlash : Regex Char := cls fun c => c == '\\' || c == '/'

/-- `(?:HOME|USER|USERPROFILE)`. -/
def homeVariable : Regex Char := union [word "HOME", word "USER", word "USERPROFILE"]

/-- `_OWNER_PRIVATE_PATTERN`. -/
def ownerPrivatePattern : Regex Char :=
  union [
    seq (guard nonAlnum) ownerCredential,
    concat [word "-----BEGIN", many (cls fun c => c == ' ' || isUpper c), word " PRIVATE KEY-----"],
    concat [cls isAlpha, many (cls fun c => isAlnum c || oneOf "+.-" c), word "://",
      many (cls fun c => !(c == '/' || isSpace c)), word "@"],
    asciiWord "file://",
    seq (guard fun c => isSpace c || oneOf "(=:\"'" c)
      (alt (concat [word "/", notNext (· == '/'), cls fun c => !isSpace c])
        (concat [cls isAlpha, word ":", eitherSlash])),
    word "\\\\",
    concat [word "~", eitherSlash],
    concat [word "$", opt (cls (· == '\x7b')), homeVariable, opt (cls (· == '\x7d')), eitherSlash],
    concat [word "%", homeVariable, word "%", eitherSlash]]

inductive RightsBasis where
  | authored
  | license
  | permission
  deriving DecidableEq

structure RightsStatus where
  basis : RightsBasis
  license : NonEmptyText
  evidenceRef : PortablePath
  deriving DecidableEq

inductive OwnershipState where
  | canonical
  | transitional
  | external
  deriving DecidableEq

structure PackageOwner where
  owner : NonEmptyText
  maintainer : NonEmptyText
  ownershipState : OwnershipState
  rights : RightsStatus
  deriving DecidableEq

/-- `_public_owner_metadata`: the fields that must not show a machine path or a credential. -/
def PackageOwner.isPublic (o : PackageOwner) : Bool :=
  [o.owner, o.maintainer, o.rights.license].all fun t => !search ownerPrivatePattern t.val

def privateOwner : String :=
  "intake owner metadata must be public text without machine paths or credential shapes"

/-! ### Decisions -/

structure IntakeChecks where
  identity : Bool
  provenance : Bool
  rights : Bool
  ownerUnchanged : Bool
  deriving DecidableEq

inductive IntakeDecisionStatus where
  | admitted
  | block
  | reject
  | needsOwnerDecision
  deriving DecidableEq

structure IntakeDecisionData where
  candidate : PackageCandidateIdentity
  decision : IntakeDecisionStatus
  checks : IntakeChecks
  blockerCodes : List NonEmptyText
  deriving DecidableEq

/-- `all(self.checks.model_dump().values())`. -/
def IntakeChecks.pass (c : IntakeChecks) : Bool :=
  c.identity && c.provenance && c.rights && c.ownerUnchanged

/-- `IntakeDecision.enforce_decision_contract`. -/
def IntakeDecisionData.validate (d : IntakeDecisionData) : Except ValidationError Unit :=
  validateWith "IntakeDecision" []
    (match d.decision with
      | .admitted =>
        [violation (d.checks.pass = false ∨ d.blockerCodes ≠ [])
          "admit requires all intake checks and no blockers"]
      | _ =>
        [violation (d.blockerCodes = []) "non-admit decisions require at least one blocker code"])

abbrev IntakeDecision := Accepted IntakeDecisionData.validate

/-- `_CHECK_BLOCKERS`, of the checks that fail. -/
def checkBlockers (checks : IntakeChecks) : List NonEmptyText :=
  (if checks.identity then [] else [literal "identity_unconfirmed" (by decide +kernel)]) ++
  (if checks.provenance then [] else [literal "provenance_unconfirmed" (by decide +kernel)]) ++
  (if checks.rights then [] else [literal "rights_unconfirmed" (by decide +kernel)]) ++
  (if checks.ownerUnchanged then [] else [literal "owner_decision_required" (by decide +kernel)])

/-- What `build_intake_decision` hands to the constructor of a decision. -/
def intakeDecisionData (candidate : PackageCandidateIdentity) (checks : IntakeChecks)
    (additionalBlockerCodes : List NonEmptyText) : IntakeDecisionData where
  candidate := candidate
  decision :=
    if additionalBlockerCodes ≠ [] ∨ (checks.identity && checks.provenance && checks.rights) = false then
      .block
    else if checks.ownerUnchanged = false then .needsOwnerDecision
    else .admitted
  checks := checks
  blockerCodes := (additionalBlockerCodes ++ checkBlockers checks).eraseDups

/-- `build_intake_decision`. -/
def buildIntakeDecision (candidate : PackageCandidateIdentity) (checks : IntakeChecks)
    (additionalBlockerCodes : List NonEmptyText) : Except ValidationError IntakeDecision :=
  construct IntakeDecisionData.validate (intakeDecisionData candidate checks additionalBlockerCodes)

/-- An additional code blocks. -/
theorem intakeDecisionData_block {candidate : PackageCandidateIdentity} {checks : IntakeChecks}
    {codes : List NonEmptyText} (h : codes ≠ []) :
    (intakeDecisionData candidate checks codes).decision = .block := if_pos (Or.inl h)

theorem checkBlockers_eq_nil_iff {checks : IntakeChecks} :
    checkBlockers checks = [] ↔ checks.pass = true := by
  obtain ⟨identity, provenance, rights, ownerUnchanged⟩ := checks
  cases identity <;> cases provenance <;> cases rights <;> cases ownerUnchanged <;>
    simp [checkBlockers, IntakeChecks.pass]

/-- A decision that is built from checks is one that its model accepts. -/
theorem intakeDecisionData_validate (candidate : PackageCandidateIdentity) (checks : IntakeChecks)
    (codes : List NonEmptyText) : (intakeDecisionData candidate checks codes).validate = .ok () := by
  -- a decision is admitted exactly when nothing blocks it
  have hcodes : (intakeDecisionData candidate checks codes).blockerCodes = [] ↔
      codes = [] ∧ checks.pass = true := by
    rw [← checkBlockers_eq_nil_iff, ← List.append_eq_nil_iff, intakeDecisionData]
    rcases codes ++ checkBlockers checks with - | ⟨code, rest⟩
    · exact iff_of_true rfl rfl
    · rw [List.eraseDups_cons]
      exact iff_of_false (List.cons_ne_nil _ _) (List.cons_ne_nil _ _)
  rw [IntakeDecisionData.validate, validateWith_eq_ok]
  refine ⟨rfl, ?_⟩
  by_cases hnone : codes = [] ∧ checks.pass = true
  · have hdecided : (intakeDecisionData candidate checks codes).decision = .admitted := by
      obtain ⟨rfl, hpass⟩ := hnone
      rw [IntakeChecks.pass, Bool.and_eq_true] at hpass
      simp [intakeDecisionData, hpass.1, hpass.2]
    rw [hdecided]
    simpa using ⟨hnone.2, hcodes.mpr hnone⟩
  · have hne : (intakeDecisionData candidate checks codes).decision ≠ .admitted := by
      intro h
      apply hnone
      simp only [intakeDecisionData] at h
      split_ifs at h with h₁ h₂
      simp only [not_or, not_not, Bool.not_eq_false] at h₁ h₂
      exact ⟨h₁.1, by rw [IntakeChecks.pass, h₁.2, h₂]; rfl⟩
    rcases hdecision : (intakeDecisionData candidate checks codes).decision with - | - | - | -
    · exact absurd hdecision hne
    all_goals simpa using fun h => hnone (hcodes.mp h)

theorem buildIntakeDecision_ok (candidate : PackageCandidateIdentity) (checks : IntakeChecks)
    (codes : List NonEmptyText) : buildIntakeDecision candidate checks codes =
      .ok ⟨_, intakeDecisionData_validate candidate checks codes⟩ :=
  construct_of_ok _

/-! ### Sources -/

inductive PackageSourceKind where
  | git
  | archive
  | external
  | local
  deriving DecidableEq

structure SourceProvenance where
  repository : NonEmptyText
  revision : GitRevision
  path : PortablePath
  contentSha256 : Sha256
  deriving DecidableEq

/-- `[A-Za-z0-9][A-Za-z0-9._+-]{0,199}`. -/
def isReleaseToken (t : Text) : Bool :=
  fullmatch (seq (cls isAlnum) (many (cls fun c => isAlnum c || oneOf "._+-" c))) t &&
    decide (t.length ≤ 200)

abbrev ReleaseToken := { t : Text // isReleaseToken t = true }

/-- `value.split("/", 3)[-1]`, of a value with three slashes. -/
def afterSlashes : Nat → Text → Text
  | 0, t => t
  | n + 1, t => afterSlashes n ((t.dropWhile (· ≠ '/')).drop 1)

/-- `locator_is_public_https`, and the bound of the field. -/
def isPublicLocator (t : Text) : Bool :=
  fullmatch (concat [word "https://", cls isLowerAlnum,
    opt (seq (many (cls fun c => isLowerAlnum c || oneOf ".-" c)) (cls isLowerAlnum)), word "/",
    plus (cls fun c => isAlnum c || oneOf "._~/-" c)]) t &&
  ((afterSlashes 3 t).splitOn '/').all (fun part => part ≠ ['.'] ∧ part ≠ ['.', '.'] ∧ part ≠ []) &&
  decide (t.length ≤ 2048)

abbrev PublicLocator := { t : Text // isPublicLocator t = true }

structure SavedReleaseSnapshotData where
  locator : PublicLocator
  sourceId : ReleaseToken
  releaseId : ReleaseToken
  version : ReleaseToken
  archiveSha256 : Sha256
  rootCandidate : PackageCandidateIdentity
  rootModeManifestSha256 : Sha256
  bindingSha256 : Sha256
  deriving DecidableEq

/-- `self.model_dump(mode="json", exclude={"binding_sha256"})`. -/
def SavedReleaseSnapshotData.payload (s : SavedReleaseSnapshotData) : Json :=
  .obj [field "schema_version" (jsonLit "saved-release-snapshot/v1"),
    field "locator" (jsonText s.locator.val),
    field "source_id" (jsonText s.sourceId.val),
    field "release_id" (jsonText s.releaseId.val),
    field "version" (jsonText s.version.val),
    field "archive_sha256" (jsonText s.archiveSha256.val),
    field "root_candidate" s.rootCandidate.toJson,
    field "root_mode_manifest_sha256" (jsonText s.rootModeManifestSha256.val)]

structure ArchiveSourceSnapshotData where
  version : ReleaseToken
  archiveSha256 : Sha256
  rootCandidate : PackageCandidateIdentity
  rootModeManifestSha256 : Sha256
  bindingSha256 : Sha256
  deriving DecidableEq

/-- `self.model_dump(mode="json", exclude={"binding_sha256"})`. -/
def ArchiveSourceSnapshotData.payload (s : ArchiveSourceSnapshotData) : Json :=
  .obj [field "schema_version" (jsonLit "archive-source-snapshot/v1"),
    field "acquisition" (jsonLit "user-supplied-recovery"),
    field "upstream_release" .null,
    field "version" (jsonText s.version.val),
    field "archive_sha256" (jsonText s.archiveSha256.val),
    field "root_candidate" s.rootCandidate.toJson,
    field "root_mode_manifest_sha256" (jsonText s.rootModeManifestSha256.val)]

section

variable (sha256 : List UInt8 → Sha256)

/-- `SavedReleaseSnapshot.binding_is_consistent`. -/
def SavedReleaseSnapshotData.validate (s : SavedReleaseSnapshotData) : Except ValidationError Unit :=
  validateWith "SavedReleaseSnapshot" []
    [violation (canonicalJsonSha256 sha256 s.payload ≠ s.bindingSha256)
      "saved release descriptor does not match its binding digest"]

/-- `ArchiveSourceSnapshot.binding_is_consistent`. -/
def ArchiveSourceSnapshotData.validate (s : ArchiveSourceSnapshotData) : Except ValidationError Unit :=
  validateWith "ArchiveSourceSnapshot" []
    [violation (canonicalJsonSha256 sha256 s.payload ≠ s.bindingSha256)
      "archive descriptor does not match its binding digest"]

abbrev SavedReleaseSnapshot := Accepted (SavedReleaseSnapshotData.validate sha256)
abbrev ArchiveSourceSnapshot := Accepted (ArchiveSourceSnapshotData.validate sha256)

/-- The snapshot that a child was selected from. -/
inductive SourceSnapshot where
  | savedRelease (s : SavedReleaseSnapshot sha256)
  | archive (s : ArchiveSourceSnapshot sha256)
  deriving DecidableEq

def SourceSnapshot.rootCandidate {sha256 : List UInt8 → Sha256} :
    SourceSnapshot sha256 → PackageCandidateIdentity
  | savedRelease s => s.val.rootCandidate
  | archive s => s.val.rootCandidate

/-- `SavedReleaseProvenance`, and `ArchiveSourceProvenance` with its other snapshot. -/
structure SelectedChildData where
  snapshot : SourceSnapshot sha256
  path : PortablePath
  candidate : PackageCandidateIdentity
  deriving DecidableEq

/-- `source_revision_matches`. -/
def SelectedChildData.validate (p : SelectedChildData sha256) : Except ValidationError Unit :=
  validateWith "SavedReleaseProvenance" []
    [violation (fullmatch (seq (word "skills/") identifierPattern) p.path.val = false ∨
        p.candidate.sourceRevision ≠ p.snapshot.rootCandidate.sourceRevision)
      "saved child path and revision must bind the whole-plugin snapshot"]

abbrev SelectedChild := Accepted (SelectedChildData.validate sha256)

/-- `_REPOSITORY_SLUG_PATTERN`. -/
def isRepositorySlug (t : Text) : Bool :=
  let name := seq (cls isAlnum) (many (cls fun c => isAlnum c || oneOf "._-" c))
  fullmatch (concat [name, word "/", name]) t

/-- The evidence of the source in a context. -/
inductive IntakeProvenance where
  | repository (sourceRepository : { t : NonEmptyText // isRepositorySlug t.val = true })
      (sourceRevision : GitRevision) (sourcePath : PortablePath)
      (sourceKind : { k : PackageSourceKind // k ≠ .archive })
  | child (source : SelectedChild sha256)
  deriving DecidableEq

/-! ### Contexts -/

structure SkillPackageIntakeContextData where
  provenance : IntakeProvenance sha256
  owner : PackageOwner
  checks : IntakeChecks
  deriving DecidableEq

/-- The field validators of the contexts that are left to check. -/
def SkillPackageIntakeContextData.validate (c : SkillPackageIntakeContextData sha256) :
    Except ValidationError Unit :=
  validateWith "SkillPackageIntakeContext" (check c.owner.isPublic "owner" privateOwner) []

abbrev SkillPackageIntakeContext := Accepted (SkillPackageIntakeContextData.validate sha256)

/-! ### Package sources -/

/-- `PackageSource` of the contract. -/
structure RepositorySource where
  packageId : PackageId
  provenance : SourceProvenance
  sourceKind : PackageSourceKind
  deriving DecidableEq

/-- `SavedReleasePackageSource`, and `ArchivePackageSource`; the kind of each is fixed. -/
structure ChildSourceData where
  packageId : PackageId
  provenance : SelectedChild sha256
  deriving DecidableEq

/-- `source_matches_child`. -/
def ChildSourceData.validate (s : ChildSourceData sha256) : Except ValidationError Unit :=
  validateWith "SavedReleasePackageSource" []
    [violation (s.packageId ≠ s.provenance.val.candidate.packageId)
      "saved source package must match its selected child"]

abbrev ChildSource := Accepted (ChildSourceData.validate sha256)

/-- The source of a normalized package. -/
inductive IntakeSource where
  | repository (source : RepositorySource)
  | child (source : ChildSource sha256)
  deriving DecidableEq

/-! ### Normalized packages -/

/-- `^[a-z0-9]+(?:[._-][a-z0-9]+)*$`. -/
abbrev PluginName := { t : Text // isIdentifier t = true }

structure PluginIdentity where
  packageId : PackageId
  name : PluginName
  version : NonEmptyText
  deriving DecidableEq

inductive PackageType where
  | skill
  | plugin
  deriving DecidableEq

/-- The identity of a package, told apart by its `package_type`. -/
inductive PackageIdentity where
  | skill (i : SkillIdentity)
  | plugin (i : PluginIdentity)
  deriving DecidableEq

def PackageIdentity.packageType : PackageIdentity → PackageType
  | skill _ => .skill
  | plugin _ => .plugin

def PackageIdentity.packageId : PackageIdentity → PackageId
  | skill i => i.val.packageId
  | plugin i => i.packageId

inductive PackageLifecycleState where
  | discovered
  | normalized
  | admitted
  | blocked
  | retired
  deriving DecidableEq

variable {sha256} in
def IntakeSource.packageId : IntakeSource sha256 → PackageId
  | repository s => s.packageId
  | child s => s.val.packageId

structure NormalizedPackageData where
  packageType : PackageType
  identity : PackageIdentity
  source : IntakeSource sha256
  owner : PackageOwner
  lifecycle : PackageLifecycleState := .normalized
  dependencies : List NonEmptyText := []
  deriving DecidableEq

/-- `identity_and_source_match`. -/
def NormalizedPackageData.validate (p : NormalizedPackageData sha256) : Except ValidationError Unit :=
  validateWith "NormalizedPackage" []
    [violation (p.identity.packageType ≠ p.packageType)
        "identity package_type must match normalized package_type",
      violation (p.identity.packageId ≠ p.source.packageId)
        "identity and source package_id values must match"]

abbrev NormalizedPackage := Accepted (NormalizedPackageData.validate sha256)

/-! ### Versions of the contract -/

/-- How the package was obtained: from a repository (v1), out of a saved release
(v2), or out of an archive (v3). -/
inductive IntakeVersion where
  | v1
  | v2
  | v3
  deriving DecidableEq

variable {sha256} in
def SelectedChildData.version (c : SelectedChildData sha256) : IntakeVersion :=
  match c.snapshot with
  | .savedRelease _ => .v2
  | .archive _ => .v3

variable {sha256} in
def IntakeProvenance.version : IntakeProvenance sha256 → IntakeVersion
  | repository _ _ _ _ => .v1
  | child c => c.val.version

variable {sha256} in
def IntakeSource.version : IntakeSource sha256 → IntakeVersion
  | repository _ => .v1
  | child s => s.val.provenance.val.version

/-! ### Receipts -/

inductive IntakeStatus where
  | normalized
  | blocked
  deriving DecidableEq

structure SkillPackageIntakeReceiptData where
  status : IntakeStatus
  context : SkillPackageIntakeContext sha256
  candidate : Option PackageCandidateIdentity
  validation : SkillPackageValidation
  source : Option (IntakeSource sha256) := none
  decision : Option IntakeDecision
  normalizedPackage : Option (NormalizedPackage sha256) := none
  blocker : Option PackageReceiptBlocker := none
  deriving DecidableEq

variable {sha256} in
/-- The revision that a context asks for. -/
def SkillPackageIntakeContextData.sourceRevision (c : SkillPackageIntakeContextData sha256) :
    GitRevision :=
  match c.provenance with
  | .repository _ revision _ _ => revision
  | .child source => source.val.candidate.sourceRevision

/-- The blocker of a finding. -/
def SkillPackageFinding.toBlocker (f : SkillPackageFinding) : PackageReceiptBlocker :=
  ⟨f.code, f.message, f.evidenceRefs⟩

/-- The code of a finding among the codes of a decision. -/
def SkillPackageFinding.codeText (f : SkillPackageFinding) : NonEmptyText :=
  ⟨f.code.val, isNonEmptyText_of_isBlockerCode f.code.2⟩

namespace SkillPackageIntakeReceiptData

variable {sha256} (r : SkillPackageIntakeReceiptData sha256)

/-- `_require_source_binding`, of the version of the context. -/
def requireSourceBinding (candidate : PackageCandidateIdentity) (source : IntakeSource sha256) :
    List (Bool × String) :=
  match r.context.val.provenance, source with
  | .repository repository _ path kind, .repository s =>
    [violation (s.provenance.revision ≠ candidate.sourceRevision)
        "intake source revision must bind the candidate",
      violation (s.provenance.contentSha256 ≠ candidate.contentSha256)
        "intake source digest must bind the candidate",
      violation (s.provenance.repository ≠ repository.val)
        "intake source repository must match the context",
      violation (s.provenance.path ≠ path) "intake source path must match the context",
      violation (s.sourceKind ≠ kind.val) "intake source kind must match the context"]
  | .child c, .child s =>
    [violation (s.val.provenance ≠ c ∨ candidate ≠ c.val.candidate)
      "saved intake source must match the selected child and context"]
  -- the field of the source does not take the other kind
  | _, _ => []

/-- The checks of a normalized receipt. -/
def normalizedChecks (candidate : PackageCandidateIdentity) : List (Bool × String) :=
  [violation (r.validation.val.status ≠ .pass) "normalized intake requires passing validation",
    violation (r.source = none ∨ r.decision = none ∨ r.normalizedPackage = none)
      "normalized intake requires complete source, decision, and package proof",
    violation (r.blocker ≠ none) "normalized intake cannot contain a blocker"] ++
  (match r.source, r.decision, r.normalizedPackage with
    | some source, some decision, some package =>
      [violation (package.val.lifecycle ≠ .normalized)
          "normalized intake requires the normalized package lifecycle",
        violation (package.val.dependencies ≠ []) "normalized intake cannot assert dependency metadata",
        violation (source.packageId ≠ candidate.packageId) "intake source must bind the candidate package"] ++
      r.requireSourceBinding candidate source ++
      [violation (decision.val.candidate ≠ candidate) "intake decision must bind the candidate",
        violation (decision.val.checks ≠ r.context.val.checks)
          "intake decision checks must match the context",
        -- the call of `build_intake_decision` does not raise: `buildIntakeDecision_ok`
        violation (decision.val ≠ intakeDecisionData candidate r.context.val.checks [])
          "intake decision must match its persisted checks",
        violation (package.val.source ≠ source) "normalized package must retain the intake source",
        violation (some package.val.identity ≠ r.validation.val.identity.map PackageIdentity.skill)
          "normalized package identity must match validation",
        violation (package.val.owner ≠ r.context.val.owner)
          "normalized package owner must match the context"]
    | _, _, _ => [])

/-- The checks of a blocked receipt. -/
def blockedChecks (candidate : PackageCandidateIdentity) : List (Bool × String) :=
  match r.validation.val.blockers.head? with
  | none => [violation True "blocked intake requires a validation blocker"]
  | some primary =>
    [violation (r.blocker ≠ some primary.toBlocker)
        "intake blocker must match the primary validation blocker",
      violation (r.normalizedPackage ≠ none ∨ r.source ≠ none)
        "blocked intake cannot claim normalized package proof",
      violation (r.decision.any fun d => d.val.decision = .admitted)
        "blocked intake cannot contain an admit decision"] ++
    (match r.decision with
      | none => []
      | some decision =>
        [violation (decision.val.candidate ≠ candidate)
            "blocked intake decision must bind the candidate",
          violation (decision.val.checks ≠ r.context.val.checks)
            "blocked intake decision must preserve context checks",
          violation (decision.val ≠
              intakeDecisionData candidate r.context.val.checks [primary.codeText])
            "blocked intake decision must match its persisted evidence"])

/-- The checks that depend on the status of the receipt. -/
def statusChecks (candidate : PackageCandidateIdentity) : List (Bool × String) :=
  match r.status with
  | .normalized => r.normalizedChecks candidate
  | .blocked => r.blockedChecks candidate

variable (sha256) in
/-- `SkillPackageIntakeReceipt.proof_is_candidate_bound`. -/
def proofIsCandidateBound : List (Bool × String) :=
  match r.candidate with
  | none => [violation True "intake receipt must retain its resolved candidate"]
  | some candidate =>
    let paths := r.validation.val.files.map (·.path.val)
    [violation (paths ≠ paths.insertionSort (· ≤ ·)) "intake validation files must be sorted by path",
      violation (r.candidate ≠ r.validation.val.candidate)
        "intake receipt candidate must match validation",
      violation (r.validation.val.identity.any fun i => i.val.packageId ≠ candidate.packageId)
        "intake validation identity must match the candidate",
      violation (r.decision = none) "resolved intake candidate requires a decision",
      violation (candidate.contentSha256 ≠
          candidateContentSha256 sha256 (r.validation.val.files.map PackageManifestFile.record))
        "intake candidate digest must match validation files",
      violation (r.context.val.sourceRevision ≠ candidate.sourceRevision)
        "intake context revision must match the candidate"] ++ r.statusChecks candidate

variable (sha256) in
/-- The source and the package of a receipt are of the version of its context,
and its package has a public owner. -/
def validate : Except ValidationError Unit :=
  validateWith "SkillPackageIntakeReceipt"
    (check (r.source.all fun s => s.version = r.context.val.provenance.version)
        "source" "Input should be a valid dictionary or instance of PackageSource" ++
      check (r.normalizedPackage.all fun p =>
          p.val.source.version = r.context.val.provenance.version)
        "normalized_package" "Input should be a valid dictionary or instance of PackageSource" ++
      check (r.normalizedPackage.all fun p => p.val.owner.isPublic) "normalized_package" privateOwner)
    (proofIsCandidateBound sha256 r)

end SkillPackageIntakeReceiptData

abbrev SkillPackageIntakeReceipt := Accepted (SkillPackageIntakeReceiptData.validate sha256)

end

end SkillsSdk
