/-
SkillsSdk/Models/Registry.lean

Private-registry preparation: identities, blockers, warnings and receipts.

A prepared receipt names a candidate and three digests, a blocked one only its
blockers (`RegistryPreparationReceipt.prepared`, `.blockedBy`).
-/
import SkillsSdk.Models.Packaging
import SkillsSdk.Models.PublicText

namespace SkillsSdk

open Rx Rx.Regex

/-! ### Identity -/

/-- `StringConstraints(max_length=64, pattern=…)`. -/
abbrev RegistryIdentifier := { t : Text // (isIdentifier t && decide (t.length ≤ 64)) = true }

structure RegistryIdentityData where
  registryId : RegistryIdentifier
  namespace_ : RegistryIdentifier
  deriving DecidableEq

namespace RegistryIdentityData

/-- `RegistryIdentity.identity_text_is_redaction_safe`. -/
def identityTextIsRedactionSafe (name : String) (value : Text) : List (Text × Text) :=
  if value ≠ strip value then
    check false name "registry identity must not contain surrounding whitespace"
  else
    check (!search credentialComponentPattern value) name
      "registry identity must not contain credential-shaped values"

def validate (r : RegistryIdentityData) : Except ValidationError Unit :=
  validateWith "RegistryIdentity"
    (identityTextIsRedactionSafe "registry_id" r.registryId.val ++
      identityTextIsRedactionSafe "namespace" r.namespace_.val) []

def toJson (r : RegistryIdentityData) : Json :=
  .obj [field "schema_version" (jsonLit "registry-identity/v1"),
    field "registry_id" (jsonText r.registryId.val),
    field "registry_kind" (jsonLit "private"),
    field "namespace" (jsonText r.namespace_.val)]

end RegistryIdentityData

abbrev RegistryIdentity := Accepted RegistryIdentityData.validate

/-! ### Blockers and warnings -/

/-- The references of an evidence field: unique, portable and redaction-safe. -/
def evidenceErrors (name duplicate unsafeText : String) (values : List Text) : List (Text × Text) :=
  if ¬ values.Nodup then check false name duplicate
  else
    match values.find? fun v => !(isPortable v && registryEvidenceIsRedactionSafe v) with
    | none => []
    | some v =>
      match requirePortableRelativePath v with
      | .error e => [(name.toList, e.code ++ ": ".toList ++ e.message)]
      | .ok _ => check false name unsafeText

theorem evidenceErrors_eq_nil {name duplicate unsafeText : String} {values : List Text} :
    evidenceErrors name duplicate unsafeText values = [] ↔
      values.Nodup ∧
        ∀ v ∈ values, isPortable v = true ∧ registryEvidenceIsRedactionSafe v = true := by
  unfold evidenceErrors
  split
  · rename_i h
    simp [h]
  · rename_i h
    split
    · rename_i hf
      simp only [true_iff]
      refine ⟨not_not.mp h, fun v hv => ?_⟩
      have := List.find?_eq_none.mp hf v hv
      simpa [Decidable.not_not] using this
    · rename_i v hf
      have hmem := List.mem_of_find?_eq_some hf
      have hbad : ¬ (isPortable v = true ∧ registryEvidenceIsRedactionSafe v = true) := by
        rintro ⟨hp, hs⟩
        simpa [hp, hs] using List.find?_some hf
      refine ⟨fun h0 => ?_, fun h0 => absurd (h0.2 v hmem) hbad⟩
      split at h0 <;> simp at h0

/-- The redaction check of one text field. -/
def redactionErrors (name message : String) (value : Text) : List (Text × Text) :=
  check (registryEvidenceIsRedactionSafe value) name message

structure RegistryPreparationBlockerData where
  code : NonEmptyText
  message : NonEmptyText
  evidenceRefs : List Text
  sourceEvidenceSha256 : List Sha256
  sourceBlockerSha256 : Option Sha256
  deriving DecidableEq

namespace RegistryPreparationBlockerData

def validate (b : RegistryPreparationBlockerData) : Except ValidationError Unit :=
  validateWith "RegistryPreparationBlocker"
    (redactionErrors "code" "registry blocker text must not contain credential-shaped values"
        b.code.val ++
      redactionErrors "message" "registry blocker text must not contain credential-shaped values"
        b.message.val ++
      evidenceErrors "evidence_refs" "registry blocker evidence references must be unique"
        "registry blocker evidence must not contain credential-shaped values" b.evidenceRefs) []

def toJson (b : RegistryPreparationBlockerData) : Json :=
  .obj [field "code" (jsonText b.code.val),
    field "message" (jsonText b.message.val),
    field "evidence_refs" (jsonList jsonText b.evidenceRefs),
    field "source_evidence_sha256" (jsonList (fun s : Sha256 => jsonText s.val) b.sourceEvidenceSha256),
    field "source_blocker_sha256" (jsonOption (fun s : Sha256 => jsonText s.val) b.sourceBlockerSha256)]

end RegistryPreparationBlockerData

abbrev RegistryPreparationBlocker := Accepted RegistryPreparationBlockerData.validate

structure RegistryPreparationWarningData where
  warningSha256 : Sha256
  evidenceRefs : List Text
  sourceEvidenceSha256 : List Sha256
  deriving DecidableEq

def RegistryPreparationWarningData.validate (w : RegistryPreparationWarningData) :
    Except ValidationError Unit :=
  validateWith "RegistryPreparationWarning"
    (evidenceErrors "evidence_refs" "registry warning evidence references must be unique"
      "registry warning evidence must not contain credential-shaped values" w.evidenceRefs) []

def RegistryPreparationWarningData.toJson (w : RegistryPreparationWarningData) : Json :=
  .obj [field "status" (jsonLit "warning"),
    field "warning_sha256" (jsonText w.warningSha256.val),
    field "evidence_refs" (jsonList jsonText w.evidenceRefs),
    field "source_evidence_sha256" (jsonList (fun s : Sha256 => jsonText s.val) w.sourceEvidenceSha256)]

abbrev RegistryPreparationWarning := Accepted RegistryPreparationWarningData.validate

/-! ### Versions -/

/-- `(0|[1-9][0-9]*)`. -/
def semverNumber : Regex Char :=
  alt (word "0") (seq (cls fun c => isDigit c && c != '0') (many (cls isDigit)))

/-- `_SEMVER_IDENTIFIER`. -/
def semverIdentifier : Regex Char :=
  let tail := cls fun c => isAlnum c || c == '-'
  union [word "0", seq (cls fun c => isDigit c && c != '0') (many (cls isDigit)),
    concat [many tail, cls fun c => isAlpha c || c == '-', many tail]]

/-- `REGISTRY_VERSION_PATTERN`. -/
def registryVersionPattern : Regex Char :=
  let build := plus (cls fun c => isAlnum c || c == '-')
  concat [semverNumber, word ".", semverNumber, word ".", semverNumber,
    opt (concat [word "-", semverIdentifier, many (seq (word ".") semverIdentifier)]),
    opt (concat [word "+", build, many (seq (word ".") build)])]

/-! ### Receipts -/

inductive PreparationStatus where
  | prepared
  | blocked
  deriving DecidableEq

structure RegistryPreparationReceiptData where
  receiptId : ReceiptId
  candidate : Option PackageCandidateIdentity
  registry : RegistryIdentity
  packageName : PackageId
  version : NonEmptyText
  inputReceiptId : ReceiptId
  packageDigest : Option Sha256
  manifestDigest : Option Sha256
  hardeningReceiptSha256 : Option Sha256
  status : PreparationStatus
  evidence : List Text
  blocker : Option RegistryPreparationBlocker
  blockers : List RegistryPreparationBlocker
  warnings : List RegistryPreparationWarning
  deriving DecidableEq

namespace RegistryPreparationReceiptData

/-- `RegistryPreparationReceipt.version_is_canonical_text`. -/
def versionErrors (value : Text) : List (Text × Text) :=
  if value ≠ strip value then
    check false "version" "registry version must not contain surrounding whitespace"
  else redactionErrors "version" "registry version must not contain credential-shaped values" value

/-- `RegistryPreparationReceipt.status_matches_artifacts`. -/
def statusMatchesArtifacts (r : RegistryPreparationReceiptData) : List (Bool × String) :=
  match r.status with
  | .prepared =>
    [violation (r.candidate = none ∨ r.packageDigest = none ∨ r.manifestDigest = none ∨
          r.hardeningReceiptSha256 = none)
        "prepared registry receipt requires candidate and bound digests",
      violation (r.packageDigest ≠ r.manifestDigest)
        "prepared registry package and manifest digests must match",
      violation (r.candidate.map (·.packageId) ≠ some r.packageName)
        "prepared registry package name must match the candidate package_id",
      violation (64 < r.packageName.val.length)
        "prepared registry package name exceeds the registry limit",
      violation (fullmatch registryVersionPattern r.version.val = false)
        "prepared registry version must be canonical Semantic Versioning",
      violation (r.blocker ≠ none) "prepared registry receipt cannot contain a blocker",
      violation (r.blockers ≠ []) "prepared registry receipt cannot contain blockers"]
  | .blocked =>
    [violation (r.blocker = none) "blocked registry receipt requires a blocker",
      violation (r.blockers = [] ∨ r.blockers.head? ≠ r.blocker)
        "blocked registry receipt must retain its primary blocker first",
      violation (r.packageDigest ≠ none ∨ r.manifestDigest ≠ none ∨ r.hardeningReceiptSha256 ≠ none)
        "blocked registry receipt cannot claim prepared digests"]

def validate (r : RegistryPreparationReceiptData) : Except ValidationError Unit :=
  validateWith "RegistryPreparationReceipt"
    (redactionErrors "package_name" "registry package name must not contain credential-shaped values"
        r.packageName.val ++
      versionErrors r.version.val ++
      check (r.evidence ≠ []) "evidence" "Tuple should have at least 1 item after validation, not 0" ++
      evidenceErrors "evidence" "registry preparation evidence paths must be unique"
        "registry receipt evidence must not contain credential-shaped values" r.evidence)
    r.statusMatchesArtifacts

end RegistryPreparationReceiptData

abbrev RegistryPreparationReceipt := Accepted RegistryPreparationReceiptData.validate

namespace RegistryPreparationReceipt

theorem statusMatchesArtifacts (r : RegistryPreparationReceipt) :
    ∀ v ∈ r.val.statusMatchesArtifacts, v.1 = false :=
  (validateWith_eq_ok.mp r.2).2

/-- A prepared receipt names its candidate, under the candidate's package id. -/
theorem prepared (r : RegistryPreparationReceipt) (h : r.val.status = .prepared) :
    ∃ candidate, r.val.candidate = some candidate ∧ candidate.packageId = r.val.packageName := by
  have hr := r.statusMatchesArtifacts
  simp only [RegistryPreparationReceiptData.statusMatchesArtifacts, h, List.forall_mem_cons,
    violation_fst, not_or, not_not] at hr
  obtain ⟨candidate, hc⟩ := Option.ne_none_iff_exists'.mp hr.1.1
  have hname := hr.2.2.1
  simp only [hc, Option.map_some, Option.some.injEq] at hname
  exact ⟨candidate, hc, hname⟩

/-- A blocked receipt names a blocker. -/
theorem blockedBy (r : RegistryPreparationReceipt) (h : r.val.status = .blocked) :
    ∃ blocker, r.val.blocker = some blocker := by
  have hr := r.statusMatchesArtifacts
  simp only [RegistryPreparationReceiptData.statusMatchesArtifacts, h, List.forall_mem_cons,
    violation_fst] at hr
  exact Option.ne_none_iff_exists'.mp hr.1

end RegistryPreparationReceipt

/-! ### Requests -/

-- A request checks the fields that the receipt repeats from it.

structure RegistryPreparationRequestData where
  registry : RegistryIdentity
  packageName : PackageId
  version : NonEmptyText
  evidence : List Text
  deriving DecidableEq

namespace RegistryPreparationRequestData

def validate (r : RegistryPreparationRequestData) : Except ValidationError Unit :=
  validateWith "RegistryPreparationRequest"
    (redactionErrors "package_name" "registry package name must not contain credential-shaped values"
        r.packageName.val ++
      RegistryPreparationReceiptData.versionErrors r.version.val ++
      check (r.evidence ≠ []) "evidence" "Tuple should have at least 1 item after validation, not 0" ++
      evidenceErrors "evidence" "registry preparation evidence paths must be unique"
        "registry preparation evidence must not contain credential-shaped values" r.evidence) []

def toJson (r : RegistryPreparationRequestData) : Json :=
  .obj [field "schema_version" (jsonLit "registry-preparation-request/v1"),
    field "registry" r.registry.val.toJson,
    field "package_name" (jsonText r.packageName.val),
    field "version" (jsonText r.version.val),
    field "evidence" (jsonList jsonText r.evidence)]

end RegistryPreparationRequestData

abbrev RegistryPreparationRequest := Accepted RegistryPreparationRequestData.validate

end SkillsSdk
