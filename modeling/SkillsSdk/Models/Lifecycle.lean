/-
SkillsSdk/Models/Lifecycle.lean

Runtime locks and installation plans.

A lock entry binds a package to a target; a lock is a list of entries with
distinct keys.  An installation plan is either planned, with a proposed entry
and lock digest, or blocked, with a blocker; its id is a digest of everything it
emits, recomputed by its validator (`InstallPlanData.identityPayload`).
-/
import SkillsSdk.Models.Registry

namespace SkillsSdk

/-! ### Public text -/

/-- `_require_public_text`, as the error it adds to a field. -/
def publicTextErrors (name label : String) (value : Text) : List (Text × Text) :=
  if lifecycleTextIsPublicSafe value then []
  else [(name.toList,
    (label ++ " must not contain credential-shaped or machine-path values").toList)]

@[simp] theorem publicTextErrors_eq_nil {name label : String} {value : Text} :
    publicTextErrors name label value = [] ↔ lifecycleTextIsPublicSafe value = true := by
  unfold publicTextErrors
  split <;> simp_all

/-- `_require_public_portable_text`, as the error it adds to a field. -/
def publicPortableTextErrors (name label : String) (value : Text) : List (Text × Text) :=
  match requirePortableRelativePath value with
  | .error e => [(name.toList, e.code ++ ": ".toList ++ e.message)]
  | .ok _ => publicTextErrors name label value

@[simp] theorem publicPortableTextErrors_eq_nil {name label : String} {value : Text} :
    publicPortableTextErrors name label value = [] ↔
      isPortable value = true ∧ lifecycleTextIsPublicSafe value = true := by
  unfold publicPortableTextErrors isPortable
  rcases requirePortableRelativePath value with e | path <;> simp [Except.isOk, Except.toBool]

/-! ### Targets and files -/

inductive RuntimeScope where
  | user
  | project
  deriving DecidableEq

def RuntimeScope.value : RuntimeScope → String
  | user => "user"
  | project => "project"

structure RuntimeTargetData where
  scope : RuntimeScope
  targetId : RuntimeIdentifier
  deriving DecidableEq

def RuntimeTargetData.validate (t : RuntimeTargetData) : Except ValidationError Unit :=
  validateWith "RuntimeTarget"
    (publicTextErrors "target_id" "runtime target identity" t.targetId.val) []

def RuntimeTargetData.toJson (t : RuntimeTargetData) : Json :=
  .obj [field "scope" (jsonLit t.scope.value), field "target_id" (jsonText t.targetId.val)]

abbrev RuntimeTarget := Accepted RuntimeTargetData.validate

structure RuntimeFileData where
  path : Text
  sha256 : Sha256
  deriving DecidableEq

def RuntimeFileData.validate (f : RuntimeFileData) : Except ValidationError Unit :=
  validateWith "RuntimeFile"
    (if f.path = [] then check false "path" "String should have at least 1 character"
      else publicPortableTextErrors "path" "runtime file path" f.path) []

def RuntimeFileData.toJson (f : RuntimeFileData) : Json :=
  .obj [field "path" (jsonText f.path), field "sha256" (jsonText f.sha256.val)]

/-- What the candidate digest reads of a runtime file. -/
def RuntimeFileData.record (f : RuntimeFileData) : Text × Sha256 := (f.path, f.sha256)

abbrev RuntimeFile := Accepted RuntimeFileData.validate

theorem RuntimeFileData.validate_eq_ok {f : RuntimeFileData} :
    f.validate = .ok () ↔ isPortable f.path = true ∧ lifecycleTextIsPublicSafe f.path = true := by
  rw [validate, validateWith_eq_ok]
  split
  · rename_i h
    simp [h, check, show isPortable [] = false from rfl]
  · simp

/-! ### Lock entries -/

structure RuntimeLockEntryData where
  packageName : RuntimeIdentifier
  version : NonEmptyText
  candidate : PackageCandidateIdentity
  packageDigest : Sha256
  registry : RegistryIdentity
  packageReceiptId : ReceiptId
  registryPreparationReceiptId : ReceiptId
  target : RuntimeTarget
  files : List RuntimeFile
  deriving DecidableEq

namespace RuntimeLockEntryData

variable (sha256 : List UInt8 → Sha256)

def paths (e : RuntimeLockEntryData) : List Text := e.files.map (·.val.path)

def records (e : RuntimeLockEntryData) : List (Text × Sha256) := e.files.map (·.val.record)

def validate (e : RuntimeLockEntryData) : Except ValidationError Unit :=
  validateWith "RuntimeLockEntry"
    (publicTextErrors "package_name" "runtime package identity" e.packageName.val ++
      publicTextErrors "version" "runtime package identity" e.version.val ++
      publicTextErrors "package_receipt_id" "runtime receipt identity" e.packageReceiptId.val ++
      publicTextErrors "registry_preparation_receipt_id" "runtime receipt identity"
        e.registryPreparationReceiptId.val ++
      check (e.files ≠ []) "files" "Tuple should have at least 1 item after validation, not 0")
    [violation (e.packageName ≠ e.candidate.packageId)
        "runtime lock package name must match candidate package_id",
      violation (¬ e.paths.Nodup) "runtime lock file paths must be unique",
      violation (candidateContentSha256 sha256 e.records ≠ e.candidate.contentSha256)
        "runtime lock candidate digest must match runtime files"]

def toJson (e : RuntimeLockEntryData) : Json :=
  .obj [field "package_name" (jsonText e.packageName.val),
    field "version" (jsonText e.version.val),
    field "candidate" e.candidate.toJson,
    field "package_digest" (jsonText e.packageDigest.val),
    field "registry" e.registry.val.toJson,
    field "package_receipt_id" (jsonText e.packageReceiptId.val),
    field "registry_preparation_receipt_id" (jsonText e.registryPreparationReceiptId.val),
    field "target" e.target.val.toJson,
    field "files" (jsonList (fun f : RuntimeFile => f.val.toJson) e.files)]

theorem validate_eq_ok {e : RuntimeLockEntryData} :
    e.validate sha256 = .ok () ↔
      (lifecycleTextIsPublicSafe e.packageName.val = true ∧
        lifecycleTextIsPublicSafe e.version.val = true ∧
        lifecycleTextIsPublicSafe e.packageReceiptId.val = true ∧
        lifecycleTextIsPublicSafe e.registryPreparationReceiptId.val = true ∧ e.files ≠ []) ∧
      e.packageName = e.candidate.packageId ∧ e.paths.Nodup ∧
        candidateContentSha256 sha256 e.records = e.candidate.contentSha256 := by
  simp [validate, validateWith_eq_ok, and_assoc]

end RuntimeLockEntryData

variable (sha256 : List UInt8 → Sha256)

abbrev RuntimeLockEntry := Accepted (RuntimeLockEntryData.validate sha256)

/-! ### Locks -/

structure RuntimeLockData where
  entries : List (RuntimeLockEntry sha256)
  deriving DecidableEq

variable {sha256}

/-- `(scope, target_id, package_name)`, the key of a lock entry. -/
def entryKey (e : RuntimeLockEntry sha256) : RuntimeScope × Text × Text :=
  (e.val.target.val.scope, e.val.target.val.targetId.val, e.val.packageName.val)

namespace RuntimeLockData

def validate (l : RuntimeLockData sha256) : Except ValidationError Unit :=
  validateWith "RuntimeLock" []
    [violation (¬ (l.entries.map entryKey).Nodup)
      "runtime lock entries must be unique by target and package"]

def toJson (l : RuntimeLockData sha256) : Json :=
  .obj [field "schema_version" (jsonLit "runtime-lock/v1"),
    field "entries" (jsonList (fun e : RuntimeLockEntry sha256 => e.val.toJson) l.entries)]

theorem validate_eq_ok {l : RuntimeLockData sha256} :
    l.validate = .ok () ↔ (l.entries.map entryKey).Nodup := by
  simp [validate, validateWith_eq_ok]

end RuntimeLockData

variable (sha256)

abbrev RuntimeLock := Accepted (@RuntimeLockData.validate sha256)

/-! ### Installation plans -/

inductive PlanStatus where
  | planned
  | blocked
  deriving DecidableEq

def PlanStatus.value : PlanStatus → String
  | planned => "planned"
  | blocked => "blocked"

inductive PlanOperation where
  | install
  | update
  | noChange
  deriving DecidableEq

def PlanOperation.value : PlanOperation → String
  | install => "install"
  | update => "update"
  | noChange => "no_change"

structure InstallPlanData where
  planId : ReceiptId
  candidate : Option PackageCandidateIdentity
  packageName : RuntimeIdentifier
  version : NonEmptyText
  packageDigest : Option Sha256
  packageReceiptId : ReceiptId
  status : PlanStatus
  operation : Option PlanOperation
  target : RuntimeTarget
  registry : RegistryIdentity
  registryPreparationReceiptId : ReceiptId
  registryInputReceiptId : ReceiptId
  currentLockSha256 : Sha256
  rollbackLockSha256 : Sha256
  proposedLockSha256 : Option Sha256
  proposedEntry : Option (RuntimeLockEntry sha256)
  evidence : List Text
  blocker : Option RegistryPreparationBlocker
  deriving DecidableEq

/-- The digits of a plan id. -/
theorem isIdentifier_planId (digest : Sha256) :
    isIdentifier ("install-plan-".toList ++ digest.val.take 24) = true := by
  simpa using isIdentifier_receiptId (w := "install".toList) ["plan".toList] rfl digest

/-- `_plan_id`. -/
def planId (payload : Json) : ReceiptId :=
  ⟨"install-plan-".toList ++ (canonicalJsonSha256 sha256 payload).val.take 24,
    isIdentifier_planId _⟩

namespace InstallPlanData

variable {sha256} (p : InstallPlanData sha256)

/-- `InstallPlan._identity_payload`. -/
def identityPayload : Json :=
  .obj ([field "candidate" (jsonOption PackageCandidateIdentity.toJson p.candidate),
    field "package_name" (jsonText p.packageName.val),
    field "version" (jsonText p.version.val),
    field "package_digest" (jsonOption (fun s : Sha256 => jsonText s.val) p.packageDigest),
    field "package_receipt_id" (jsonText p.packageReceiptId.val),
    field "registry" p.registry.val.toJson,
    field "registry_preparation_receipt_id" (jsonText p.registryPreparationReceiptId.val),
    field "registry_input_receipt_id" (jsonText p.registryInputReceiptId.val),
    field "current_lock_sha256" (jsonText p.currentLockSha256.val),
    field "rollback_lock_sha256" (jsonText p.rollbackLockSha256.val),
    field "target" p.target.val.toJson,
    field "status" (jsonLit p.status.value),
    field "evidence" (jsonList jsonText p.evidence)] ++
  (match p.status with
    | .planned =>
      [field "operation" (jsonOption (fun o : PlanOperation => jsonLit o.value) p.operation),
        field "proposed_lock_sha256" (jsonOption (fun s : Sha256 => jsonText s.val) p.proposedLockSha256),
        field "proposed_entry"
          (jsonOption (fun e : RuntimeLockEntry sha256 => e.val.toJson) p.proposedEntry)]
    | .blocked =>
      [field "blocker" (jsonOption (fun b : RegistryPreparationBlocker => b.val.toJson) p.blocker)]))

/-- `InstallPlan._validate_planned_state`. -/
def validatePlannedState : List (Bool × String) :=
  [violation (p.candidate = none ∨ p.packageDigest = none)
      "planned install requires candidate and package digest",
    violation (p.operation = none ∨ p.proposedLockSha256 = none ∨ p.proposedEntry = none)
      "planned install requires operation, proposed lock, and entry",
    violation (p.proposedEntry.any fun e => some e.val.candidate ≠ p.candidate ∨ e.val.target ≠ p.target)
      "install plan and runtime entry must bind the same candidate and target",
    violation (p.proposedEntry.any fun e => some e.val.packageDigest ≠ p.packageDigest)
      "install plan and runtime entry must bind the same package digest",
    violation ((p.proposedEntry.any fun e => e.val.packageName ≠ p.packageName) ∨
        p.candidate.any fun c => p.packageName ≠ c.packageId)
      "install plan and runtime entry must bind the same package name",
    violation (p.proposedEntry.any fun e => e.val.version ≠ p.version)
      "install plan and runtime entry must bind the same version",
    violation (p.proposedEntry.any fun e => e.val.packageReceiptId ≠ p.packageReceiptId)
      "install plan and runtime entry must bind the same package receipt",
    violation (p.proposedEntry.any fun e =>
        e.val.registryPreparationReceiptId ≠ p.registryPreparationReceiptId)
      "install plan and runtime entry must bind the same registry preparation receipt",
    violation (p.proposedEntry.any fun e => e.val.registry ≠ p.registry)
      "install plan and runtime entry must bind the same registry",
    violation (p.blocker ≠ none) "planned install cannot contain a blocker",
    violation (p.operation = some .noChange ∧ some p.currentLockSha256 ≠ p.proposedLockSha256)
      "no-change install plan requires identical current and proposed lock identities",
    violation ((p.operation = some .install ∨ p.operation = some .update) ∧
        some p.currentLockSha256 = p.proposedLockSha256)
      "install or update plan requires distinct current and proposed lock identities"]

/-- The texts of a blocker that a plan shows. -/
def blockerIsPublicSafe (b : RegistryPreparationBlocker) : Bool :=
  lifecycleTextIsPublicSafe b.val.code.val && lifecycleTextIsPublicSafe b.val.message.val &&
    b.val.evidenceRefs.all lifecycleTextIsPublicSafe

/-- `InstallPlan.status_matches_transition`. -/
def statusMatchesTransition : List (Bool × String) :=
  [violation (p.rollbackLockSha256 ≠ p.currentLockSha256)
    "install plan rollback identity must match the current lock"] ++
  (match p.status with
    | .planned =>
      violation (p.registryInputReceiptId ≠ p.packageReceiptId)
        "planned install registry input must match the package receipt" :: p.validatePlannedState
    | .blocked =>
      [violation (p.operation ≠ none ∨ p.proposedLockSha256 ≠ none ∨ p.proposedEntry ≠ none)
          "blocked install plan cannot claim a proposed transition",
        violation (p.blocker = none) "blocked install plan requires a blocker",
        violation (p.candidate.any fun c => p.packageName ≠ c.packageId)
          "blocked install plan package name must match candidate package_id",
        violation (p.blocker.any fun b => !blockerIsPublicSafe b)
          "install plan blocker must not contain credential-shaped or machine-path values"]) ++
  [violation (p.planId ≠ SkillsSdk.planId sha256 p.identityPayload)
    "install plan id must bind the complete emitted plan identity"]

/-- `InstallPlan.evidence_must_be_unique_and_portable`, after the length checks. -/
def evidenceErrors : List (Text × Text) :=
  if p.evidence = [] then
    check false "evidence" "Tuple should have at least 1 item after validation, not 0"
  else if ¬ p.evidence.Nodup then
    check false "evidence" "install plan evidence paths must be unique"
  else
    ((p.evidence.map (publicPortableTextErrors "evidence" "install plan evidence")).find? (· ≠ [])).getD []

def validate : Except ValidationError Unit :=
  validateWith "InstallPlan"
    (publicTextErrors "package_name" "install plan package identity" p.packageName.val ++
      publicTextErrors "version" "install plan package identity" p.version.val ++
      publicTextErrors "package_receipt_id" "install plan receipt identity" p.packageReceiptId.val ++
      publicTextErrors "registry_preparation_receipt_id" "install plan receipt identity"
        p.registryPreparationReceiptId.val ++
      publicTextErrors "registry_input_receipt_id" "install plan receipt identity"
        p.registryInputReceiptId.val ++
      p.evidenceErrors)
    p.statusMatchesTransition

end InstallPlanData

abbrev InstallPlan := Accepted (@InstallPlanData.validate sha256)

end SkillsSdk
