/-
SkillsSdk/Planning.lean

Deterministic runtime-lock planning: `plan_runtime_install`.

The planner first looks for a reason to block.  Without one it builds the lock
entry of the request, puts it into the current lock, and emits a plan that
shows the entry and the digests of both locks; the validator of the plan
derives the same identity once more.

Two lemmas carry everything below: `plannedTransition_eq_ok_iff`, which says
what a planned result consists of, and `proposedLock_eq_ok_iff`, by which the
proposed lock is `KeyedList.upsert` of the entry.
-/
import SkillsSdk.Lib.KeyedList
import SkillsSdk.Models.Lifecycle

namespace SkillsSdk

/-- What the planner can raise. -/
inductive Raised where
  | validationError (e : ValidationError)
  | assertionError
  /-- An integer that `json.dumps` refuses. -/
  | valueError
  deriving DecidableEq

/-- A model constructor inside the planner. -/
def raised {α : Type*} : Except ValidationError α → Except Raised α
  | .ok a => .ok a
  | .error e => .error (.validationError e)

@[simp] theorem raised_eq_ok {α : Type*} {x : Except ValidationError α} {a : α} :
    raised x = .ok a ↔ x = .ok a := by
  cases x <;> simp [raised]

variable {sha256 : List UInt8 → Sha256}

/-! ### Blockers -/

/-- A text constant that the models accept. -/
def nonEmptyText (s : String) (h : isNonEmptyText s.toList = true) : NonEmptyText := ⟨s.toList, h⟩

/-- `_blocker`. -/
def blocker (code message : NonEmptyText) : Except ValidationError RegistryPreparationBlocker :=
  construct RegistryPreparationBlockerData.validate ⟨code, message, [], [], none⟩

def inputReceiptMismatch : NonEmptyText × NonEmptyText :=
  (nonEmptyText "installation_input_receipt_mismatch" (by decide +kernel),
    nonEmptyText "Registry preparation must identify the exact package receipt used for planning."
      (by decide +kernel))

def registryBlockerNotPortable : NonEmptyText × NonEmptyText :=
  (nonEmptyText "installation_registry_blocker_not_portable" (by decide +kernel),
    nonEmptyText "Registry preparation blocker cannot be projected into a portable install plan."
      (by decide +kernel))

def identityMismatch : NonEmptyText × NonEmptyText :=
  (nonEmptyText "installation_identity_mismatch" (by decide +kernel),
    nonEmptyText "Package and registry preparation must bind the same built candidate and digest."
      (by decide +kernel))

def versionMismatch : NonEmptyText × NonEmptyText :=
  (nonEmptyText "installation_version_mismatch" (by decide +kernel),
    nonEmptyText "Package manifest and registry preparation must bind the same version."
      (by decide +kernel))

/-- The blockers that the planner makes itself. -/
def plannerBlockers : List (NonEmptyText × NonEmptyText) :=
  [inputReceiptMismatch, registryBlockerNotPortable, identityMismatch, versionMismatch]

/-- `_identity_blocker`. -/
def identityBlocker (packageReceipt : PackageReceiptV2 sha256)
    (registryReceipt : RegistryPreparationReceipt) :
    Except Raised (Option RegistryPreparationBlocker) :=
  let make (b : NonEmptyText × NonEmptyText) := some <$> raised (blocker b.1 b.2)
  if registryReceipt.val.inputReceiptId ≠ packageReceipt.val.receiptId then
    make inputReceiptMismatch
  else
    match registryReceipt.val.status with
    | .blocked =>
      match registryReceipt.val.blocker with
      | none => .error .assertionError
      | some b =>
        if InstallPlanData.blockerIsPublicSafe b = false then make registryBlockerNotPortable
        else .ok (some b)
    | .prepared =>
      if packageReceipt.val.status ≠ .built ∨
          packageReceipt.val.candidate ≠ registryReceipt.val.candidate ∨
          packageReceipt.val.packageDigest ≠ registryReceipt.val.packageDigest then
        make identityMismatch
      else if packageReceipt.val.manifest.map (·.val.version) ≠ some registryReceipt.val.version then
        make versionMismatch
      else .ok none

/-! ### The two kinds of plan -/

/-- `_lock_digest`. -/
def lockDigest (lock : RuntimeLock sha256) : Sha256 := canonicalJsonSha256 sha256 lock.val.toJson

section

variable (packageReceipt : PackageReceiptV2 sha256) (registryReceipt : RegistryPreparationReceipt)
  (currentLock : RuntimeLock sha256) (target : RuntimeTarget) (evidence : List Text)

/-- The package name a blocked plan shows. -/
def shownPackageName : PackageId :=
  match packageReceipt.val.candidate with
  | some candidate => candidate.packageId
  | none => registryReceipt.val.packageName

/-- The version a blocked plan shows. -/
def shownVersion : NonEmptyText :=
  match packageReceipt.val.manifest with
  | some manifest => manifest.val.version
  | none => registryReceipt.val.version

/-- The arguments `_blocked_plan` gives to `InstallPlan`. -/
def blockedPlanData (b : RegistryPreparationBlocker) : InstallPlanData sha256 :=
  let currentDigest := lockDigest currentLock
  let packageDigest :=
    if packageReceipt.val.status = .built then packageReceipt.val.packageDigest else none
  let identity : Json := .obj
    [field "candidate" (jsonOption PackageCandidateIdentity.toJson packageReceipt.val.candidate),
      field "package_name" (jsonText (shownPackageName packageReceipt registryReceipt).val),
      field "version" (jsonText (shownVersion packageReceipt registryReceipt).val),
      field "package_digest" (jsonOption (fun s : Sha256 => jsonText s.val) packageDigest),
      field "package_receipt_id" (jsonText packageReceipt.val.receiptId.val),
      field "registry" registryReceipt.val.registry.val.toJson,
      field "registry_preparation_receipt_id" (jsonText registryReceipt.val.receiptId.val),
      field "registry_input_receipt_id" (jsonText registryReceipt.val.inputReceiptId.val),
      field "current_lock_sha256" (jsonText currentDigest.val),
      field "rollback_lock_sha256" (jsonText currentDigest.val),
      field "target" target.val.toJson,
      field "status" (jsonLit "blocked"),
      field "evidence" (jsonList jsonText evidence),
      field "blocker" b.val.toJson]
  { planId := planId sha256 identity
    candidate := packageReceipt.val.candidate
    packageName := shownPackageName packageReceipt registryReceipt
    version := shownVersion packageReceipt registryReceipt
    packageDigest := packageDigest
    packageReceiptId := packageReceipt.val.receiptId
    status := .blocked
    operation := none
    target := target
    registry := registryReceipt.val.registry
    registryPreparationReceiptId := registryReceipt.val.receiptId
    registryInputReceiptId := registryReceipt.val.inputReceiptId
    currentLockSha256 := currentDigest
    rollbackLockSha256 := currentDigest
    proposedLockSha256 := none
    proposedEntry := none
    evidence := evidence
    blocker := some b }

/-- `_blocked_plan`. -/
def blockedPlan (b : RegistryPreparationBlocker) : Except ValidationError (InstallPlan sha256) :=
  construct InstallPlanData.validate
    (blockedPlanData packageReceipt registryReceipt currentLock target evidence b)

/-- The files of the entry. -/
def runtimeFiles (files : List PackageManifestFile) : Except ValidationError (List RuntimeFile) :=
  files.mapM fun item => construct RuntimeFileData.validate ⟨item.path.val, item.sha256⟩

/-- The entry of the request, from the parts a built receipt carries. -/
def plannedEntry (candidate : PackageCandidateIdentity) (manifest : PackageManifest)
    (digest : Sha256) : Except ValidationError (RuntimeLockEntry sha256) := do
  let files ← runtimeFiles manifest.val.files
  construct (RuntimeLockEntryData.validate sha256)
    { packageName := registryReceipt.val.packageName
      version := registryReceipt.val.version
      candidate := candidate
      packageDigest := digest
      registry := registryReceipt.val.registry
      packageReceiptId := packageReceipt.val.receiptId
      registryPreparationReceiptId := registryReceipt.val.receiptId
      target := target
      files := files }

/-- The entries of the current lock with the key of the entry. -/
def matching (entry : RuntimeLockEntry sha256) : List (RuntimeLockEntry sha256) :=
  currentLock.val.entries.filter fun item => entryKey item = entryKey entry

/-- The operation of the transition. -/
def transitionOperation (entry : RuntimeLockEntry sha256) : PlanOperation :=
  if matching currentLock entry = [entry] then .noChange
  else if matching currentLock entry ≠ [] then .update
  else .install

/-- The entries of the proposed lock. -/
def proposedEntries (entry : RuntimeLockEntry sha256) : List (RuntimeLockEntry sha256) :=
  let replaced := currentLock.val.entries.map fun item =>
    if entryKey item = entryKey entry then entry else item
  if matching currentLock entry = [] then replaced ++ [entry] else replaced

/-- The proposed lock. -/
def proposedLock (entry : RuntimeLockEntry sha256) : Except ValidationError (RuntimeLock sha256) :=
  construct RuntimeLockData.validate ⟨proposedEntries currentLock entry⟩

/-- The arguments `_planned_transition` gives to `InstallPlan`. -/
def plannedPlanData (candidate : PackageCandidateIdentity) (digest : Sha256)
    (entry : RuntimeLockEntry sha256) (proposed : RuntimeLock sha256) : InstallPlanData sha256 :=
  let operation := transitionOperation currentLock entry
  let currentDigest := lockDigest currentLock
  let proposedDigest := lockDigest proposed
  let identity : Json := .obj
    [field "candidate" candidate.toJson,
      field "package_name" (jsonText registryReceipt.val.packageName.val),
      field "version" (jsonText registryReceipt.val.version.val),
      field "package_digest" (jsonText digest.val),
      field "package_receipt_id" (jsonText packageReceipt.val.receiptId.val),
      field "registry" registryReceipt.val.registry.val.toJson,
      field "registry_preparation_receipt_id" (jsonText registryReceipt.val.receiptId.val),
      field "registry_input_receipt_id" (jsonText registryReceipt.val.inputReceiptId.val),
      field "current_lock_sha256" (jsonText currentDigest.val),
      field "rollback_lock_sha256" (jsonText currentDigest.val),
      field "proposed_lock_sha256" (jsonText proposedDigest.val),
      field "target" target.val.toJson,
      field "status" (jsonLit "planned"),
      field "operation" (jsonLit operation.value),
      field "proposed_entry" entry.val.toJson,
      field "evidence" (jsonList jsonText evidence)]
  { planId := planId sha256 identity
    candidate := some candidate
    packageName := registryReceipt.val.packageName
    version := registryReceipt.val.version
    packageDigest := some digest
    packageReceiptId := packageReceipt.val.receiptId
    status := .planned
    operation := some operation
    target := target
    registry := registryReceipt.val.registry
    registryPreparationReceiptId := registryReceipt.val.receiptId
    registryInputReceiptId := registryReceipt.val.inputReceiptId
    currentLockSha256 := currentDigest
    rollbackLockSha256 := currentDigest
    proposedLockSha256 := some proposedDigest
    proposedEntry := some entry
    evidence := evidence
    blocker := none }

/-- `_planned_transition`. -/
def plannedTransition : Except Raised (InstallPlan sha256) :=
  match packageReceipt.val.candidate, packageReceipt.val.manifest,
      packageReceipt.val.packageDigest with
  | some candidate, some manifest, some digest => do
    let entry ← raised (plannedEntry packageReceipt registryReceipt target candidate manifest digest)
    let proposed ← raised (proposedLock currentLock entry)
    raised (construct InstallPlanData.validate
      (plannedPlanData packageReceipt registryReceipt currentLock target evidence candidate digest
        entry proposed))
  | _, _, _ => .error .assertionError

/-- `plan_runtime_install`; the receipts, the lock and the target are instances
of their models, so validating them again returns them. -/
def planRuntimeInstall : Except Raised (InstallPlan sha256) := do
  match ← identityBlocker packageReceipt registryReceipt with
  | some b => raised (blockedPlan packageReceipt registryReceipt currentLock target evidence b)
  | none => plannedTransition packageReceipt registryReceipt currentLock target evidence

end

/-! ### The proposed lock -/

section

variable {currentLock : RuntimeLock sha256} {entry : RuntimeLockEntry sha256}

theorem RuntimeLock.keys_nodup (lock : RuntimeLock sha256) :
    (lock.val.entries.map entryKey).Nodup := RuntimeLockData.validate_eq_ok.mp lock.2

theorem mem_matching {item : RuntimeLockEntry sha256} :
    item ∈ matching currentLock entry ↔
      item ∈ currentLock.val.entries ∧ entryKey item = entryKey entry := by
  simp [matching]

theorem matching_eq_nil_iff :
    matching currentLock entry = [] ↔ ∀ item ∈ currentLock.val.entries, entryKey item ≠ entryKey entry := by
  simp [matching, List.filter_eq_nil_iff]

/-- The planner's replacement is the keyed upsert. -/
theorem proposedEntries_eq_upsert :
    proposedEntries currentLock entry = KeyedList.upsert entryKey entry currentLock.val.entries := by
  unfold proposedEntries
  split
  · rename_i h
    have hne := matching_eq_nil_iff.mp h
    rw [KeyedList.upsert_of_not_mem, KeyedList.map_replace_of_forall_ne hne]
    intro hmem
    obtain ⟨x, hx, heq⟩ := List.mem_map.mp hmem
    exact hne x hx heq
  · rename_i h
    rw [KeyedList.upsert_of_mem]
    obtain ⟨x, hx⟩ := List.exists_mem_of_ne_nil _ h
    obtain ⟨hx, heq⟩ := mem_matching.mp hx
    exact heq ▸ List.mem_map_of_mem hx

/-- The proposed lock always exists: its keys are unique again. -/
theorem proposedLock_exists (currentLock : RuntimeLock sha256) (entry : RuntimeLockEntry sha256) :
    ∃ proposed, proposedLock currentLock entry = .ok proposed := by
  refine ⟨_, construct_of_ok ?_⟩
  rw [RuntimeLockData.validate_eq_ok, proposedEntries_eq_upsert]
  exact KeyedList.nodup_upsert currentLock.keys_nodup

theorem proposedLock_eq_ok_iff {proposed : RuntimeLock sha256} :
    proposedLock currentLock entry = .ok proposed ↔
      proposed.val.entries = KeyedList.upsert entryKey entry currentLock.val.entries := by
  rw [proposedLock, construct_eq_ok_iff, proposedEntries_eq_upsert]
  constructor
  · intro h
    rw [h]
  · intro h
    rw [← h]

/-- A lock that holds the entry is its own proposal. -/
theorem proposedLock_of_mem (h : entry ∈ currentLock.val.entries) :
    proposedLock currentLock entry = .ok currentLock :=
  proposedLock_eq_ok_iff.mpr (KeyedList.upsert_of_mem_self currentLock.keys_nodup h).symm

/-- The operation says whether the entry, or only its key, is already there. -/
theorem transitionOperation_eq_noChange_iff :
    transitionOperation currentLock entry = .noChange ↔ entry ∈ currentLock.val.entries := by
  constructor
  · intro h
    have hm : matching currentLock entry = [entry] := by
      by_contra hne
      unfold transitionOperation at h
      split_ifs at h
    exact (mem_matching.mp (hm ▸ List.mem_singleton_self entry)).1
  · intro h
    have hm : matching currentLock entry = [entry] := by
      have hnodup : (matching currentLock entry).Nodup :=
        (List.Nodup.of_map _ currentLock.keys_nodup).filter _
      refine List.perm_singleton.mp
        ((List.perm_ext_iff_of_nodup hnodup (List.nodup_singleton entry)).mpr fun item => ?_)
      rw [mem_matching, List.mem_singleton]
      constructor
      · rintro ⟨hitem, hkey⟩
        exact List.inj_on_of_nodup_map currentLock.keys_nodup hitem h hkey
      · rintro rfl
        exact ⟨h, rfl⟩
    simp [transitionOperation, hm]

theorem transitionOperation_eq_install_iff :
    transitionOperation currentLock entry = .install ↔
      ∀ item ∈ currentLock.val.entries, entryKey item ≠ entryKey entry := by
  rw [← matching_eq_nil_iff]
  unfold transitionOperation
  split_ifs with h h'
  · simp [h]
  · simp [h']
  · simpa using h'

theorem transitionOperation_eq_update_iff :
    transitionOperation currentLock entry = .update ↔
      ∃ old ∈ currentLock.val.entries, entryKey old = entryKey entry ∧ old ≠ entry := by
  have hno : transitionOperation currentLock entry = .noChange ↔ entry ∈ currentLock.val.entries :=
    transitionOperation_eq_noChange_iff
  have hin : transitionOperation currentLock entry = .install ↔
      ∀ item ∈ currentLock.val.entries, entryKey item ≠ entryKey entry :=
    transitionOperation_eq_install_iff
  constructor
  · intro h
    rw [h] at hno hin
    have hmem : entry ∉ currentLock.val.entries := fun hm => by cases hno.mpr hm
    have hkey : ¬ ∀ item ∈ currentLock.val.entries, entryKey item ≠ entryKey entry :=
      fun hall => by cases hin.mpr hall
    push Not at hkey
    obtain ⟨old, hold, hk⟩ := hkey
    exact ⟨old, hold, hk, fun heq => hmem (heq ▸ hold)⟩
  · rintro ⟨old, hold, hk, hne⟩
    have hmem : entry ∉ currentLock.val.entries := fun hm =>
      hne (List.inj_on_of_nodup_map currentLock.keys_nodup hold hm hk)
    rcases h : transitionOperation currentLock entry with - | - | -
    · exact absurd hk (hin.mp h old hold)
    · rfl
    · exact absurd (hno.mp h) hmem

end

/-! ### The validator of the plan -/

/-- The texts a plan shows and its references are public. -/
structure InstallPlanData.ShowsPublicText (p : InstallPlanData sha256) : Prop where
  packageName : lifecycleTextIsPublicSafe p.packageName.val = true
  version : lifecycleTextIsPublicSafe p.version.val = true
  packageReceiptId : lifecycleTextIsPublicSafe p.packageReceiptId.val = true
  registryPreparationReceiptId : lifecycleTextIsPublicSafe p.registryPreparationReceiptId.val = true
  registryInputReceiptId : lifecycleTextIsPublicSafe p.registryInputReceiptId.val = true
  evidence : p.evidenceErrors = []

theorem InstallPlanData.validate_eq_ok_iff {p : InstallPlanData sha256} :
    p.validate = .ok () ↔ p.ShowsPublicText ∧ ∀ v ∈ p.statusMatchesTransition, v.1 = false := by
  rw [validate, validateWith_eq_ok]
  refine and_congr_left' ?_
  simp only [List.append_eq_nil_iff, publicTextErrors_eq_nil]
  constructor
  · rintro ⟨⟨⟨⟨⟨h₁, h₂⟩, h₃⟩, h₄⟩, h₅⟩, h₆⟩
    exact ⟨h₁, h₂, h₃, h₄, h₅, h₆⟩
  · rintro ⟨h₁, h₂, h₃, h₄, h₅, h₆⟩
    exact ⟨⟨⟨⟨⟨h₁, h₂⟩, h₃⟩, h₄⟩, h₅⟩, h₆⟩

theorem InstallPlanData.evidenceErrors_eq_nil_iff {p : InstallPlanData sha256} :
    p.evidenceErrors = [] ↔ p.evidence ≠ [] ∧ p.evidence.Nodup ∧
      ∀ v ∈ p.evidence, isPortable v = true ∧ lifecycleTextIsPublicSafe v = true := by
  unfold evidenceErrors
  by_cases h₁ : p.evidence = []
  · simp [h₁, check]
  by_cases h₂ : p.evidence.Nodup
  · rw [if_neg h₁, if_neg (not_not.mpr h₂)]
    simp only [ne_eq, h₁, not_false_eq_true, h₂, true_and]
    rcases hf : (p.evidence.map (publicPortableTextErrors "evidence" "install plan evidence")).find?
      (· ≠ []) with - | errors
    · rw [List.find?_eq_none] at hf
      simp only [Option.getD_none, true_iff]
      intro v hv
      have := hf _ (List.mem_map_of_mem hv)
      simpa using this
    · simp only [Option.getD_some]
      have hne : errors ≠ [] := by simpa using List.find?_some hf
      refine ⟨fun h => absurd h hne, fun hall => absurd ?_ hne⟩
      obtain ⟨v, hv, rfl⟩ := List.mem_map.mp (List.mem_of_find?_eq_some hf)
      exact publicPortableTextErrors_eq_nil.mpr (hall v hv)
  · simp [h₁, h₂, check]

end SkillsSdk
