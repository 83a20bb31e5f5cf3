/-
SkillsSdk/PlanEmission.lean

What the two builders of a plan emit, and when the plan's own validator takes it.

The identity that a builder hashes and the identity that the validator hashes
again have the same members, so the plan id always matches (`planId_planned`,
`planId_blocked`).  What remains of the validator is whether the shown texts are
public and, for a planned transition, whether the two lock digests differ
exactly when the locks do (`plannedPlanData_validate_iff`).
-/
import SkillsSdk.Planning

namespace SkillsSdk

variable {sha256 : List UInt8 → Sha256} {packageReceipt : PackageReceiptV2 sha256}
  {registryReceipt : RegistryPreparationReceipt} {currentLock : RuntimeLock sha256}
  {target : RuntimeTarget} {evidence : List Text}

/-! ### Plan ids -/

variable (packageReceipt registryReceipt currentLock target evidence) in
theorem planId_blocked (b : RegistryPreparationBlocker) :
    (blockedPlanData packageReceipt registryReceipt currentLock target evidence b).planId =
      planId sha256
        (blockedPlanData packageReceipt registryReceipt currentLock target evidence b).identityPayload :=
  rfl

/-- The members of a planned identity, in the two orders they are written in. -/
theorem planned_members_perm {α : Type*} (head : List α) (proposed target status operation entry
    evidence : α) :
    (head ++ [proposed, target, status, operation, entry, evidence]).Perm
      (head ++ [target, status, evidence] ++ [operation, proposed, entry]) := by
  rw [List.append_assoc]
  refine List.Perm.append_left head ?_
  calc [proposed, target, status, operation, entry, evidence]
      _ |>.Perm ([target, status, evidence, operation] ++ proposed :: [entry]) := by
        refine List.Perm.trans ?_ List.perm_middle.symm
        refine List.Perm.cons _ ?_
        have hlast : ([target, status, operation, entry] ++ [evidence]).Perm
            (evidence :: ([target, status, operation, entry] ++ [])) := List.perm_middle
        have hthird : ([target, status] ++ evidence :: [operation, entry]).Perm
            (evidence :: ([target, status] ++ [operation, entry])) := List.perm_middle
        exact hlast.trans hthird.symm

variable (packageReceipt registryReceipt currentLock target evidence) in
theorem planId_planned (candidate : PackageCandidateIdentity) (digest : Sha256)
    (entry : RuntimeLockEntry sha256) (proposed : RuntimeLock sha256) :
    (plannedPlanData packageReceipt registryReceipt currentLock target evidence candidate digest
        entry proposed).planId =
      planId sha256
        (plannedPlanData packageReceipt registryReceipt currentLock target evidence candidate digest
          entry proposed).identityPayload := by
  refine Subtype.ext (congrArg (fun d : Sha256 => "install-plan-".toList ++ d.val.take 24) ?_)
  refine canonicalJsonSha256_obj_perm sha256 
    (planned_members_perm [_, _, _, _, _, _, _, _, _, _] _ _ _ _ _ _) ?_
  show List.Nodup (["candidate", "package_name", "version", "package_digest", "package_receipt_id",
    "registry", "registry_preparation_receipt_id", "registry_input_receipt_id",
    "current_lock_sha256", "rollback_lock_sha256", "proposed_lock_sha256", "target", "status",
    "operation", "proposed_entry", "evidence"].map String.toList)
  decide

/-! ### Entries -/

/-- What an evidence tuple has to be for a plan to carry it. -/
structure EvidenceAccepted (evidence : List Text) : Prop where
  ne_nil : evidence ≠ []
  nodup : evidence.Nodup
  publicText : ∀ v ∈ evidence, isPortable v = true ∧ lifecycleTextIsPublicSafe v = true

theorem evidenceErrors_eq_nil_iff_accepted {p : InstallPlanData sha256} :
    p.evidenceErrors = [] ↔ EvidenceAccepted p.evidence := by
  rw [InstallPlanData.evidenceErrors_eq_nil_iff]
  exact ⟨fun h => ⟨h.1, h.2.1, h.2.2⟩, fun h => ⟨h.ne_nil, h.nodup, h.publicText⟩⟩

/-- The runtime files of a manifest are its paths and digests, unchanged. -/
theorem runtimeFiles_eq_ok_iff {items : List PackageManifestFile} {files : List RuntimeFile} :
    runtimeFiles items = .ok files ↔
      files.map Subtype.val = items.map fun item => ⟨item.path.val, item.sha256⟩ :=
  mapM_construct_eq_ok_iff

/-- They exist when every path is public. -/
theorem runtimeFiles_exists_iff {items : List PackageManifestFile} :
    (∃ files, runtimeFiles items = .ok files) ↔
      ∀ item ∈ items, lifecycleTextIsPublicSafe item.path.val = true := by
  simp only [runtimeFiles_eq_ok_iff]
  constructor
  · rintro ⟨files, h⟩ item hitem
    have : (⟨item.path.val, item.sha256⟩ : RuntimeFileData) ∈ files.map Subtype.val :=
      h ▸ List.mem_map_of_mem hitem
    obtain ⟨f, -, hf⟩ := List.mem_map.mp this
    have := (RuntimeFileData.validate_eq_ok.mp f.2).2
    rwa [hf] at this
  · intro h
    refine ⟨items.attach.map fun item => ⟨⟨item.val.path.val, item.val.sha256⟩,
      RuntimeFileData.validate_eq_ok.mpr ⟨item.val.path.2, h item.val item.2⟩⟩, ?_⟩
    rw [List.map_map]
    exact List.attach_map_val (f := fun item : PackageManifestFile =>
      (⟨item.path.val, item.sha256⟩ : RuntimeFileData))

/-- The data of the entry of a request. -/
structure IsPlannedEntry (packageReceipt : PackageReceiptV2 sha256)
    (registryReceipt : RegistryPreparationReceipt) (target : RuntimeTarget)
    (candidate : PackageCandidateIdentity) (manifest : PackageManifest) (digest : Sha256)
    (entry : RuntimeLockEntry sha256) : Prop where
  packageName : entry.val.packageName = registryReceipt.val.packageName
  version : entry.val.version = registryReceipt.val.version
  candidate : entry.val.candidate = candidate
  packageDigest : entry.val.packageDigest = digest
  registry : entry.val.registry = registryReceipt.val.registry
  packageReceiptId : entry.val.packageReceiptId = packageReceipt.val.receiptId
  registryPreparationReceiptId :
    entry.val.registryPreparationReceiptId = registryReceipt.val.receiptId
  target : entry.val.target = target
  files : entry.val.files.map Subtype.val =
    manifest.val.files.map fun item => ⟨item.path.val, item.sha256⟩

theorem plannedEntry_eq_ok_iff {candidate : PackageCandidateIdentity} {manifest : PackageManifest}
    {digest : Sha256} {entry : RuntimeLockEntry sha256} :
    plannedEntry packageReceipt registryReceipt target candidate manifest digest = .ok entry ↔
      IsPlannedEntry packageReceipt registryReceipt target candidate manifest digest entry := by
  rw [plannedEntry]
  constructor
  · intro h
    rcases hf : runtimeFiles manifest.val.files with e | files
    · simp [hf, bind, Except.bind] at h
    · simp only [hf, bind, Except.bind, construct_eq_ok_iff] at h
      obtain ⟨entry, hentry⟩ := entry
      subst h
      exact ⟨rfl, rfl, rfl, rfl, rfl, rfl, rfl, rfl, runtimeFiles_eq_ok_iff.mp hf⟩
  · rintro ⟨h₁, h₂, h₃, h₄, h₅, h₆, h₇, h₈, hf⟩
    simp only [runtimeFiles_eq_ok_iff.mpr hf, bind, Except.bind, construct_eq_ok_iff]
    obtain ⟨⟨_, _, _, _, _, _, _, _, _⟩, _⟩ := entry
    dsimp only at h₁ h₂ h₃ h₄ h₅ h₆ h₇ h₈
    subst h₁ h₂ h₃ h₄ h₅ h₆ h₇ h₈
    rfl

/-! ### Validation of the emitted plans -/

/-- **A planned transition validates** when its evidence does and the lock
digests agree with the operation. -/
theorem plannedPlanData_validate_iff {candidate : PackageCandidateIdentity}
    {manifest : PackageManifest} {digest : Sha256} {entry : RuntimeLockEntry sha256}
    {proposed : RuntimeLock sha256}
    (hentry : IsPlannedEntry packageReceipt registryReceipt target candidate manifest digest entry)
    (hinput : registryReceipt.val.inputReceiptId = packageReceipt.val.receiptId) :
    (plannedPlanData packageReceipt registryReceipt currentLock target evidence candidate digest
        entry proposed).validate = .ok () ↔
      EvidenceAccepted evidence ∧
        (transitionOperation currentLock entry = .noChange ↔
          lockDigest currentLock = lockDigest proposed) := by
  -- the texts that the plan shows are those that the entry was accepted with
  obtain ⟨⟨hname, hversion, hreceipt, hregistry, -⟩, hid, -, -⟩ :=
    (RuntimeLockEntryData.validate_eq_ok sha256).mp entry.2
  rw [hentry.packageName] at hname hid
  rw [hentry.version] at hversion
  rw [hentry.packageReceiptId] at hreceipt
  rw [hentry.registryPreparationReceiptId] at hregistry
  rw [hentry.candidate] at hid
  rw [InstallPlanData.validate_eq_ok_iff]
  refine and_congr ⟨fun h => evidenceErrors_eq_nil_iff_accepted.mp h.evidence, fun h => ?_⟩ ?_
  · refine ⟨hname, hversion, hreceipt, hregistry, ?_, evidenceErrors_eq_nil_iff_accepted.mpr h⟩
    rw [← hinput] at hreceipt
    exact hreceipt
  · have hplan := planId_planned packageReceipt registryReceipt currentLock target evidence candidate
      digest entry proposed
    simp only [InstallPlanData.statusMatchesTransition, List.forall_mem_append,
      List.forall_mem_cons, violation_fst, InstallPlanData.validatePlannedState, ← hplan]
    simp only [plannedPlanData, Option.any_some, hentry.packageName, hentry.version,
      hentry.candidate, hentry.packageDigest, hentry.registry, hentry.packageReceiptId,
      hentry.registryPreparationReceiptId, hentry.target, hinput, hid]
    rcases transitionOperation currentLock entry with - | - | - <;> simp

/-- The package name a blocked plan shows is the candidate's, where there is one. -/
theorem shownPackageName_of_candidate {c : PackageCandidateIdentity}
    (h : packageReceipt.val.candidate = some c) :
    shownPackageName packageReceipt registryReceipt = c.packageId := by
  rw [shownPackageName, h]

/-- **A blocked plan validates** when what it shows is public. -/
theorem blockedPlanData_validate_iff {b : RegistryPreparationBlocker} :
    (blockedPlanData packageReceipt registryReceipt currentLock target evidence b).validate = .ok () ↔
      (blockedPlanData packageReceipt registryReceipt currentLock target evidence b).ShowsPublicText ∧
        InstallPlanData.blockerIsPublicSafe b = true := by
  rw [InstallPlanData.validate_eq_ok_iff]
  refine and_congr_right fun _ => ?_
  have hplan := planId_blocked packageReceipt registryReceipt currentLock target evidence b
  have hstatus : (blockedPlanData packageReceipt registryReceipt currentLock target evidence
    b).status = .blocked := rfl
  simp only [InstallPlanData.statusMatchesTransition, hstatus, List.forall_mem_append,
    List.forall_mem_cons, violation_fst, ← hplan]
  simp only [blockedPlanData]
  rcases hc : packageReceipt.val.candidate with - | c
  · simp
  · simp [shownPackageName_of_candidate hc]

end SkillsSdk
