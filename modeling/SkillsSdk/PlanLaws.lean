/-
SkillsSdk/PlanLaws.lean

The laws of planned transitions.

A request is everything `plan_runtime_install` is given apart from the current
lock.  `InstallRequest.Adopts` relates a lock to the lock a planned result
proposes for it.  The laws say that a request upserts one entry: it touches one
place and keeps the rest, its operation names what it found there, planning it
again changes nothing, and requests for different keys commute.
-/
import SkillsSdk.PlanEmission

namespace SkillsSdk

variable {sha256 : List UInt8 → Sha256}

/-! ### Requests -/

/-- The arguments of the planner apart from the current lock. -/
structure InstallRequest (sha256 : List UInt8 → Sha256) where
  packageReceipt : PackageReceiptV2 sha256
  registryReceipt : RegistryPreparationReceipt
  target : RuntimeTarget
  evidence : List Text

namespace InstallRequest

/-- `plan_runtime_install` on a lock. -/
def plan (r : InstallRequest sha256) (lock : RuntimeLock sha256) : Except Raised (InstallPlan sha256) :=
  planRuntimeInstall r.packageReceipt r.registryReceipt lock r.target r.evidence

/-- The key of the entry a request asks for. -/
def key (r : InstallRequest sha256) : RuntimeScope × Text × Text :=
  (r.target.val.scope, r.target.val.targetId.val, r.registryReceipt.val.packageName.val)

/-- The plan is planned, for this entry and this proposed lock. -/
structure Proposes (r : InstallRequest sha256) (lock : RuntimeLock sha256) (plan : InstallPlan sha256)
    (entry : RuntimeLockEntry sha256) (proposed : RuntimeLock sha256) : Prop where
  result : r.plan lock = .ok plan
  planned : plan.val.status = .planned
  entry_eq : plan.val.proposedEntry = some entry
  lock_eq : proposedLock lock entry = .ok proposed
  digest_eq : plan.val.proposedLockSha256 = some (lockDigest proposed)

/-- Planning the request on the first lock and adopting the result gives the second. -/
def Adopts (r : InstallRequest sha256) (lock proposed : RuntimeLock sha256) : Prop :=
  ∃ plan entry, r.Proposes lock plan entry proposed

/-- What a planned result is made of: an entry that depends on the request
only, its lock, and a plan that validates. -/
structure Derivation (r : InstallRequest sha256) (candidate : PackageCandidateIdentity)
    (manifest : PackageManifest) (digest : Sha256) (entry : RuntimeLockEntry sha256) : Prop where
  candidate_eq : r.packageReceipt.val.candidate = some candidate
  manifest_eq : r.packageReceipt.val.manifest = some manifest
  digest_eq : r.packageReceipt.val.packageDigest = some digest
  unblocked : identityBlocker r.packageReceipt r.registryReceipt = .ok none
  entry_ok : IsPlannedEntry r.packageReceipt r.registryReceipt r.target candidate manifest digest entry

end InstallRequest

open InstallRequest

/-! ### What a planned result is made of -/

/-- Without a blocker the registry receipt names the package receipt. -/
theorem inputReceiptId_of_unblocked {packageReceipt : PackageReceiptV2 sha256}
    {registryReceipt : RegistryPreparationReceipt}
    (h : identityBlocker packageReceipt registryReceipt = .ok none) :
    registryReceipt.val.inputReceiptId = packageReceipt.val.receiptId := by
  by_contra hne
  unfold identityBlocker at h
  rw [if_pos hne] at h
  rcases hb : raised (blocker inputReceiptMismatch.1 inputReceiptMismatch.2) with e | b <;>
    simp [hb, Functor.map, Except.map] at h

/-- A blocked plan is not planned. -/
theorem status_of_blockedPlan {packageReceipt : PackageReceiptV2 sha256}
    {registryReceipt : RegistryPreparationReceipt} {lock : RuntimeLock sha256}
    {target : RuntimeTarget} {evidence : List Text} {b : RegistryPreparationBlocker}
    {plan : InstallPlan sha256}
    (h : blockedPlan packageReceipt registryReceipt lock target evidence b = .ok plan) :
    plan.val.status = .blocked := by
  rw [construct_eq_ok_iff.mp h]
  rfl

/-- The plan a derivation emits on a lock. -/
def emitted (r : InstallRequest sha256) (lock : RuntimeLock sha256)
    (candidate : PackageCandidateIdentity) (digest : Sha256) (entry : RuntimeLockEntry sha256)
    (proposed : RuntimeLock sha256) : InstallPlanData sha256 :=
  plannedPlanData r.packageReceipt r.registryReceipt lock r.target r.evidence candidate digest
    entry proposed

/-- **Inversion**: a planned result comes from a derivation, and its plan is the
one the derivation emits. -/
theorem derivation_of_planned {r : InstallRequest sha256} {lock : RuntimeLock sha256}
    {plan : InstallPlan sha256} (h : r.plan lock = .ok plan) (hs : plan.val.status = .planned) :
    ∃ candidate manifest digest entry proposed,
      r.Derivation candidate manifest digest entry ∧ proposedLock lock entry = .ok proposed ∧
        plan.val = emitted r lock candidate digest entry proposed := by
  obtain ⟨b, hb, h⟩ := bind_eq_ok_iff.mp h
  rcases b with - | b
  · -- no blocker: the planned transition
    simp only [plannedTransition] at h
    split at h
    · rename_i candidate manifest digest hc hm hd
      obtain ⟨entry, hentry, h⟩ := bind_eq_ok_iff.mp h
      obtain ⟨proposed, hproposed, h⟩ := bind_eq_ok_iff.mp h
      exact ⟨candidate, manifest, digest, entry, proposed,
        ⟨hc, hm, hd, hb, plannedEntry_eq_ok_iff.mp (raised_eq_ok.mp hentry)⟩,
        raised_eq_ok.mp hproposed, construct_eq_ok_iff.mp (raised_eq_ok.mp h)⟩
    · cases h
  · -- a blocker: the plan is blocked
    rw [status_of_blockedPlan (raised_eq_ok.mp h)] at hs
    cases hs

/-- **Construction**: a derivation whose plan validates gives that planned result. -/
theorem planned_of_derivation {r : InstallRequest sha256} {lock : RuntimeLock sha256}
    {candidate : PackageCandidateIdentity} {manifest : PackageManifest} {digest : Sha256}
    {entry : RuntimeLockEntry sha256} {proposed : RuntimeLock sha256}
    (hder : r.Derivation candidate manifest digest entry)
    (hlock : proposedLock lock entry = .ok proposed)
    (hvalid : (emitted r lock candidate digest entry proposed).validate = .ok ()) :
    r.plan lock = .ok ⟨emitted r lock candidate digest entry proposed, hvalid⟩ := by
  simp only [InstallRequest.plan, planRuntimeInstall, hder.unblocked, bind, Except.bind,
    plannedTransition, hder.candidate_eq, hder.manifest_eq, hder.digest_eq,
    plannedEntry_eq_ok_iff.mpr hder.entry_ok, raised, hlock]
  rw [show plannedPlanData r.packageReceipt r.registryReceipt lock r.target r.evidence candidate digest
    entry proposed = emitted r lock candidate digest entry proposed from rfl, construct_of_ok hvalid]

theorem InstallRequest.Derivation.key_eq {r : InstallRequest sha256} {candidate : PackageCandidateIdentity}
    {manifest : PackageManifest} {digest : Sha256} {entry : RuntimeLockEntry sha256}
    (h : r.Derivation candidate manifest digest entry) : entryKey entry = r.key := by
  rw [entryKey, h.entry_ok.target, h.entry_ok.packageName, InstallRequest.key]

/-- The entry is a function of the request. -/
theorem InstallRequest.Derivation.unique {r : InstallRequest sha256}
    {candidate candidate' : PackageCandidateIdentity} {manifest manifest' : PackageManifest}
    {digest digest' : Sha256} {entry entry' : RuntimeLockEntry sha256}
    (h : r.Derivation candidate manifest digest entry)
    (h' : r.Derivation candidate' manifest' digest' entry') : entry = entry' := by
  obtain rfl : candidate = candidate' := Option.some.inj (h.candidate_eq.symm.trans h'.candidate_eq)
  obtain rfl : manifest = manifest' := Option.some.inj (h.manifest_eq.symm.trans h'.manifest_eq)
  obtain rfl : digest = digest' := Option.some.inj (h.digest_eq.symm.trans h'.digest_eq)
  have := (plannedEntry_eq_ok_iff.mpr h.entry_ok).symm.trans (plannedEntry_eq_ok_iff.mpr h'.entry_ok)
  exact Except.ok.inj this

/-- A request adopts by upserting its entry. -/
theorem adopts_entries {r : InstallRequest sha256} {lock proposed : RuntimeLock sha256}
    (h : r.Adopts lock proposed) :
    ∃ candidate manifest digest entry, r.Derivation candidate manifest digest entry ∧
      proposed.val.entries = KeyedList.upsert entryKey entry lock.val.entries := by
  obtain ⟨plan, entry, hp⟩ := h
  obtain ⟨candidate, manifest, digest, entry', proposed', hder, hlock, hplan⟩ :=
    derivation_of_planned hp.result hp.planned
  have hentry := hp.entry_eq
  rw [hplan] at hentry
  obtain rfl : entry' = entry := Option.some.inj hentry
  exact ⟨candidate, manifest, digest, entry', hder, proposedLock_eq_ok_iff.mp hp.lock_eq⟩

/-! ### The laws -/

/-- The entry took the place of the one entry with its key, or the last place
when there was none; every other entry stands where it stood. -/
def InPlace (entry : RuntimeLockEntry sha256) (before after : List (RuntimeLockEntry sha256)) : Prop :=
  (∃ pre old post, before = pre ++ old :: post ∧ entryKey old = entryKey entry ∧
      (∀ x ∈ pre ++ post, entryKey x ≠ entryKey entry) ∧ after = pre ++ entry :: post) ∨
    ((∀ x ∈ before, entryKey x ≠ entryKey entry) ∧ after = before ++ [entry])

/-- A planned transition of a derivation validates when the evidence does and the
lock digests agree with the operation. -/
theorem emitted_validate_iff {r : InstallRequest sha256} (lock proposed : RuntimeLock sha256)
    {candidate : PackageCandidateIdentity} {manifest : PackageManifest} {digest : Sha256}
    {entry : RuntimeLockEntry sha256} (hder : r.Derivation candidate manifest digest entry)
    (hinput : r.registryReceipt.val.inputReceiptId = r.packageReceipt.val.receiptId) :
    (emitted r lock candidate digest entry proposed).validate = .ok () ↔
      EvidenceAccepted r.evidence ∧
        (transitionOperation lock entry = .noChange ↔ lockDigest lock = lockDigest proposed) :=
  plannedPlanData_validate_iff hder.entry_ok hinput

/-- A plan that validates has evidence that a later plan may carry too. -/
theorem evidenceAccepted_of_emitted {r : InstallRequest sha256} {lock : RuntimeLock sha256}
    {candidate : PackageCandidateIdentity} {manifest : PackageManifest} {digest : Sha256}
    {entry : RuntimeLockEntry sha256} {proposed : RuntimeLock sha256}
    (hder : r.Derivation candidate manifest digest entry)
    (hvalid : (emitted r lock candidate digest entry proposed).validate = .ok ()) :
    EvidenceAccepted r.evidence :=
  ((plannedPlanData_validate_iff hder.entry_ok (inputReceiptId_of_unblocked hder.unblocked)).mp hvalid).1

/-- Planning on a lock that already holds the entry changes nothing. -/
theorem replan_noChange {r : InstallRequest sha256} {lock : RuntimeLock sha256}
    {candidate : PackageCandidateIdentity} {manifest : PackageManifest} {digest : Sha256}
    {entry : RuntimeLockEntry sha256} (hder : r.Derivation candidate manifest digest entry)
    (hevidence : EvidenceAccepted r.evidence) (hmem : entry ∈ lock.val.entries) :
    ∃ again, r.Proposes lock again entry lock ∧ again.val.operation = some .noChange := by
  have hop := transitionOperation_eq_noChange_iff.mpr hmem
  have hlock := proposedLock_of_mem hmem
  have hvalid : (emitted r lock candidate digest entry lock).validate = .ok () :=
    (plannedPlanData_validate_iff hder.entry_ok (inputReceiptId_of_unblocked hder.unblocked)).mpr
      ⟨hevidence, iff_of_true hop rfl⟩
  refine ⟨⟨_, hvalid⟩, ⟨planned_of_derivation hder hlock hvalid, rfl, rfl, hlock, rfl⟩, ?_⟩
  show some (transitionOperation lock entry) = some .noChange
  rw [hop]

/-- Requests for different keys adopt to the same entries in either order. -/
theorem adopts_comm {r s : InstallRequest sha256} (hkey : s.key ≠ r.key)
    {lock lock₁ lock₂ lock₁₂ lock₂₁ : RuntimeLock sha256}
    (h₁ : r.Adopts lock lock₁) (h₁₂ : s.Adopts lock₁ lock₁₂)
    (h₂ : s.Adopts lock lock₂) (h₂₁ : r.Adopts lock₂ lock₂₁) (x : RuntimeLockEntry sha256) :
    x ∈ lock₁₂.val.entries ↔ x ∈ lock₂₁.val.entries := by
  obtain ⟨_, _, _, e, hr, he₁⟩ := adopts_entries h₁
  obtain ⟨_, _, _, f, hs, he₁₂⟩ := adopts_entries h₁₂
  obtain ⟨_, _, _, f', hs', he₂⟩ := adopts_entries h₂
  obtain ⟨_, _, _, e', hr', he₂₁⟩ := adopts_entries h₂₁
  obtain rfl := hr.unique hr'
  obtain rfl := hs.unique hs'
  rw [he₁₂, he₁, he₂₁, he₂]
  exact KeyedList.mem_upsert_comm lock.keys_nodup (by rw [hr.key_eq, hs.key_eq]; exact hkey.symm)

/-- **The laws of a planned transition.** -/
theorem planned_transition_laws {r : InstallRequest sha256} {lock : RuntimeLock sha256}
    {plan : InstallPlan sha256} (h : r.plan lock = .ok plan) (hs : plan.val.status = .planned) :
    ∃ entry proposed, r.Proposes lock plan entry proposed ∧ entryKey entry = r.key ∧
      InPlace entry lock.val.entries proposed.val.entries ∧
      (plan.val.operation = some .install ↔ ∀ x ∈ lock.val.entries, entryKey x ≠ r.key) ∧
      (plan.val.operation = some .noChange ↔ entry ∈ lock.val.entries) ∧
      (plan.val.operation = some .update ↔
        ∃ old ∈ lock.val.entries, entryKey old = r.key ∧ old ≠ entry) ∧
      (proposed.val.entries.map entryKey).Nodup ∧
      (∃ again, r.Proposes proposed again entry proposed ∧ again.val.operation = some .noChange) ∧
      ∀ s : InstallRequest sha256, s.key ≠ r.key → ∀ lock₂ lock₁₂ lock₂₁,
        s.Adopts lock lock₂ → s.Adopts proposed lock₁₂ → r.Adopts lock₂ lock₂₁ →
          ∀ x, x ∈ lock₁₂.val.entries ↔ x ∈ lock₂₁.val.entries := by
  obtain ⟨candidate, manifest, digest, entry, proposed, hder, hlock, hplan⟩ :=
    derivation_of_planned h hs
  have hprop : r.Proposes lock plan entry proposed :=
    ⟨h, hs, by rw [hplan]; rfl, hlock, by rw [hplan]; rfl⟩
  have hop : plan.val.operation = some (transitionOperation lock entry) := by rw [hplan]; rfl
  have hentries := proposedLock_eq_ok_iff.mp hlock
  have hevidence := evidenceAccepted_of_emitted hder (hplan ▸ plan.2)
  have hmem : entry ∈ proposed.val.entries :=
    hentries ▸ KeyedList.mem_upsert_self lock.keys_nodup
  -- the operation is read off the lock before, the rows off the lock after
  refine ⟨entry, proposed, hprop, hder.key_eq, ?_, ?_, ?_, ?_, proposed.keys_nodup,
    replan_noChange hder hevidence hmem, ?_⟩
  · rw [hentries]
    exact KeyedList.upsert_spec lock.keys_nodup
  · rw [hop, Option.some.injEq, transitionOperation_eq_install_iff, hder.key_eq]
  · rw [hop, Option.some.injEq, transitionOperation_eq_noChange_iff]
  · rw [hop, Option.some.injEq, transitionOperation_eq_update_iff, hder.key_eq]
  · intro s hkey lock₂ lock₁₂ lock₂₁ h₂ h₁₂ h₂₁
    exact adopts_comm hkey ⟨plan, entry, hprop⟩ h₁₂ h₂ h₂₁

/-! ### A request -/

namespace Demo

-- A package of one file, built and prepared under a package id of choice.

def digest : Sha256 := ⟨List.replicate 64 'a', by decide +kernel⟩

theorem file_portable : isPortable "SKILL.md".toList = true := by decide +kernel

theorem revision_hex : isHexOfLength 40 (List.replicate 40 '0') = true := isHexOfLength_replicate rfl

def file : PackageManifestFile := ⟨literal "SKILL.md" file_portable, digest, 4, .skillMd⟩

def evidence : PortablePath := literal "receipt.json" (by decide +kernel)

def version : NonEmptyText := literal "1.0.0" (by decide +kernel)

variable (name : PackageId)

def candidate : PackageCandidateIdentity :=
  ⟨name, ⟨List.replicate 40 '0', revision_hex⟩, candidateContentSha256 hashlibSha256 [file.record]⟩

def manifest : PackageManifest :=
  ⟨⟨candidate name, version, [file],
    ⟨⟨[evidence], by simp⟩, literal "sdk" (by decide +kernel)⟩⟩,
    PackageManifestData.validate_eq_ok.mpr (by simp [PackageManifestData.paths])⟩

def packageReceiptData : PackageReceiptData where
  receiptId := literal "built" (by decide +kernel)
  candidate := some (candidate name)
  status := .built
  startedAt := 0
  finishedAt := 1
  evidence := [evidence]
  blocker := none
  packageDigest := some (canonicalJsonSha256 hashlibSha256 (manifest name).val.toJson)
  manifest := some (manifest name)
  includedFiles := [file.path]
  excludedFiles := []

theorem manifest_written : hasLongInt (manifest name).val.toJson = false := by
  rw [hasLongInt, PackageManifestData.ints_toJson]
  exact (by decide +kernel : [(file.sizeBytes : Int)].any isLongInt = false)

def packageReceipt : PackageReceiptV2 hashlibSha256 :=
  ⟨packageReceiptData name, by
    simp [PackageReceiptData.validate, validateWith_eq_ok, packageReceiptData,
      PackageReceiptData.receiptMatchesManifest, PackageReceiptData.packageDigestMatchesManifest,
      PackageReceiptData.manifestPaths, PackageManifestData.paths, manifest, candidate, sameSet,
      disjointSets, -Bool.forall_bool]
    exact manifest_written name⟩

def registry : RegistryIdentity :=
  ⟨⟨literal "internal" (by decide +kernel), literal "skills" (by decide +kernel)⟩, by decide +kernel⟩

def registryReceiptData : RegistryPreparationReceiptData where
  receiptId := literal "prepared" (by decide +kernel)
  candidate := some (candidate name)
  registry := registry
  packageName := name
  version := version
  inputReceiptId := (packageReceiptData name).receiptId
  packageDigest := (packageReceiptData name).packageDigest
  manifestDigest := (packageReceiptData name).packageDigest
  hardeningReceiptSha256 := some digest
  status := .prepared
  evidence := [evidence.val]
  blocker := none
  blockers := []
  warnings := []

/-- The registry takes the id: it is short and redaction-safe. -/
def registryReceipt
    (hname : registryEvidenceIsRedactionSafe name.val = true ∧ name.val.length ≤ 64) :
    RegistryPreparationReceipt :=
  ⟨registryReceiptData name, by
    have hversion : RegistryPreparationReceiptData.versionErrors version.val = [] := by
      decide +kernel
    have hevidence : evidenceErrors "evidence" "registry preparation evidence paths must be unique"
        "registry receipt evidence must not contain credential-shaped values" [evidence.val] = [] := by
      decide +kernel
    have hsemver : Rx.fullmatch registryVersionPattern version.val = true := by decide +kernel
    simp [RegistryPreparationReceiptData.validate, validateWith_eq_ok, registryReceiptData,
      RegistryPreparationReceiptData.statusMatchesArtifacts, redactionErrors, hname.1,
      hevidence, hversion, candidate, packageReceiptData, hsemver]
    exact violation_fst.mpr (Nat.not_lt.mpr hname.2)⟩

def target : RuntimeTarget := ⟨⟨.project, literal "site" (by decide +kernel)⟩, by decide +kernel⟩

def request (hname : registryEvidenceIsRedactionSafe name.val = true ∧ name.val.length ≤ 64) :
    InstallRequest hashlibSha256 :=
  ⟨packageReceipt name, registryReceipt name hname, target, [evidence.val]⟩

/-- The receipts match. -/
theorem unblocked
    (hname : registryEvidenceIsRedactionSafe name.val = true ∧ name.val.length ≤ 64) :
    identityBlocker (packageReceipt name) (registryReceipt name hname) = .ok none := by
  simp [identityBlocker, packageReceipt, registryReceipt, packageReceiptData, registryReceiptData,
    manifest]

def emptyLock : RuntimeLock hashlibSha256 := ⟨⟨[]⟩, RuntimeLockData.validate_eq_ok.mpr (by simp)⟩

/-- A public id. -/
def publicName : PackageId := literal "demo" (by decide +kernel)

theorem publicName_ok :
    registryEvidenceIsRedactionSafe publicName.val = true ∧ publicName.val.length ≤ 64 := by
  decide +kernel

def runtimeFile : RuntimeFile :=
  ⟨⟨file.path.val, file.sha256⟩, RuntimeFileData.validate_eq_ok.mpr ⟨file.path.2, by decide +kernel⟩⟩

def entry : RuntimeLockEntry hashlibSha256 :=
  ⟨⟨publicName, version, candidate publicName,
      canonicalJsonSha256 hashlibSha256 (manifest publicName).val.toJson, registry,
      literal "built" (by decide +kernel), literal "prepared" (by decide +kernel), target, [runtimeFile]⟩,
    (RuntimeLockEntryData.validate_eq_ok _).mpr
      ⟨by decide +kernel, rfl, by simp [RuntimeLockEntryData.paths], rfl⟩⟩

theorem derivation : (request publicName publicName_ok).Derivation (candidate publicName)
    (manifest publicName) (canonicalJsonSha256 hashlibSha256 (manifest publicName).val.toJson) entry :=
  ⟨rfl, rfl, rfl, unblocked publicName publicName_ok, ⟨rfl, rfl, rfl, rfl, rfl, rfl, rfl, rfl, rfl⟩⟩

/-- The lock with the one entry. -/
def filledLock : RuntimeLock hashlibSha256 :=
  ⟨⟨[entry]⟩, RuntimeLockData.validate_eq_ok.mpr (by simp)⟩

theorem lockDigest_ne : lockDigest emptyLock ≠ lockDigest filledLock := by decide +kernel

/-- The request is planned on the empty lock. -/
theorem planned_on_emptyLock :
    ∃ plan, (request publicName publicName_ok).plan emptyLock = .ok plan ∧
      plan.val.status = .planned := by
  have hfresh : entryKey entry ∉ emptyLock.val.entries.map entryKey := by simp [emptyLock]
  have hlock : proposedLock emptyLock entry = .ok filledLock :=
    proposedLock_eq_ok_iff.mpr (KeyedList.upsert_of_not_mem hfresh).symm
  have hinstall : transitionOperation emptyLock entry = .install :=
    transitionOperation_eq_install_iff.mpr (by simp [emptyLock])
  have hevidence : EvidenceAccepted [evidence.val] := ⟨by simp, by simp, by decide +kernel⟩
  have hvalid : (emitted (request publicName publicName_ok) emptyLock (candidate publicName) _ entry
      filledLock).validate = .ok () :=
    (plannedPlanData_validate_iff derivation.entry_ok
      (inputReceiptId_of_unblocked (unblocked publicName publicName_ok))).mpr
      ⟨hevidence, iff_of_false (by simp [hinstall]) lockDigest_ne⟩
  exact ⟨_, planned_of_derivation derivation hlock hvalid, rfl⟩

end Demo

/-- A demo package is installed into the empty lock, and is its only entry. -/
theorem planned_transition_laws_demo :
    ∃ plan entry proposed,
      (Demo.request Demo.publicName Demo.publicName_ok).Proposes Demo.emptyLock plan entry proposed ∧
        plan.val.operation = some .install ∧ proposed.val.entries = [entry] ∧
        ∃ again,
          (Demo.request Demo.publicName Demo.publicName_ok).Proposes proposed again entry proposed ∧
            again.val.operation = some .noChange := by
  obtain ⟨plan, h, hs⟩ := Demo.planned_on_emptyLock
  obtain ⟨entry, proposed, hprop, -, hplace, hinstall, -, -, -, hagain, -⟩ :=
    planned_transition_laws h hs
  refine ⟨plan, entry, proposed, hprop, hinstall.mpr (by simp [Demo.emptyLock]), ?_, hagain⟩
  rcases hplace with ⟨pre, old, post, hempty, -⟩ | ⟨-, hlast⟩
  · simp [Demo.emptyLock] at hempty
  · simpa [Demo.emptyLock] using hlast

end SkillsSdk
