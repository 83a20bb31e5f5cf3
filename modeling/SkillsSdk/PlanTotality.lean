/-
SkillsSdk/PlanTotality.lean

When `plan_runtime_install` returns a plan, and what it raises otherwise.

The receipts are checked by the package and registry contracts, the plan by the
lifecycle contracts, and the three families of text checks do not nest: a
package id such as `access-token` passes the first two and not the third
(`plan_raises_on_public_id`).  `plan_total` is the exact condition: the planner
returns a plan, planned or blocked with a blocker, when the texts it shows are
public, the evidence is there, the manifest paths are public, and the digests
of two different locks differ; in every other case it raises a validation
error.
-/
import SkillsSdk.PlanLaws

namespace SkillsSdk

variable {sha256 : List UInt8 → Sha256}

/-! ### Blockers -/

/-- The planner's own blockers are registry blockers, and public. -/
theorem plannerBlockers_ok : ∀ b ∈ plannerBlockers,
    ∃ h : (RegistryPreparationBlockerData.mk b.1 b.2 [] [] none).validate = .ok (),
      InstallPlanData.blockerIsPublicSafe ⟨_, h⟩ = true := by
  have hsafe : ∀ b ∈ plannerBlockers,
      registryEvidenceIsRedactionSafe b.1.val = true ∧ registryEvidenceIsRedactionSafe b.2.val = true := by
    simp only [plannerBlockers, List.forall_mem_cons]
    refine ⟨?_, ?_, ?_, ?_, nofun⟩ <;>
      exact ⟨registryEvidenceIsRedactionSafe_ofList (by decide +kernel),
        registryEvidenceIsRedactionSafe_ofList (by decide +kernel)⟩
  have hpublic : ∀ b ∈ plannerBlockers,
      lifecycleTextIsPublicSafe b.1.val = true ∧ lifecycleTextIsPublicSafe b.2.val = true := by
    simp only [plannerBlockers, List.forall_mem_cons]
    refine ⟨?_, ?_, ?_, ?_, nofun⟩ <;>
      exact ⟨lifecycleTextIsPublicSafe_ofList (by decide +kernel),
        lifecycleTextIsPublicSafe_ofList (by decide +kernel)⟩
  intro b hb
  obtain ⟨hcode, hmessage⟩ := hsafe b hb
  obtain ⟨hcode', hmessage'⟩ := hpublic b hb
  refine ⟨?_, ?_⟩
  · simp [RegistryPreparationBlockerData.validate, validateWith_eq_ok, redactionErrors, hcode,
      hmessage, evidenceErrors_eq_nil]
  · simp [InstallPlanData.blockerIsPublicSafe, hcode', hmessage']

/-- Making one of them succeeds, with a public blocker. -/
theorem make_plannerBlocker {b : NonEmptyText × NonEmptyText} (hb : b ∈ plannerBlockers) :
    ∃ made, some <$> raised (blocker b.1 b.2) = .ok (some made) ∧
      InstallPlanData.blockerIsPublicSafe made = true := by
  obtain ⟨h, hsafe⟩ := plannerBlockers_ok b hb
  refine ⟨⟨_, h⟩, ?_, hsafe⟩
  rw [blocker, construct_of_ok h]
  rfl

/-- What it takes for the receipts to match. -/
structure Matched (packageReceipt : PackageReceiptV2 sha256)
    (registryReceipt : RegistryPreparationReceipt) : Prop where
  input : registryReceipt.val.inputReceiptId = packageReceipt.val.receiptId
  prepared : registryReceipt.val.status = .prepared
  built : packageReceipt.val.status = .built
  candidate : packageReceipt.val.candidate = registryReceipt.val.candidate
  digest : packageReceipt.val.packageDigest = registryReceipt.val.packageDigest
  version : packageReceipt.val.manifest.map (·.val.version) = some registryReceipt.val.version

/-- **The identity check never raises**: the receipts match, or there is a
public blocker. -/
theorem identityBlocker_spec (packageReceipt : PackageReceiptV2 sha256)
    (registryReceipt : RegistryPreparationReceipt) :
    (identityBlocker packageReceipt registryReceipt = .ok none ∧
        Matched packageReceipt registryReceipt) ∨
      ∃ b, identityBlocker packageReceipt registryReceipt = .ok (some b) ∧
        InstallPlanData.blockerIsPublicSafe b = true := by
  unfold identityBlocker
  by_cases hinput : registryReceipt.val.inputReceiptId = packageReceipt.val.receiptId
  · simp only [hinput, ne_eq, not_true_eq_false, if_false]
    rcases hstatus : registryReceipt.val.status with - | -
    · by_cases hidentity : packageReceipt.val.status ≠ .built ∨
          packageReceipt.val.candidate ≠ registryReceipt.val.candidate ∨
          packageReceipt.val.packageDigest ≠ registryReceipt.val.packageDigest
      · obtain ⟨b, hb, hsafe⟩ := make_plannerBlocker (b := identityMismatch) (by simp [plannerBlockers])
        exact Or.inr ⟨b, by simpa only [if_pos hidentity] using hb, hsafe⟩
      · by_cases hversion :
            packageReceipt.val.manifest.map (·.val.version) = some registryReceipt.val.version
        · simp only [not_or, not_not] at hidentity
          refine Or.inl ⟨?_, hinput, hstatus, hidentity.1, hidentity.2.1, hidentity.2.2, hversion⟩
          simp [hidentity, hversion]
        · obtain ⟨b, hb, hsafe⟩ := make_plannerBlocker (b := versionMismatch) (by simp [plannerBlockers])
          exact Or.inr ⟨b, by simpa only [if_neg hidentity, if_pos hversion] using hb, hsafe⟩
    · obtain ⟨b, hb⟩ := registryReceipt.blockedBy hstatus
      simp only [hb]
      -- a blocker of the registry that may not be shown is replaced
      rcases hsafe : InstallPlanData.blockerIsPublicSafe b with - | -
      · obtain ⟨b', hb', hsafe'⟩ :=
          make_plannerBlocker (b := registryBlockerNotPortable) (by simp [plannerBlockers])
        exact Or.inr ⟨b', by simpa using hb', hsafe'⟩
      · exact Or.inr ⟨b, by simp, hsafe⟩
  · obtain ⟨b, hb, hsafe⟩ := make_plannerBlocker (b := inputReceiptMismatch) (by simp [plannerBlockers])
    exact Or.inr ⟨b, by simpa only [if_pos hinput] using hb, hsafe⟩

/-! ### The condition -/

/-- The texts that every plan of the request shows are public. -/
structure InstallRequest.ShowsPublicText (r : InstallRequest sha256) : Prop where
  packageName :
    lifecycleTextIsPublicSafe (shownPackageName r.packageReceipt r.registryReceipt).val = true
  version : lifecycleTextIsPublicSafe (shownVersion r.packageReceipt r.registryReceipt).val = true
  packageReceiptId : lifecycleTextIsPublicSafe r.packageReceipt.val.receiptId.val = true
  registryReceiptId : lifecycleTextIsPublicSafe r.registryReceipt.val.receiptId.val = true
  inputReceiptId : lifecycleTextIsPublicSafe r.registryReceipt.val.inputReceiptId.val = true

/-- The paths of the package's manifest are public. -/
def InstallRequest.PublicPaths (r : InstallRequest sha256) : Prop :=
  ∀ manifest ∈ r.packageReceipt.val.manifest, ∀ item ∈ manifest.val.files,
    lifecycleTextIsPublicSafe item.path.val = true

/-- Putting the entry of the request into the lock gives a lock of another
digest, unless the entry is there already. -/
def InstallRequest.DigestsDiffer (r : InstallRequest sha256) (lock : RuntimeLock sha256) : Prop :=
  ∀ candidate manifest digest entry proposed, r.Derivation candidate manifest digest entry →
    proposedLock lock entry = .ok proposed → lockDigest lock = lockDigest proposed →
      entry ∈ lock.val.entries

/-- The inputs on which the planner returns a plan. -/
structure InstallRequest.Plannable (r : InstallRequest sha256) (lock : RuntimeLock sha256) : Prop where
  evidence : EvidenceAccepted r.evidence
  text : r.ShowsPublicText
  transition : Matched r.packageReceipt r.registryReceipt → r.PublicPaths ∧ r.DigestsDiffer lock

/-! ### Matching receipts -/

section

variable {r : InstallRequest sha256}

theorem identityBlocker_of_matched (h : Matched r.packageReceipt r.registryReceipt) :
    identityBlocker r.packageReceipt r.registryReceipt = .ok none := by
  simp [identityBlocker, h.input, h.prepared, h.built, h.candidate, h.digest, h.version]

/-- Matching receipts carry the parts of an entry. -/
theorem built_of_matched (h : Matched r.packageReceipt r.registryReceipt) :
    ∃ candidate manifest digest,
      r.packageReceipt.val.Built sha256 candidate manifest digest ∧
        candidate.packageId = r.registryReceipt.val.packageName ∧
        manifest.val.version = r.registryReceipt.val.version := by
  obtain ⟨candidate, manifest, digest, hbuilt⟩ := r.packageReceipt.built h.built
  obtain ⟨candidate', hc, hname⟩ := r.registryReceipt.prepared h.prepared
  have hcc : candidate = candidate' := by
    have := hbuilt.candidate_eq.symm.trans (h.candidate.trans hc)
    exact Option.some.inj this
  have hversion := h.version
  rw [hbuilt.manifest_eq, Option.map_some, Option.some.injEq] at hversion
  exact ⟨candidate, manifest, digest, hbuilt, hcc ▸ hname, hversion⟩

theorem shownPackageName_of_matched (h : Matched r.packageReceipt r.registryReceipt) :
    shownPackageName r.packageReceipt r.registryReceipt = r.registryReceipt.val.packageName := by
  obtain ⟨candidate, manifest, digest, hbuilt, hname, -⟩ := built_of_matched h
  rw [shownPackageName_of_candidate hbuilt.candidate_eq, hname]

theorem shownVersion_of_matched (h : Matched r.packageReceipt r.registryReceipt) :
    shownVersion r.packageReceipt r.registryReceipt = r.registryReceipt.val.version := by
  obtain ⟨candidate, manifest, digest, hbuilt, -, hversion⟩ := built_of_matched h
  rw [shownVersion, hbuilt.manifest_eq]
  exact hversion

/-- **The entry of matching receipts exists** when its texts and paths are public. -/
theorem plannedEntry_exists_iff (h : Matched r.packageReceipt r.registryReceipt)
    {candidate : PackageCandidateIdentity} {manifest : PackageManifest} {digest : Sha256}
    (hbuilt : r.packageReceipt.val.Built sha256 candidate manifest digest) :
    (∃ entry, plannedEntry r.packageReceipt r.registryReceipt r.target candidate manifest digest =
        .ok entry) ↔ r.ShowsPublicText ∧ r.PublicPaths := by
  have hpaths : r.PublicPaths ↔
      ∀ item ∈ manifest.val.files, lifecycleTextIsPublicSafe item.path.val = true := by
    simp [InstallRequest.PublicPaths, hbuilt.manifest_eq]
  have hname := shownPackageName_of_matched h
  have hversion := shownVersion_of_matched h
  rw [hpaths]
  simp only [plannedEntry_eq_ok_iff]
  constructor
  -- an entry has passed the public text checks of its own model
  · rintro ⟨entry, hentry⟩
    obtain ⟨⟨h₁, h₂, h₃, h₄, -⟩, -⟩ := (RuntimeLockEntryData.validate_eq_ok sha256).mp entry.2
    refine ⟨⟨?_, ?_, ?_, ?_, ?_⟩, runtimeFiles_exists_iff.mp ⟨_, runtimeFiles_eq_ok_iff.mpr hentry.files⟩⟩
    · rwa [hname, ← hentry.packageName]
    · rwa [hversion, ← hentry.version]
    · rwa [← hentry.packageReceiptId]
    · rwa [← hentry.registryPreparationReceiptId]
    · rwa [h.input, ← hentry.packageReceiptId]
  · rintro ⟨hshows, hpublic⟩
    obtain ⟨files, hfiles⟩ := runtimeFiles_exists_iff.mpr hpublic
    rw [runtimeFiles_eq_ok_iff] at hfiles
    have hpathsEq : files.map (·.val.path) = manifest.val.files.map (·.path.val) := by
      have := congrArg (List.map RuntimeFileData.path) hfiles
      rwa [List.map_map, List.map_map] at this
    have hrecords : files.map (·.val.record) = manifest.val.files.map PackageManifestFile.record := by
      have := congrArg (List.map RuntimeFileData.record) hfiles
      rwa [List.map_map, List.map_map] at this
    -- the other rules of the entry follow from the built package receipt
    have hvalid : RuntimeLockEntryData.validate sha256
        ⟨r.registryReceipt.val.packageName, r.registryReceipt.val.version, candidate, digest,
          r.registryReceipt.val.registry, r.packageReceipt.val.receiptId,
          r.registryReceipt.val.receiptId, r.target, files⟩ = .ok () := by
      obtain ⟨candidate', _, _, hbuilt', hid, -⟩ := built_of_matched h
      obtain rfl : candidate' = candidate :=
        Option.some.inj (hbuilt'.candidate_eq.symm.trans hbuilt.candidate_eq)
      refine (RuntimeLockEntryData.validate_eq_ok sha256).mpr
        ⟨⟨hname ▸ hshows.packageName, hversion ▸ hshows.version, hshows.packageReceiptId,
          hshows.registryReceiptId, ?_⟩, hid.symm, ?_, ?_⟩
      · rintro rfl
        exact manifest.files_ne_nil (by simpa using hfiles)
      · show (files.map (·.val.path)).Nodup
        have := manifest.paths_nodup.map Subtype.val_injective
        rw [PackageManifestData.paths, List.map_map] at this
        rw [hpathsEq]
        exact this
      · show candidateContentSha256 sha256 (files.map (·.val.record)) = _
        rw [hrecords, hbuilt'.content]
        obtain rfl : _ = manifest :=
          Option.some.inj (hbuilt'.manifest_eq.symm.trans hbuilt.manifest_eq)
        rfl
    exact ⟨⟨_, hvalid⟩, ⟨rfl, rfl, rfl, rfl, rfl, rfl, rfl, rfl, hfiles⟩⟩

/-- The planner on matching receipts. -/
theorem plan_of_matched (lock : RuntimeLock sha256)
    (h : Matched r.packageReceipt r.registryReceipt) :
    (r.Plannable lock ∧ ∃ plan, r.plan lock = .ok plan ∧ plan.val.status = .planned) ∨
      (¬ r.Plannable lock ∧ ∃ e, r.plan lock = .error (.validationError e)) := by
  obtain ⟨candidate, manifest, digest, hbuilt, -, -⟩ := built_of_matched h
  have hnone := identityBlocker_of_matched h
  have hplan : r.plan lock = plannedTransition r.packageReceipt r.registryReceipt lock r.target
      r.evidence := by
    simp only [InstallRequest.plan, planRuntimeInstall, hnone, bind, Except.bind]
  simp only [plannedTransition, hbuilt.candidate_eq, hbuilt.manifest_eq, hbuilt.packageDigest_eq]
    at hplan
  rcases hentry : plannedEntry r.packageReceipt r.registryReceipt r.target candidate manifest digest
    with e | entry
  · -- the entry is refused
    have hpublic := mt (plannedEntry_exists_iff h hbuilt).mpr (by simp [hentry])
    refine Or.inr ⟨fun hp => hpublic ⟨hp.text, (hp.transition h).1⟩, e, ?_⟩
    rw [hplan, hentry]
    rfl
  · obtain ⟨proposed, hlock⟩ := proposedLock_exists lock entry
    have hder : r.Derivation candidate manifest digest entry :=
      ⟨hbuilt.candidate_eq, hbuilt.manifest_eq, hbuilt.packageDigest_eq, hnone,
        plannedEntry_eq_ok_iff.mp hentry⟩
    obtain ⟨htext, hpaths⟩ := (plannedEntry_exists_iff h hbuilt).mp ⟨entry, hentry⟩
    have hvalid_iff := emitted_validate_iff lock proposed hder h.input
    rcases hv : (emitted r lock candidate digest entry proposed).validate with e | u
    · -- the plan is refused
      refine Or.inr ⟨fun hp => ?_, e, ?_⟩
      · have hok : (emitted r lock candidate digest entry proposed).validate = .ok () := by
          refine hvalid_iff.mpr ⟨hp.evidence, fun hno => ?_, fun hdigest => ?_⟩
          · have hmem := transitionOperation_eq_noChange_iff.mp hno
            rw [Except.ok.inj (hlock.symm.trans (proposedLock_of_mem hmem))]
          · exact transitionOperation_eq_noChange_iff.mpr
              ((hp.transition h).2 candidate manifest digest entry proposed hder hlock hdigest)
        rw [hv] at hok
        cases hok
      · have hc := construct_eq_error_iff.mpr hv
        simp only [emitted] at hc
        simp only [hplan, hentry, raised, hlock, bind, Except.bind, hc]
    · -- the plan is accepted
      obtain ⟨hevidence, hop⟩ := hvalid_iff.mp hv
      refine Or.inl ⟨⟨hevidence, htext, fun _ => ⟨hpaths, ?_⟩⟩, _,
        planned_of_derivation hder hlock hv, rfl⟩
      intro candidate' manifest' digest' entry' proposed' hder' hlock' hdigest
      obtain rfl := hder.unique hder'
      obtain rfl := Except.ok.inj (hlock.symm.trans hlock')
      exact transitionOperation_eq_noChange_iff.mp (hop.mpr hdigest)

/-- The planner with a blocker. -/
theorem plan_of_blocker (lock : RuntimeLock sha256) {b : RegistryPreparationBlocker}
    (h : identityBlocker r.packageReceipt r.registryReceipt = .ok (some b))
    (hsafe : InstallPlanData.blockerIsPublicSafe b = true) :
    (r.Plannable lock ∧ ∃ plan, r.plan lock = .ok plan ∧ plan.val.status = .blocked ∧
        plan.val.blocker = some b) ∨
      (¬ r.Plannable lock ∧ ∃ e, r.plan lock = .error (.validationError e)) := by
  have hunmatched : ¬ Matched r.packageReceipt r.registryReceipt := fun hm => by
    rw [identityBlocker_of_matched hm] at h
    cases h
  have hplan : r.plan lock =
      raised (blockedPlan r.packageReceipt r.registryReceipt lock r.target r.evidence b) := by
    simp only [InstallRequest.plan, planRuntimeInstall, h, bind, Except.bind]
  have hiff : (blockedPlanData r.packageReceipt r.registryReceipt lock r.target r.evidence b).validate
      = .ok () ↔ r.Plannable lock := by
    rw [blockedPlanData_validate_iff]
    constructor
    · rintro ⟨hshows, -⟩
      exact ⟨evidenceErrors_eq_nil_iff_accepted.mp hshows.evidence,
        ⟨hshows.packageName, hshows.version, hshows.packageReceiptId,
          hshows.registryPreparationReceiptId, hshows.registryInputReceiptId⟩,
        fun hm => absurd hm hunmatched⟩
    · intro hp
      exact ⟨⟨hp.text.packageName, hp.text.version, hp.text.packageReceiptId,
        hp.text.registryReceiptId, hp.text.inputReceiptId,
        evidenceErrors_eq_nil_iff_accepted.mpr hp.evidence⟩, hsafe⟩
  rcases hv : (blockedPlanData r.packageReceipt r.registryReceipt lock r.target r.evidence b).validate
    with e | u
  · refine Or.inr ⟨fun hp => ?_, e, ?_⟩
    · have := hiff.mpr hp
      rw [hv] at this
      cases this
    · rw [hplan, blockedPlan, construct_eq_error_iff.mpr hv, raised]
  · refine Or.inl ⟨hiff.mp hv, ⟨_, hv⟩, ?_, rfl, rfl⟩
    rw [hplan, blockedPlan, construct_of_ok hv, raised]

end

/-! ### Totality -/

/-- **When the planner returns**: exactly on the plannable inputs it returns a
plan, planned or blocked with a blocker; on all others it raises a validation
error. -/
theorem plan_total (r : InstallRequest sha256) (lock : RuntimeLock sha256) :
    (r.Plannable lock ∧ ∃ plan, r.plan lock = .ok plan ∧
        (plan.val.status = .planned ∨ plan.val.status = .blocked ∧ ∃ b, plan.val.blocker = some b)) ∨
      (¬ r.Plannable lock ∧ ∃ e, r.plan lock = .error (.validationError e)) := by
  rcases identityBlocker_spec r.packageReceipt r.registryReceipt with ⟨-, hm⟩ | ⟨b, hb, hsafe⟩
  · rcases plan_of_matched lock hm with ⟨hp, plan, h, hs⟩ | h
    · exact Or.inl ⟨hp, plan, h, Or.inl hs⟩
    · exact Or.inr h
  · rcases plan_of_blocker lock hb hsafe with ⟨hp, plan, h, hs, hblocker⟩ | h
    · exact Or.inl ⟨hp, plan, h, Or.inr ⟨hs, b, hblocker⟩⟩
    · exact Or.inr h

namespace Demo

/-- An id that the package and registry contracts take, and the plan does not. -/
def tokenName : PackageId := literal "access-token" (by decide +kernel)

theorem tokenName_ok :
    registryEvidenceIsRedactionSafe tokenName.val = true ∧ tokenName.val.length ≤ 64 := by
  decide +kernel

end Demo

/-- The receipts of a package with that id match, the evidence is fine, and the
planner raises. -/
theorem plan_raises_on_public_id :
    Matched (Demo.packageReceipt Demo.tokenName) (Demo.registryReceipt Demo.tokenName Demo.tokenName_ok) ∧
      EvidenceAccepted (Demo.request Demo.tokenName Demo.tokenName_ok).evidence ∧
      ∃ e, (Demo.request Demo.tokenName Demo.tokenName_ok).plan Demo.emptyLock =
        .error (.validationError e) := by
  have hm : Matched (Demo.packageReceipt Demo.tokenName)
      (Demo.registryReceipt Demo.tokenName Demo.tokenName_ok) := ⟨rfl, rfl, rfl, rfl, rfl, rfl⟩
  refine ⟨hm, ⟨by simp [Demo.request], by simp [Demo.request], by decide +kernel⟩, ?_⟩
  rcases plan_of_matched (r := Demo.request Demo.tokenName Demo.tokenName_ok)
    Demo.emptyLock hm with ⟨hp, -⟩ | ⟨-, h⟩
  · have hname := hp.text.packageName
    have hsecret : lifecycleTextIsPublicSafe Demo.tokenName.val = false := by decide +kernel
    rw [shownPackageName_of_matched hm] at hname
    exact absurd (hsecret.symm.trans hname) (by simp)
  · exact h

end SkillsSdk
