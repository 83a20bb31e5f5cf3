/-
SkillsSdk/PlanIdentity.lean

What an installation plan's id binds.

The identity payload is an injective image of the accepted plan
(`identityPayload_injective`): its members determine every field it carries, and
the validator fixes every field it leaves out.  A plan id keeps 24 of the 64
digits of the payload's digest, so it binds the plan exactly as far as those
digits separate payloads.
-/
import SkillsSdk.PlanTotality

namespace SkillsSdk

/-! ### Dumped values -/

theorem jsonText_inj {s t : Text} : jsonText s = jsonText t ↔ s = t := by
  rw [jsonText, jsonText, Json.str.injEq]

theorem jsonOption_injective {α : Type*} {f : α → Json} (hf : Function.Injective f) (hnull : ∀ a, f a ≠ .null) :
    Function.Injective (jsonOption f) := by
  intro a b h
  rcases a with - | a
  · rcases b with - | b
    · rfl
    · exact absurd h.symm (hnull b)
  · rcases b with - | b
    · exact absurd h (hnull a)
    · exact congrArg some (hf h)

theorem jsonList_injective {α : Type*} {f : α → Json} (hf : Function.Injective f) :
    Function.Injective (jsonList f) := by
  intro a b h
  rw [jsonList, jsonList, Json.arr.injEq] at h
  exact hf.list_map h

theorem digestText_injective : Function.Injective fun s : Sha256 => jsonText s.val :=
  fun _ _ h => Subtype.ext (jsonText_inj.mp h)

/-! ### Dumped models -/

theorem PackageCandidateIdentity.toJson_injective : Function.Injective PackageCandidateIdentity.toJson := by
  rintro ⟨packageId, sourceRevision, contentSha256⟩ ⟨packageId', sourceRevision', contentSha256'⟩ h
  simp only [toJson, Json.obj.injEq, List.cons.injEq, field, Prod.mk.injEq, jsonText_inj, true_and, and_true] at h
  obtain ⟨hid, hrevision, hcontent⟩ := h
  rw [Subtype.ext hid, Subtype.ext hrevision, Subtype.ext hcontent]

theorem RegistryIdentityData.toJson_injective : Function.Injective RegistryIdentityData.toJson := by
  rintro ⟨registryId, namespace_⟩ ⟨registryId', namespace_'⟩ h
  simp only [toJson, Json.obj.injEq, List.cons.injEq, field, Prod.mk.injEq, jsonText_inj, true_and, and_true] at h
  obtain ⟨hid, hnamespace⟩ := h
  rw [Subtype.ext hid, Subtype.ext hnamespace]

theorem RegistryPreparationBlockerData.toJson_injective :
    Function.Injective RegistryPreparationBlockerData.toJson := by
  rintro ⟨code, message, refs, sources, source⟩ ⟨code', message', refs', sources', source'⟩ h
  simp only [toJson, Json.obj.injEq, List.cons.injEq, field, Prod.mk.injEq, jsonText_inj, true_and, and_true] at h
  obtain ⟨hcode, hmessage, hrefs, hsources, hsource⟩ := h
  have hrefs := jsonList_injective (fun _ _ => jsonText_inj.mp) hrefs
  have hsources := jsonList_injective digestText_injective hsources
  have hsource := jsonOption_injective digestText_injective (fun _ h => by cases h) hsource
  rw [Subtype.ext hcode, Subtype.ext hmessage, hrefs, hsources, hsource]

theorem RuntimeScope.value_injective {a b : RuntimeScope} (h : jsonLit a.value = jsonLit b.value) : a = b := by
  cases a <;> cases b <;> first | rfl | exact absurd (Json.str.inj h) (by decide)

theorem RuntimeTargetData.toJson_injective : Function.Injective RuntimeTargetData.toJson := by
  rintro ⟨scope, targetId⟩ ⟨scope', targetId'⟩ h
  simp only [toJson, Json.obj.injEq, List.cons.injEq, field, Prod.mk.injEq, jsonText_inj, true_and, and_true] at h
  rw [RuntimeScope.value_injective h.1, Subtype.ext h.2]

theorem RuntimeFileData.toJson_injective : Function.Injective RuntimeFileData.toJson := by
  rintro ⟨path, sha256⟩ ⟨path', sha256'⟩ h
  simp only [toJson, Json.obj.injEq, List.cons.injEq, field, Prod.mk.injEq, jsonText_inj, true_and, and_true] at h
  rw [h.1, Subtype.ext h.2]

/-- A dumped model is injective on its instances. -/
theorem accepted_injective {α : Type*} {validate : α → Except ValidationError Unit} {f : α → Json}
    (hf : Function.Injective f) : Function.Injective fun m : Accepted validate => f m.val :=
  fun _ _ h => Subtype.ext (hf h)

theorem RuntimeLockEntryData.toJson_injective : Function.Injective RuntimeLockEntryData.toJson := by
  rintro ⟨name, version, candidate, digest, registry, packageId, registryId, target, files⟩
    ⟨name', version', candidate', digest', registry', packageId', registryId', target', files'⟩ h
  simp only [toJson, Json.obj.injEq, List.cons.injEq, field, Prod.mk.injEq, jsonText_inj, true_and, and_true] at h
  obtain ⟨hname, hversion, hcandidate, hdigest, hregistry, hpackage, hpreparation, htarget, hfiles⟩ := h
  rw [Subtype.ext hname, Subtype.ext hversion, PackageCandidateIdentity.toJson_injective hcandidate,
    Subtype.ext hdigest, accepted_injective RegistryIdentityData.toJson_injective hregistry,
    Subtype.ext hpackage, Subtype.ext hpreparation,
    accepted_injective RuntimeTargetData.toJson_injective htarget,
    jsonList_injective (accepted_injective RuntimeFileData.toJson_injective) hfiles]

theorem PlanStatus.value_injective {a b : PlanStatus} (h : jsonLit a.value = jsonLit b.value) : a = b := by
  cases a <;> cases b <;> first | rfl | exact absurd (Json.str.inj h) (by decide)

theorem PlanOperation.value_injective : Function.Injective fun o : PlanOperation => jsonLit o.value := by
  intro a b h
  cases a <;> cases b <;> first | rfl | exact absurd (Json.str.inj h) (by decide)

/-! ### The payload determines the plan -/

variable {sha256 : List UInt8 → Sha256}

/-- What the validator fixes of the fields that a payload leaves out. -/
theorem InstallPlan.unbound_fields (p : InstallPlan sha256) :
    (p.val.status = .planned → p.val.blocker = none) ∧
      (p.val.status = .blocked → p.val.operation = none ∧ p.val.proposedLockSha256 = none ∧
        p.val.proposedEntry = none) := by
  obtain ⟨-, hrules⟩ := InstallPlanData.validate_eq_ok_iff.mp p.2
  unfold InstallPlanData.statusMatchesTransition at hrules
  constructor
  · intro hstatus
    rw [hstatus] at hrules
    have := hrules (violation (p.val.blocker ≠ none) "planned install cannot contain a blocker")
      (by simp [InstallPlanData.validatePlannedState])
    simpa using this
  · intro hstatus
    rw [hstatus] at hrules
    have := hrules (violation (p.val.operation ≠ none ∨ p.val.proposedLockSha256 ≠ none ∨
        p.val.proposedEntry ≠ none) "blocked install plan cannot claim a proposed transition") (by simp)
    simpa [not_or] using this

theorem InstallPlan.planId_eq (p : InstallPlan sha256) : p.val.planId = planId sha256 p.val.identityPayload := by
  obtain ⟨-, hrules⟩ := InstallPlanData.validate_eq_ok_iff.mp p.2
  have := hrules (violation (p.val.planId ≠ planId sha256 p.val.identityPayload)
    "install plan id must bind the complete emitted plan identity")
    (by simp [InstallPlanData.statusMatchesTransition])
  simpa using this

/-- Two accepted plans with one payload are the same plan. -/
theorem identityPayload_injective :
    Function.Injective fun p : InstallPlan sha256 => p.val.identityPayload := by
  intro p q h
  have hid : p.val.planId = q.val.planId := by
    rw [p.planId_eq, q.planId_eq]
    exact congrArg _ h
  obtain ⟨hplanned, hblocked⟩ := p.unbound_fields
  obtain ⟨hplanned', hblocked'⟩ := q.unbound_fields
  obtain ⟨⟨id, candidate, name, version, digest, package, status, operation, target, registry, preparation,
    input, current, rollback, lock, entry, evidence, blocker⟩, hp⟩ := p
  obtain ⟨⟨id', candidate', name', version', digest', package', status', operation', target', registry',
    preparation', input', current', rollback', lock', entry', evidence', blocker'⟩, hq⟩ := q
  dsimp only at hid hplanned hblocked hplanned' hblocked' h
  simp only [InstallPlanData.identityPayload, Json.obj.injEq] at h
  -- the payload is the fields of every plan followed by those of its status
  obtain ⟨hhead, htail⟩ := List.append_inj h rfl
  simp only [List.cons.injEq, field, Prod.mk.injEq, jsonText_inj, true_and, and_true] at hhead
  obtain ⟨hcandidate, hname, hversion, hdigest, hpackage, hregistry, hpreparation, hinput, hcurrent, hrollback,
    htarget, hstatus, hevidence⟩ := hhead
  obtain rfl := jsonOption_injective PackageCandidateIdentity.toJson_injective (fun _ h => by cases h) hcandidate
  obtain rfl := Subtype.ext hname
  obtain rfl := Subtype.ext hversion
  obtain rfl := jsonOption_injective digestText_injective (fun _ h => by cases h) hdigest
  obtain rfl := Subtype.ext hpackage
  obtain rfl := accepted_injective RegistryIdentityData.toJson_injective hregistry
  obtain rfl := Subtype.ext hpreparation
  obtain rfl := Subtype.ext hinput
  obtain rfl := Subtype.ext hcurrent
  obtain rfl := Subtype.ext hrollback
  obtain rfl := accepted_injective RuntimeTargetData.toJson_injective htarget
  obtain rfl := jsonList_injective (fun _ _ => jsonText_inj.mp) hevidence
  obtain rfl := PlanStatus.value_injective hstatus
  obtain rfl := hid
  -- what the payload leaves out is fixed by the status
  cases status with
  | planned =>
    simp only [List.cons.injEq, field, Prod.mk.injEq, true_and, and_true] at htail
    obtain ⟨hoperation, hlock, hentry⟩ := htail
    obtain rfl := jsonOption_injective PlanOperation.value_injective (fun _ h => by cases h) hoperation
    obtain rfl := jsonOption_injective digestText_injective (fun _ h => by cases h) hlock
    obtain rfl := jsonOption_injective (accepted_injective RuntimeLockEntryData.toJson_injective)
      (fun _ h => by cases h) hentry
    obtain rfl := (hplanned rfl).trans (hplanned' rfl).symm
    rfl
  | blocked =>
    simp only [List.cons.injEq, field, Prod.mk.injEq, true_and, and_true] at htail
    obtain rfl := jsonOption_injective (accepted_injective RegistryPreparationBlockerData.toJson_injective)
      (fun _ h => by cases h) htail
    obtain ⟨rfl, rfl, rfl⟩ := hblocked rfl
    obtain ⟨rfl, rfl, rfl⟩ := hblocked' rfl
    rfl

/-! ### What the builders hash -/

/-- Two dumped objects are the same dict: they have the same members. -/
def SameDict (a b : Json) : Prop :=
  ∃ ms ns, a = .obj ms ∧ b = .obj ns ∧ ms.Perm ns ∧ (ms.map Prod.fst).Nodup

section

variable (packageReceipt : PackageReceiptV2 sha256) (registryReceipt : RegistryPreparationReceipt)
  (currentLock : RuntimeLock sha256) (target : RuntimeTarget) (evidence : List Text)

/-- `identity` in `_blocked_plan`. -/
def blockedIdentity (b : RegistryPreparationBlocker) : Json :=
  let currentDigest := lockDigest currentLock
  let packageDigest :=
    if packageReceipt.val.status = .built then packageReceipt.val.packageDigest else none
  .obj
    [field "candidate" (jsonOption PackageCandidateIdentity.toJson packageReceipt.val.candidate),
      field "package_name" (jsonText (shownPackageName packageReceipt registryReceipt).val),
      field "version" (jsonText (shownVersion packageReceipt registryReceipt).val),
      field "package_digest" (jsonOption (fun s : Sha256 => jsonText s.val) packageDigest),
      field "package_receipt_id" (jsonText packageReceipt.val.receiptId.val),
      field "registry" registryReceipt.val.registry.val.toJson,
      field "registry_preparation_receipt_id" (jsonText registryReceipt.val.receiptId.val),
      field "registry_input_receipt_id" (jsonText registryReceipt.val.inputReceiptId.val),
      field "current_lock_sha256" (jsonText currentDigest.val),
      field "rollback_lock_sha256" (jsonText currentDigest.val),
      field "target" target.val.toJson,
      field "status" (jsonLit "blocked"),
      field "evidence" (jsonList jsonText evidence),
      field "blocker" b.val.toJson]

/-- `identity` in `_planned_transition`. -/
def plannedIdentity (candidate : PackageCandidateIdentity) (digest : Sha256)
    (entry : RuntimeLockEntry sha256) (proposed : RuntimeLock sha256) : Json :=
  let operation := transitionOperation currentLock entry
  let currentDigest := lockDigest currentLock
  let proposedDigest := lockDigest proposed
  .obj
    [field "candidate" candidate.toJson,
      field "package_name" (jsonText registryReceipt.val.packageName.val),
      field "version" (jsonText registryReceipt.val.version.val),
      field "package_digest" (jsonText digest.val),
      field "package_receipt_id" (jsonText packageReceipt.val.receiptId.val),
      field "registry" registryReceipt.val.registry.val.toJson,
      field "registry_preparation_receipt_id" (jsonText registryReceipt.val.receiptId.val),
      field "registry_input_receipt_id" (jsonText registryReceipt.val.inputReceiptId.val),
      field "current_lock_sha256" (jsonText currentDigest.val),
      field "rollback_lock_sha256" (jsonText currentDigest.val),
      field "proposed_lock_sha256" (jsonText proposedDigest.val),
      field "target" target.val.toJson,
      field "status" (jsonLit "planned"),
      field "operation" (jsonLit operation.value),
      field "proposed_entry" entry.val.toJson,
      field "evidence" (jsonList jsonText evidence)]

/-- What a builder hashes is what the plan that it builds hashes again, and its id passes the check. -/
structure BindsIdentity (identity : Json) (p : InstallPlanData sha256) : Prop where
  hashed : p.planId = planId sha256 identity
  same : SameDict identity p.identityPayload
  checked : p.planId = planId sha256 p.identityPayload

theorem blocked_bindsIdentity (b : RegistryPreparationBlocker) :
    BindsIdentity (blockedIdentity packageReceipt registryReceipt currentLock target evidence b)
      (blockedPlanData packageReceipt registryReceipt currentLock target evidence b) := by
  refine ⟨rfl, ⟨_, _, rfl, rfl, List.Perm.refl _, ?_⟩,
    planId_blocked packageReceipt registryReceipt currentLock target evidence b⟩
  show List.Nodup (["candidate", "package_name", "version", "package_digest", "package_receipt_id",
    "registry", "registry_preparation_receipt_id", "registry_input_receipt_id",
    "current_lock_sha256", "rollback_lock_sha256", "target", "status", "evidence",
    "blocker"].map String.toList)
  decide

theorem planned_bindsIdentity (candidate : PackageCandidateIdentity) (digest : Sha256)
    (entry : RuntimeLockEntry sha256) (proposed : RuntimeLock sha256) :
    BindsIdentity
      (plannedIdentity packageReceipt registryReceipt currentLock target evidence candidate digest entry proposed)
      (plannedPlanData packageReceipt registryReceipt currentLock target evidence candidate digest entry
        proposed) := by
  refine ⟨rfl, ⟨_, _, rfl, rfl, ?_, ?_⟩,
    planId_planned packageReceipt registryReceipt currentLock target evidence candidate digest entry proposed⟩
  · exact planned_members_perm [_, _, _, _, _, _, _, _, _, _] _ _ _ _ _ _
  show List.Nodup (["candidate", "package_name", "version", "package_digest", "package_receipt_id",
    "registry", "registry_preparation_receipt_id", "registry_input_receipt_id",
    "current_lock_sha256", "rollback_lock_sha256", "proposed_lock_sha256", "target", "status",
    "operation", "proposed_entry", "evidence"].map String.toList)
  decide

end

/-- The digits of a payload's digest that a plan id keeps. -/
def keptDigits (sha256 : List UInt8 → Sha256) (payload : Json) : Text :=
  (canonicalJsonSha256 sha256 payload).val.take 24

theorem planId_eq_iff {payload payload' : Json} :
    planId sha256 payload = planId sha256 payload' ↔ keptDigits sha256 payload = keptDigits sha256 payload' := by
  constructor
  · intro h
    have htext : "install-plan-".toList ++ keptDigits sha256 payload =
        "install-plan-".toList ++ keptDigits sha256 payload' := congrArg Subtype.val h
    exact List.append_cancel_left htext
  · intro h
    apply Subtype.ext
    show "install-plan-".toList ++ keptDigits sha256 payload = "install-plan-".toList ++ keptDigits sha256 payload'
    rw [h]

/-- **The id binds the plan** as far as its digits separate payloads, and both builders hash the
payload of the plan that they build. -/
theorem plan_id_binds (sha256 : List UInt8 → Sha256) :
    (∀ p q : InstallPlan sha256,
      (keptDigits sha256 p.val.identityPayload = keptDigits sha256 q.val.identityPayload →
        p.val.identityPayload = q.val.identityPayload) →
      p.val.planId = q.val.planId → p = q) ∧
    (∀ (packageReceipt : PackageReceiptV2 sha256) (registryReceipt : RegistryPreparationReceipt)
        (currentLock : RuntimeLock sha256) (target : RuntimeTarget) (evidence : List Text),
      (∀ b, BindsIdentity (blockedIdentity packageReceipt registryReceipt currentLock target evidence b)
        (blockedPlanData packageReceipt registryReceipt currentLock target evidence b)) ∧
      (∀ candidate digest entry proposed, BindsIdentity
        (plannedIdentity packageReceipt registryReceipt currentLock target evidence candidate digest entry proposed)
        (plannedPlanData packageReceipt registryReceipt currentLock target evidence candidate digest entry
          proposed)) ∧
      ∀ plan, planRuntimeInstall packageReceipt registryReceipt currentLock target evidence = .ok plan →
        plan.val.planId = planId sha256 plan.val.identityPayload) := by
  refine ⟨fun p q hseparates hid => ?_, fun packageReceipt registryReceipt currentLock target evidence =>
    ⟨blocked_bindsIdentity packageReceipt registryReceipt currentLock target evidence,
      planned_bindsIdentity packageReceipt registryReceipt currentLock target evidence,
      fun plan _ => plan.planId_eq⟩⟩
  rw [p.planId_eq, q.planId_eq, planId_eq_iff] at hid
  exact identityPayload_injective (hseparates hid)

namespace Demo

/-- A hash whose last digit alone depends on its input. -/
def lastDigitHash (bytes : List UInt8) : Sha256 :=
  ⟨List.replicate 63 '0' ++ [if bytes.length % 2 = 0 then '0' else '1'], by split <;> decide +kernel⟩

def planBlocker : RegistryPreparationBlocker :=
  ⟨⟨literal "mismatch" (by decide +kernel), literal "mismatch" (by decide +kernel), [], [], none⟩,
    by decide +kernel⟩

def planTarget : RuntimeTarget := ⟨⟨.user, literal "codex" (by decide +kernel)⟩, by decide +kernel⟩

/-- A blocked plan with one evidence path. -/
def blockedPlanOf (path : Text) : InstallPlanData lastDigitHash :=
  let plan : InstallPlanData lastDigitHash :=
    { planId := literal "install-plan" (by decide +kernel)
      candidate := none
      packageName := literal "skill" (by decide +kernel)
      version := version
      packageDigest := none
      packageReceiptId := literal "built-skill" (by decide +kernel)
      status := .blocked
      operation := none
      target := planTarget
      registry := registry
      registryPreparationReceiptId := literal "prepared-skill" (by decide +kernel)
      registryInputReceiptId := literal "other" (by decide +kernel)
      currentLockSha256 := digest
      rollbackLockSha256 := digest
      proposedLockSha256 := none
      proposedEntry := none
      evidence := [path]
      blocker := some planBlocker }
  { plan with planId := SkillsSdk.planId lastDigitHash plan.identityPayload }

/-- Such a plan is accepted when its evidence is. -/
theorem blockedPlanOf_ok {path : Text} (h : (blockedPlanOf path).evidenceErrors = []) :
    (blockedPlanOf path).validate = .ok () := by
  refine InstallPlanData.validate_eq_ok_iff.mpr ⟨⟨?_, ?_, ?_, ?_, ?_, h⟩, ?_⟩
  · show lifecycleTextIsPublicSafe "skill".toList = true
    decide +kernel
  · show lifecycleTextIsPublicSafe version.val = true
    decide +kernel
  · show lifecycleTextIsPublicSafe "built-skill".toList = true
    decide +kernel
  · show lifecycleTextIsPublicSafe "prepared-skill".toList = true
    decide +kernel
  · show lifecycleTextIsPublicSafe "other".toList = true
    decide +kernel
  · have hpublic : InstallPlanData.blockerIsPublicSafe planBlocker = true := by decide +kernel
    have hid : (blockedPlanOf path).planId = planId lastDigitHash (blockedPlanOf path).identityPayload := rfl
    unfold InstallPlanData.statusMatchesTransition
    simp only [List.forall_mem_append, List.forall_mem_cons, violation_fst, not_not, hid]
    refine ⟨⟨⟨rfl, by simp⟩, ?_⟩, trivial, by simp⟩
    show ∀ v ∈ ([violation (_ ∨ _) _, violation (some planBlocker = none) _, violation _ _,
      violation ((some planBlocker).any fun b => !InstallPlanData.blockerIsPublicSafe b) _] :
        List (Bool × String)), v.1 = false
    simp [hpublic, blockedPlanOf]

/-- The ids of this hash are all the same. -/
theorem planId_lastDigitHash (payload payload' : Json) :
    planId lastDigitHash payload = planId lastDigitHash payload' :=
  planId_eq_iff.mpr rfl

end Demo

/-- Two plans with one id: the hash separates their payloads, in its last digit. -/
theorem plan_id_truncates : ∃ p q : InstallPlan Demo.lastDigitHash,
    (canonicalJsonSha256 Demo.lastDigitHash p.val.identityPayload =
        canonicalJsonSha256 Demo.lastDigitHash q.val.identityPayload →
      p.val.identityPayload = q.val.identityPayload) ∧
      p.val.planId = q.val.planId ∧ p ≠ q := by
  refine ⟨⟨Demo.blockedPlanOf Demo.evidence.val, Demo.blockedPlanOf_ok (by decide +kernel)⟩,
    ⟨Demo.blockedPlanOf Demo.version.val, Demo.blockedPlanOf_ok (by decide +kernel)⟩, fun h => ?_,
    Demo.planId_lastDigitHash _ _, fun h => ?_⟩
  · exact absurd h (by decide +kernel)
  · have hevidence := congrArg (·.val.evidence) h
    exact absurd hevidence (by decide +kernel)

end SkillsSdk
