/-
SkillsSdk/RuntimeChains.lean

Chains of runtime evidence, from an installation plan to a runtime outcome or to
a rollback.

Every record is validated against its neighbour only.  A successful validation
makes the two agree on candidate, version, digest, plan and target
(`Agrees`), so a chain of successful validations makes every record agree with
the plan (`RuntimeChain.agrees`, `RollbackChain.agrees`), and a record that
stands in two chains makes their plans agree (`evidence_chains_cohere`).
-/
import SkillsSdk.Models.RuntimeEvidence
import SkillsSdk.Raising

namespace SkillsSdk

/-! ### Validation against a neighbour -/

variable {T : AwareDatetime} (sha256 : List UInt8 → Sha256)

/-- The complete dump of a plan. -/
def InstallPlanData.toJson {sha256 : List UInt8 → Sha256} (p : InstallPlanData sha256) : Json :=
  .obj [field "schema_version" (jsonLit "install-plan/v1"),
    field "plan_id" (jsonText p.planId.val),
    field "candidate" (jsonOption PackageCandidateIdentity.toJson p.candidate),
    field "package_name" (jsonText p.packageName.val),
    field "version" (jsonText p.version.val),
    field "package_digest" (jsonSha256? p.packageDigest),
    field "package_receipt_id" (jsonText p.packageReceiptId.val),
    field "status" (jsonLit p.status.value),
    field "operation" (jsonOption (fun o : PlanOperation => jsonLit o.value) p.operation),
    field "target" p.target.val.toJson,
    field "registry" p.registry.val.toJson,
    field "registry_preparation_receipt_id" (jsonText p.registryPreparationReceiptId.val),
    field "registry_input_receipt_id" (jsonText p.registryInputReceiptId.val),
    field "current_lock_sha256" (jsonText p.currentLockSha256.val),
    field "rollback_lock_sha256" (jsonText p.rollbackLockSha256.val),
    field "proposed_lock_sha256" (jsonSha256? p.proposedLockSha256),
    field "proposed_entry" (jsonOption (fun e : RuntimeLockEntry sha256 => e.val.toJson) p.proposedEntry),
    field "evidence" (jsonList jsonText p.evidence),
    field "blocker" (jsonOption (fun b : RegistryPreparationBlocker => b.val.toJson) p.blocker),
    field "mutation_performed" (.bool false)]

/-- `InstallPlan.model_validate(plan.model_dump(mode="json"))`. -/
def InstallPlan.reload {sha256 : List UInt8 → Sha256} (p : InstallPlan sha256) :
    Except ValidationError (InstallPlan sha256) :=
  construct InstallPlanData.validate p.val

theorem InstallPlan.reload_eq {sha256 : List UInt8 → Sha256} (p : InstallPlan sha256) :
    p.reload = .ok p := construct_of_ok p.2

/-- `_validate_plan_binding`. -/
def CandidateBound.validatePlanBinding (b : CandidateBound T) (plan : InstallPlan sha256) :
    Except ValueRaised Unit := do
  let plan ← validated plan.reload
  raiseValueErrors
    [violation (plan.val.status ≠ .planned ∨ plan.val.candidate = none ∨ plan.val.packageDigest = none)
        "runtime execution evidence requires a planned install plan",
      violation (b.planId ≠ plan.val.planId ∨ b.planSha256 ≠ modelSha256 sha256 plan.val.toJson)
        "runtime execution evidence must bind the complete install plan",
      violation (some b.candidate ≠ plan.val.candidate ∨ some b.packageDigest ≠ plan.val.packageDigest)
        "runtime execution evidence must bind the install plan candidate and digest",
      violation (b.packageName ≠ plan.val.packageName ∨ b.version ≠ plan.val.version ∨
          b.target ≠ plan.val.target)
        "runtime execution evidence must bind the install plan package, version, and target"]

/-- The comparison of a record with the neighbour that it is validated against:
the reference to it, and the fields that both are bound by. -/
def CandidateBound.bindingTo (b neighbour : CandidateBound T) (id neighbourId : ReceiptId)
    (digest neighbourDigest : Sha256) (complete identity plan : String) : List (Bool × String) :=
  [violation (id ≠ neighbourId ∨ digest ≠ neighbourDigest) complete,
    violation (b.candidate ≠ neighbour.candidate ∨ b.version ≠ neighbour.version ∨
      b.packageDigest ≠ neighbour.packageDigest) identity,
    violation (b.planId ≠ neighbour.planId ∨ b.planSha256 ≠ neighbour.planSha256 ∨
      b.target ≠ neighbour.target) plan]

/-- `InstallationResult.validate_against_install_plan`. -/
def InstallationResult.validateAgainstInstallPlan (r : InstallationResult T)
    (plan : InstallPlan sha256) : Except ValueRaised Unit := do
  r.val.validatePlanBinding sha256 plan
  raiseValueErrors
    [violation (r.val.currentLockSha256 ≠ plan.val.currentLockSha256)
        "installation result must bind the plan current lock",
      violation (some r.val.proposedLockSha256 ≠ plan.val.proposedLockSha256)
        "installation result must bind the plan proposed lock",
      violation (some r.val.operation ≠ plan.val.operation)
        "installation result must bind the plan operation",
      violation (r.val.race.any fun race => race.val.expectedLockSha256 ≠ plan.val.currentLockSha256)
        "installation race must bind the plan current lock"]

/-- `RollbackJournal.validate_against_installation_result`. -/
def RollbackJournal.validateAgainstInstallationResult (j : RollbackJournal T)
    (result : InstallationResult T) : Except ValueRaised Unit := do
  let result ← validated result.reload
  raiseValueErrors
    (violation (result.val.mutationPerformed = false)
        "rollback journal requires an installation result that performed a mutation" ::
      j.val.bindingTo result.val.toCandidateBound j.val.installationResultId result.val.receiptId
        j.val.installationResultSha256 (modelSha256 sha256 result.val.toJson)
        "rollback journal must bind the complete installation result"
        "rollback journal must bind the installation candidate, version, and digest"
        "rollback journal must bind the installation plan and target" ++
      [violation (j.val.rollbackLockSha256 ≠ result.val.currentLockSha256)
        "rollback journal must restore the installation current lock"])

/-- `RollbackOutcome.validate_against_journal`. -/
def RollbackOutcome.validateAgainstJournal (o : RollbackOutcome T) (journal : RollbackJournal T) :
    Except ValueRaised Unit := do
  let journal ← validated journal.reload
  raiseValueErrors
    ((if o.val.status = .rolledBack then
        [violation (journal.val.mutationPerformed = false)
            "rolled-back outcome requires a journal with an applied mutation",
          violation (journal.val.entries.any (·.val.status ≠ .applied))
            "rolled-back outcome requires every journal entry to be applied"]
      else []) ++
      violation (o.val.mutationPerformed ≠ journal.val.mutationPerformed)
        "rollback outcome mutation state must match the journal" ::
      o.val.bindingTo journal.val.toCandidateBound o.val.journalId journal.val.journalId
        o.val.journalSha256 (modelSha256 sha256 journal.val.toJson)
        "rollback outcome must bind the complete rollback journal"
        "rollback outcome must bind the rollback candidate, version, and digest"
        "rollback outcome must bind the rollback plan and target" ++
      [violation (o.val.rollbackLockSha256 ≠ journal.val.rollbackLockSha256)
          "rollback outcome must bind the journal rollback lock",
        violation (o.val.race.any fun race =>
            race.val.expectedLockSha256 ≠ journal.val.rollbackLockSha256)
          "rollback race must bind the journal rollback lock"])

/-- `DiscoveryObservation.validate_against_installation_result`. -/
def DiscoveryObservation.validateAgainstInstallationResult (d : DiscoveryObservation T)
    (result : InstallationResult T) : Except ValueRaised Unit := do
  let result ← validated result.reload
  raiseValueErrors
    (violation (result.val.status ≠ .completed)
        "discovery observation requires a completed installation result" ::
      d.val.bindingTo result.val.toCandidateBound d.val.installationResultId result.val.receiptId
        d.val.installationResultSha256 (modelSha256 sha256 result.val.toJson)
        "discovery observation must bind the complete installation result"
        "discovery observation must bind the installed candidate, version, and digest"
        "discovery observation must bind the installation plan and target")

/-- `ActivationObservation.validate_against_discovery`. -/
def ActivationObservation.validateAgainstDiscovery (a : ActivationObservation T)
    (discovery : DiscoveryObservation T) : Except ValueRaised Unit := do
  let discovery ← validated discovery.reload
  raiseValueErrors
    (violation (discovery.val.status ≠ .discovered)
        "activation observation requires a discovered candidate" ::
      a.val.bindingTo discovery.val.toCandidateBound a.val.discoveryReceiptId discovery.val.receiptId
        a.val.discoveryReceiptSha256 (modelSha256 sha256 discovery.val.toJson)
        "activation observation must bind the complete discovery observation"
        "activation observation must bind the discovered candidate, version, and digest"
        "activation observation must bind the discovery plan and target")

/-- `RuntimeOutcomeReceipt.validate_against_activation`. -/
def RuntimeOutcomeReceipt.validateAgainstActivation (o : RuntimeOutcomeReceipt T)
    (activation : ActivationObservation T) : Except ValueRaised Unit := do
  let activation ← validated activation.reload
  raiseValueErrors
    (violation (activation.val.status ≠ .active) "runtime outcome requires an active observation" ::
      o.val.bindingTo activation.val.toCandidateBound o.val.activationReceiptId activation.val.receiptId
        o.val.activationReceiptSha256 (modelSha256 sha256 activation.val.toJson)
        "runtime outcome must bind the complete activation observation"
        "runtime outcome must bind the activated candidate, version, and digest"
        "runtime outcome must bind the activation plan and target")

/-! ### Agreement -/

/-- The record is bound to the plan: candidate (and with it the content digest),
package, version, digest, plan id, the digest of the complete plan, and target. -/
structure Agrees (b : CandidateBound T) (plan : InstallPlan sha256) : Prop where
  candidate : plan.val.candidate = some b.candidate
  packageName : plan.val.packageName = b.packageName
  version : plan.val.version = b.version
  packageDigest : plan.val.packageDigest = some b.packageDigest
  planId : plan.val.planId = b.planId
  planSha256 : modelSha256 sha256 plan.val.toJson = b.planSha256
  target : plan.val.target = b.target

variable {sha256}

/-- A record whose package is its candidate's. -/
def CandidateBound.Named (b : CandidateBound T) : Prop := b.packageName = b.candidate.packageId

theorem CandidateBound.named_of_validate {b : CandidateBound T} {model : String}
    {fields : List (Text × Text)} {others : List (Bool × String)}
    (h : validateWith model fields (b.packageIdentityMustMatchCandidate :: others) = .ok ()) :
    b.Named := by
  have := (validateWith_eq_ok.mp h).2 _ List.mem_cons_self
  simpa [packageIdentityMustMatchCandidate, Named] using this

theorem InstallationResult.named (r : InstallationResult T) : r.val.Named :=
  CandidateBound.named_of_validate r.2

theorem RollbackJournal.named (j : RollbackJournal T) : j.val.Named :=
  CandidateBound.named_of_validate j.2

theorem RollbackOutcome.named (o : RollbackOutcome T) : o.val.Named :=
  CandidateBound.named_of_validate o.2

theorem DiscoveryObservation.named (d : DiscoveryObservation T) : d.val.Named :=
  CandidateBound.named_of_validate d.2

theorem ActivationObservation.named (a : ActivationObservation T) : a.val.Named :=
  CandidateBound.named_of_validate a.2

theorem RuntimeOutcomeReceipt.named (o : RuntimeOutcomeReceipt T) : o.val.Named :=
  CandidateBound.named_of_validate o.2

/-- Agreement passes from a neighbour to the record that is bound to it. -/
theorem Agrees.of_bindingTo {b neighbour : CandidateBound T} {plan : InstallPlan sha256}
    {id neighbourId : ReceiptId} {digest neighbourDigest : Sha256} {complete identity text : String}
    (h : Agrees sha256 neighbour plan) (hb : b.Named) (hneighbour : neighbour.Named)
    (hbound : ∀ v ∈ b.bindingTo neighbour id neighbourId digest neighbourDigest complete identity text,
      v.1 = false) :
    Agrees sha256 b plan := by
  simp only [CandidateBound.bindingTo, List.forall_mem_cons, violation_fst, not_or, ne_eq, not_not] at hbound
  obtain ⟨-, ⟨hcandidate, hversion, hdigest⟩, ⟨hplan, hsha, htarget⟩, -⟩ := hbound
  refine ⟨?_, ?_, ?_, ?_, ?_, ?_, ?_⟩
  · rw [h.candidate, hcandidate]
  · rw [h.packageName, hb, hneighbour, hcandidate]
  · rw [h.version, hversion]
  · rw [h.packageDigest, hdigest]
  · rw [h.planId, hplan]
  · rw [h.planSha256, hsha]
  · rw [h.target, htarget]

/-- Loading a record again changes its times only. -/
theorem InstallationResult.of_reload {r r' : InstallationResult T} (h : r.reload = .ok r') :
    ∃ observedAt race, r'.val = { r.val with observedAt := observedAt, race := race } := by
  rw [reload] at h
  obtain ⟨observedAt, -, h⟩ := bind_eq_ok_iff.mp h
  obtain ⟨race, -, h⟩ := bind_eq_ok_iff.mp h
  exact ⟨observedAt, race, construct_eq_ok_iff.mp h⟩

theorem RollbackJournal.of_reload {j j' : RollbackJournal T} (h : j.reload = .ok j') :
    ∃ observedAt, j'.val = { j.val with observedAt := observedAt } := by
  rw [reload] at h
  obtain ⟨observedAt, -, h⟩ := bind_eq_ok_iff.mp h
  exact ⟨observedAt, construct_eq_ok_iff.mp h⟩

theorem DiscoveryObservation.of_reload {d d' : DiscoveryObservation T} (h : d.reload = .ok d') :
    ∃ observedAt, d'.val = { d.val with observedAt := observedAt } := by
  rw [reload] at h
  obtain ⟨observedAt, -, h⟩ := bind_eq_ok_iff.mp h
  exact ⟨observedAt, construct_eq_ok_iff.mp h⟩

theorem ActivationObservation.of_reload {a a' : ActivationObservation T} (h : a.reload = .ok a') :
    ∃ observedAt, a'.val = { a.val with observedAt := observedAt } := by
  rw [reload] at h
  obtain ⟨observedAt, -, h⟩ := bind_eq_ok_iff.mp h
  exact ⟨observedAt, construct_eq_ok_iff.mp h⟩

/-- Agreement does not depend on the time of the observation. -/
theorem Agrees.of_observedAt {b b' : CandidateBound T} {plan : InstallPlan sha256}
    (h : Agrees sha256 b plan) (observedAt : T.Instant) (hb : b' = { b with observedAt := observedAt }) :
    Agrees sha256 b' plan := by
  subst hb
  exact ⟨h.candidate, h.packageName, h.version, h.packageDigest, h.planId, h.planSha256, h.target⟩

/-! ### One validation -/

/-- What a successful validation against the plan gives. -/
theorem InstallationResult.agrees {r : InstallationResult T} {plan : InstallPlan sha256}
    (h : r.validateAgainstInstallPlan sha256 plan = .ok ()) :
    Agrees sha256 r.val.toCandidateBound plan ∧
      r.val.currentLockSha256 = plan.val.currentLockSha256 ∧
      plan.val.proposedLockSha256 = some r.val.proposedLockSha256 := by
  rw [validateAgainstInstallPlan] at h
  obtain ⟨⟨⟩, hbinding, hlocks⟩ := bind_eq_ok_iff.mp h
  simp only [raiseValueErrors_eq_ok, List.forall_mem_cons, violation_fst, ne_eq, not_not] at hlocks
  rw [CandidateBound.validatePlanBinding, InstallPlan.reload_eq] at hbinding
  obtain ⟨p, hp, hbinding⟩ := bind_eq_ok_iff.mp hbinding
  obtain rfl : plan = p := Except.ok.inj hp
  simp only [raiseValueErrors_eq_ok, List.forall_mem_cons, violation_fst, not_or, ne_eq, not_not]
    at hbinding
  obtain ⟨-, ⟨hid, hsha⟩, ⟨hcandidate, hdigest⟩, ⟨hname, hversion, htarget⟩, -⟩ := hbinding
  exact ⟨⟨hcandidate.symm, hname.symm, hversion.symm, hdigest.symm, hid.symm, hsha.symm, htarget.symm⟩,
    hlocks.1, hlocks.2.1.symm⟩

theorem DiscoveryObservation.agrees {d : DiscoveryObservation T} {r : InstallationResult T}
    {plan : InstallPlan sha256} (hr : Agrees sha256 r.val.toCandidateBound plan)
    (h : d.validateAgainstInstallationResult sha256 r = .ok ()) :
    Agrees sha256 d.val.toCandidateBound plan ∧ r.val.status = .completed := by
  rw [validateAgainstInstallationResult] at h
  obtain ⟨r', hr', hbinding⟩ := bind_eq_ok_iff.mp h
  obtain ⟨observedAt, race, heq⟩ := InstallationResult.of_reload (validated_eq_ok_iff.mp hr')
  rw [raiseValueErrors_eq_ok, List.forall_mem_cons] at hbinding
  obtain ⟨hstatus, hbound⟩ := hbinding
  have hr'' : Agrees sha256 r'.val.toCandidateBound plan :=
    hr.of_observedAt observedAt (by rw [heq])
  refine ⟨hr''.of_bindingTo d.named r'.named hbound, ?_⟩
  simpa [heq] using hstatus

theorem ActivationObservation.agrees {a : ActivationObservation T} {d : DiscoveryObservation T}
    {plan : InstallPlan sha256} (hd : Agrees sha256 d.val.toCandidateBound plan)
    (h : a.validateAgainstDiscovery sha256 d = .ok ()) :
    Agrees sha256 a.val.toCandidateBound plan ∧ d.val.status = .discovered := by
  rw [validateAgainstDiscovery] at h
  obtain ⟨d', hd', hbinding⟩ := bind_eq_ok_iff.mp h
  obtain ⟨observedAt, heq⟩ := DiscoveryObservation.of_reload (validated_eq_ok_iff.mp hd')
  rw [raiseValueErrors_eq_ok, List.forall_mem_cons] at hbinding
  obtain ⟨hstatus, hbound⟩ := hbinding
  have hd'' : Agrees sha256 d'.val.toCandidateBound plan :=
    hd.of_observedAt observedAt (by rw [heq])
  refine ⟨hd''.of_bindingTo a.named d'.named hbound, ?_⟩
  simpa [heq] using hstatus

theorem RuntimeOutcomeReceipt.agrees {o : RuntimeOutcomeReceipt T} {a : ActivationObservation T}
    {plan : InstallPlan sha256} (ha : Agrees sha256 a.val.toCandidateBound plan)
    (h : o.validateAgainstActivation sha256 a = .ok ()) :
    Agrees sha256 o.val.toCandidateBound plan ∧ a.val.status = .active := by
  rw [validateAgainstActivation] at h
  obtain ⟨a', ha', hbinding⟩ := bind_eq_ok_iff.mp h
  obtain ⟨observedAt, heq⟩ := ActivationObservation.of_reload (validated_eq_ok_iff.mp ha')
  rw [raiseValueErrors_eq_ok, List.forall_mem_cons] at hbinding
  obtain ⟨hstatus, hbound⟩ := hbinding
  have ha'' : Agrees sha256 a'.val.toCandidateBound plan :=
    ha.of_observedAt observedAt (by rw [heq])
  refine ⟨ha''.of_bindingTo o.named a'.named hbound, ?_⟩
  simpa [heq] using hstatus

theorem RollbackJournal.agrees {j : RollbackJournal T} {r : InstallationResult T}
    {plan : InstallPlan sha256} (hr : Agrees sha256 r.val.toCandidateBound plan)
    (h : j.validateAgainstInstallationResult sha256 r = .ok ()) :
    Agrees sha256 j.val.toCandidateBound plan ∧ r.val.mutationPerformed = true ∧
      j.val.rollbackLockSha256 = r.val.currentLockSha256 := by
  rw [validateAgainstInstallationResult] at h
  obtain ⟨r', hr', hbinding⟩ := bind_eq_ok_iff.mp h
  obtain ⟨observedAt, race, heq⟩ := InstallationResult.of_reload (validated_eq_ok_iff.mp hr')
  rw [raiseValueErrors_eq_ok, List.cons_append, List.forall_mem_cons, List.forall_mem_append] at hbinding
  obtain ⟨hmutation, hbound, hlock⟩ := hbinding
  have hr'' : Agrees sha256 r'.val.toCandidateBound plan :=
    hr.of_observedAt observedAt (by rw [heq])
  refine ⟨hr''.of_bindingTo j.named r'.named hbound, ?_, ?_⟩
  · simpa [heq] using hmutation
  · simpa [heq] using hlock

theorem RollbackOutcome.agrees {o : RollbackOutcome T} {j : RollbackJournal T}
    {plan : InstallPlan sha256} (hj : Agrees sha256 j.val.toCandidateBound plan)
    (h : o.validateAgainstJournal sha256 j = .ok ()) :
    Agrees sha256 o.val.toCandidateBound plan ∧
      o.val.rollbackLockSha256 = j.val.rollbackLockSha256 ∧
      (o.val.status = .rolledBack → ∀ e ∈ j.val.entries, e.val.status = .applied) := by
  rw [validateAgainstJournal] at h
  obtain ⟨j', hj', hbinding⟩ := bind_eq_ok_iff.mp h
  obtain ⟨observedAt, heq⟩ := RollbackJournal.of_reload (validated_eq_ok_iff.mp hj')
  rw [raiseValueErrors_eq_ok] at hbinding
  simp only [List.forall_mem_append, List.forall_mem_cons] at hbinding
  obtain ⟨⟨hrolled, -, hbound⟩, hlock, -⟩ := hbinding
  have hj'' : Agrees sha256 j'.val.toCandidateBound plan :=
    hj.of_observedAt observedAt (by rw [heq])
  refine ⟨hj''.of_bindingTo o.named j'.named hbound, by simpa [heq] using hlock, fun hstatus => ?_⟩
  rw [if_pos hstatus] at hrolled
  have happlied := hrolled _ (List.mem_cons_of_mem _ List.mem_cons_self)
  simpa [heq] using happlied

/-- What a completed installation reports. -/
theorem InstallationResult.resulting_of_completed {r : InstallationResult T}
    (h : r.val.status = .completed) : r.val.resultingLockSha256 = some r.val.proposedLockSha256 := by
  have hvalid := (validateWith_eq_ok.mp r.2).2
  simp only [InstallationResultData.statusMustMatchObservation, h, List.forall_mem_cons,
    List.forall_mem_append, violation_fst, not_not, ne_eq] at hvalid
  exact hvalid.2.1.2.1

/-- What a rolled-back outcome reports. -/
theorem RollbackOutcome.resulting_of_rolledBack {o : RollbackOutcome T}
    (h : o.val.status = .rolledBack) : o.val.resultingLockSha256 = some o.val.rollbackLockSha256 := by
  have hvalid := (validateWith_eq_ok.mp o.2).2
  simp only [RollbackOutcomeData.statusMustMatchObservation, h, List.forall_mem_cons, violation_fst,
    not_or, not_not, ne_eq] at hvalid
  exact hvalid.2.1.2

/-- The rollback lock of a plan is its current lock. -/
theorem InstallPlan.rollback_eq_current (plan : InstallPlan sha256) :
    plan.val.rollbackLockSha256 = plan.val.currentLockSha256 := by
  have hvalid := (validateWith_eq_ok.mp plan.2).2
  simp only [InstallPlanData.statusMatchesTransition, List.forall_mem_append, List.forall_mem_cons,
    violation_fst, not_not, ne_eq] at hvalid
  exact hvalid.1.1.1

/-! ### Chains -/

/-- A chain of successful validations from a plan to a runtime outcome. -/
structure RuntimeChain (sha256 : List UInt8 → Sha256) (plan : InstallPlan sha256)
    (result : InstallationResult T) (discovery : DiscoveryObservation T)
    (activation : ActivationObservation T) (outcome : RuntimeOutcomeReceipt T) : Prop where
  installed : result.validateAgainstInstallPlan sha256 plan = .ok ()
  discovered : discovery.validateAgainstInstallationResult sha256 result = .ok ()
  activated : activation.validateAgainstDiscovery sha256 discovery = .ok ()
  ran : outcome.validateAgainstActivation sha256 activation = .ok ()

/-- A chain of successful validations from a plan to a rollback. -/
structure RollbackChain (sha256 : List UInt8 → Sha256) (plan : InstallPlan sha256)
    (result : InstallationResult T) (journal : RollbackJournal T) (outcome : RollbackOutcome T) :
    Prop where
  installed : result.validateAgainstInstallPlan sha256 plan = .ok ()
  journaled : journal.validateAgainstInstallationResult sha256 result = .ok ()
  rolledBack : outcome.validateAgainstJournal sha256 journal = .ok ()

section

variable {plan : InstallPlan sha256} {result : InstallationResult T}

/-- The fields that the records of a runtime chain are bound by. -/
def runtimeRecords (result : InstallationResult T) (discovery : DiscoveryObservation T)
    (activation : ActivationObservation T) (outcome : RuntimeOutcomeReceipt T) :
    List (CandidateBound T) :=
  [result.val.toCandidateBound, discovery.val.toCandidateBound, activation.val.toCandidateBound,
    outcome.val.toCandidateBound]

/-- The fields that the records of a rollback chain are bound by. -/
def rollbackRecords (result : InstallationResult T) (journal : RollbackJournal T)
    (outcome : RollbackOutcome T) : List (CandidateBound T) :=
  [result.val.toCandidateBound, journal.val.toCandidateBound, outcome.val.toCandidateBound]

theorem RuntimeChain.agrees {discovery : DiscoveryObservation T} {activation : ActivationObservation T}
    {outcome : RuntimeOutcomeReceipt T}
    (h : RuntimeChain sha256 plan result discovery activation outcome) :
    (∀ b ∈ runtimeRecords result discovery activation outcome, Agrees sha256 b plan) ∧
      result.val.status = .completed ∧
      result.val.resultingLockSha256 = plan.val.proposedLockSha256 := by
  obtain ⟨hresult, -, hproposed⟩ := InstallationResult.agrees h.installed
  obtain ⟨hdiscovery, hcompleted⟩ := DiscoveryObservation.agrees hresult h.discovered
  obtain ⟨hactivation, -⟩ := ActivationObservation.agrees hdiscovery h.activated
  obtain ⟨houtcome, -⟩ := RuntimeOutcomeReceipt.agrees hactivation h.ran
  refine ⟨by simp [runtimeRecords, hresult, hdiscovery, hactivation, houtcome], hcompleted, ?_⟩
  rw [InstallationResult.resulting_of_completed hcompleted, hproposed]

theorem RollbackChain.agrees {journal : RollbackJournal T} {outcome : RollbackOutcome T}
    (h : RollbackChain sha256 plan result journal outcome) :
    (∀ b ∈ rollbackRecords result journal outcome, Agrees sha256 b plan) ∧
      (outcome.val.status = .rolledBack →
        outcome.val.resultingLockSha256 = some plan.val.rollbackLockSha256 ∧
        plan.val.rollbackLockSha256 = plan.val.currentLockSha256 ∧
        ∀ e ∈ journal.val.entries, e.val.status = .applied) := by
  obtain ⟨hresult, hcurrent, -⟩ := InstallationResult.agrees h.installed
  obtain ⟨hjournal, -, hlock⟩ := RollbackJournal.agrees hresult h.journaled
  obtain ⟨houtcome, hrollback, happlied⟩ := RollbackOutcome.agrees hjournal h.rolledBack
  refine ⟨by simp [rollbackRecords, hresult, hjournal, houtcome], fun hstatus => ?_⟩
  refine ⟨?_, plan.rollback_eq_current, happlied hstatus⟩
  rw [RollbackOutcome.resulting_of_rolledBack hstatus, hrollback, hlock, hcurrent,
    plan.rollback_eq_current]

end

/-- A record that agrees with two plans makes them agree. -/
theorem Agrees.plans_agree {b : CandidateBound T} {plan plan' : InstallPlan sha256}
    (h : Agrees sha256 b plan) (h' : Agrees sha256 b plan') :
    plan.val.planId = plan'.val.planId ∧ plan.val.candidate = plan'.val.candidate ∧
      plan.val.version = plan'.val.version ∧ plan.val.packageDigest = plan'.val.packageDigest ∧
      plan.val.target = plan'.val.target ∧
      modelSha256 sha256 plan.val.toJson = modelSha256 sha256 plan'.val.toJson :=
  ⟨h.planId.trans h'.planId.symm, h.candidate.trans h'.candidate.symm, h.version.trans h'.version.symm,
    h.packageDigest.trans h'.packageDigest.symm, h.target.trans h'.target.symm,
    h.planSha256.trans h'.planSha256.symm⟩

/-- The records of a plan's chains: those of a runtime chain, or of a rollback chain. -/
inductive InChain (sha256 : List UInt8 → Sha256) (plan : InstallPlan sha256) : CandidateBound T → Prop
  | runtime {result : InstallationResult T} {discovery : DiscoveryObservation T}
      {activation : ActivationObservation T} {outcome : RuntimeOutcomeReceipt T} {b : CandidateBound T} :
      RuntimeChain sha256 plan result discovery activation outcome →
      b ∈ runtimeRecords result discovery activation outcome → InChain sha256 plan b
  | rollback {result : InstallationResult T} {journal : RollbackJournal T}
      {outcome : RollbackOutcome T} {b : CandidateBound T} :
      RollbackChain sha256 plan result journal outcome →
      b ∈ rollbackRecords result journal outcome → InChain sha256 plan b

theorem InChain.agrees {plan : InstallPlan sha256} {b : CandidateBound T} (h : InChain sha256 plan b) :
    Agrees sha256 b plan := by
  cases h with
  | runtime hchain hmem => exact hchain.agrees.1 b hmem
  | rollback hchain hmem => exact hchain.agrees.1 b hmem

/-- Chains of evidence cohere: in a chain to a runtime outcome all records agree
with the plan and its proposed lock is installed, in a chain to a rollback all
agree with the plan and its current lock is restored by applied entries, and a
record stands in the chains of two plans only when these agree. -/
theorem evidence_chains_cohere (sha256 : List UInt8 → Sha256) (T : AwareDatetime)
    (plan : InstallPlan sha256) :
    (∀ (result : InstallationResult T) (discovery : DiscoveryObservation T)
        (activation : ActivationObservation T) (outcome : RuntimeOutcomeReceipt T),
      RuntimeChain sha256 plan result discovery activation outcome →
      (∀ b ∈ runtimeRecords result discovery activation outcome, Agrees sha256 b plan) ∧
        result.val.status = .completed ∧ plan.val.proposedLockSha256.isSome ∧
        result.val.resultingLockSha256 = plan.val.proposedLockSha256) ∧
    (∀ (result : InstallationResult T) (journal : RollbackJournal T) (outcome : RollbackOutcome T),
      RollbackChain sha256 plan result journal outcome →
      (∀ b ∈ rollbackRecords result journal outcome, Agrees sha256 b plan) ∧
        (outcome.val.status = .rolledBack →
          outcome.val.resultingLockSha256 = some plan.val.rollbackLockSha256 ∧
          plan.val.rollbackLockSha256 = plan.val.currentLockSha256 ∧
          ∀ e ∈ journal.val.entries, e.val.status = .applied)) ∧
    ∀ (plan' : InstallPlan sha256) (b : CandidateBound T),
      InChain sha256 plan b → InChain sha256 plan' b →
      plan.val.planId = plan'.val.planId ∧ plan.val.candidate = plan'.val.candidate ∧
        plan.val.version = plan'.val.version ∧ plan.val.packageDigest = plan'.val.packageDigest ∧
        plan.val.target = plan'.val.target ∧
        modelSha256 sha256 plan.val.toJson = modelSha256 sha256 plan'.val.toJson := by
  refine ⟨fun result discovery activation outcome h => ?_, fun result journal outcome h => h.agrees,
    fun plan' b h h' => h.agrees.plans_agree h'.agrees⟩
  -- a completed installation has a resulting lock, and it is the proposed one
  obtain ⟨hagrees, hcompleted, hlock⟩ := h.agrees
  refine ⟨hagrees, hcompleted, ?_, hlock⟩
  rw [← hlock, InstallationResult.resulting_of_completed hcompleted]
  rfl

end SkillsSdk
