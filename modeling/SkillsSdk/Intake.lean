/-
SkillsSdk/Intake.lean

Intake of a standalone skill: `intake_skill_package`.

The validator of the package runs first, and its result decides the shape of
the receipt.  A result that was resolved, with the candidate and the files of
one scan (`Bound`), always becomes a receipt that its model accepts
(`receipt_of_bound`).  A result without a candidate never does: that is what a
refused policy leaves, so there the intake raises (`intakes_iff`).
-/
import SkillsSdk.Models.Intake
import SkillsSdk.SkillHazards

namespace SkillsSdk

variable (parsers : Parsers) (sha256 : List UInt8 → Sha256)

/-! ### The intake -/

section

variable {sha256}

/-- The finding about a captured child that is not the selected one. -/
def savedSourceCandidateMismatch (c : SelectedChildData sha256) : FindingText :=
  (literal "saved_source_candidate_mismatch" (by decide +kernel),
    match c.snapshot with
    | .archive _ =>
      literal "Archive-source provenance does not bind the freshly captured child." (by decide +kernel)
    | .savedRelease _ =>
      literal "Saved-release provenance does not bind the freshly captured child." (by decide +kernel))

/-- The result that the receipt carries: a passing one blocks when its candidate
is not that of the selected child. -/
def boundValidation (context : SkillPackageIntakeContext sha256) (validation : SkillPackageValidation) :
    Except ValidationError SkillPackageValidation :=
  match context.val.provenance with
  | .repository _ _ _ _ => .ok validation
  | .child c =>
    if validation.val.status = .pass ∧ validation.val.candidate ≠ some c.val.candidate then
      construct SkillPackageValidationData.validate
        { validation.val with
          status := .blocked
          findings := [plainFinding (savedSourceCandidateMismatch c.val)] }
    else .ok validation

/-- The source of a package that passes. -/
def intakeSource (context : SkillPackageIntakeContext sha256) (candidate : PackageCandidateIdentity) :
    Except ValidationError (IntakeSource sha256) :=
  match context.val.provenance with
  | .repository repository _ path kind =>
    .ok (.repository ⟨candidate.packageId,
      ⟨repository.val, candidate.sourceRevision, path, candidate.contentSha256⟩, kind.val⟩)
  | .child c => .child <$> construct (ChildSourceData.validate sha256) ⟨candidate.packageId, c⟩

/-- The decision of a blocked package, when it has a candidate. -/
def blockedDecision (context : SkillPackageIntakeContext sha256) (first : SkillPackageFinding) :
    Option PackageCandidateIdentity → Except ValidationError (Option IntakeDecision)
  | none => .ok none
  | some candidate => some <$> buildIntakeDecision candidate context.val.checks [first.codeText]

/-- The receipt of a result. -/
def intakeReceipt (context : SkillPackageIntakeContext sha256) (validation : SkillPackageValidation) :
    Except SkillRaised (SkillPackageIntakeReceipt sha256) :=
  match validation.val.status with
  | .blocked =>
    match validation.val.blockers.head? with
    | none => .error (.exc .other)
    | some first => do
      let decision ← modelCall (blockedDecision context first validation.val.candidate)
      modelCall (construct (SkillPackageIntakeReceiptData.validate sha256)
        { status := .blocked
          context := context
          candidate := validation.val.candidate
          validation := validation
          decision := decision
          blocker := some first.toBlocker })
  | .pass =>
    match validation.val.candidate, validation.val.identity with
    | some candidate, some identity => do
      let source ← modelCall (intakeSource context candidate)
      let decision ← modelCall (buildIntakeDecision candidate context.val.checks [])
      let normalized ← modelCall (construct (NormalizedPackageData.validate sha256)
        { packageType := .skill
          identity := .skill identity
          source := source
          owner := context.val.owner
          lifecycle := .normalized })
      modelCall (construct (SkillPackageIntakeReceiptData.validate sha256)
        { status := .normalized
          context := context
          candidate := some candidate
          validation := validation
          source := some source
          decision := some decision
          normalizedPackage := some normalized })
    | _, _ => .error (.exc .other)

end

/-- `intake_skill_package`, of a context that its model accepts. -/
def intakeSkillPackage (root : PackageSource) (context : SkillPackageIntakeContext sha256)
    (policy : Option SkillValidationPolicy) : Except SkillRaised (SkillPackageIntakeReceipt sha256) := do
  let found ← validateSkillPackage parsers sha256 root
    (PyStr.ofText context.val.sourceRevision.val) (policy.getD {})
  let validation ← modelCall (boundValidation context found)
  intakeReceipt context validation

/-! ### Resolved results -/

variable {parsers} {sha256} {context : SkillPackageIntakeContext sha256}

/-- The result has the candidate, and with it the files of one scan. -/
structure Bound (context : SkillPackageIntakeContext sha256) (validation : SkillPackageValidationData)
    (candidate : PackageCandidateIdentity) : Prop where
  candidate_eq : validation.candidate = some candidate
  revision_eq : context.val.sourceRevision = candidate.sourceRevision
  content_eq : candidate.contentSha256 =
    candidateContentSha256 sha256 (validation.files.map PackageManifestFile.record)
  identity_eq : ∀ identity : SkillIdentity, validation.identity = some identity →
    identity.val.packageId = candidate.packageId
  sorted : validation.files.Pairwise fun a b => a.path.val < b.path.val

theorem Resolved.bound {root : PackageSource} {i : Inspected} {candidate : PackageCandidateIdentity}
    (h : Resolved sha256 root.rootName context.val.sourceRevision i candidate) (sourceRevision : PyStr) :
    Bound context (resultOf sourceRevision i (some candidate)) candidate :=
  ⟨rfl, h.revision_eq.symm, h.content_eq, h.identity_eq, h.sound.sorted⟩

/-- A passing result is of the selected child. -/
def OfSelected (context : SkillPackageIntakeContext sha256) (validation : SkillPackageValidationData) :
    Prop :=
  ∀ c, context.val.provenance = .child c → validation.status = .pass →
    validation.candidate = some c.val.candidate

theorem boundValidation_of_blocked {validation : SkillPackageValidation}
    (h : validation.val.status = .blocked) : boundValidation context validation = .ok validation := by
  unfold boundValidation
  rcases context.val.provenance with ⟨repository, revision, path, kind⟩ | c
  · rfl
  · apply if_neg
    rintro ⟨hpass, -⟩
    exact absurd (h.symm.trans hpass) (by decide)

theorem boundValidation_of_bound {validation : SkillPackageValidation}
    {candidate : PackageCandidateIdentity} (h : Bound context validation.val candidate) :
    ∃ bound, boundValidation context validation = .ok bound ∧ Bound context bound.val candidate ∧
      OfSelected context bound.val ∧ (validation.val.status = .blocked → bound = validation) := by
  unfold boundValidation
  rcases hprovenance : context.val.provenance with ⟨repository, revision, path, kind⟩ | c
  · refine ⟨validation, rfl, h, fun c hc => ?_, fun _ => rfl⟩
    rw [hprovenance] at hc
    cases hc
  · dsimp only
    by_cases hmismatch : validation.val.status = .pass ∧ validation.val.candidate ≠ some c.val.candidate
    · rw [if_pos hmismatch]
      have hvalid : SkillPackageValidationData.validate
          { validation.val with
            status := .blocked
            findings := [plainFinding (savedSourceCandidateMismatch c.val)] } = .ok () := by
        refine (SkillPackageValidationData.validate_blocked_iff rfl).mpr ⟨?_, nodup_of_sorted h.sorted⟩
        exact List.ne_nil_of_mem (List.mem_filter.mpr ⟨List.mem_singleton_self _, rfl⟩)
      refine ⟨_, construct_of_ok hvalid, ⟨h.candidate_eq, h.revision_eq, h.content_eq, h.identity_eq,
        h.sorted⟩, fun _ _ hpass => (nomatch hpass), fun hblocked => ?_⟩
      exact absurd (hmismatch.1.symm.trans hblocked) (by decide)
    · rw [if_neg hmismatch]
      refine ⟨validation, rfl, h, fun c' hc' hpass => ?_, fun _ => rfl⟩
      obtain rfl := IntakeProvenance.child.inj (hprovenance.symm.trans hc')
      by_contra hne
      exact hmismatch ⟨hpass, hne⟩

/-- Files in strict order of path are listed as `sorted` lists them. -/
theorem insertionSort_paths {files : List PackageManifestFile}
    (h : files.Pairwise fun a b => a.path.val < b.path.val) :
    (files.map (·.path.val)).insertionSort (· ≤ ·) = files.map (·.path.val) :=
  List.Pairwise.insertionSort_eq (List.pairwise_map.mpr (h.imp le_of_lt))

/-! ### Receipts of resolved results -/

/-- What every receipt of a resolved result passes. -/
theorem proofIsCandidateBound_of_bound {r : SkillPackageIntakeReceiptData sha256}
    {candidate : PackageCandidateIdentity} (h : Bound r.context r.validation.val candidate)
    (hcandidate : r.candidate = some candidate) (hdecision : r.decision ≠ none) :
    (∀ v ∈ r.proofIsCandidateBound sha256, v.1 = false) ↔
      ∀ v ∈ r.statusChecks candidate, v.1 = false := by
  have hsorted := insertionSort_paths h.sorted
  have hidentity : ¬ (r.validation.val.identity.any fun i => i.val.packageId ≠ candidate.packageId) =
      true := by
    rcases hsome : r.validation.val.identity with - | identity
    · exact Bool.false_ne_true
    · simpa using h.identity_eq identity hsome
  -- the rules of a resolved candidate, before those of its status
  have hbase : r.proofIsCandidateBound sha256 =
      [violation (r.validation.val.files.map (·.path.val) ≠
            (r.validation.val.files.map (·.path.val)).insertionSort (· ≤ ·))
          "intake validation files must be sorted by path",
        violation (r.candidate ≠ r.validation.val.candidate)
          "intake receipt candidate must match validation",
        violation (r.validation.val.identity.any fun i => i.val.packageId ≠ candidate.packageId)
          "intake validation identity must match the candidate",
        violation (r.decision = none) "resolved intake candidate requires a decision",
        violation (candidate.contentSha256 ≠
            candidateContentSha256 sha256 (r.validation.val.files.map PackageManifestFile.record))
          "intake candidate digest must match validation files",
        violation (r.context.val.sourceRevision ≠ candidate.sourceRevision)
          "intake context revision must match the candidate"] ++ r.statusChecks candidate := by
    rw [SkillPackageIntakeReceiptData.proofIsCandidateBound, hcandidate]
  rw [hbase]
  simp only [List.forall_mem_append, List.forall_mem_cons, violation_fst]
  constructor
  · exact fun hall => hall.2
  · intro hstatus
    refine ⟨⟨not_not.mpr hsorted.symm, not_not.mpr (hcandidate.trans h.candidate_eq.symm), hidentity,
      hdecision, not_not.mpr h.content_eq, not_not.mpr h.revision_eq, ?_⟩, hstatus⟩
    exact fun v hv => absurd hv List.not_mem_nil

/-- The receipt of a resolved result that blocks is valid, and carries its first blocker. -/
theorem intakeReceipt_of_blocked {validation : SkillPackageValidation}
    {candidate : PackageCandidateIdentity} (h : Bound context validation.val candidate)
    (hstatus : validation.val.status = .blocked) :
    ∃ receipt, intakeReceipt context validation = .ok receipt ∧ receipt.val.status = .blocked ∧
      (∃ f ∈ validation.val.findings, f.severity = .blocker ∧
        receipt.val.blocker = some f.toBlocker) ∧
      ∃ d, receipt.val.decision = some d ∧ d.val.decision = .block := by
  have hblockers := ((SkillPackageValidationData.validate_blocked_iff hstatus).mp validation.2).1
  obtain ⟨first, rest, hfirst⟩ := List.exists_cons_of_ne_nil hblockers
  have hmem : first ∈ validation.val.blockers := hfirst ▸ List.mem_cons_self
  obtain ⟨hfinding, hseverity⟩ := List.mem_filter.mp hmem
  have hhead : validation.val.blockers.head? = some first := by rw [hfirst]; rfl
  -- the decision of the receipt
  have hvalidDecision := intakeDecisionData_validate candidate context.val.checks [first.codeText]
  have hblock : (intakeDecisionData candidate context.val.checks [first.codeText]).decision = .block :=
    intakeDecisionData_block (List.cons_ne_nil _ _)
  have hdecision : blockedDecision context first validation.val.candidate =
      .ok (some ⟨_, hvalidDecision⟩) := by
    rw [h.candidate_eq, blockedDecision, buildIntakeDecision_ok]
    rfl
  have hvalid : SkillPackageIntakeReceiptData.validate sha256
      { status := .blocked
        context := context
        candidate := validation.val.candidate
        validation := validation
        decision := some ⟨_, hvalidDecision⟩
        blocker := some first.toBlocker } = .ok () := by
    rw [SkillPackageIntakeReceiptData.validate, validateWith_eq_ok]
    refine ⟨rfl, (proofIsCandidateBound_of_bound h h.candidate_eq (Option.some_ne_none _)).mpr ?_⟩
    show ∀ v ∈ SkillPackageIntakeReceiptData.blockedChecks _ candidate, v.1 = false
    rw [SkillPackageIntakeReceiptData.blockedChecks, hhead]
    simp [intakeDecisionData]
  refine ⟨⟨_, hvalid⟩, ?_, rfl, ⟨first, hfinding, by simpa using hseverity, rfl⟩, _, rfl, hblock⟩
  unfold intakeReceipt
  rw [hstatus]
  dsimp only
  rw [hhead]
  dsimp only
  rw [hdecision]
  show modelCall (construct _ _) = _
  rw [construct_of_ok hvalid]
  rfl

/-- The source of a passing result binds its candidate. -/
theorem intakeSource_of_bound {validation : SkillPackageValidation} {candidate : PackageCandidateIdentity}
    (h : Bound context validation.val candidate) (hselected : OfSelected context validation.val)
    (hstatus : validation.val.status = .pass) :
    ∃ source, intakeSource context candidate = .ok source ∧ source.packageId = candidate.packageId ∧
      source.version = context.val.provenance.version ∧
      ∀ r : SkillPackageIntakeReceiptData sha256, r.context = context →
        ∀ v ∈ r.requireSourceBinding candidate source, v.1 = false := by
  unfold intakeSource
  rcases hprovenance : context.val.provenance with ⟨repository, revision, path, kind⟩ | c
  · refine ⟨_, rfl, rfl, rfl, fun r hr => ?_⟩
    have hcontext : r.context.val.provenance = .repository repository revision path kind := by
      rw [hr, hprovenance]
    unfold SkillPackageIntakeReceiptData.requireSourceBinding
    rw [hcontext]
    simp
  -- a child source is bound to the candidate that was selected
  · have hcandidate : candidate = c.val.candidate :=
      Option.some.inj (h.candidate_eq.symm.trans (hselected c hprovenance hstatus))
    have hvalid : ChildSourceData.validate sha256 ⟨candidate.packageId, c⟩ = .ok () := by
      rw [ChildSourceData.validate, validateWith_eq_ok]
      simp [hcandidate]
    refine ⟨.child ⟨_, hvalid⟩, ?_, rfl, rfl, fun r hr => ?_⟩
    · dsimp only
      rw [construct_of_ok hvalid]
      rfl
    · have hcontext : r.context.val.provenance = .child c := by rw [hr, hprovenance]
      unfold SkillPackageIntakeReceiptData.requireSourceBinding
      rw [hcontext]
      simp [hcandidate]

/-- The receipt of a resolved result that passes is valid and normalized. -/
theorem intakeReceipt_of_pass {validation : SkillPackageValidation}
    {candidate : PackageCandidateIdentity} (h : Bound context validation.val candidate)
    (hselected : OfSelected context validation.val) (hstatus : validation.val.status = .pass) :
    ∃ receipt, intakeReceipt context validation = .ok receipt := by
  obtain ⟨-, ⟨-, hidentity, -⟩, -⟩ :=
    (SkillPackageValidationData.validate_pass_iff hstatus).mp validation.2
  obtain ⟨identity, hidentity⟩ := Option.ne_none_iff_exists'.mp hidentity
  obtain ⟨source, hsource, hpackage, hversion, hbinding⟩ := intakeSource_of_bound h hselected hstatus
  have hvalidDecision := intakeDecisionData_validate candidate context.val.checks []
  -- each model that the receipt holds accepts its part
  have hvalidPackage : NormalizedPackageData.validate sha256
      { packageType := .skill
        identity := .skill identity
        source := source
        owner := context.val.owner
        lifecycle := .normalized } = .ok () := by
    rw [NormalizedPackageData.validate, validateWith_eq_ok]
    simp [PackageIdentity.packageType, PackageIdentity.packageId, hpackage,
      h.identity_eq identity hidentity]
  have hpublic : context.val.owner.isPublic = true := by
    have := (validateWith_eq_ok.mp context.2).1
    rwa [check_eq_nil] at this
  have hvalid : SkillPackageIntakeReceiptData.validate sha256
      { status := .normalized
        context := context
        candidate := some candidate
        validation := validation
        source := some source
        decision := some ⟨_, hvalidDecision⟩
        normalizedPackage := some ⟨_, hvalidPackage⟩ } = .ok () := by
    rw [SkillPackageIntakeReceiptData.validate, validateWith_eq_ok]
    constructor
    · simp [check, hversion, hpublic]
    refine (proofIsCandidateBound_of_bound h rfl (Option.some_ne_none _)).mpr ?_
    show ∀ v ∈ SkillPackageIntakeReceiptData.normalizedChecks _ candidate, v.1 = false
    simp only [SkillPackageIntakeReceiptData.normalizedChecks, List.forall_mem_append]
    refine ⟨by simp [hstatus], ⟨by simp [hpackage], ?_⟩, by simp [hidentity, intakeDecisionData]⟩
    exact hbinding _ rfl
  refine ⟨⟨_, hvalid⟩, ?_⟩
  unfold intakeReceipt
  rw [hstatus]
  dsimp only
  rw [h.candidate_eq, hidentity]
  dsimp only
  rw [hsource, buildIntakeDecision_ok]
  show (do
    let normalized ← modelCall (construct (NormalizedPackageData.validate sha256) _)
    modelCall (construct (SkillPackageIntakeReceiptData.validate sha256) _)) = _
  rw [construct_of_ok hvalidPackage]
  show modelCall (construct _ _) = _
  rw [construct_of_ok hvalid]
  rfl

/-- Without a candidate no receipt is accepted. -/
theorem raises_intakeReceipt {validation : SkillPackageValidation} (h : validation.val.candidate = none) :
    Raises (intakeReceipt context validation) := by
  have hinvalid : ∀ r : SkillPackageIntakeReceiptData sha256, r.candidate = none →
      Raises (modelCall (construct (SkillPackageIntakeReceiptData.validate sha256) r)) := by
    intro r hr
    rw [modelCall, raises_mapError_iff]
    rcases hconstruct : construct (SkillPackageIntakeReceiptData.validate sha256) r with e | receipt
    · exact ⟨e, rfl⟩
    · have hvalid := receipt.2
      rw [construct_eq_ok_iff.mp hconstruct] at hvalid
      have hchecks := (validateWith_eq_ok.mp hvalid).2
      rw [SkillPackageIntakeReceiptData.proofIsCandidateBound, hr] at hchecks
      simp at hchecks
  unfold intakeReceipt
  cases validation.val.status with
  | blocked =>
    dsimp only
    rcases validation.val.blockers.head? with - | first
    · exact ⟨_, rfl⟩
    · exact raises_bind_iff.mpr (Or.inr ⟨none, by rw [h]; rfl, hinvalid _ h⟩)
  | pass =>
    dsimp only
    rw [h]
    exact ⟨_, rfl⟩

/-! ### When the intake returns -/

/-- The intake returns a receipt, and a blocked result is a blocked receipt with
its first blocker. -/
def Intakes (parsers : Parsers) (root : PackageSource) (context : SkillPackageIntakeContext sha256)
    (policy : Option SkillValidationPolicy) : Prop :=
  ∃ receipt, intakeSkillPackage parsers sha256 root context policy = .ok receipt ∧
    ∀ result, validateSkillPackage parsers sha256 root (PyStr.ofText context.val.sourceRevision.val)
        (policy.getD {}) = .ok result → result.val.status = .blocked →
      receipt.val.status = .blocked ∧
        (∃ f ∈ result.val.findings, f.severity = .blocker ∧
          receipt.val.blocker = some f.toBlocker) ∧
        ∃ d, receipt.val.decision = some d ∧ d.val.decision = .block

/-- A refused policy leaves no candidate, and the intake raises. -/
theorem raises_intakeSkillPackage_of_policy {root : PackageSource} {policy : Option SkillValidationPolicy}
    (hpolicy : policyFindings (policy.getD {}) ≠ []) :
    Raises (intakeSkillPackage parsers sha256 root context policy) := by
  obtain ⟨result, hresult, hstatus, hcandidate⟩ : ∃ result, validateSkillPackage parsers sha256 root
      (PyStr.ofText context.val.sourceRevision.val) (policy.getD {}) = .ok result ∧
      result.val.status = .blocked ∧ result.val.candidate = none :=
    validateSkillPackage_of_policy hpolicy
  exact raises_bind_iff.mpr (Or.inr ⟨result, hresult, raises_bind_iff.mpr (Or.inr ⟨result,
    modelCall_eq_ok_iff.mpr (boundValidation_of_blocked hstatus), raises_intakeReceipt hcandidate⟩)⟩)

/-- **The intake returns** exactly under a valid policy, and when nothing of the
package makes the validator raise. -/
theorem intakes_iff (parsers : Parsers) (root : PackageSource)
    (context : SkillPackageIntakeContext sha256) (policy : Option SkillValidationPolicy) :
    Intakes parsers root context policy ↔
      policyFindings (policy.getD {}) = [] ∧ ¬ RootHazard parsers (policy.getD {}) root ∧
        root.rootName.encodeEscaped? ≠ none := by
  by_cases hpolicy : policyFindings (policy.getD {}) = []
  · rcases validateSkillPackage_cases parsers sha256 root context.val.sourceRevision hpolicy with
      ⟨hhazard, hraises⟩ | ⟨hnone, hbytes, i, candidate, hresolved, result, hresult, hval⟩
    · refine iff_of_false ?_ ?_
      · rintro ⟨receipt, hreceipt, -⟩
        have : Raises (intakeSkillPackage parsers sha256 root context policy) :=
          raises_bind_iff.mpr (Or.inl hraises)
        rw [hreceipt] at this
        exact not_raises_ok this
      · rintro ⟨-, hnone, hbytes⟩
        rcases hhazard with hhazard | hhazard
        · exact hnone hhazard
        · exact hbytes hhazard
    · refine iff_of_true ?_ ⟨hpolicy, hnone, hbytes⟩
      have hbound : Bound context result.val candidate := hval ▸ hresolved.bound _
      obtain ⟨bound, hbind, hbound', hselected, hsame⟩ := boundValidation_of_bound hbound
      have hsteps : intakeSkillPackage parsers sha256 root context policy =
          intakeReceipt context bound := by
        rw [intakeSkillPackage, hresult]
        show (do
          let validation ← modelCall (boundValidation context result)
          intakeReceipt context validation) = _
        rw [hbind]
        rfl
      -- the validation is a function, so the receipt speaks of this result
      have hunique : ∀ result', validateSkillPackage parsers sha256 root
          (PyStr.ofText context.val.sourceRevision.val) (policy.getD {}) = .ok result' →
          result' = result := fun result' h => Except.ok.inj (h.symm.trans hresult)
      rw [Intakes, hsteps]
      rcases hstatus : bound.val.status with - | -
      · obtain ⟨receipt, hreceipt⟩ := intakeReceipt_of_pass hbound' hselected hstatus
        refine ⟨receipt, hreceipt, fun result' h hblocked => ?_⟩
        obtain rfl := hunique result' h
        rw [hsame hblocked] at hstatus
        exact absurd (hstatus.symm.trans hblocked) (by decide)
      · obtain ⟨receipt, hreceipt, hreceiptStatus, hblocker, hdecision⟩ :=
          intakeReceipt_of_blocked hbound' hstatus
        refine ⟨receipt, hreceipt, fun result' h hblocked => ?_⟩
        obtain rfl := hunique result' h
        rw [hsame hblocked] at hblocker
        exact ⟨hreceiptStatus, hblocker, hdecision⟩
  · refine iff_of_false ?_ fun h => hpolicy h.1
    rintro ⟨receipt, hreceipt, -⟩
    exact not_raises_ok (hreceipt ▸ raises_intakeSkillPackage_of_policy hpolicy)

/-! ### A refused policy -/

/-- A YAML library that loads nothing, for runs that never reach it. -/
def noParsers : Parsers := ⟨fun _ _ => .error .yamlError, fun _ => ([], none), fun _ => .valueError⟩

/-- A directory `tools` without a SKILL.md. -/
def toolsDirectory : PackageSource where
  rootName := PyStr.lit "tools"
  isDirectory := .ok true
  hasSkillMd := .ok false
  root := .listed false .nil
  distinct := trivial

theorem toolsRevision_hex : isHexOfLength 40 (List.replicate 40 '0') = true := isHexOfLength_replicate rfl

/-- Intake out of a repository, with every check confirmed. -/
def toolsContextData : SkillPackageIntakeContextData hashlibSha256 where
  provenance := .repository ⟨literal "owner/tools" (by decide +kernel), by decide +kernel⟩
    ⟨List.replicate 40 '0', toolsRevision_hex⟩ (literal "skills/tools" (by decide +kernel))
    ⟨.git, by decide⟩
  owner :=
    { owner := literal "tools team" (by decide +kernel)
      maintainer := literal "tools maintainers" (by decide +kernel)
      ownershipState := .canonical
      rights := ⟨.license, literal "MIT" (by decide +kernel), literal "LICENSE" (by decide +kernel)⟩ }
  checks := ⟨true, true, true, true⟩

theorem toolsContextData_validate : toolsContextData.validate hashlibSha256 = .ok () := by
  decide +kernel

/-- The policy asks for a file outside the package. -/
def outsidePolicy : SkillValidationPolicy := { requiredFiles := [PyStr.lit "../LICENSE"] }

/-- The validator blocks on the policy, and the intake has no receipt for it. -/
theorem intake_raises_on_outside_policy :
    (∃ result, validateSkillPackage noParsers hashlibSha256 toolsDirectory
        (PyStr.ofText toolsContextData.sourceRevision.val) outsidePolicy = .ok result ∧
        result.val.status = .blocked) ∧
      ¬ Intakes noParsers toolsDirectory ⟨toolsContextData, toolsContextData_validate⟩
        (some outsidePolicy) := by
  have hpolicy : policyFindings outsidePolicy ≠ [] := by decide +kernel
  constructor
  · obtain ⟨result, hresult, hstatus, -⟩ := validateSkillPackage_of_policy hpolicy
    exact ⟨result, hresult, hstatus⟩
  · rintro ⟨receipt, hreceipt, -⟩
    have hraises : Raises (intakeSkillPackage noParsers hashlibSha256 toolsDirectory
        ⟨toolsContextData, toolsContextData_validate⟩ (some outsidePolicy)) :=
      raises_intakeSkillPackage_of_policy hpolicy
    exact not_raises_ok (hreceipt ▸ hraises)

end SkillsSdk
