/-
SkillsSdk/RegistryLaws.lean

What the preparation for a private registry guarantees.

`PreparationCondition` names the conditions of `_input_blockers`, in the order
of the source.  The blockers of the receipt are those of the first condition
that fails (`inputBlockers_spec`); every constructor call behind them succeeds
(`projection_validate`, `ownBlocker_ok`), so the preparation returns whenever the
hardening receipt can be hashed (`registry_preparation_laws`).
-/
import SkillsSdk.RegistryPreparation

namespace SkillsSdk

variable {sha256 : List UInt8 → Sha256}

/-! ### Evidence is split, not lost -/

/-- Each value is a reference or gives its digest, and nothing is listed twice. -/
structure SplitLaws (sha256 : List UInt8 → Sha256) (values : List Text) (split : SplitEvidence) :
    Prop where
  refs_iff : ∀ v, v ∈ split.refs ↔ v ∈ values ∧ isReference v = true
  sourceDigests_iff : ∀ d, d ∈ split.sourceDigests ↔
    ∃ v ∈ values, isReference v = false ∧ textSha256 sha256 v = d
  refs_nodup : split.refs.Nodup
  sourceDigests_nodup : split.sourceDigests.Nodup
  /-- No value is lost, as long as no two of them have the same digest. -/
  count : (∀ v ∈ values, ∀ w ∈ values, textSha256 sha256 v = textSha256 sha256 w → v = w) →
    split.refs.length + split.sourceDigests.length = values.eraseDups.length

/-- Distinct values keep their number under a function that separates them. -/
theorem length_eraseDups_map {α β : Type*} [BEq α] [LawfulBEq α] [BEq β] [LawfulBEq β] {f : α → β}
    {l : List α} (hf : ∀ v ∈ l, ∀ w ∈ l, f v = f w → v = w) :
    (l.map f).eraseDups.length = l.eraseDups.length := by
  have hnodup : (l.eraseDups.map f).Nodup := by
    refine List.Nodup.map_on ?_ (Distinct.nodup_eraseDups l)
    intro v hv w hw
    exact hf v (List.mem_eraseDups.mp hv) w (List.mem_eraseDups.mp hw)
  have hperm : ((l.map f).eraseDups).Perm (l.eraseDups.map f) := by
    rw [List.perm_ext_iff_of_nodup (Distinct.nodup_eraseDups _) hnodup]
    intro b
    simp [List.mem_eraseDups]
  rw [hperm.length_eq, List.length_map]

/-- The values that pass a test and those that fail it are all the values. -/
theorem length_eraseDups_filter {α : Type*} [BEq α] [LawfulBEq α] (p : α → Bool) (l : List α) :
    (l.filter p).eraseDups.length + (l.filter fun a => !p a).eraseDups.length =
      l.eraseDups.length := by
  rw [← List.length_append]
  apply List.Perm.length_eq
  have hnodup : ((l.filter p).eraseDups ++ (l.filter fun a => !p a).eraseDups).Nodup := by
    refine List.nodup_append.mpr
      ⟨Distinct.nodup_eraseDups _, Distinct.nodup_eraseDups _, ?_⟩
    rintro a ha b hb rfl
    have hp := (List.mem_filter.mp (List.mem_eraseDups.mp ha)).2
    have hn := (List.mem_filter.mp (List.mem_eraseDups.mp hb)).2
    simp [hp] at hn
  rw [List.perm_ext_iff_of_nodup hnodup (Distinct.nodup_eraseDups l)]
  intro a
  simp only [List.mem_append, List.mem_eraseDups, List.mem_filter]
  cases p a <;> simp

theorem splitLaws (values : List Text) : SplitLaws sha256 values (splitEvidence sha256 values) where
  refs_iff _ := mem_refs
  sourceDigests_iff _ := mem_sourceDigests
  refs_nodup := refs_nodup values
  sourceDigests_nodup := sourceDigests_nodup values
  count hinj := by
    rw [splitEvidence_eq, length_eraseDups_map, length_eraseDups_filter]
    intro v hv w hw
    exact hinj v (List.mem_filter.mp hv).1 w (List.mem_filter.mp hw).1

/-! ### Constructor calls that succeed -/

theorem redactionErrors_eq_nil {name message : String} {value : Text} :
    redactionErrors name message value = [] ↔ registryEvidenceIsRedactionSafe value = true :=
  check_eq_nil

theorem blockerData_validate {b : RegistryPreparationBlockerData} :
    b.validate = .ok () ↔ registryEvidenceIsRedactionSafe b.code.val = true ∧
      registryEvidenceIsRedactionSafe b.message.val = true ∧ b.evidenceRefs.Nodup ∧
        ∀ v ∈ b.evidenceRefs, isPortable v = true ∧ registryEvidenceIsRedactionSafe v = true := by
  rw [RegistryPreparationBlockerData.validate, validateWith_eq_ok]
  simp only [List.append_eq_nil_iff, redactionErrors_eq_nil, evidenceErrors_eq_nil, and_assoc,
    List.not_mem_nil, false_implies, implies_true, and_true]

/-- Every projected blocker is valid, redacted or not. -/
theorem projection_validate (code : BlockerCode) (message : NonEmptyText) (evidence : List Text)
    (source : Json) : (projection sha256 code message evidence source).validate = .ok () := by
  have hrefs := evidenceErrors_eq_nil.mp (evidenceErrors_refs sha256 "" "" "" evidence)
  refine blockerData_validate.mpr ?_
  rw [projection]
  by_cases hsafe : (registryEvidenceIsRedactionSafe code.val &&
      registryEvidenceIsRedactionSafe message.val) = true
  · have hboth := Bool.and_eq_true _ _ ▸ hsafe
    simp only [hsafe, if_true]
    exact ⟨hboth.1, hboth.2, hrefs⟩
  · simp only [hsafe]
    have hredacted : registryEvidenceIsRedactionSafe sourceBlockerRedacted.1.val = true ∧
        registryEvidenceIsRedactionSafe sourceBlockerRedacted.2.val = true := by
      decide +kernel
    exact ⟨hredacted.1, hredacted.2, hrefs⟩

theorem warningProjection_validate (sha256 : List UInt8 → Sha256) (c : PackageHardeningCheck) :
    (warningProjection sha256 c).validate = .ok () := by
  rw [RegistryPreparationWarningData.validate, validateWith_eq_ok]
  exact ⟨evidenceErrors_refs _ _ _ _ _, by simp⟩

/-- A loop of constructor calls on valid data. -/
theorem mapM_raised_construct {α β : Type*} {validate : α → Except ValidationError Unit}
    {f : β → α} (hf : ∀ b, validate (f b) = .ok ()) (l : List β) :
    ∃ ms, (l.mapM fun b => raised (construct validate (f b))) = .ok ms ∧
      ms.map Subtype.val = l.map f := by
  induction l with
  | nil => exact ⟨[], rfl, rfl⟩
  | cons b l ih =>
    obtain ⟨ms, hms, hval⟩ := ih
    refine ⟨⟨f b, hf b⟩ :: ms, ?_, by rw [List.map_cons, List.map_cons, hval]⟩
    rw [List.mapM_cons, construct_of_ok (hf b), hms]
    rfl

theorem hardeningBlockers_ok (sha256 : List UInt8 → Sha256) (h : PackageHardeningReceipt) :
    ∃ bs, hardeningBlockers sha256 h = .ok bs ∧
      bs.map Subtype.val = h.val.blockers.map (hardeningProjection sha256) :=
  mapM_raised_construct (fun _ => projection_validate _ _ _ _) h.val.blockers

theorem registryWarnings_ok (sha256 : List UInt8 → Sha256) (h : PackageHardeningReceipt) :
    ∃ ws, registryWarnings sha256 h = .ok ws := by
  obtain ⟨ws, hws, -⟩ :=
    mapM_raised_construct (fun c => warningProjection_validate sha256 c) h.val.warnings
  exact ⟨ws, hws⟩

theorem registryBlocker_ok (sha256 : List UInt8 → Sha256) (b : PackageReceiptBlocker) :
    ∃ b', registryBlocker sha256 b = .ok b' ∧ b'.val = packageProjection sha256 b := by
  have hvalid : (packageProjection sha256 b).validate = .ok () := projection_validate _ _ _ _
  refine ⟨⟨_, hvalid⟩, ?_, rfl⟩
  rw [registryBlocker, construct_of_ok hvalid]
  rfl

/-! ### The conditions -/

/-- The conditions of `_input_blockers`. -/
inductive PreparationCondition where
  | built
  | sameIdentity
  | sameVersion
  | hardened
  | sameName
  | shortName
  | canonicalVersion
  deriving DecidableEq

namespace PreparationCondition

/-- The place of a condition in the order of the source. -/
def place : PreparationCondition → Nat
  | built => 0
  | sameIdentity => 1
  | sameVersion => 2
  | hardened => 3
  | sameName => 4
  | shortName => 5
  | canonicalVersion => 6

variable (p : PackageReceiptV2 sha256) (h : PackageHardeningReceipt) (r : RegistryPreparationRequest)

/-- What a condition asks of the receipts and the request. -/
def Holds : PreparationCondition → Prop
  | built => p.val.status = .built
  | sameIdentity =>
    h.val.candidate = p.val.candidate ∧ h.val.packageDigest = p.val.packageDigest
  | sameVersion => p.val.manifest.map (·.val.version) = some r.val.version
  | hardened => h.val.status = .pass
  | sameName => p.val.candidate.map (·.packageId) = some r.val.packageName
  | shortName => r.val.packageName.val.length ≤ registryPackageNameMaxLength
  | canonicalVersion => Rx.fullmatch registryVersionPattern r.val.version.val = true

/-- The condition fails and all before it hold. -/
structure FirstFailing (c : PreparationCondition) : Prop where
  fails : ¬ Holds p h r c
  earlier : ∀ d : PreparationCondition, d.place < c.place → Holds p h r d

/-- The text of the blocker that a condition has of its own. -/
def text : PreparationCondition → Option (NonEmptyText × NonEmptyText)
  | built => none
  | sameIdentity => some hardeningIdentityMismatch
  | sameVersion => some packageVersionMismatch
  | hardened => none
  | sameName => some packageNameMismatch
  | shortName => some registryPackageNameUnsupported
  | canonicalVersion => some registryVersionUnsupported

/-- The blocker that reports the condition itself: that of the package, or one
of its own.  Failed hardening is reported by the hardening blockers. -/
def own : PreparationCondition → List RegistryPreparationBlockerData
  | built => p.val.blocker.toList.map (packageProjection sha256)
  | c => c.text.toList.map fun t => ⟨t.1, t.2, [], [], none⟩

/-- The hardening blockers that a receipt blocked by the condition keeps: all of
them, in order, once the two receipts are known to be about the same package. -/
def kept (sha256 : List UInt8 → Sha256) (c : PreparationCondition) : List RegistryPreparationBlockerData :=
  if c.place ≤ sameIdentity.place then []
  else h.val.blockers.map (hardeningProjection sha256)

/-- All blockers of a receipt blocked by the condition. -/
def blockers (c : PreparationCondition) : List RegistryPreparationBlockerData :=
  c.own p ++ c.kept h sha256

end PreparationCondition

open PreparationCondition

/-- The texts of the own blockers pass the redaction rule. -/
theorem text_redactionSafe {c : PreparationCondition} {t : NonEmptyText × NonEmptyText}
    (ht : c.text = some t) :
    registryEvidenceIsRedactionSafe t.1.val = true ∧
      registryEvidenceIsRedactionSafe t.2.val = true := by
  cases c <;> cases ht <;>
    exact ⟨registryEvidenceIsRedactionSafe_ofList (by decide +kernel),
      registryEvidenceIsRedactionSafe_ofList (by decide +kernel)⟩

theorem ownBlocker_ok {c : PreparationCondition} {t : NonEmptyText × NonEmptyText}
    (ht : c.text = some t) :
    ∃ b, ownBlocker t = .ok b ∧ b.val = ⟨t.1, t.2, [], [], none⟩ := by
  have hvalid : RegistryPreparationBlockerData.validate ⟨t.1, t.2, [], [], none⟩ = .ok () := by
    obtain ⟨hcode, hmessage⟩ := text_redactionSafe ht
    exact blockerData_validate.mpr ⟨hcode, hmessage, by simp⟩
  refine ⟨⟨_, hvalid⟩, ?_, rfl⟩
  rw [ownBlocker, blocker, construct_of_ok hvalid]
  rfl

/-! ### The blockers of the inputs -/

section

variable {p : PackageReceiptV2 sha256} {h : PackageHardeningReceipt} {r : RegistryPreparationRequest}

/-- The one blocker of a condition that has a text of its own. -/
theorem own_of_text {c : PreparationCondition} {t : NonEmptyText × NonEmptyText}
    (ht : c.text = some t) (hc : c ≠ .built) : c.own p = [⟨t.1, t.2, [], [], none⟩] := by
  cases c with
  | built => exact absurd rfl hc
  | hardened => cases ht
  | _ => cases ht; rfl

/-- A list of the one blocker of a condition. -/
theorem ownBlockers_ok {c : PreparationCondition} {t : NonEmptyText × NonEmptyText}
    (ht : c.text = some t) (hkept : c.kept h sha256 = []) :
    ∃ bs, (do return [← ownBlocker t] : Except Raised (List RegistryPreparationBlocker)) = .ok bs ∧
      bs.map Subtype.val = c.blockers p h := by
  obtain ⟨b, hb, hval⟩ := ownBlocker_ok ht
  refine ⟨[b], by rw [hb]; rfl, ?_⟩
  have hc : c ≠ .built := by
    rintro rfl
    cases ht
  rw [PreparationCondition.blockers, hkept, own_of_text ht hc, List.append_nil, ← hval]
  rfl

/-- Nothing is kept of a receipt that passed. -/
theorem kept_of_passing (sha256 : List UInt8 → Sha256) (hpass : h.val.status = .pass) (c : PreparationCondition) :
    c.kept h sha256 = [] := by
  rw [kept, h.passing hpass]
  exact ite_self _

/-- What the source makes of the inputs: no blockers when every condition holds,
and those of the first failing condition when one does not. -/
def Reported (p : PackageReceiptV2 sha256) (h : PackageHardeningReceipt)
    (r : RegistryPreparationRequest) (x : Except Raised (List RegistryPreparationBlocker)) : Prop :=
  (x = .ok [] ∧ ∀ c, Holds p h r c) ∨
    ∃ c, FirstFailing p h r c ∧ ∃ bs, x = .ok bs ∧ bs.map Subtype.val = c.blockers p h

/-- A condition that fails first, when those before it are known to hold. -/
theorem reported_of {c : PreparationCondition} {x : Except Raised (List RegistryPreparationBlocker)}
    (hfails : ¬ Holds p h r c) (hearlier : ∀ d : PreparationCondition, d.place < c.place → Holds p h r d)
    (hx : ∃ bs, x = .ok bs ∧ bs.map Subtype.val = c.blockers p h) : Reported p h r x :=
  Or.inr ⟨c, ⟨hfails, hearlier⟩, hx⟩

-- One case for each branch of `_input_blockers`: the conditions before it are
-- collected on the way down.
theorem inputBlockers_spec : Reported p h r (inputBlockers p h r) := by
  unfold inputBlockers
  by_cases hblocked : p.val.status = .blocked
  · rw [if_pos hblocked]
    obtain ⟨⟨b, hb⟩, -⟩ := p.blocked hblocked
    obtain ⟨b', hok, hval⟩ := registryBlocker_ok sha256 b
    rw [hb]
    apply reported_of (c := .built)
    · show ¬ p.val.status = .built
      rw [hblocked]
      decide
    · intro d hd
      exact absurd hd (Nat.not_lt_zero _)
    · refine ⟨[b'], ?_, ?_⟩
      · show (do return [← registryBlocker sha256 b] : Except Raised _) = _
        rw [hok]
        rfl
      · show [b'.val] = _
        rw [PreparationCondition.blockers, own, hb, hval]
        rfl
  rw [if_neg hblocked]
  have hbuilt : Holds p h r .built := by
    show p.val.status = .built
    cases hs : p.val.status with
    | built => rfl
    | blocked => exact absurd hs hblocked
  obtain ⟨candidate, manifest, digest, hp⟩ := p.built hbuilt
  by_cases hidentity : h.val.candidate ≠ p.val.candidate ∨ h.val.packageDigest ≠ p.val.packageDigest
  · rw [if_pos hidentity]
    refine reported_of ?_ ?_ (ownBlockers_ok (c := .sameIdentity) rfl rfl)
    · rintro ⟨hc, hd⟩
      exact hidentity.elim (· hc) (· hd)
    · intro d hd
      cases d <;> first | assumption | exact absurd hd (by decide)
  rw [if_neg hidentity, hp.manifest_eq]
  have hsame : Holds p h r .sameIdentity := by
    rw [not_or, not_not, not_not] at hidentity
    exact hidentity
  obtain ⟨bs, hbs, hbsval⟩ := hardeningBlockers_ok sha256 h
  -- a version that differs is reported together with the blockers of the hardening
  by_cases hversion : r.val.version ≠ manifest.val.version
  · apply reported_of (c := .sameVersion)
    · show ¬ p.val.manifest.map (·.val.version) = some r.val.version
      rw [hp.manifest_eq]
      exact fun h0 => hversion (Option.some.inj h0).symm
    · intro d hd
      cases d <;> first | assumption | exact absurd hd (by decide)
    · obtain ⟨b, hb, hbval⟩ := ownBlocker_ok (c := .sameVersion) rfl
      refine ⟨b :: (if h.val.status = .blocked then bs else []), ?_, ?_⟩
      · simp only [if_pos hversion, hb, hbs]
        split <;> rfl
      · show b.val :: (if h.val.status = .blocked then bs else []).map Subtype.val =
          ⟨packageVersionMismatch.1, packageVersionMismatch.2, [], [], none⟩ ::
            h.val.blockers.map (hardeningProjection sha256)
        rw [hbval, ← hbsval]
        split
        · rfl
        · rename_i hpass
          have : h.val.blockers = [] := by
            cases hs : h.val.status with
            | pass => exact h.passing hs
            | blocked => exact absurd hs hpass
          rw [this] at hbsval
          rw [hbsval]
          rfl
  have hsameVersion : Holds p h r .sameVersion := by
    show p.val.manifest.map (·.val.version) = some r.val.version
    rw [hp.manifest_eq, not_not.mp hversion]
    rfl
  by_cases hstatus : h.val.status = .blocked
  · simp only [if_neg hversion, if_pos hstatus]
    refine reported_of (c := .hardened) ?_ ?_ ⟨bs, hbs, hbsval⟩
    · show ¬ h.val.status = .pass
      rw [hstatus]
      decide
    · intro d hd
      cases d <;> first | assumption | exact absurd hd (by decide)
  have hhardened : Holds p h r .hardened := by
    show h.val.status = .pass
    cases hs : h.val.status with
    | pass => rfl
    | blocked => exact absurd hs hstatus
  -- from here on the hardening passed and hands on nothing of its own
  have hkept := kept_of_passing sha256 hhardened
  simp only [if_neg hversion, if_neg hstatus, hp.candidate_eq]
  by_cases hname : r.val.packageName ≠ candidate.packageId
  · rw [if_pos hname]
    refine reported_of ?_ ?_ (ownBlockers_ok (c := .sameName) rfl (hkept _))
    · show ¬ p.val.candidate.map (·.packageId) = some r.val.packageName
      rw [hp.candidate_eq]
      exact fun h0 => hname (Option.some.inj h0).symm
    · intro d hd
      cases d <;> first | assumption | exact absurd hd (by decide)
  have hsameName : Holds p h r .sameName := by
    show p.val.candidate.map (·.packageId) = some r.val.packageName
    rw [hp.candidate_eq, not_not.mp hname]
    rfl
  rw [if_neg hname]
  by_cases hlength : registryPackageNameMaxLength < r.val.packageName.val.length
  · rw [if_pos hlength]
    refine reported_of ?_ ?_ (ownBlockers_ok (c := .shortName) rfl (hkept _))
    · exact Nat.not_le.mpr hlength
    · intro d hd
      cases d <;> first | assumption | exact absurd hd (by decide)
  have hshort : Holds p h r .shortName := Nat.not_lt.mp hlength
  rw [if_neg hlength]
  by_cases hsemver : Rx.fullmatch registryVersionPattern r.val.version.val = false
  · rw [if_pos hsemver]
    refine reported_of ?_ ?_ (ownBlockers_ok (c := .canonicalVersion) rfl (hkept _))
    · exact fun h0 => absurd (hsemver.symm.trans h0) (by decide)
    · intro d hd
      cases d <;> first | assumption | exact absurd hd (by decide)
  have hcanonical : Holds p h r .canonicalVersion := (Bool.not_eq_false _).mp hsemver
  rw [if_neg hsemver]
  exact Or.inl ⟨rfl, fun c => by cases c <;> assumption⟩

/-! ### Receipts -/

/-- The fields that a receipt repeats from its request are valid. -/
theorem requestFields (r : RegistryPreparationRequest) :
    redactionErrors "package_name" "registry package name must not contain credential-shaped values"
          r.val.packageName.val ++
        RegistryPreparationReceiptData.versionErrors r.val.version.val ++
        check (r.val.evidence ≠ []) "evidence"
          "Tuple should have at least 1 item after validation, not 0" ++
        evidenceErrors "evidence" "registry preparation evidence paths must be unique"
          "registry receipt evidence must not contain credential-shaped values" r.val.evidence = [] := by
  have hr := (validateWith_eq_ok.mp r.2).1
  simp only [List.append_eq_nil_iff, evidenceErrors_eq_nil] at hr ⊢
  exact hr

theorem blockedReceiptData_validate {b : RegistryPreparationBlocker} {rest : List RegistryPreparationBlocker}
    (hardeningDigest : Sha256) (ws : List RegistryPreparationWarning) :
    (blockedReceiptData p r hardeningDigest b (b :: rest) ws).validate = .ok () := by
  rw [RegistryPreparationReceiptData.validate, validateWith_eq_ok]
  refine ⟨requestFields r, ?_⟩
  simp [RegistryPreparationReceiptData.statusMatchesArtifacts, blockedReceiptData]

theorem preparedReceiptData_validate (hall : ∀ c, Holds p h r c) {candidate : PackageCandidateIdentity}
    {manifest : PackageManifest} {digest : Sha256} (hp : p.val.Built sha256 candidate manifest digest)
    (hardeningDigest : Sha256) (ws : List RegistryPreparationWarning) :
    (preparedReceiptData p r candidate (canonicalJsonSha256 sha256 manifest.val.toJson) hardeningDigest digest
      ws).validate = .ok () := by
  rw [RegistryPreparationReceiptData.validate, validateWith_eq_ok]
  refine ⟨requestFields r, ?_⟩
  have hname : candidate.packageId = r.val.packageName := by
    have := hall .sameName
    rw [Holds, hp.candidate_eq] at this
    exact Option.some.inj this
  have hshort : ¬ 64 < r.val.packageName.val.length := Nat.not_lt.mpr (hall .shortName)
  have hversion : Rx.fullmatch registryVersionPattern r.val.version.val = true :=
    hall .canonicalVersion
  simp only [RegistryPreparationReceiptData.statusMatchesArtifacts, preparedReceiptData,
    List.forall_mem_cons, violation_fst, Option.map_some, hname, hversion, hp.canonical]
  exact ⟨by simp, by simp, by simp, hshort, by simp, by simp, by simp, by simp⟩

/-- What is said of a receipt that the condition blocks. -/
structure BlockedBy (p : PackageReceiptV2 sha256) (h : PackageHardeningReceipt)
    (receipt : RegistryPreparationReceipt) (c : PreparationCondition) : Prop where
  status_eq : receipt.val.status = .blocked
  /-- The blocker of the condition stands first, then every hardening blocker
  once, in order, when the receipts are about the same package. -/
  blockers_eq : receipt.val.blockers.map Subtype.val =
    c.own p ++ if p.val.status = .built ∧ h.val.candidate = p.val.candidate ∧
        h.val.packageDigest = p.val.packageDigest
      then h.val.blockers.map (hardeningProjection sha256) else []
  primary_eq : receipt.val.blocker = receipt.val.blockers.head?

theorem kept_eq {c : PreparationCondition} (hc : FirstFailing p h r c) :
    c.kept h sha256 =
      if p.val.status = .built ∧ h.val.candidate = p.val.candidate ∧
          h.val.packageDigest = p.val.packageDigest
        then h.val.blockers.map (hardeningProjection sha256) else [] := by
  rw [kept]
  by_cases hplace : c.place ≤ sameIdentity.place
  · rw [if_pos hplace, if_neg]
    rintro ⟨hbuilt, hsame⟩
    cases c with
    | built => exact hc.fails hbuilt
    | sameIdentity => exact hc.fails hsame
    | _ => exact absurd hplace (by decide)
  · have hbuilt : p.val.status = .built := hc.earlier .built (by
      cases c <;> first | decide | exact absurd hplace (by decide))
    have hsame := hc.earlier .sameIdentity (Nat.not_le.mp hplace)
    rw [if_neg hplace, if_pos ⟨hbuilt, hsame⟩]

theorem firstFailing_unique {c d : PreparationCondition} (hc : FirstFailing p h r c)
    (hd : FirstFailing p h r d) : c = d := by
  have hplace : c.place = d.place := by
    by_contra hne
    rcases Nat.lt_or_gt_of_ne hne with hlt | hlt
    · exact hc.fails (hd.earlier c hlt)
    · exact hd.fails (hc.earlier d hlt)
  cases c <;> cases d <;> first | rfl | exact absurd hplace (by decide)

/-- A failing condition blocks. -/
theorem blockers_ne_nil {c : PreparationCondition} (hc : FirstFailing p h r c) :
    c.blockers p h ≠ [] := by
  have hfails := hc.fails
  cases c with
  | built =>
    have hs : p.val.status = .blocked := by
      cases hs : p.val.status with
      | built => exact absurd hs hfails
      | blocked => rfl
    obtain ⟨⟨b, hb⟩, -⟩ := p.blocked hs
    rw [PreparationCondition.blockers, own, hb]
    exact List.cons_ne_nil _ _
  | hardened =>
    have hs : h.val.status = .blocked := by
      cases hs : h.val.status with
      | pass => exact absurd hs hfails
      | blocked => rfl
    show h.val.blockers.map (hardeningProjection sha256) ≠ []
    rw [Ne, List.map_eq_nil_iff]
    exact h.blocking hs
  | _ => exact List.cons_ne_nil _ _

theorem dumpedSha256_ok {value : Json} (hshort : hasLongInt value = false) :
    dumpedSha256 sha256 value = .ok (canonicalJsonSha256 sha256 value) := by
  rw [dumpedSha256, canonicalJsonSha256?_eq_some hshort]

theorem dumpedSha256_error {value : Json} (hlong : hasLongInt value = true) :
    dumpedSha256 sha256 value = .error .valueError := by
  rw [dumpedSha256, canonicalJsonSha256?, hlong]
  rfl

/-- With blockers, what follows is the blocked receipt. -/
theorem prepare_of_blockers {b : RegistryPreparationBlocker} {rest : List RegistryPreparationBlocker}
    (hbs : inputBlockers p h r = .ok (b :: rest)) :
    ∃ ws, preparePrivateRegistryCandidate p h r = registryBlockedReceipt p h r b (b :: rest) ws := by
  obtain ⟨ws, hws⟩ := registryWarnings_ok sha256 h
  refine ⟨if b.val.code = hardeningIdentityMismatch.1 then []
      else if p.val.status ≠ .blocked then ws else [], ?_⟩
  unfold preparePrivateRegistryCandidate
  rw [hbs]
  by_cases hs : p.val.status ≠ .blocked
  · simp only [if_pos hs]
    rw [hws]
    rfl
  · simp only [if_neg hs]
    rfl

theorem registryBlockedReceipt_ok (b : RegistryPreparationBlocker) (rest : List RegistryPreparationBlocker)
    (hshort : hasLongInt h.val.toJson = false) (ws : List RegistryPreparationWarning) :
    ∃ receipt, registryBlockedReceipt p h r b (b :: rest) ws = .ok receipt ∧
      receipt.val = blockedReceiptData p r (canonicalJsonSha256 sha256 h.val.toJson) b (b :: rest) ws := by
  refine ⟨⟨_, blockedReceiptData_validate _ ws⟩, ?_, rfl⟩
  rw [registryBlockedReceipt, dumpedSha256_ok hshort]
  exact congrArg raised (construct_of_ok (blockedReceiptData_validate _ ws))

/-- Without blockers, what follows is the prepared receipt. -/
theorem preparedReceipt_ok (hall : ∀ c, Holds p h r c) (hshort : hasLongInt h.val.toJson = false) :
    ∃ receipt, preparedReceipt p h r = .ok receipt ∧ receipt.val.status = .prepared := by
  obtain ⟨candidate, manifest, digest, hp⟩ := p.built (hall .built)
  obtain ⟨ws, hws⟩ := registryWarnings_ok sha256 h
  refine ⟨⟨_, preparedReceiptData_validate hall hp (canonicalJsonSha256 sha256 h.val.toJson) ws⟩, ?_, rfl⟩
  simp only [preparedReceipt, hp.candidate_eq, hp.manifest_eq, hp.packageDigest_eq]
  rw [dumpedSha256_ok hp.written, dumpedSha256_ok hshort, hws]
  exact congrArg raised (construct_of_ok (preparedReceiptData_validate hall hp _ ws))

/-- A hardening receipt that cannot be hashed ends the preparation, prepared or blocked. -/
theorem prepare_of_long (hlong : hasLongInt h.val.toJson = true) :
    preparePrivateRegistryCandidate p h r = .error .valueError := by
  rcases inputBlockers_spec (p := p) (h := h) (r := r) with ⟨hbs, hall⟩ | ⟨c, hc, bs, hbs, hval⟩
  · -- the manifest is hashed first, and that returns: its package was built
    obtain ⟨candidate, manifest, digest, hp⟩ := p.built (hall .built)
    unfold preparePrivateRegistryCandidate
    rw [hbs]
    show preparedReceipt p h r = _
    simp only [preparedReceipt, hp.candidate_eq, hp.manifest_eq, hp.packageDigest_eq]
    rw [dumpedSha256_ok hp.written, dumpedSha256_error hlong]
    rfl
  · have hne : bs ≠ [] := by
      rintro rfl
      exact blockers_ne_nil hc hval.symm
    obtain ⟨b, rest, rfl⟩ := List.exists_cons_of_ne_nil hne
    obtain ⟨ws, heq⟩ := prepare_of_blockers hbs
    rw [heq, registryBlockedReceipt, dumpedSha256_error hlong]
    rfl

end

/-- **Private-registry preparation**: unless an integer of the hardening receipt is too long to be
hashed, it returns a receipt, prepared when every condition holds and else blocked by the first one
that fails; and the evidence of every projected blocker and warning is split without loss. -/
theorem registry_preparation_laws (p : PackageReceiptV2 sha256) (h : PackageHardeningReceipt)
    (r : RegistryPreparationRequest) :
    ((∀ i ∈ h.val.integers, isLongInt i = false) ∧
        (∃ receipt, preparePrivateRegistryCandidate p h r = .ok receipt ∧
          (receipt.val.status = .prepared ↔ ∀ c, Holds p h r c) ∧
          (receipt.val.status = .blocked → ∃! c, FirstFailing p h r c ∧ BlockedBy p h receipt c)) ∨
      (∃ i ∈ h.val.integers, isLongInt i = true) ∧
        preparePrivateRegistryCandidate p h r = .error .valueError) ∧
    ∀ values, SplitLaws sha256 values (splitEvidence sha256 values) := by
  refine ⟨?_, splitLaws⟩
  -- a number that cannot be written makes the digest of the hardening raise
  by_cases hlong : hasLongInt h.val.toJson = true
  · refine Or.inr ⟨?_, prepare_of_long hlong⟩
    rwa [hasLongInt, PackageHardeningReceiptData.ints_toJson, List.any_eq_true] at hlong
  have hshort : hasLongInt h.val.toJson = false := Bool.eq_false_iff.mpr hlong
  refine Or.inl ⟨PackageHardeningReceiptData.hasLongInt_toJson.mp hshort, ?_⟩
  rcases inputBlockers_spec (p := p) (h := h) (r := r) with ⟨hbs, hall⟩ | ⟨c, hc, bs, hbs, hval⟩
  · obtain ⟨receipt, hok, hs⟩ := preparedReceipt_ok hall hshort
    refine ⟨receipt, ?_, iff_of_true hs hall, fun h0 => absurd (hs.symm.trans h0) (by decide)⟩
    unfold preparePrivateRegistryCandidate
    rw [hbs]
    exact hok
  · have hne : bs ≠ [] := by
      rintro rfl
      exact blockers_ne_nil hc hval.symm
    obtain ⟨b, rest, rfl⟩ := List.exists_cons_of_ne_nil hne
    obtain ⟨ws, heq⟩ := prepare_of_blockers hbs
    obtain ⟨receipt, hok, hreceipt⟩ := registryBlockedReceipt_ok (p := p) (r := r) b rest hshort ws
    refine ⟨receipt, heq.trans hok, iff_of_false ?_ fun hall => hc.fails (hall c), fun _ => ⟨c, ⟨hc, ?_⟩, ?_⟩⟩
    · rw [hreceipt]
      intro h0
      cases h0
    · refine ⟨by rw [hreceipt]; rfl, ?_, by rw [hreceipt]; rfl⟩
      rw [hreceipt, ← kept_eq hc]
      exact hval
    · exact fun d hd => firstFailing_unique hd.1 hc

/-! ### A package that was not built -/

namespace PreparationDemo

def packageBlocker : PackageReceiptBlocker :=
  ⟨literal "package_scan_failed" (by decide +kernel), literal "The scan failed." (by decide +kernel), []⟩

def package : PackageReceiptV2 hashlibSha256 :=
  ⟨{ receiptId := literal "scan-1" (by decide +kernel)
     candidate := none
     status := .blocked
     startedAt := 0
     finishedAt := 1
     evidence := [literal "evidence/build.json" (by decide +kernel)]
     blocker := some packageBlocker
     packageDigest := none
     manifest := none
     includedFiles := []
     excludedFiles := [] }, by
    simp [PackageReceiptData.validate, validateWith_eq_ok, PackageReceiptData.receiptMatchesManifest,
      PackageReceiptData.packageDigestMatchesManifest, disjointSets]⟩

theorem failedCheck_code : isBlockerCode "package_receipt_built".toList = true := by decide +kernel

theorem failedCheck_message :
    isNonEmptyText "Package hardening requires a successful immutable package receipt.".toList = true := by
  decide +kernel

theorem portablePackage_text : isNonEmptyText "portable-package".toList = true := by decide +kernel

def failedCheck : PackageHardeningCheck :=
  ⟨literal "package_receipt_built" failedCheck_code, .blocker,
    literal "Package hardening requires a successful immutable package receipt." failedCheck_message,
    [literal "package_receipt_status:blocked" (by decide +kernel)]⟩

theorem fileLimit_pos : 1 ≤ 250 := by decide

theorem byteLimit_pos : 1 ≤ 5 * 1024 * 1024 := by decide

/-- The limits of a policy that sets none. -/
def hardeningPolicy : PackageHardeningPolicy where
  maxFileCount := ⟨250, fileLimit_pos⟩
  maxTotalBytes := ⟨5 * 1024 * 1024, byteLimit_pos⟩

def hardening : PackageHardeningReceipt :=
  ⟨{ candidate := none
     buildStatus := .blocked
     status := .blocked
     packageDigest := none
     effectivePolicy := hardeningPolicy
     includedFiles := []
     fileCount := 0
     totalSizeBytes := 0
     hardeningChecks := [failedCheck]
     blockers := [failedCheck]
     warnings := []
     acceptanceTrace := [literal "portable-package" portablePackage_text] }, by
    simp [PackageHardeningReceiptData.validate, validateWith_eq_ok, failedCheck,
      PackageHardeningReceiptData.statusMatchesChecks, PackageHardeningReceiptData.checksOf]⟩

def request : RegistryPreparationRequest :=
  ⟨⟨⟨⟨literal "team-registry" (by decide +kernel), literal "team" (by decide +kernel)⟩, by decide +kernel⟩,
    literal "sample" (by decide +kernel), literal "2.0.0" (by decide +kernel), ["evidence/preparation.json".toList]⟩,
    by decide +kernel⟩

end PreparationDemo

/-- The receipt of a package that was not built keeps no hardening blocker. -/
theorem preparation_drops_hardening_blockers :
    ∃ receipt, preparePrivateRegistryCandidate PreparationDemo.package PreparationDemo.hardening
        PreparationDemo.request = .ok receipt ∧ receipt.val.status = .blocked ∧
      ∃ c ∈ PreparationDemo.hardening.val.blockers,
        hardeningProjection hashlibSha256 c ∉ receipt.val.blockers.map Subtype.val := by
  obtain ⟨b, hb, hval⟩ := registryBlocker_ok hashlibSha256 PreparationDemo.packageBlocker
  have hbs : inputBlockers PreparationDemo.package PreparationDemo.hardening
      PreparationDemo.request = .ok [b] := by
    show (do return [← registryBlocker hashlibSha256 PreparationDemo.packageBlocker] :
      Except Raised _) = _
    rw [hb]
    rfl
  have hshort : hasLongInt PreparationDemo.hardening.val.toJson = false := by
    rw [PackageHardeningReceiptData.hasLongInt_toJson]
    decide +kernel
  obtain ⟨ws, heq⟩ := prepare_of_blockers hbs
  obtain ⟨receipt, hok, hreceipt⟩ := registryBlockedReceipt_ok (p := PreparationDemo.package)
    (r := PreparationDemo.request) b [] hshort ws
  refine ⟨receipt, heq.trans hok, by rw [hreceipt]; rfl, PreparationDemo.failedCheck, List.mem_singleton_self _,
    fun hmem => ?_⟩
  rw [hreceipt] at hmem
  have hsame : hardeningProjection hashlibSha256 PreparationDemo.failedCheck = b.val :=
    List.mem_singleton.mp hmem
  -- the only blocker of the receipt is that of the package
  have hcode : (hardeningProjection hashlibSha256 PreparationDemo.failedCheck).code ≠
      (packageProjection hashlibSha256 PreparationDemo.packageBlocker).code := by
    decide +kernel
  exact hcode (by rw [hsame, hval])

end SkillsSdk
