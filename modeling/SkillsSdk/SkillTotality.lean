/-
SkillsSdk/SkillTotality.lean

The steps of the validation of a skill package, and which of them raise.

A required path raises when no model can quote it (`raises_missingRequired_iff`),
a reference when its YAML raises what no handler lists (`referenceFindings_cases`).
`validateSkillPackage_eq` writes the validator as the sequence of its steps.
-/
import SkillsSdk.Raising
import SkillsSdk.SkillValidation

namespace SkillsSdk

/-! ### Required files -/

theorem isPortableStr_ofText (t : Text) : isPortableStr (PyStr.ofText t) = isPortable t := by
  rw [isPortableStr, PyStr.ofText, List.map_map]
  congr 1
  exact List.map_id t

/-- A required path that passes the policy can be quoted when it encodes. -/
theorem portable?_isSome_iff {s : PyStr} (h : isPortableStr s = true) :
    portable? s = none ↔ s.encode? = none := by
  rw [portable?]
  rcases hs : s.encode? with - | t
  · simp
  · obtain rfl := PyStr.encode?_eq_some_iff.mp hs
    rw [isPortableStr_ofText] at h
    simp [h]

theorem raises_missingRequired_iff {captured : CapturedBytes} {policy : SkillValidationPolicy}
    (h : ∀ path ∈ policy.requiredFiles, isPortableStr path = true) :
    Raises (missingRequired captured policy) ↔ ∃ path ∈ policy.requiredFiles, path.encode? = none := by
  rw [missingRequired, raises_mapM_iff]
  constructor
  · rintro ⟨path, hpath, hraises⟩
    have hmem := List.mem_of_mem_filter hpath
    refine ⟨path, hmem, (portable?_isSome_iff (h path hmem)).mp ?_⟩
    by_contra hne
    obtain ⟨p, hp⟩ := Option.ne_none_iff_exists'.mp hne
    rw [finding_of_portable hp] at hraises
    exact not_raises_ok hraises
  · rintro ⟨path, hpath, hencode⟩
    refine ⟨path, List.mem_filter.mpr ⟨hpath, ?_⟩, ?_⟩
    · rw [decide_eq_true_eq]
      intro hmem
      obtain ⟨c, -, rfl⟩ := List.mem_map.mp hmem
      rw [PyStr.encode?_ofText] at hencode
      cases hencode
    · exact finding_of_not_portable ((portable?_isSome_iff (h path hpath)).mpr hencode) _

/-- The findings about required files block. -/
theorem missingRequired_blockers {captured : CapturedBytes} {policy : SkillValidationPolicy}
    {fs : List SkillPackageFinding} (h : missingRequired captured policy = .ok fs) :
    ∀ f ∈ fs, f.severity = .blocker := by
  intro f hf
  obtain ⟨path, -, hpath⟩ := mem_of_mapM_eq_ok h f hf
  rw [finding, newFinding] at hpath
  split at hpath
  · rw [← Except.ok.inj hpath]
  · cases hpath

/-! ### Text references -/

/-- The exceptions that the handlers of `_reference_findings` list. -/
def referenceHandles : PyExc → Bool
  | .unicodeDecodeError | .valueError | .yamlError | .recursionError => true
  | _ => false

/-- The bytes of a YAML reference make `yaml.parse` end with the exception, within the budget. -/
def ReferenceRaises (parsers : Parsers) (path : PortablePath) (payload : List UInt8) (e : PyExc) :
    Prop :=
  ((PyStr.ofText (pathSuffix path.val)).lower = PyStr.lit ".yaml" ∨
      (PyStr.ofText (pathSuffix path.val)).lower = PyStr.lit ".yml") ∧
    payload.length ≤ maxReferenceTextBytes ∧
    ∃ text, decodeUtf8Sig payload = some text ∧ strip text ≠ [] ∧
      yamlWithinWorkBudget parsers text = .error e

theorem referenceFailure_eq_ok (path : PortablePath) {e : PyExc} (h : referenceHandles e = true) :
    ∃ f, referenceFailure path e = .ok [f] ∧ f.severity = .blocker := by
  cases e with
  | unicodeDecodeError => exact ⟨_, rfl, rfl⟩
  | valueError => exact ⟨_, rfl, rfl⟩
  | yamlError => exact ⟨_, rfl, rfl⟩
  | recursionError => exact ⟨_, rfl, rfl⟩
  | osError | typeError | keyError | other => cases h

theorem referenceFailure_eq_error {path : PortablePath} {e : PyExc} (h : referenceHandles e = false) :
    referenceFailure path e = .error e := by
  cases e with
  | unicodeDecodeError | valueError | yamlError | recursionError => cases h
  | osError | typeError | keyError | other => rfl

/-- A reference is checked to the end, unless its YAML raises what no handler
lists; what raised blocks. -/
theorem referenceFindings_cases (parsers : Parsers) (path : PortablePath) (payload : List UInt8) :
    (∃ e, ReferenceRaises parsers path payload e ∧ referenceHandles e = false ∧
      referenceFindings parsers path payload = .error e) ∨
    ∃ fs, referenceFindings parsers path payload = .ok fs ∧ (∀ f ∈ fs, f.severity = .blocker) ∧
      ∀ e, ReferenceRaises parsers path payload e → referenceHandles e = true ∧ fs ≠ [] := by
  rw [referenceFindings]
  by_cases hsuffix : (PyStr.ofText (pathSuffix path.val)).lower ∈ textReferenceSuffixes
  · rw [if_neg (not_not.mpr hsuffix)]
    -- the checks in the order of the source: size, encoding, blank text, then the parser
    by_cases hlong : maxReferenceTextBytes < payload.length
    · rw [if_pos hlong]
      exact Or.inr ⟨_, rfl, by simp [findingAt], fun e h => absurd h.2.1 (by omega)⟩
    · rw [if_neg hlong]
      rcases hdecode : decodeUtf8Sig payload with - | text
      · refine Or.inr ⟨[_], rfl, by simp [findingAt], ?_⟩
        rintro e ⟨-, -, text, htext, -⟩
        exact absurd (hdecode.symm.trans htext) (by simp)
      · dsimp only
        have htext : ∀ {text'}, decodeUtf8Sig payload = some text' → text = text' :=
          fun h => Option.some.inj (hdecode.symm.trans h)
        by_cases hblank : strip text = []
        · rw [if_pos hblank]
          refine Or.inr ⟨_, rfl, by simp [findingAt], ?_⟩
          rintro e ⟨-, -, text', htext', hne, -⟩
          exact absurd (htext htext' ▸ hblank) hne
        · rw [if_neg hblank]
          by_cases hjson : (PyStr.ofText (pathSuffix path.val)).lower = PyStr.lit ".json"
          -- whatever json.loads raises is handled
          · rw [if_pos hjson]
            have hnot : ∀ e, ¬ ReferenceRaises parsers path payload e := by
              rintro e ⟨h | h, -⟩
              · exact absurd (hjson.symm.trans h) (by decide +kernel)
              · exact absurd (hjson.symm.trans h) (by decide +kernel)
            right
            rcases parsers.jsonLoads text with - | - | -
            · exact ⟨[], rfl, by simp, fun e h => absurd h (hnot e)⟩
            · exact ⟨[_], rfl, by simp [findingAt], fun e h => absurd h (hnot e)⟩
            · exact ⟨[_], rfl, by simp [findingAt], fun e h => absurd h (hnot e)⟩
          · rw [if_neg hjson]
            split_ifs with hyaml
            · have hraises : ∀ e, ReferenceRaises parsers path payload e ↔
                  yamlWithinWorkBudget parsers text = .error e := by
                intro e
                constructor
                · rintro ⟨-, -, text', htext', -, h⟩
                  exact (htext htext').symm ▸ h
                · exact fun h => ⟨hyaml, by omega, text, hdecode, hblank, h⟩
              simp only [hraises]
              -- only the YAML loader raises what no handler lists
              rcases hbudget : yamlWithinWorkBudget parsers text with e | (- | -)
              · cases hhandles : referenceHandles e with
                | true =>
                  obtain ⟨f, hf, hblocker⟩ := referenceFailure_eq_ok path hhandles
                  refine Or.inr ⟨[f], hf, by simpa using hblocker, fun e' he' => ?_⟩
                  obtain rfl := Except.error.inj he'
                  exact ⟨hhandles, by simp⟩
                | false => exact Or.inl ⟨e, rfl, hhandles, referenceFailure_eq_error hhandles⟩
              · exact Or.inr ⟨[_], rfl, by simp [findingAt], fun e' he' => by cases he'⟩
              · exact Or.inr ⟨[], rfl, by simp, fun e' he' => by cases he'⟩
            · exact Or.inr ⟨[], rfl, by simp, fun e h => absurd h.1 hyaml⟩
  · rw [if_pos hsuffix]
    refine Or.inr ⟨[], rfl, by simp, fun e h => absurd ?_ hsuffix⟩
    rcases h.1 with h | h
    · rw [h]
      decide +kernel
    · rw [h]
      decide +kernel

/-! ### What the validator returns -/

section

variable {parsers : Parsers} {sha256 : List UInt8 → Sha256} {policy : SkillValidationPolicy}
  {source : PackageSource}

theorem modelCall_eq_ok_iff {α : Type*} {x : Except ValidationError α} {a : α} :
    modelCall x = .ok a ↔ x = .ok a := mapError_eq_ok_iff

/-- What a scanned package gives. -/
theorem inspectPackage_eq_ok {i : Inspected} (h : inspectPackage parsers sha256 source policy = .ok i) :
    ∃ scan required identity entrypoint, scanFiles sha256 policy source.root = .ok scan ∧
      packagePolicyFindings parsers scan.captured policy = .ok required ∧
      capturedSkillIdentity parsers source.rootName (scan.captured.lookup skillMdPath) policy =
        .ok (identity, entrypoint) ∧
      i = ⟨scan.files, identity, scan.findings ++ required ++ entrypoint⟩ := by
  rw [inspectPackage] at h
  obtain ⟨scan, hscan, h⟩ := bind_eq_ok_iff.mp h
  obtain ⟨required, hrequired, h⟩ := bind_eq_ok_iff.mp h
  obtain ⟨⟨identity, entrypoint⟩, hidentity, h⟩ := bind_eq_ok_iff.mp h
  exact ⟨scan, required, identity, entrypoint, hscan, hrequired,
    mapError_eq_ok_iff.mp hidentity, (Except.ok.inj h).symm⟩

/-- The steps of the checks of the root. -/
theorem inspectRoot_eq : inspectRoot parsers sha256 source policy =
    match source.isDirectory with
    | .error e => .error (.exc e)
    | .ok false => .ok { findings := [plainFinding invalidPackageRoot] }
    | .ok true =>
      match source.hasSkillMd with
      | .error e => .error (.exc e)
      | .ok false =>
        .ok { findings := rootNameFindings source.rootName ++ [findingAt missingSkillMd skillMdPath] }
      | .ok true => do
        let inspected ← inspectPackage parsers sha256 source policy
        return { inspected with findings := rootNameFindings source.rootName ++ inspected.findings } := by
  rw [inspectRoot]
  rcases source.isDirectory with e | (- | -)
  · rfl
  · rfl
  · rcases source.hasSkillMd with e | (- | -) <;> rfl

/-- The root is refused with findings, or its package is inspected. -/
theorem inspectRoot_eq_ok {i : Inspected} (h : inspectRoot parsers sha256 source policy = .ok i) :
    (i.files = [] ∧ i.identity = none ∧ i.findings ≠ []) ∨
      (source.isDirectory = .ok true ∧ source.hasSkillMd = .ok true ∧
        ∃ inspected, inspectPackage parsers sha256 source policy = .ok inspected ∧
          i = { inspected with findings := rootNameFindings source.rootName ++ inspected.findings }) := by
  rw [inspectRoot_eq] at h
  split at h
  case h_1 => cases h
  case h_2 =>
    obtain rfl := Except.ok.inj h
    exact Or.inl ⟨rfl, rfl, List.cons_ne_nil _ _⟩
  case h_3 hdirectory =>
    split at h
    case h_1 => cases h
    case h_2 =>
      obtain rfl := Except.ok.inj h
      exact Or.inl ⟨rfl, rfl, List.append_ne_nil_of_right_ne_nil _ (List.cons_ne_nil _ _)⟩
    case h_3 hskill =>
      obtain ⟨inspected, hinspected, h⟩ := bind_eq_ok_iff.mp h
      exact Or.inr ⟨hdirectory, hskill, inspected, hinspected, (Except.ok.inj h).symm⟩

/-- The findings about the revision. -/
def revisionFindings (sourceRevision : PyStr) : List SkillPackageFinding :=
  if revision? sourceRevision = none then [plainFinding invalidSourceRevision] else []

/-- The candidate of a valid revision. -/
def candidate? (sha256 : List UInt8 → Sha256) (rootName sourceRevision : PyStr)
    (files : List PackageManifestFile) : Except SkillRaised (Option PackageCandidateIdentity) :=
  match revision? sourceRevision with
  | some revision => some <$> candidateOf sha256 rootName revision files
  | none => .ok none

/-- The result that the validator builds of what it found. -/
def resultOf (sourceRevision : PyStr) (i : Inspected) (candidate : Option PackageCandidateIdentity) :
    SkillPackageValidationData :=
  let findings := revisionFindings sourceRevision ++ i.findings
  { candidate := candidate
    status := if findings.any (·.severity = .blocker) then .blocked else .pass
    identity := i.identity
    files := i.files
    findings := findings }

/-- The steps of the validator, when the policy is valid. -/
theorem validateSkillPackage_eq {sourceRevision : PyStr} (hpolicy : policyFindings policy = []) :
    validateSkillPackage parsers sha256 source sourceRevision policy = (do
      let i ← inspectRoot parsers sha256 source policy
      let candidate ← candidate? sha256 source.rootName sourceRevision i.files
      modelCall (construct SkillPackageValidationData.validate (resultOf sourceRevision i candidate))) := by
  rw [validateSkillPackage, if_neg (not_not.mpr hpolicy)]
  rcases inspectRoot parsers sha256 source policy with e | i
  · rfl
  · rcases hrevision : revision? sourceRevision with - | revision
    · simp only [hrevision, candidate?, resultOf, revisionFindings]
      rfl
    · simp only [hrevision, candidate?, resultOf, revisionFindings]

/-- The result, when the policy is valid. -/
theorem validateSkillPackage_eq_ok {sourceRevision : PyStr} {r : SkillPackageValidation}
    (hpolicy : policyFindings policy = [])
    (h : validateSkillPackage parsers sha256 source sourceRevision policy = .ok r) :
    ∃ i candidate, inspectRoot parsers sha256 source policy = .ok i ∧
      candidate? sha256 source.rootName sourceRevision i.files = .ok candidate ∧
      r.val = resultOf sourceRevision i candidate := by
  rw [validateSkillPackage_eq hpolicy] at h
  obtain ⟨i, hi, h⟩ := bind_eq_ok_iff.mp h
  obtain ⟨candidate, hcandidate, h⟩ := bind_eq_ok_iff.mp h
  exact ⟨i, candidate, hi, hcandidate, construct_eq_ok_iff.mp (modelCall_eq_ok_iff.mp h)⟩

/-- A policy with findings blocks, before a candidate is resolved. -/
theorem validateSkillPackage_of_policy {sourceRevision : PyStr}
    (hpolicy : policyFindings policy ≠ []) :
    ∃ r, validateSkillPackage parsers sha256 source sourceRevision policy = .ok r ∧
      r.val.status = .blocked ∧ r.val.candidate = none := by
  have hblockers : ∀ f ∈ policyFindings policy, f.severity = .blocker := by
    rw [policyFindings]
    split_ifs <;> simp [plainFinding]
  have hvalid : SkillPackageValidationData.validate
      { status := .blocked, findings := policyFindings policy } = .ok () := by
    refine (SkillPackageValidationData.validate_blocked_iff rfl).mpr ⟨?_, List.nodup_nil⟩
    obtain ⟨f, hf⟩ := List.exists_mem_of_ne_nil _ hpolicy
    exact List.ne_nil_of_mem (List.mem_filter.mpr ⟨hf, by simpa using hblockers f hf⟩)
  refine ⟨⟨_, hvalid⟩, ?_, rfl, rfl⟩
  rw [validateSkillPackage, if_pos hpolicy, construct_of_ok hvalid]
  rfl

end

end SkillsSdk
