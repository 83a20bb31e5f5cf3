/-
SkillsSdk/CoverageLaws.lean

What a coverage assessment returns.
-/
import SkillsSdk.Coverage
import SkillsSdk.SkillHazards

namespace SkillsSdk

/-! ### A quality assessment that passes -/

section

variable {lib : QualityLibrary}

/-- The selected cases of a document in which ten active cases are found. -/
structure ActiveSet (packageId : PackageId) (setId : NonEmptyText) (payload : YamlValue)
    (members : YamlMembers) (selected : List YamlValue) : Prop where
  members_eq : members? payload = some members
  document : documentDrafts packageId payload = []
  sets : setDrafts .v2 (some (PyStr.ofText setId.val)) members = []
  selection : selectReleaseCases (documentCases payload)
    (releaseSets .v2 (some (PyStr.ofText setId.val)) members) (some (PyStr.ofText setId.val)) =
      .ok ([], selected)
  unique : (selected.filterMap caseText?).Nodup
  ten : selected.length = 10

/-- A receipt in the second version has the given fields. -/
theorem versionedReceipt_v2_eq_ok {r : ScenarioQualityReceiptData} {q : ScenarioQualityReceipt}
    (h : versionedReceipt r .v2 = .ok q) : q.val = { r with version := .v2 } := by
  rw [versionedReceipt] at h
  obtain ⟨first, -, h⟩ := bind_eq_ok_iff.mp h
  rw [if_neg (by decide), receiptIn] at h
  exact construct_eq_ok_iff.mp (mapError_eq_ok_iff.mp h)

/-- A valid selector is the set of the receipt. -/
theorem setIdField_eq_ok {selector : PyStr} {field : Option NonEmptyText}
    (hvalid : selectorValid (some selector) = true) (h : setIdField (some selector) = .ok field) :
    ∃ setId, field = some setId ∧ PyStr.ofText setId.val = selector := by
  have hselector : validSelector (some selector) = some selector := by rw [validSelector, if_pos hvalid]
  rw [setIdField, hselector] at h
  rcases htext : nonEmptyText? selector with - | setId
  · simp [htext] at h
  · have hfield : some (some setId) = some field := by simpa [mapM_nonEmptyText?_some, htext] using h
    refine ⟨setId, (Option.some.inj hfield).symm, ?_⟩
    obtain ⟨t, ht, hif⟩ := Option.bind_eq_some_iff.mp htext
    obtain rfl := PyStr.encode?_eq_some_iff.mp ht
    split_ifs at hif with hne
    rw [selectorValid, Option.all_some, Bool.and_eq_true, beq_iff_eq] at hvalid
    rw [← Option.some.inj hif]
    exact congrArg PyStr.ofText (trim_of_strip hvalid.2.symm)

/-- What `loadPayload` loads under a selector is the parsed document. -/
theorem loadPayload_eq_ok {files : List PackageManifestFile} {evals : Except EvalsFailure YamlValue}
    {selector : Option PyStr} {loaded : List FindingDraft × Option YamlValue}
    (h : loadPayload files evals selector = .ok loaded) (hnil : loaded.1 = []) :
    selectorValid selector = true ∧ evalsPath ∈ files.map (·.path) ∧
      ∃ payload, evals = .ok payload ∧ loaded.2 = some payload := by
  unfold loadPayload at h
  split_ifs at h with hselector hfile
  · rw [← Except.ok.inj h] at hnil
    cases hnil
  · refine ⟨by simpa using hselector, hfile, ?_⟩
    rcases evals with failure | payload
    · obtain ⟨d, -, hd⟩ := bind_eq_ok_iff.mp h
      rw [← Except.ok.inj hd] at hnil
      cases hnil
    · exact ⟨payload, rfl, by rw [← Except.ok.inj h]⟩
  · rw [← Except.ok.inj h] at hnil
    cases hnil

/-- The version of an assessment is the one asked for, and it is about the candidate. -/
theorem assessPayload_eq_ok {candidate : PackageCandidateIdentity} {selector : PyStr}
    {loading : List FindingDraft} {payload : Option YamlValue} {q : ScenarioQualityReceipt}
    (h : assessPayload lib candidate (some selector) .v2 loading payload = .ok q) :
    q.val.version = .v2 ∧ q.val.candidate = some candidate ∧
      setIdField (some selector) = .ok q.val.scenarioSetId ∧ (q.val.status = .pass →
        loading = [] ∧ earlyDrafts candidate.packageId .v2 (some selector) payload = [] ∧
          ∃ selected, selectReleaseCases ((payload.map documentCases).getD [])
              (keptSets .v2 (some selector) payload) (validSelector (some selector)) = .ok ([], selected) ∧
            duplicateDrafts selected = [] ∧ selected.length = q.val.scenarioCount) := by
  rw [assessPayload] at h
  dsimp only at h
  rw [if_neg (by simp)] at h
  obtain ⟨early, hearly, h⟩ := bind_eq_ok_iff.mp h
  obtain ⟨⟨selecting, selected⟩, hselect, h⟩ := bind_eq_ok_iff.mp h
  obtain ⟨selection, hselection, h⟩ := bind_eq_ok_iff.mp h
  obtain ⟨found, -, h⟩ := bind_eq_ok_iff.mp h
  obtain ⟨categories, -, h⟩ := bind_eq_ok_iff.mp h
  obtain ⟨late, -, h⟩ := bind_eq_ok_iff.mp h
  rw [qualityReceipt] at h
  obtain ⟨setId, hsetId, h⟩ := bind_eq_ok_iff.mp h
  have hq := versionedReceipt_v2_eq_ok h
  refine ⟨by rw [hq], by rw [hq], by rw [hq]; exact hsetId, fun hstatus => ?_⟩
  rw [hq] at hstatus
  dsimp only at hstatus
  -- no finding of any stage is left
  have hnil : early ++ selection ++ found.flatten ++ late = [] := by
    by_contra hne
    rw [if_neg hne] at hstatus
    cases hstatus
  obtain ⟨hnil, -⟩ := List.append_eq_nil_iff.mp hnil
  obtain ⟨hnil, -⟩ := List.append_eq_nil_iff.mp hnil
  obtain ⟨hnil, hselectionnil⟩ := List.append_eq_nil_iff.mp hnil
  have hearlynil := (emitAll_eq_nil_iff hearly).mp hnil
  obtain ⟨hloading, hdrafts⟩ := List.append_eq_nil_iff.mp hearlynil
  obtain ⟨hselecting, hduplicates⟩ := List.append_eq_nil_iff.mp ((emitAll_eq_nil_iff hselection).mp hselectionnil)
  obtain rfl : selecting = [] := hselecting
  exact ⟨hloading, hdrafts, selected, hselect, hduplicates, by rw [hq]⟩

/-- **A passing assessment** has read a document with an active set of ten cases. -/
theorem assessScenarioQuality_pass {validation : SkillPackageValidation}
    {evals : Except EvalsFailure YamlValue} {selector : PyStr} {q : ScenarioQualityReceipt}
    (h : assessScenarioQuality lib validation evals (some selector) .v2 = .ok q)
    (hpass : q.val.status = .pass) :
    validation.val.status = .pass ∧ evalsPath ∈ validation.val.files.map (·.path) ∧
      ∃ candidate setId payload members selected, validation.val.candidate = some candidate ∧
        q.val.candidate = some candidate ∧ q.val.scenarioSetId = some setId ∧ evals = .ok payload ∧
        ActiveSet candidate.packageId setId payload members selected := by
  rw [assessScenarioQuality] at h
  split at h
  · rename_i candidate hcandidate hstatus
    obtain ⟨⟨loading, payload⟩, hloaded, h⟩ := bind_eq_ok_iff.mp h
    obtain ⟨hversion, hcand, hset, hfound⟩ := assessPayload_eq_ok h
    obtain ⟨hloading, hdrafts, selected, hselect, hunique, hcount⟩ := hfound hpass
    obtain ⟨hvalid, hfile, payload, hevals, rfl⟩ := loadPayload_eq_ok hloaded hloading
    obtain ⟨setId, hsetId, rfl⟩ := setIdField_eq_ok hvalid hset
    have hselector : validSelector (some (PyStr.ofText setId.val)) = some (PyStr.ofText setId.val) := by
      rw [validSelector, if_pos hvalid]
    obtain ⟨hdrafts, -⟩ := List.append_eq_nil_iff.mp hdrafts
    obtain ⟨hdocument, hsets⟩ := List.append_eq_nil_iff.mp hdrafts
    rcases hmembers : members? payload with - | members
    · -- a document that is no mapping is reported
      have hcases : documentDrafts candidate.packageId payload ≠ [] := by
        cases payload with
        | dict members => cases hmembers
        | none | bool | int | float | str | bytes | date | list | tuple | set => exact List.cons_ne_nil _ _
      exact absurd hdocument hcases
    · rw [hmembers, Option.map_some, Option.getD_some, hselector] at hsets
      rw [hselector, keptSets, Option.bind_some, hmembers, Option.map_some, Option.getD_some, hselector,
        Option.map_some, Option.getD_some] at hselect
      have hten : q.val.scenarioCount = 10 := by
        obtain ⟨-, hrules⟩ := validateWith_eq_ok.mp q.2
        have hactive := hrules _ (List.mem_append_right _ (by
          rw [ScenarioQualityReceiptData.passingActiveSetHasTenCases, hversion]
          exact List.mem_singleton_self _))
        rw [violation_fst] at hactive
        by_contra hne
        exact hactive ⟨hpass, Or.inr hne⟩
      have hnodup : (selected.filterMap caseText?).Nodup := by
        by_contra hne
        rw [duplicateDrafts, if_neg hne] at hunique
        cases hunique
      exact ⟨hstatus, hfile, candidate, setId, payload, members, selected, hcandidate, hcand, hsetId, hevals,
        hmembers, hdocument, hsets, hselect, hnodup, hcount.trans hten⟩
  · -- a blocked validation gives a blocked receipt
    rw [blockedValidationReceipt] at h
    obtain ⟨setId, -, h⟩ := bind_eq_ok_iff.mp h
    rw [versionedReceipt_v2_eq_ok h] at hpass
    cases hpass

theorem assessScenarioQuality_version {validation : SkillPackageValidation}
    {evals : Except EvalsFailure YamlValue} {selector : PyStr} {q : ScenarioQualityReceipt}
    (h : assessScenarioQuality lib validation evals (some selector) .v2 = .ok q) : q.val.version = .v2 := by
  rw [assessScenarioQuality] at h
  split at h
  · obtain ⟨loaded, -, h⟩ := bind_eq_ok_iff.mp h
    exact (assessPayload_eq_ok h).1
  · rw [blockedValidationReceipt] at h
    obtain ⟨setId, -, h⟩ := bind_eq_ok_iff.mp h
    rw [versionedReceipt_v2_eq_ok h]

/-- Every selected case of a set is a mapping with an id that is a text. -/
theorem caseText?_of_selection {cases selected : List YamlValue} {sets : List YamlMembers} {id : PyStr}
    {drafts : List FindingDraft} (h : selectReleaseCases cases sets (some id) = .ok (drafts, selected)) :
    ∀ case ∈ selected, ∃ members t, case = .dict members ∧ (yamlGet members "id").text? = some t := by
  rw [selectReleaseCases] at h
  obtain ⟨values, -, h⟩ := bind_eq_ok_iff.mp h
  intro case hcase
  split_ifs at h
  · obtain rfl : [] = selected := congrArg Prod.snd (Except.ok.inj h)
    exact absurd hcase List.not_mem_nil
  · obtain ⟨ids, -, h⟩ := bind_eq_ok_iff.mp h
    have hselected : ids.filterMap (caseById cases) = selected := congrArg Prod.snd (Except.ok.inj h)
    rw [← hselected] at hcase
    obtain ⟨t, -, hfound⟩ := List.mem_filterMap.mp hcase
    have htext : caseText? case = some t := by simpa using List.find?_some hfound
    cases case with
    | dict members => exact ⟨members, t, rfl, htext⟩
    | none | bool | int | float | str | bytes | date | list | tuple | set => cases htext

/-- The selected cases of a set are cases of the document. -/
theorem mem_of_selection {cases selected : List YamlValue} {sets : List YamlMembers} {id : PyStr}
    {drafts : List FindingDraft} (h : selectReleaseCases cases sets (some id) = .ok (drafts, selected)) :
    ∀ case ∈ selected, case ∈ cases := by
  rw [selectReleaseCases] at h
  obtain ⟨values, -, h⟩ := bind_eq_ok_iff.mp h
  intro case hcase
  split_ifs at h
  · obtain rfl : [] = selected := congrArg Prod.snd (Except.ok.inj h)
    exact absurd hcase List.not_mem_nil
  · obtain ⟨ids, -, h⟩ := bind_eq_ok_iff.mp h
    have hselected : ids.filterMap (caseById cases) = selected := congrArg Prod.snd (Except.ok.inj h)
    rw [← hselected] at hcase
    obtain ⟨t, -, hfound⟩ := List.mem_filterMap.mp hcase
    exact List.mem_reverse.mp (List.mem_of_find?_eq_some hfound)

end

/-! ### The candidate binds the document -/

section

variable {parsers : Parsers} {sha256 : List UInt8 → Sha256} {source : PackageSource} {revision : PyStr}

theorem policyFindings_default : policyFindings {} = [] := rfl

/-- The candidate of a validation has the digest of its files. -/
theorem contentSha256_of_validate {v : SkillPackageValidation} {candidate : PackageCandidateIdentity}
    (h : validateSkillPackage parsers sha256 source revision = .ok v)
    (hcandidate : v.val.candidate = some candidate) :
    candidate.contentSha256 = candidateContentSha256 sha256 (v.val.files.map PackageManifestFile.record) := by
  obtain ⟨i, found, -, hfound, hv⟩ := validateSkillPackage_eq_ok policyFindings_default h
  rw [hv] at hcandidate ⊢
  obtain rfl : found = some candidate := hcandidate
  rw [candidate?] at hfound
  rcases hrevision : revision? revision with - | git
  · rw [hrevision] at hfound
    cases hfound
  · rw [hrevision] at hfound
    rcases candidateOf_cases sha256 source.rootName git i.files with
      ⟨-, herror⟩ | ⟨-, c, hok, -, hcontent, -⟩
    · dsimp only at hfound
      rw [herror] at hfound
      cases hfound
    · dsimp only at hfound
      rw [hok] at hfound
      obtain rfl : c = candidate := Option.some.inj (Except.ok.inj hfound)
      exact hcontent

theorem nul_not_mem_asPosix (names : List FileName) : PyChar.scalar '\x00' ∉ asPosix names := by
  have hname : ∀ name : FileName, PyChar.scalar '\x00' ∉ name.val := by
    intro name
    have h := name.2
    simp only [isFileName, Bool.and_eq_true, Bool.not_eq_true'] at h
    simpa using h.2
  rcases names with - | ⟨first, rest⟩
  · decide +kernel
  · change PyChar.scalar '\x00' ∉ List.intercalate [PyChar.scalar '/'] ((first :: rest).map Subtype.val)
    induction rest generalizing first with
    | nil => simpa using hname first
    | cons second rest ih =>
      rw [List.map_cons, List.map_cons, List.intercalate_cons_cons, List.mem_append, List.mem_append,
        List.mem_singleton]
      rintro ((h | h) | h)
      · exact hname first h
      · exact absurd h (by decide)
      · exact ih second h

/-- No path of a package that passes has a NUL. -/
theorem nul_not_mem_of_pass {v : SkillPackageValidation}
    (h : validateSkillPackage parsers sha256 source revision = .ok v) (hpass : v.val.status = .pass) :
    ∀ f ∈ v.val.files.map PackageManifestFile.record, '\x00' ∉ f.1 := by
  obtain ⟨scan, hscan, hfiles, -⟩ := validateSkillPackage_pass h hpass
  have hok : ScanOk sha256 source.root scan := scanOk_of_scanFiles source.distinct hscan
  intro record hrecord
  obtain ⟨f, hf, rfl⟩ := List.mem_map.mp hrecord
  obtain ⟨path, payload, hmem, rfl⟩ := (hok.files_iff f).mp (hfiles ▸ hf)
  have hcaptures := (hok.captured_iff path payload).mp hmem
  rcases hsource : source.root with - | - | - | ⟨changed, entries⟩
  · rw [hsource] at hcaptures
    exact hcaptures.elim
  · rw [hsource] at hcaptures
    exact hcaptures.elim
  · rw [hsource] at hcaptures
    exact hcaptures.elim
  · rw [hsource] at hcaptures
    obtain ⟨parent, name, node, hmet, hcaptures⟩ := hcaptures
    intro hnul
    have hposix := portable?_eq_some_iff.mp hcaptures.path_eq
    apply nul_not_mem_asPosix (parent ++ [name])
    rw [hposix]
    exact List.mem_map_of_mem hnul

/-- The digest of the document is that of its record. -/
theorem evalsDigest_eq (v : SkillPackageValidation) :
    evalsDigest v =
      ((v.val.files.map PackageManifestFile.record).find? (·.1 = evalsPath.val)).map Prod.snd := by
  rw [evalsDigest, List.find?_map, Option.map_map]
  have hpath : (fun f : PackageManifestFile => decide (f.path = evalsPath)) =
      (fun r : Text × Sha256 => decide (r.1 = evalsPath.val)) ∘ PackageManifestFile.record := by
    funext f
    exact decide_eq_decide.mpr Subtype.ext_iff
  rw [hpath]
  rfl

end

variable {lib : CoverageLibrary} {first second final : PackageState} {revision selector : PyStr}
  {supplied : Option ScenarioCoveragePlan}

/-- The bytes that the candidate of a validation is the digest of. -/
def candidateBytes (v : SkillPackageValidation) : List UInt8 :=
  candidatePreimage (v.val.files.map PackageManifestFile.record)

/-- The digests that tie two reads to each other do not collide: neither those of the
documents nor those of the candidates. -/
structure CollisionFree (lib : CoverageLibrary) (first second : PackageState) (revision : PyStr) : Prop where
  documents : ∀ a b, first.evals = .ok a → second.evals = .ok b → lib.sha256 a = lib.sha256 b → a = b
  candidates : ∀ v w, validateState lib first revision = .ok v → validateState lib second revision = .ok w →
    lib.sha256 (candidateBytes v) = lib.sha256 (candidateBytes w) → candidateBytes v = candidateBytes w

/-- **Two reads with one candidate** list the document under one digest. -/
theorem digest_eq_of_candidate_eq
    (hcollision : CollisionFree lib first second revision)
    {v w : SkillPackageValidation} (hv : validateState lib first revision = .ok v)
    (hw : validateState lib second revision = .ok w) (hvpass : v.val.status = .pass)
    (hwpass : w.val.status = .pass) (h : v.val.candidate = w.val.candidate) :
    evalsDigest v = evalsDigest w := by
  obtain ⟨candidate, hcandidate⟩ := Option.ne_none_iff_exists'.mp
    ((SkillPackageValidationData.validate_pass_iff hvpass).mp v.2).2.1.1
  have hdigest := (contentSha256_of_validate hv hcandidate).symm.trans
    (contentSha256_of_validate hw (h ▸ hcandidate))
  have hbytes := hcollision.candidates v w hv hw hdigest
  rw [evalsDigest_eq, evalsDigest_eq,
    records_eq_of_nul_free (nul_not_mem_of_pass hv hvpass) (nul_not_mem_of_pass hw hwpass) hbytes]

/-! ### The second read -/

theorem loadEvals_eq_ok {expected : Option Sha256} {evals : Except EvalsFailure (List UInt8)}
    {payload : YamlValue} (h : loadEvals lib expected evals = .ok payload) :
    ∃ bytes, evals = .ok bytes ∧ some (lib.sha256 bytes) = expected ∧ lib.parse bytes = .ok payload := by
  obtain ⟨bytes, hbytes, h⟩ := bind_eq_ok_iff.mp h
  split_ifs at h with hdigest
  exact ⟨bytes, hbytes, hdigest, h⟩

/-- The ids of the selected cases of a set are written as they are. -/
theorem shownIds_of_selection {cases selected : List YamlValue} {sets : List YamlMembers} {id : PyStr}
    {drafts : List FindingDraft} (h : selectReleaseCases cases sets (some id) = .ok (drafts, selected)) :
    (selected.filterMap members?).mapM (shownId lib) = .ok (selected.filterMap caseText?) := by
  rw [mapM_eq_ok_iff]
  have htexts := caseText?_of_selection h
  clear h
  induction selected with
  | nil => rfl
  | cons case selected ih =>
    obtain ⟨ms, t, rfl, ht⟩ := htexts case List.mem_cons_self
    have hshown : shownId lib ms = .ok t := by
      obtain ⟨hstr, -⟩ := strip_of_text? ht
      rw [shownId]
      rcases hlookup : ms.lookup (PyStr.lit "id") with - | v
      · rw [yamlGet, hlookup] at hstr
        cases hstr
      · rw [yamlGet, hlookup, Option.getD_some] at hstr
        rw [hstr]
        rfl
    rw [List.filterMap_cons_some (show members? (.dict ms) = some ms from rfl),
      List.filterMap_cons_some (show caseText? (.dict ms) = some t from ht), List.map_cons, List.map_cons,
      hshown, ih fun case hcase => htexts case (List.mem_cons_of_mem _ hcase)]

theorem ActiveSet.length_ids {packageId : PackageId} {setId : NonEmptyText} {payload : YamlValue}
    {members : YamlMembers} {selected : List YamlValue}
    (h : ActiveSet packageId setId payload members selected) : (selected.filterMap caseText?).length = 10 := by
  rw [List.filterMap_length_eq_length.mpr, h.ten]
  intro case hcase
  obtain ⟨ms, t, rfl, ht⟩ := caseText?_of_selection h.selection case hcase
  exact Option.isSome_iff_exists.mpr ⟨t, ht⟩

/-- An active set gives its ten ids and no findings. -/
theorem documentIds_of_activeSet {packageId : PackageId} {setId : NonEmptyText} {payload : YamlValue}
    {members : YamlMembers} {selected : List YamlValue}
    (h : ActiveSet packageId setId payload members selected) :
    documentIds lib packageId (some (PyStr.ofText setId.val)) (.ok payload) =
      .ok ⟨[], selected.filterMap caseText?⟩ := by
  rw [documentIds, h.members_eq]
  dsimp only
  rw [h.document, h.sets, h.selection]
  change (do return (⟨[] ++ [], ← (selected.filterMap members?).mapM (shownId lib)⟩ : ActiveIds)) = _
  rw [shownIds_of_selection h.selection]
  rfl

/-- A document that does not load is reported, and no ids are left. -/
theorem documentIds_of_failure {packageId : PackageId} {sel : Option PyStr} {failure : EvalsFailure}
    (h : ∀ e, failure ≠ .unlisted e) :
    ∃ fs, fs ≠ [] ∧ documentIds lib packageId sel (.error failure) = .ok { findings := fs } := by
  obtain ⟨d, hd, hsound⟩ := failureDraft_eq_ok h
  have hemits : ¬ Raises (emitAll (d :: documentDrafts packageId .none)) := by
    rw [raises_emitAll_iff]
    rintro ⟨d', hd', hunsound⟩
    rcases List.mem_cons.mp hd' with rfl | hd'
    · rw [hsound] at hunsound
      cases hunsound
    · rw [List.mem_singleton.mp hd', draft_sound] at hunsound
      cases hunsound
  obtain ⟨fs, hfs⟩ := ok_of_not_raises hemits
  refine ⟨fs, fun hnil => List.cons_ne_nil _ _ ((emitAll_eq_nil_iff hfs).mp hnil), ?_⟩
  rw [documentIds, hd]
  change (do return ({ findings := ← emitAll (d :: documentDrafts packageId .none) } : ActiveIds)) = _
  rw [hfs]
  rfl

/-- What the quality assessment of the first read has found when it passes. -/
structure QualityRead (lib : CoverageLibrary) (state : PackageState) (revision : PyStr)
    (quality : ScenarioQualityReceipt) (validation : SkillPackageValidation)
    (candidate : PackageCandidateIdentity) (setId : NonEmptyText) (payload : YamlValue)
    (members : YamlMembers) (selected : List YamlValue) : Prop where
  validated : validateState lib state revision = .ok validation
  pass : validation.val.status = .pass
  candidate_eq : validation.val.candidate = some candidate
  quality_candidate : quality.val.candidate = some candidate
  quality_set : quality.val.scenarioSetId = some setId
  listed : evalsPath ∈ validation.val.files.map (·.path)
  loaded : loadEvals lib (evalsDigest validation) state.evals = .ok payload
  active : ActiveSet candidate.packageId setId payload members selected

theorem readQuality_pass {quality : ScenarioQualityReceipt}
    (h : readQuality lib first revision selector = .ok quality) (hpass : quality.val.status = .pass) :
    ∃ validation candidate setId payload members selected,
      QualityRead lib first revision quality validation candidate setId payload members selected := by
  obtain ⟨validation, hvalidated, h⟩ := bind_eq_ok_iff.mp h
  obtain ⟨hstatus, hlisted, candidate, setId, payload, members, selected, hcandidate, hquality, hset, hloaded,
    hactive⟩ := assessScenarioQuality_pass (mapError_eq_ok_iff.mp h) hpass
  exact ⟨validation, candidate, setId, payload, members, selected,
    ⟨hvalidated, hstatus, hcandidate, hquality, hset, hlisted, hloaded, hactive⟩⟩

/-- What the quality assessment of a document that is loaded reads. -/
theorem readQuality_of_loaded {state : PackageState} {v : SkillPackageValidation}
    {candidate : PackageCandidateIdentity} {payload : YamlValue}
    (hv : validateState lib state revision = .ok v) (hpass : v.val.status = .pass)
    (hcandidate : v.val.candidate = some candidate) (hlisted : evalsPath ∈ v.val.files.map (·.path))
    (hload : loadEvals lib (evalsDigest v) state.evals = .ok payload)
    (hselector : selectorValid (some selector) = true) :
    readQuality lib state revision selector =
      (assessPayload lib.quality candidate (some selector) .v2 [] (some payload)).mapError .exc := by
  have hloaded : loadPayload v.val.files (.ok payload) (some selector) = .ok ([], some payload) := by
    rw [loadPayload, if_neg (by simp [hselector]), if_neg (not_not.mpr hlisted)]
  have hassess : assessScenarioQuality lib.quality v (.ok payload) (some selector) .v2 =
      assessPayload lib.quality candidate (some selector) .v2 [] (some payload) := by
    rw [assessScenarioQuality, hcandidate, hpass]
    dsimp only
    rw [hloaded]
    rfl
  rw [readQuality, hv, ← hassess, ← hload]
  rfl

theorem readQuality_version {quality : ScenarioQualityReceipt}
    (h : readQuality lib first revision selector = .ok quality) : quality.val.version = .v2 := by
  obtain ⟨validation, -, h⟩ := bind_eq_ok_iff.mp h
  exact assessScenarioQuality_version (mapError_eq_ok_iff.mp h)

/-- A file that is listed has a digest. -/
theorem evalsDigest_ne_none {validation : SkillPackageValidation}
    (h : evalsPath ∈ validation.val.files.map (·.path)) : ∃ digest, evalsDigest validation = some digest := by
  obtain ⟨f, hf, hpath⟩ := List.mem_map.mp h
  rw [evalsDigest]
  rcases hfind : validation.val.files.find? (·.path = evalsPath) with - | g
  · exact absurd hpath (by simpa using List.find?_eq_none.mp hfind f hf)
  · exact ⟨g.sha256, by rw [hfind]; rfl⟩

/-- The digest of a captured document is listed when the package passes. -/
theorem evalsDigest_of_captured {state : PackageState} {v : SkillPackageValidation}
    (h : validateState lib state revision = .ok v) (hpass : v.val.status = .pass)
    {bytes : List UInt8} (hcaptured : RootCaptures state.source.root evalsPath bytes) :
    evalsDigest v = some (lib.sha256 bytes) := by
  obtain ⟨scan, hscan, hfiles, -⟩ := validateSkillPackage_pass h hpass
  have hok := scanOk_of_scanFiles state.source.distinct hscan
  have hmem : (evalsPath, bytes) ∈ scan.captured := (hok.captured_iff evalsPath bytes).mpr hcaptured
  have hlisted : fileRecord lib.sha256 evalsPath bytes ∈ v.val.files :=
    hfiles ▸ (hok.files_iff _).mpr ⟨evalsPath, bytes, hmem, rfl⟩
  rw [evalsDigest]
  rcases hfind : v.val.files.find? (·.path = evalsPath) with - | f
  · exact absurd (List.find?_eq_none.mp hfind _ hlisted) (by simp [fileRecord])
  · -- the path is captured once, so the record that is found is that of these bytes
    have hpath : f.path = evalsPath := by simpa using List.find?_some hfind
    obtain ⟨path, payload, hcap, rfl⟩ := (hok.files_iff f).mp (hfiles ▸ List.mem_of_find?_eq_some hfind)
    obtain rfl : path = evalsPath := hpath
    obtain ⟨-, rfl⟩ := Prod.mk.inj (List.inj_on_of_nodup_map hok.keys_nodup hcap hmem rfl)
    rw [hfind]
    rfl

/-- What `activeIds` does with a validated package. -/
def activeIdsOf (lib : CoverageLibrary) (second : PackageState) (quality : ScenarioQualityReceipt)
    (w : SkillPackageValidation) : Except SkillRaised ActiveIds :=
  if w.val.status ≠ .pass ∨ w.val.candidate ≠ quality.val.candidate then
    .ok { findings := [coverageFinding candidateChangedAfter] }
  else
    match w.val.candidate, evalsDigest w with
    | some candidate, some digest =>
      (documentIds lib candidate.packageId (receiptSelector quality)
        (loadEvals lib (some digest) second.evals)).mapError .exc
    | _, _ => .error (.exc .other)

theorem activeIds_of_validated {quality : ScenarioQualityReceipt} {w : SkillPackageValidation}
    (hw : validateState lib second revision = .ok w) :
    activeIds lib second revision quality = activeIdsOf lib second quality w := by
  rw [activeIds, hw]
  rfl

/-- **The second read** finds the active set of the first, or says that it does not. -/
theorem activeIds_cases {quality : ScenarioQualityReceipt} {validation : SkillPackageValidation}
    {candidate : PackageCandidateIdentity} {setId : NonEmptyText} {payload : YamlValue}
    {members : YamlMembers} {selected : List YamlValue}
    (hread : QualityRead lib first revision quality validation candidate setId payload members selected)
    (hcollision : CollisionFree lib first second revision)
    (hsecond : ¬ Raises (validateState lib second revision))
    (hcapture : ∀ e, second.evals ≠ .error (.unlisted e)) :
    (∃ fs, fs ≠ [] ∧ activeIds lib second revision quality = .ok { findings := fs }) ∨
      activeIds lib second revision quality = .ok ⟨[], selected.filterMap caseText?⟩ := by
  obtain ⟨w, hw⟩ := ok_of_not_raises hsecond
  rw [activeIds_of_validated hw, activeIdsOf]
  by_cases hchanged : w.val.status ≠ .pass ∨ w.val.candidate ≠ quality.val.candidate
  · rw [if_pos hchanged]
    exact Or.inl ⟨_, List.cons_ne_nil _ _, rfl⟩
  rw [if_neg hchanged]
  push Not at hchanged
  obtain ⟨hpass, hsame⟩ := hchanged
  rw [hread.quality_candidate] at hsame
  have hdigests := digest_eq_of_candidate_eq hcollision hread.validated hw hread.pass hpass
    (hread.candidate_eq.trans hsame.symm)
  obtain ⟨digest, hdigest⟩ := evalsDigest_ne_none hread.listed
  have hselector : receiptSelector quality = some (PyStr.ofText setId.val) := by
    rw [receiptSelector, hread.quality_set]
    rfl
  rw [hsame, ← hdigests, hdigest, hselector]
  dsimp only
  rcases hload : loadEvals lib (some digest) second.evals with failure | again
  · have hlisted : ∀ e, failure ≠ .unlisted e := by
      rintro e rfl
      rcases bind_eq_error_iff.mp hload with hevals | ⟨bytes, hbytes, hparse⟩
      · exact hcapture e hevals
      · -- what parses once parses again
        split_ifs at hparse with hmatch
        · obtain ⟨bytes', hbytes', hmatch', hparsed⟩ := loadEvals_eq_ok hread.loaded
          have hequal := hcollision.documents bytes' bytes hbytes' hbytes
            (Option.some.inj (hmatch'.trans (hdigest.trans hmatch.symm)))
          rw [← hequal, hparsed] at hparse
          cases hparse
        · cases hparse
    obtain ⟨fs, hne, hfs⟩ : ∃ fs, fs ≠ [] ∧ documentIds lib candidate.packageId
        (some (PyStr.ofText setId.val)) (.error failure) = .ok { findings := fs } :=
      documentIds_of_failure hlisted
    rw [hfs]
    exact Or.inl ⟨fs, hne, rfl⟩
  · obtain ⟨bytes, hbytes, hmatch, hparse⟩ := loadEvals_eq_ok hload
    obtain ⟨bytes', hbytes', hmatch', hparse'⟩ := loadEvals_eq_ok hread.loaded
    have hequal := hcollision.documents bytes' bytes hbytes' hbytes
      (Option.some.inj (hmatch'.trans (hdigest.trans hmatch.symm)))
    rw [← hequal, hparse'] at hparse
    obtain rfl := Except.ok.inj hparse
    rw [documentIds_of_activeSet hread.active]
    exact Or.inr rfl

/-! ### The findings and the result -/

/-- The findings of an audit are findings. -/
theorem auditFindings_eq_ok (p : ScenarioCoveragePlanData) (active : List Text) :
    ∃ fs, (p.audit active).mapM auditFinding = .ok fs ∧ (fs = [] ↔ p.audit active = []) := by
  have hsome : ∀ text ∈ p.audit active, ¬ Raises (auditFinding text) := by
    have hfixed : ∀ text : String × String, isBlockerCode text.1.toList = true →
        isNonEmptyText text.2.toList = true → ¬ Raises (auditFinding text) := by
      intro text hcode hmessage
      rw [auditFinding, dif_pos ⟨hcode, hmessage⟩]
      exact not_raises_ok
    intro text htext
    have hmem := ScenarioCoveragePlanData.mem_audit htext
    simp only [List.mem_cons, List.not_mem_nil, or_false] at hmem
    rcases hmem with rfl | rfl | rfl | rfl
    · exact hfixed _ (by decide +kernel) (by decide +kernel)
    · exact hfixed _ (by decide +kernel) (by decide +kernel)
    · exact hfixed _ (by decide +kernel) (by decide +kernel)
    · exact hfixed _ (by decide +kernel) (by decide +kernel)
  have hreturns : ¬ Raises ((p.audit active).mapM auditFinding) := by
    rw [raises_mapM_iff]
    rintro ⟨text, htext, hraises⟩
    exact hsome text htext hraises
  obtain ⟨fs, hfs⟩ := ok_of_not_raises hreturns
  refine ⟨fs, hfs, ?_⟩
  have hlength := congrArg List.length (mapM_eq_ok_iff.mp hfs)
  rw [List.length_map, List.length_map] at hlength
  rw [← List.length_eq_zero_iff, ← hlength, List.length_eq_zero_iff]

theorem planMismatch_eq_nil_iff {plan : ScenarioCoveragePlan} {quality : ScenarioQualityReceipt} :
    planMismatch plan quality = [] ↔ some plan.val.candidate = quality.val.candidate ∧
      some plan.val.scenarioSetId = quality.val.scenarioSetId := by
  rw [planMismatch]
  split_ifs with h
  · refine iff_of_false (by simp) fun hsame => ?_
    exact h.elim (fun hne => hne hsame.1) fun hne => hne hsame.2
  · push Not at h
    exact iff_of_true rfl h

/-- **The plan's findings**: none exactly when there is no plan, or the plan binds the
candidate and the set and, over active cases, its audit reports nothing. -/
theorem planFindings_eq_ok (supplied : Option ScenarioCoveragePlan) (quality : ScenarioQualityReceipt)
    (active : List PyStr) :
    ∃ fs, planFindings supplied quality active = .ok fs ∧ (fs = [] ↔ ∀ p, supplied = some p →
      (some p.val.candidate = quality.val.candidate ∧ some p.val.scenarioSetId = quality.val.scenarioSetId) ∧
        (active ≠ [] → p.val.audit (active.filterMap PyStr.encode?) = [])) := by
  rcases supplied with - | p
  · exact ⟨[], rfl, iff_of_true rfl (by simp)⟩
  obtain ⟨fs, hfs, hnil⟩ : ∃ fs, auditFindings p active = .ok fs ∧
      (fs = [] ↔ (active ≠ [] → p.val.audit (active.filterMap PyStr.encode?) = [])) := by
    rw [auditFindings]
    by_cases hactive : active = []
    · exact ⟨[], if_pos hactive, iff_of_true rfl fun hne => absurd hactive hne⟩
    · obtain ⟨fs, hfs, hnil⟩ := auditFindings_eq_ok p.val (active.filterMap PyStr.encode?)
      exact ⟨fs, by rw [if_neg hactive, hfs], hnil.trans (by simp [hactive])⟩
  refine ⟨planMismatch p quality ++ fs, by rw [planFindings, hfs]; rfl, ?_⟩
  rw [List.append_eq_nil_iff, planMismatch_eq_nil_iff, hnil]
  constructor
  · rintro h p' hp'
    obtain rfl := Option.some.inj hp'
    exact h
  · exact fun h => h p rfl

theorem finalFindings_eq_ok {quality : ScenarioQualityReceipt} {active : List PyStr}
    (h : active ≠ [] → ¬ Raises (validateState lib final revision)) :
    ∃ fs, finalFindings lib final revision quality active = .ok fs := by
  rw [finalFindings]
  by_cases hactive : active = []
  · exact ⟨[], if_pos hactive⟩
  · obtain ⟨v, hv⟩ := ok_of_not_raises (h hactive)
    exact ⟨_, by rw [if_neg hactive, hv]; rfl⟩

/-- A package that is as it was has no finding against it at the end. -/
theorem finalFindings_of_same {quality : ScenarioQualityReceipt} {active : List PyStr} {v : SkillPackageValidation}
    (hv : validateState lib final revision = .ok v) (hpass : v.val.status = .pass)
    (hcandidate : v.val.candidate = quality.val.candidate) :
    finalFindings lib final revision quality active = .ok [] := by
  rw [finalFindings, hv]
  split_ifs with hactive
  · rfl
  · show Except.ok (if v.val.status ≠ .pass ∨ v.val.candidate ≠ quality.val.candidate then _ else []) = _
    rw [if_neg (by simp [hpass, hcandidate])]

/-- **The findings decide the result**: its model takes what they make of it. -/
theorem consistent_of_findings {quality : ScenarioQualityReceiptV2} {active : List Text}
    {findings : List ScenarioQualityFinding}
    (hexact : ∀ id ∈ active, ScenarioCoveragePlanData.isExactCaseId id = true) (hunique : active.Nodup)
    (hpass : findings = [] → quality.val.val.status = .pass ∧ active.length = 10 ∧ ∃ p, supplied = some p ∧
      some p.val.candidate = quality.val.val.candidate ∧
      some p.val.scenarioSetId = quality.val.val.scenarioSetId ∧ p.val.audit active = []) :
    (coverageResultData quality supplied active findings).Consistent := by
  have hsorted : findings.insertionSort coveragePrecedes = [] ↔ findings = [] := by
    rw [← List.length_eq_zero_iff, List.length_insertionSort, List.length_eq_zero_iff]
  have hstatus : (coverageResultData quality supplied active findings).status = .pass ↔ findings = [] := by
    rw [coverageResultData]
    dsimp only
    split_ifs with h
    · exact iff_of_true rfl h
    · exact iff_of_false (by simp) h
  refine ⟨hexact, rfl, rfl, hunique, rfl, fun h => ?_, fun h hnil => ?_, ?_⟩
  · have hnil := hstatus.mp h
    obtain ⟨hquality, hten, p, hplan, hcandidate, hset, haudit⟩ := hpass hnil
    exact ⟨hsorted.mpr hnil, p, hplan, ⟨hquality, hten, hcandidate, hset, haudit⟩⟩
  · rw [hstatus.mpr (hsorted.mp hnil)] at h
    cases h
  -- a complete coverage is a passing one without gaps
  · change (decide (findings = []) && supplied.any fun p => decide (p.val.gaps = [])) =
      (decide ((coverageResultData quality supplied active findings).status = .pass) &&
        (ScenarioCoverageResultData.expectedGaps supplied).isEmpty)
    rw [decide_eq_decide.mpr hstatus]
    by_cases hnil : findings = []
    · obtain ⟨-, -, p, hplan, -⟩ := hpass hnil
      rw [hplan, Option.any_some, ScenarioCoverageResultData.expectedGaps, Option.map_some, Option.getD_some,
        Bool.eq_iff_iff, Bool.and_eq_true, Bool.and_eq_true, List.isEmpty_iff, decide_eq_true_eq,
        ScenarioCoveragePlanData.sortedGapIds_eq_nil_iff, decide_eq_true_eq]
    · rw [decide_eq_false hnil, Bool.false_and, Bool.false_and]

/-- A text id that encodes is an exact case id. -/
theorem isExactCaseId_of_strip {t : Text} (h : (PyStr.ofText t).strip ≠ []) :
    ScenarioCoveragePlanData.isExactCaseId t = true := by
  obtain ⟨m, hm⟩ := Option.isSome_iff_exists.mp ((nonEmptyText?_isSome_iff h).mpr (encodes_ofText t))
  rw [nonEmptyText?, PyStr.encode?_ofText, Option.bind_some] at hm
  split_ifs at hm with hne
  rw [ScenarioCoveragePlanData.isExactCaseId, List.any_eq_true]
  by_contra hall
  push Not at hall
  refine hne (stripBy_eq_nil_iff.mpr fun c hc => ?_)
  simpa using hall c hc

theorem filterMap_encode?_ofText (texts : List Text) :
    (texts.map PyStr.ofText).filterMap PyStr.encode? = texts := by
  have hsome : PyStr.encode? ∘ PyStr.ofText = some := funext PyStr.encode?_ofText
  rw [List.filterMap_map, hsome, List.filterMap_some]

/-! ### The assessment -/

/-- The package can be validated: the operating system answers, no hazard lies in its
files, and the name of its directory stands for bytes. -/
structure Validates (lib : CoverageLibrary) (state : PackageState) : Prop where
  root : ¬ RootHazard lib.parsers {} state.source
  name : state.source.rootName.encodeEscaped? ≠ none

/-- What the assessment asks of its inputs.  The second and the last read, and the ids of
the cases, matter only where the first read passes. -/
structure Assessable (lib : CoverageLibrary) (first second final : PackageState)
    (revision selector : PyStr) : Prop where
  /-- A selector that names a set encodes. -/
  named : ∀ id, validSelector (some selector) = some id → Encodes id
  opens : Validates lib first
  /-- Loading the document ends in a way that some handler lists. -/
  loads : ∀ validation e, validateState lib first revision = .ok validation →
    loadEvals lib (evalsDigest validation) first.evals ≠ .error (.unlisted e)
  /-- A document that is read has sets that are read as they were accepted, and nothing in
  it that cannot be quoted, compiled or written. -/
  document : ∀ validation payload, validateState lib first revision = .ok validation →
    loadEvals lib (evalsDigest validation) first.evals = .ok payload →
    (∀ set ∈ keptSets .v2 (some selector) (readPayload validation payload (some selector)),
      ReadsAsValidated set) ∧
    ¬ QualityHazard lib.quality .v2 (some selector) (readPayload validation payload (some selector))
  later : (∃ quality, readQuality lib first revision selector = .ok quality ∧ quality.val.status = .pass) →
    Validates lib second ∧ (∀ e, second.evals ≠ .error (.unlisted e)) ∧ Validates lib final
  encodes : ∀ quality validation candidate setId payload members selected,
    readQuality lib first revision selector = .ok quality →
    QualityRead lib first revision quality validation candidate setId payload members selected →
      ∀ id ∈ selected.filterMap caseText?, Encodes id

theorem Validates.not_raises {state : PackageState} (h : Validates lib state) (revision : PyStr) :
    ¬ Raises (validateState lib state revision) :=
  not_raises_validateSkillPackage revision policyFindings_default h.root h.name

/-- A package that is validated under a revision is no hazard. -/
theorem validates_of_eq_ok {state : PackageState} {revision : GitRevision} {v : SkillPackageValidation}
    (h : validateState lib state (PyStr.ofText revision.val) = .ok v) : Validates lib state := by
  have hnot : ¬ Raises (validateState lib state (PyStr.ofText revision.val)) := h ▸ not_raises_ok
  rcases validateSkillPackage_cases lib.parsers lib.sha256 state.source revision policyFindings_default with
    ⟨-, hraises⟩ | ⟨hroot, hname, -⟩
  · exact absurd hraises hnot
  · exact ⟨hroot, hname⟩

/-- The first read returns. -/
theorem Assessable.quality (h : Assessable lib first second final revision selector) :
    ¬ Raises (readQuality lib first revision selector) := by
  rw [readQuality, raises_bind_iff]
  rintro (hraises | ⟨validation, hvalidated, hraises⟩)
  · exact h.opens.not_raises revision hraises
  rw [raises_mapError_iff] at hraises
  rcases hload : loadEvals lib (evalsDigest validation) first.evals with failure | payload
  · rw [hload] at hraises
    refine not_raises_of_failure (fun e he => ?_) ?_ .v2 hraises
    · exact h.loads validation e hvalidated (he ▸ hload)
    · rintro ⟨id, hid, hencodes⟩
      exact hencodes (h.named id hid)
  · rw [hload] at hraises
    obtain ⟨hsets, hsafe⟩ := h.document validation payload hvalidated hload
    exact hsafe ((raises_assessScenarioQuality_iff fun set hset =>
      (readAsAccepted_iff (acceptedIds?_of_kept hset)).mpr (hsets set hset)).mp hraises)

/-- The ids are those of the ten selected cases of the document that the read finds. -/
def TenActive (lib : CoverageLibrary) (state : PackageState) (revision : PyStr)
    (r : ScenarioCoverageResultData) : Prop :=
  ∃ validation payload members selected, validateState lib state revision = .ok validation ∧
    validation.val.status = .pass ∧ validation.val.candidate = r.candidate ∧
    loadEvals lib (evalsDigest validation) state.evals = .ok payload ∧ members? payload = some members ∧
    selectReleaseCases (documentCases payload)
        (releaseSets .v2 (r.scenarioSetId.map (PyStr.ofText ·.val)) members)
        (r.scenarioSetId.map (PyStr.ofText ·.val)) = .ok ([], selected) ∧
    selected.filterMap caseText? = r.activeCaseIds.map PyStr.ofText ∧ r.activeCaseIds.length = 10

/-- The supplied plan covers the active set: over the candidate and the set of the result,
each claim is mapped to one of the ten active cases, and no gap is open. -/
structure CoversActive (lib : CoverageLibrary) (first second final : PackageState) (revision : PyStr)
    (supplied : Option ScenarioCoveragePlan) (r : ScenarioCoverageResultData) : Prop where
  plan : ∃ p, supplied = some p ∧ some p.val.candidate = r.candidate ∧
    some p.val.scenarioSetId = r.scenarioSetId ∧ p.val.gaps = [] ∧
      ∀ c ∈ p.val.claims, ∃ m ∈ p.val.mappings, m.claimId = c.id ∧ ∃ id ∈ m.caseIds, id ∈ r.activeCaseIds
  quality : r.quality.val.val.status = .pass ∧ ∃ validation, validateState lib first revision = .ok validation ∧
    validation.val.status = .pass ∧ validation.val.candidate = r.candidate
  active : TenActive lib second revision r
  final : ∃ validation, validateState lib final revision = .ok validation ∧
    validation.val.status = .pass ∧ validation.val.candidate = r.candidate

/-- What an assessment that returns has put together. -/
structure Assembled (lib : CoverageLibrary) (first second final : PackageState) (revision selector : PyStr)
    (supplied : Option ScenarioCoveragePlan) (quality : ScenarioQualityReceiptV2) (active : ActiveIds)
    (planned changed : List ScenarioQualityFinding) : Prop where
  quality_eq : readQuality lib first revision selector = .ok quality.val
  active_eq : readActive lib second revision quality.val = .ok active
  planned_eq : planFindings supplied quality.val active.ids = .ok planned
  changed_eq : finalFindings lib final revision quality.val active.ids = .ok changed

/-- The findings of an assessment, before they are sorted. -/
def allFindings (supplied : Option ScenarioCoveragePlan) (quality : ScenarioQualityReceiptV2)
    (active : ActiveIds) (planned changed : List ScenarioQualityFinding) : List ScenarioQualityFinding :=
  quality.val.val.findings ++ invalidPlan supplied ++ active.findings ++ planned ++ changed

theorem Assembled.assess_eq {quality : ScenarioQualityReceiptV2} {active : ActiveIds}
    {planned changed : List ScenarioQualityFinding}
    (h : Assembled lib first second final revision selector supplied quality active planned changed) :
    assessScenarioCoverage lib first second final revision selector supplied =
      coverageResult quality supplied active.ids (allFindings supplied quality active planned changed) := by
  rw [assessScenarioCoverage, h.quality_eq]
  change (if h : quality.val.val.version = .v2 then _ else _) = _
  rw [dif_pos quality.2, h.active_eq]
  change ((planFindings supplied quality.val active.ids).mapError SkillRaised.exc >>= _) = _
  rw [h.planned_eq]
  change (finalFindings lib final revision quality.val active.ids >>= _) = _
  rw [h.changed_eq]
  rfl

/-- A result comes of such parts. -/
theorem exists_assembled {r : ScenarioCoverageResult}
    (h : assessScenarioCoverage lib first second final revision selector supplied = .ok r) :
    ∃ quality active planned changed,
      Assembled lib first second final revision selector supplied quality active planned changed ∧
        coverageResult quality supplied active.ids (allFindings supplied quality active planned changed) =
          .ok r := by
  have hassess := h
  rw [assessScenarioCoverage] at h
  obtain ⟨quality, hquality, h⟩ := bind_eq_ok_iff.mp h
  rw [dif_pos (readQuality_version hquality)] at h
  obtain ⟨active, hactive, h⟩ := bind_eq_ok_iff.mp h
  obtain ⟨planned, hplanned, h⟩ := bind_eq_ok_iff.mp h
  obtain ⟨changed, hchanged, -⟩ := bind_eq_ok_iff.mp h
  have hparts : Assembled lib first second final revision selector supplied
      ⟨quality, readQuality_version hquality⟩ active planned changed :=
    ⟨hquality, hactive, mapError_eq_ok_iff.mp hplanned, hchanged⟩
  exact ⟨_, active, planned, changed, hparts, hparts.assess_eq.symm.trans hassess⟩

/-- No finding of any stage is left. -/
theorem allFindings_eq_nil_iff {quality : ScenarioQualityReceiptV2} {active : ActiveIds}
    {planned changed : List ScenarioQualityFinding} :
    allFindings supplied quality active planned changed = [] ↔
      quality.val.val.findings = [] ∧ supplied ≠ none ∧ active.findings = [] ∧ planned = [] ∧ changed = [] := by
  simp only [allFindings, List.append_eq_nil_iff, invalidPlan, ite_eq_right_iff, List.cons_ne_nil, imp_false,
    Bool.not_eq_true, Option.isNone_eq_false_iff, Option.isSome_iff_ne_none, and_assoc]

/-- A receipt without findings passes. -/
theorem pass_of_no_findings (quality : ScenarioQualityReceipt) (h : quality.val.findings = []) :
    quality.val.status = .pass := by
  rcases hstatus : quality.val.status with - | -
  · rfl
  · obtain ⟨-, hrules⟩ := validateWith_eq_ok.mp quality.2
    have hblocked := hrules (violation (quality.val.status = .blocked ∧ quality.val.findings = [])
      "blocked scenario quality requires findings")
      (List.mem_append_left _ (by simp [ScenarioQualityReceiptData.statusMatchesEvidence]))
    rw [violation_fst] at hblocked
    exact absurd ⟨hstatus, h⟩ hblocked

/-- The texts of the ids make a result that the model takes. -/
theorem coverageResult_returns {quality : ScenarioQualityReceiptV2} {active : ActiveIds}
    {planned changed : List ScenarioQualityFinding} {texts : List Text}
    (hparts : Assembled lib first second final revision selector supplied quality active planned changed)
    (hids : active.ids = texts.map PyStr.ofText)
    (hexact : ∀ id ∈ texts, ScenarioCoveragePlanData.isExactCaseId id = true) (hunique : texts.Nodup)
    (hten : active.findings = [] → quality.val.val.status = .pass → texts.length = 10) :
    ∃ r, assessScenarioCoverage lib first second final revision selector supplied = .ok r := by
  have hconsistent : (coverageResultData quality supplied texts
      (allFindings supplied quality active planned changed)).Consistent := by
    apply consistent_of_findings hexact hunique
    intro hnil
    obtain ⟨hfindings, hsome, hactive, hplanned, -⟩ := allFindings_eq_nil_iff.mp hnil
    have hpass := pass_of_no_findings quality.val hfindings
    have hlength := hten hactive hpass
    obtain ⟨p, hp⟩ := Option.ne_none_iff_exists'.mp hsome
    obtain ⟨fs, hfs, hclean⟩ := planFindings_eq_ok supplied quality.val active.ids
    obtain rfl := Except.ok.inj (hfs.symm.trans hparts.planned_eq)
    obtain ⟨⟨hcandidate, hset⟩, haudit⟩ := hclean.mp hplanned p hp
    -- ten cases are more than none, so the plan was audited
    have hne : active.ids ≠ [] := by
      rw [hids]
      intro hempty
      rw [List.map_eq_nil_iff.mp hempty] at hlength
      cases hlength
    have haudit := haudit hne
    rw [hids, filterMap_encode?_ofText] at haudit
    exact ⟨hpass, hlength, p, hp, hcandidate, hset, haudit⟩
  refine ⟨⟨_, ScenarioCoverageResultData.validate_eq_ok_iff.mpr hconsistent⟩, ?_⟩
  rw [hparts.assess_eq, coverageResult, hids, mapM_encode?_ofText]
  dsimp only
  rw [construct_of_ok (ScenarioCoverageResultData.validate_eq_ok_iff.mpr hconsistent)]
  rfl

/-- **An assessment of assessable inputs** returns a result that its model accepts. -/
theorem assessScenarioCoverage_returns
    (hcollision : CollisionFree lib first second revision)
    (h : Assessable lib first second final revision selector) :
    ∃ r, assessScenarioCoverage lib first second final revision selector supplied = .ok r := by
  obtain ⟨quality, hquality⟩ := ok_of_not_raises h.quality
  have hversion := readQuality_version hquality
  -- the parts after the active ids, whatever these are
  have hassemble : ∀ (active : ActiveIds) (texts : List Text), readActive lib second revision quality = .ok active →
      active.ids = texts.map PyStr.ofText →
      (active.ids ≠ [] → ¬ Raises (validateState lib final revision)) →
      (∀ id ∈ texts, ScenarioCoveragePlanData.isExactCaseId id = true) → texts.Nodup →
      (active.findings = [] → quality.val.status = .pass → texts.length = 10) →
      ∃ r, assessScenarioCoverage lib first second final revision selector supplied = .ok r := by
    intro active texts hactive hids hfinal hexact hunique hten
    obtain ⟨planned, hplanned, -⟩ := planFindings_eq_ok supplied quality active.ids
    obtain ⟨changed, hchanged⟩ : ∃ fs, finalFindings lib final revision quality active.ids = .ok fs :=
      finalFindings_eq_ok hfinal
    have hparts : Assembled lib first second final revision selector supplied ⟨quality, hversion⟩ active
        planned changed := ⟨hquality, hactive, hplanned, hchanged⟩
    exact coverageResult_returns hparts hids hexact hunique hten
  by_cases hpass : quality.val.status = .pass
  · obtain ⟨validation, candidate, setId, payload, members, selected, hread⟩ := readQuality_pass hquality hpass
    obtain ⟨hsecond, hcaptured, hfinal⟩ := h.later ⟨quality, hquality, hpass⟩
    have hreadActive : readActive lib second revision quality = activeIds lib second revision quality :=
      if_pos hpass
    rcases activeIds_cases hread hcollision (hsecond.not_raises revision) hcaptured with ⟨fs, hne, hfs⟩ | hids
    · refine hassemble _ [] (hreadActive.trans hfs) rfl (fun hempty => absurd rfl hempty) (by simp)
        List.nodup_nil fun hnil => absurd hnil hne
    · obtain ⟨texts, htexts⟩ := exists_texts
        (h.encodes quality validation candidate setId payload members selected hquality hread)
      refine hassemble _ texts (hreadActive.trans hids) htexts (fun _ => hfinal.not_raises revision) ?_ ?_
        fun _ _ => ?_
      · intro id hid
        have hmem : PyStr.ofText id ∈ selected.filterMap caseText? := htexts ▸ List.mem_map_of_mem hid
        obtain ⟨case, hcase, htext⟩ := List.mem_filterMap.mp hmem
        obtain ⟨ms, t, rfl, ht⟩ := caseText?_of_selection hread.active.selection case hcase
        exact isExactCaseId_of_strip (strip_of_text? htext).2
      · exact List.Nodup.of_map PyStr.ofText (htexts ▸ hread.active.unique)
      · have hlength := congrArg List.length htexts
        rw [hread.active.length_ids, List.length_map] at hlength
        exact hlength.symm
  · refine hassemble {} [] (if_neg hpass) rfl (fun hempty => absurd rfl hempty) (by simp) List.nodup_nil
      fun _ hp => absurd hp hpass

/-- Ids without a finding are those of the selected cases of a loaded document. -/
theorem activeIds_eq_ok {quality : ScenarioQualityReceipt} {setId : NonEmptyText} {active : ActiveIds}
    (hset : quality.val.scenarioSetId = some setId)
    (h : activeIds lib second revision quality = .ok active) (hnil : active.findings = []) :
    ∃ validation payload members selected, validateState lib second revision = .ok validation ∧
      validation.val.status = .pass ∧ validation.val.candidate = quality.val.candidate ∧
      loadEvals lib (evalsDigest validation) second.evals = .ok payload ∧ members? payload = some members ∧
      selectReleaseCases (documentCases payload) (releaseSets .v2 (receiptSelector quality) members)
        (receiptSelector quality) = .ok ([], selected) ∧ active.ids = selected.filterMap caseText? := by
  rw [activeIds] at h
  obtain ⟨validation, hvalidated, h⟩ := bind_eq_ok_iff.mp h
  -- a package that changed since the assessment is a finding
  by_cases hchanged : validation.val.status ≠ .pass ∨ validation.val.candidate ≠ quality.val.candidate
  · rw [if_pos hchanged] at h
    rw [← Except.ok.inj h] at hnil
    cases hnil
  rw [if_neg hchanged] at h
  push Not at hchanged
  have hselector : receiptSelector quality = some (PyStr.ofText setId.val) := by
    rw [receiptSelector, hset]
    rfl
  split at h
  · rename_i candidate digest hcandidate hdigest
    have h := mapError_eq_ok_iff.mp h
    rw [← hdigest] at h
    -- so is a document that does not load, and one that is no mapping
    rcases hload : loadEvals lib (evalsDigest validation) second.evals with failure | payload
    · rw [hload, documentIds] at h
      obtain ⟨loading, -, h⟩ := bind_eq_ok_iff.mp h
      obtain ⟨fs, hfs, h⟩ := bind_eq_ok_iff.mp h
      rw [← Except.ok.inj h] at hnil
      exact absurd ((emitAll_eq_nil_iff hfs).mp hnil) (List.cons_ne_nil _ _)
    · rw [hload, documentIds] at h
      rcases hmembers : members? payload with - | members
      · rw [hmembers] at h
        obtain ⟨fs, hfs, h⟩ := bind_eq_ok_iff.mp h
        rw [← Except.ok.inj h] at hnil
        have hdrafts := (emitAll_eq_nil_iff hfs).mp hnil
        cases payload with
        | dict members => cases hmembers
        | none | bool | int | float | str | bytes | date | list | tuple | set =>
          exact absurd hdrafts (List.cons_ne_nil _ _)
      · rw [hmembers] at h
        obtain ⟨early, -, h⟩ := bind_eq_ok_iff.mp h
        obtain ⟨selection, hselection, h⟩ := bind_eq_ok_iff.mp h
        obtain ⟨late, hlate, h⟩ := bind_eq_ok_iff.mp h
        obtain ⟨ids, hids, h⟩ := bind_eq_ok_iff.mp h
        obtain rfl := Except.ok.inj h
        -- no finding is left, so the selection made none
        have hdrafts := (emitAll_eq_nil_iff hlate).mp (List.append_eq_nil_iff.mp hnil).2
        have hselected : selectReleaseCases (documentCases payload)
            (releaseSets .v2 (receiptSelector quality) members) (receiptSelector quality) =
              .ok ([], selection.2) := by
          rw [hselection, ← hdrafts]
        refine ⟨validation, payload, members, selection.2, hvalidated, hchanged.1, hchanged.2, hload, hmembers,
          hselected, ?_⟩
        rw [hselector] at hselected
        rw [shownIds_of_selection hselected] at hids
        exact (Except.ok.inj hids).symm
  · cases h

/-- **A complete result covers the active set** of the package. -/
theorem coversActive_of_complete {r : ScenarioCoverageResult}
    (h : assessScenarioCoverage lib first second final revision selector supplied = .ok r)
    (hcomplete : r.val.coverageComplete = true) :
    CoversActive lib first second final revision supplied r.val := by
  obtain ⟨hstatus, p, hplan, hpassing, hgaps, hcovers⟩ := r.covers hcomplete
  obtain ⟨quality, active, planned, changed, hparts, hresult⟩ := exists_assembled h
  -- the fields of the result
  obtain ⟨ids, hids, hdata⟩ : ∃ ids, active.ids.mapM PyStr.encode? = some ids ∧ r.val =
      coverageResultData quality supplied ids (allFindings supplied quality active planned changed) := by
    rw [coverageResult] at hresult
    rcases hids : active.ids.mapM PyStr.encode? with - | ids
    · rw [hids] at hresult
      cases hresult
    · rw [hids] at hresult
      exact ⟨ids, rfl, construct_eq_ok_iff.mp (modelCall_eq_ok_iff.mp hresult)⟩
  have hnil : allFindings supplied quality active planned changed = [] := by
    by_contra hne
    rw [hdata, coverageResultData, if_neg hne] at hstatus
    cases hstatus
  obtain ⟨hfindings, -, hactivenil, -, hchangednil⟩ := allFindings_eq_nil_iff.mp hnil
  have hpass := pass_of_no_findings quality.val hfindings
  obtain ⟨validation, candidate, setId, payload, members, selected, hread⟩ :=
    readQuality_pass hparts.quality_eq hpass
  have hcandidate : r.val.candidate = quality.val.val.candidate := by rw [hdata]; rfl
  have hset : r.val.scenarioSetId = quality.val.val.scenarioSetId := by rw [hdata]; rfl
  have htexts : active.ids = r.val.activeCaseIds.map PyStr.ofText := by
    rw [eq_of_mapM_encode? hids, hdata]
    rfl
  have hactive := hparts.active_eq
  rw [readActive, if_pos hpass] at hactive
  obtain ⟨w, document, mapping, cases, hw, hwpass, hwcandidate, hload, hmembers, hselect, hshown⟩ :=
    activeIds_eq_ok hread.quality_set hactive hactivenil
  refine ⟨⟨p, ?_, hpassing.candidate_eq, hpassing.set_eq, hgaps, hcovers⟩, ⟨?_, validation, hread.validated,
    hread.pass, ?_⟩, ⟨w, document, mapping, cases, hw, hwpass, ?_, hload, hmembers, ?_, ?_, hpassing.ten⟩, ?_⟩
  · rw [← hplan, hdata]
    rfl
  · exact hpassing.quality_eq
  · rw [hcandidate, hread.candidate_eq, hread.quality_candidate]
  · rw [hwcandidate, hcandidate]
  · rw [hset]
    exact hselect
  · rw [← hshown, htexts]
  · have hne : active.ids ≠ [] := by
      intro hempty
      have hlength := hpassing.ten
      rw [htexts, List.map_eq_nil_iff] at hempty
      rw [hempty] at hlength
      cases hlength
    have hchanged := hparts.changed_eq
    rw [finalFindings, if_neg hne] at hchanged
    obtain ⟨v, hv, hchanged⟩ := bind_eq_ok_iff.mp hchanged
    have hchanged := (Except.ok.inj hchanged).trans hchangednil
    split_ifs at hchanged with hdiffers
    push Not at hdiffers
    exact ⟨v, hv, hdiffers.1, hdiffers.2.trans hcandidate.symm⟩

/-- **What a coverage audit finds and what an assessment returns.**  The two checks
report nothing exactly when the mappings relate each declared claim, and nothing
else, to active cases and declared gaps.  An assessment of assessable inputs returns
a result that its model accepts, whatever is supplied as the plan; and a result is
complete only if its plan covers the ten active cases of its candidate. -/
theorem coverage_characterized :
    (∀ (p : ScenarioCoveragePlanData) (active : List Text),
      (p.declarationFindings = [] ∧ p.audit active = []) ↔ p.MapsClaims active ∧ p.MapsOnlyDeclared) ∧
    ∀ (lib : CoverageLibrary) (first second final : PackageState) (revision selector : PyStr)
      (supplied : Option ScenarioCoveragePlan),
      (CollisionFree lib first second revision →
        Assessable lib first second final revision selector →
        ∃ r, assessScenarioCoverage lib first second final revision selector supplied = .ok r) ∧
      ∀ r, assessScenarioCoverage lib first second final revision selector supplied = .ok r →
        r.val.coverageComplete = true → CoversActive lib first second final revision supplied r.val := by
  refine ⟨fun p active => ScenarioCoveragePlanData.audit_eq_nil_iff, ?_⟩
  intro lib first second final revision selector supplied
  exact ⟨assessScenarioCoverage_returns, fun r h hcomplete => coversActive_of_complete h hcomplete⟩

/-! ### A mapping of a claim that is not declared -/

namespace CoverageDemo

def declared : PackageId := literal "declared" (by decide +kernel)

def undeclared : PackageId := literal "undeclared" (by decide +kernel)

/-- The one declared claim is mapped to an active case, and so is a claim that is not declared. -/
def strayMapping : ScenarioCoveragePlanData where
  candidate := strayGroupsCandidate
  scenarioSetId := literal "active set" (by decide +kernel)
  claims := [⟨declared, literal "the skill declines" (by decide +kernel)⟩]
  mappings := [⟨declared, ["one".toList], []⟩, ⟨undeclared, ["one".toList], []⟩]
  gaps := []

theorem strayMapping_mapsClaims : strayMapping.MapsClaims ["one".toList] where
  claims_unique := by decide +kernel
  gaps_unique := by decide +kernel
  mapped_once := by decide +kernel
  names_some := by decide +kernel
  no_repeats := by decide +kernel
  cases_active := by decide +kernel
  gaps_declared := by decide +kernel
  gaps_named := by decide +kernel

/-- A root that is no directory. -/
def absentPackage : PackageState where
  source := ⟨PyStr.lit "demo", (.ok false), (.ok false), .unopened, trivial⟩
  evals := .error .unicodeDecodeError

/-- A selector that is a lone surrogate. -/
def loneSurrogate : PyStr := [.surrogate ⟨0x80, by decide⟩]

def library : CoverageLibrary where
  parsers := ⟨fun _ _ => .error .yamlError, fun _ => ([], none), fun _ => .valueError⟩
  sha256 := hashlibSha256
  quality := strayGroupsLibrary
  parse := fun _ => .error .unicodeDecodeError

/-- The mapping of the undeclared claim is reported; and a selector that does not
encode makes the assessment raise. -/
theorem stray_mapping_reported_and_selector_raises :
    (strayMapping.MapsClaims ["one".toList] ∧ strayMapping.audit ["one".toList] ≠ []) ∧
      Raises (assessScenarioCoverage library absentPackage absentPackage absentPackage (PyStr.lit "main")
        loneSurrogate none) :=
  ⟨⟨strayMapping_mapsClaims, by decide +kernel⟩, .exc .valueError, rfl⟩

/-! ### A package with ten cases -/

/-- The ids of the ten cases. -/
def caseIds : List Text := "0123456789".toList.map fun c => ['c', c]

def category (id : Text) : Text := if id = "c0".toList then "edge".toList else "pressure".toList

/-- `{id: …, category: …, …}`, as it stands in the document. -/
def caseText (id : Text) : Text :=
  "\x7bid: ".toList ++ id ++ ", category: ".toList ++ category id ++
    (", unit: u, given: g, should: s, realistic: true, why_realistic: w, prompt: p, reproduce: r, " ++
      "deterministic_checks: \x7bforbidden_commands: []\x7d, eval_modes: [release], " ++
      "acceptance: [\x7btype: contains, value: x\x7d]\x7d").toList

def evalsText : Text :=
  ("\x7bschema_version: '2.0', skill_name: demo, release_scenario_sets: [\x7bid: active, " ++
    "minimum_scenarios: 10, target_scenarios: 10, maximum_scenarios: 10, cases: [").toList ++
    List.intercalate ", ".toList caseIds ++ "]\x7d], cases: [".toList ++
    List.intercalate ", ".toList (caseIds.map caseText) ++ "]\x7d\n".toList

def yamlText (s : String) : YamlValue := .str (PyStr.lit s)

/-- What the text of a case is parsed to. -/
def caseValue (id : Text) : YamlValue :=
  .dict ([("id", .str (PyStr.ofText id)), ("category", .str (PyStr.ofText (category id))), ("unit", yamlText "u"),
    ("given", yamlText "g"), ("should", yamlText "s"), ("realistic", .bool true), ("why_realistic", yamlText "w"),
    ("prompt", yamlText "p"), ("reproduce", yamlText "r"),
    ("deterministic_checks", .dict [(PyStr.lit "forbidden_commands", .list [])]),
    ("eval_modes", .list [yamlText "release"]),
    ("acceptance", .list [.dict [(PyStr.lit "type", yamlText "contains"), (PyStr.lit "value", yamlText "x")]])].map
      fun (m : String × YamlValue) => (PyStr.lit m.1, m.2))

def evalsValue : YamlValue :=
  .dict ([("schema_version", yamlText "2.0"), ("skill_name", yamlText "demo"),
    ("release_scenario_sets", .list [.dict ([("id", yamlText "active"), ("minimum_scenarios", .int 10),
      ("target_scenarios", .int 10), ("maximum_scenarios", .int 10),
      ("cases", .list (caseIds.map fun id => .str (PyStr.ofText id)))].map
        fun (m : String × YamlValue) => (PyStr.lit m.1, m.2))]),
    ("cases", .list (caseIds.map caseValue))].map fun (m : String × YamlValue) => (PyStr.lit m.1, m.2))

def skillMdBytes : List UInt8 := utf8 "---\nname: demo\ndescription: sample\n---\n".toList

/-- PyYAML on the frontmatter and the document of the package. -/
def demoLibrary : CoverageLibrary where
  parsers :=
    { load := fun _ _ => .ok (.dict [(some (PyStr.lit "name"), .str (PyStr.lit "demo")),
        (some (PyStr.lit "description"), .str (PyStr.lit "sample"))] (.error .other))
      parse := fun _ => ([], none)
      jsonLoads := fun _ => .valueError }
  sha256 := hashlibSha256
  quality := strayGroupsLibrary
  parse bytes := if bytes = utf8 evalsText then .ok evalsValue else .error .unicodeDecodeError

theorem skillMd_isFileName : isFileName (PyStr.lit "SKILL.md") = true := by decide +kernel

theorem references_isFileName : isFileName (PyStr.lit "references") = true := by decide +kernel

theorem evalsYaml_isFileName : isFileName (PyStr.lit "evals.yaml") = true := by decide +kernel

def skillMdEntry : FileName := ⟨PyStr.lit "SKILL.md", skillMd_isFileName⟩

def referencesEntry : FileName := ⟨PyStr.lit "references", references_isFileName⟩

def evalsEntry : FileName := ⟨PyStr.lit "evals.yaml", evalsYaml_isFileName⟩

def demoEntries : PackageEntries :=
  .cons skillMdEntry (.leaf (.regular (.read skillMdBytes true)))
    (.cons referencesEntry
      (.dir false (.cons evalsEntry (.leaf (.regular (.read (utf8 evalsText) true))) .nil)) .nil)

theorem demoEntries_distinct : demoEntries.Distinct := by
  refine ⟨?_, trivial, List.not_mem_nil, ⟨List.not_mem_nil, trivial, trivial⟩, trivial⟩
  decide +kernel

/-- A package with a SKILL.md and ten cases. -/
def demoPackage : PackageState where
  source := ⟨PyStr.lit "demo", .ok true, .ok true, .listed false demoEntries, demoEntries_distinct⟩
  evals := .ok (utf8 evalsText)

theorem demoCommit_hex : isHexOfLength 40 (List.replicate 40 '0') = true := isHexOfLength_replicate rfl

def demoCommit : GitRevision := ⟨List.replicate 40 '0', demoCommit_hex⟩

def demoRevision : PyStr := PyStr.ofText demoCommit.val

theorem demoValidation_eq : (validateState demoLibrary demoPackage demoRevision).toOption.map
    (fun v => (v.val.status, v.val.candidate.map (·.packageId.val), v.val.files.map (·.path))) =
      some (.pass, some "demo".toList, [skillMdPath, evalsPath]) := by
  decide +kernel

/-- The candidate that its validation resolves. -/
def demoCandidate : PackageCandidateIdentity :=
  ((validateState demoLibrary demoPackage demoRevision).toOption.bind (·.val.candidate)).get (by decide +kernel)

theorem demo_validates : ∃ v, validateState demoLibrary demoPackage demoRevision = .ok v ∧
    v.val.status = .pass ∧ v.val.candidate = some demoCandidate ∧ evalsPath ∈ v.val.files.map (·.path) := by
  obtain ⟨v, hv, hfields⟩ := Option.map_eq_some_iff.mp demoValidation_eq
  obtain ⟨hpass, -, hfiles⟩ : v.val.status = .pass ∧ _ ∧ v.val.files.map (·.path) = [skillMdPath, evalsPath] := by
    simpa using hfields
  refine ⟨v, toOption_eq_some_iff.mp hv, hpass, ?_, by rw [hfiles]; simp⟩
  have hcandidate : (validateState demoLibrary demoPackage demoRevision).toOption.bind (·.val.candidate) =
      some demoCandidate := (Option.some_get _).symm
  rwa [hv] at hcandidate

def demoSet : NonEmptyText := literal "active" (by decide +kernel)

def activeSelector : PyStr := PyStr.ofText demoSet.val

/-- The assessment of the cases finds nothing. -/
theorem demoQuality_eq : (assessPayload strayGroupsLibrary demoCandidate (some activeSelector) .v2 []
    (some evalsValue)).toOption.map (fun q => (q.val.status, q.val.findings.length, q.val.scenarioSetId.map (·.val))) =
      some (.pass, 0, some "active".toList) := by
  decide +kernel

theorem demo_captures : RootCaptures demoPackage.source.root evalsPath (utf8 evalsText) := by
  refine ⟨[referencesEntry], evalsEntry, _, .inside (Or.inr (Or.inl ⟨rfl, rfl⟩)) ?_
    (.here (Or.inl ⟨rfl, rfl⟩)), rfl, ?_, ?_, ?_⟩
  · decide +kernel
  · decide +kernel
  · decide +kernel
  · decide +kernel

theorem demo_loads {v : SkillPackageValidation} (h : validateState demoLibrary demoPackage demoRevision = .ok v)
    (hpass : v.val.status = .pass) : loadEvals demoLibrary (evalsDigest v) demoPackage.evals = .ok evalsValue := by
  rw [evalsDigest_of_captured h hpass demo_captures]
  have hload : ∀ bytes, loadEvals demoLibrary (some (demoLibrary.sha256 bytes)) (.ok bytes) =
      demoLibrary.parse bytes := fun bytes => if_pos rfl
  have hparse : ∀ bytes, demoLibrary.parse bytes =
      if bytes = utf8 evalsText then .ok evalsValue else .error .unicodeDecodeError := fun bytes => rfl
  rw [show demoPackage.evals = .ok (utf8 evalsText) from rfl, hload, hparse, if_pos rfl]

/-- The first read passes. -/
theorem demo_quality : ∃ q, readQuality demoLibrary demoPackage demoRevision activeSelector = .ok q ∧
    q.val.status = .pass ∧ q.val.findings = [] ∧ q.val.candidate = some demoCandidate ∧
      q.val.scenarioSetId = some demoSet := by
  obtain ⟨v, hv, hpass, hcandidate, hlisted⟩ := demo_validates
  obtain ⟨q, hq, hfields⟩ := Option.map_eq_some_iff.mp demoQuality_eq
  obtain ⟨hstatus, hfields⟩ := Prod.mk.inj hfields
  obtain ⟨hfindings, hset⟩ := Prod.mk.inj hfields
  have hassess := toOption_eq_some_iff.mp hq
  obtain ⟨setId, hsetId, hactive⟩ := Option.map_eq_some_iff.mp hset
  refine ⟨q, ?_, hstatus, List.length_eq_zero_iff.mp hfindings, (assessPayload_eq_ok hassess).2.1, ?_⟩
  · rw [readQuality_of_loaded hv hpass hcandidate hlisted (demo_loads hv hpass) (by decide +kernel)]
    exact congrArg (Except.mapError SkillRaised.exc) hassess
  · rw [hsetId]
    exact congrArg some (Subtype.ext hactive)

theorem demo_isReadable : Validates demoLibrary demoPackage := by
  obtain ⟨v, hv, -⟩ := demo_validates
  exact @validates_of_eq_ok demoLibrary demoPackage demoCommit v hv

/-- Everything that is quoted in the document encodes. -/
theorem demo_cases : ∀ case ∈ documentCases evalsValue, ∀ id, caseText? case = some id → Encodes id := by
  have hall : (documentCases evalsValue).all
      (fun case => (caseText? case).all fun id => (id.encode?).isSome) = true := by
    decide +kernel
  intro case hcase id hid
  have h := List.all_eq_true.mp hall case hcase
  rw [hid] at h
  simpa [Encodes] using h

theorem demo_not_raises : ¬ Raises (assessPayload strayGroupsLibrary demoCandidate (some activeSelector) .v2 []
    (some evalsValue)) := by
  obtain ⟨q, hq, -⟩ := Option.map_eq_some_iff.mp demoQuality_eq
  intro hraises
  exact not_raises_ok (toOption_eq_some_iff.mp hq ▸ hraises)

theorem demo_sets : ∀ set ∈ keptSets .v2 (some activeSelector) (some evalsValue), ReadsAsValidated set := by
  have hall : (keptSets .v2 (some activeSelector) (some evalsValue)).all
      (fun set => (members? (yamlGet set "groups")).isNone) = true := by decide +kernel
  intro set hset groups hgroups
  have h := List.all_eq_true.mp hall set hset
  rw [hgroups] at h
  cases h

theorem demo_assessable :
    Assessable demoLibrary demoPackage demoPackage demoPackage demoRevision activeSelector := by
  obtain ⟨v, hv, hpass, hcandidate, hlisted⟩ := demo_validates
  -- the package is validated again and again, with one result
  have hsame : ∀ w, validateState demoLibrary demoPackage demoRevision = .ok w → w = v := fun w hw =>
    Except.ok.inj (hw.symm.trans hv)
  have hvalid : selectorValid (some activeSelector) = true := by decide +kernel
  refine ⟨?_, demo_isReadable, ?_, ?_, fun _ => ⟨demo_isReadable, nofun, demo_isReadable⟩, ?_⟩
  · intro id hid
    rw [validSelector, if_pos hvalid] at hid
    rw [← Option.some.inj hid]
    exact encodes_ofText _
  · intro w e hw herror
    obtain rfl := hsame w hw
    rw [demo_loads hv hpass] at herror
    cases herror
  · intro w payload hw hpayload
    obtain rfl := hsame w hw
    rw [demo_loads hv hpass] at hpayload
    obtain rfl := Except.ok.inj hpayload
    have hread : readPayload w evalsValue (some activeSelector) = some evalsValue := if_pos ⟨hpass, hvalid, hlisted⟩
    rw [hread]
    refine ⟨demo_sets, fun hhazard => demo_not_raises ?_⟩
    exact (raises_assessPayload_iff (Or.inl ⟨evalsValue, rfl, rfl, hvalid⟩) fun set hset =>
      (readAsAccepted_iff (acceptedIds?_of_kept hset)).mpr (demo_sets set hset)).mpr hhazard
  · intro quality w candidate setId payload members selected _ hread id hid
    obtain rfl := hsame w hread.validated
    have hpayload := hread.loaded
    rw [demo_loads hv hpass] at hpayload
    obtain rfl := Except.ok.inj hpayload
    obtain ⟨case, hcase, htext⟩ := List.mem_filterMap.mp hid
    exact demo_cases case (mem_of_selection hread.active.selection case hcase) id htext

theorem demo_collisionFree : CollisionFree demoLibrary demoPackage demoPackage demoRevision where
  documents a b ha hb _ := Except.ok.inj (ha.symm.trans hb)
  candidates v w hv hw _ := by rw [Except.ok.inj (hv.symm.trans hw)]

/-- A plan that maps its one claim to the ten cases. -/
def planFor (candidate : PackageCandidateIdentity) : ScenarioCoveragePlanData where
  candidate := candidate
  scenarioSetId := demoSet
  claims := [⟨declared, literal "the skill declines" (by decide +kernel)⟩]
  mappings := [⟨declared, caseIds, []⟩]
  gaps := []

theorem planFor_validate : (planFor demoCandidate).validate = .ok () := by decide +kernel

def demoPlan : ScenarioCoveragePlan := ⟨planFor demoCandidate, planFor_validate⟩

theorem planFor_bound (candidate : PackageCandidateIdentity) :
    (planFor candidate).candidate = candidate ∧ (planFor candidate).scenarioSetId = demoSet := ⟨rfl, rfl⟩

/-- The second read finds the ten cases. -/
theorem demo_active {q : ScenarioQualityReceipt} (hpass : q.val.status = .pass)
    (hcandidate : q.val.candidate = some demoCandidate) (hset : q.val.scenarioSetId = some demoSet) :
    readActive demoLibrary demoPackage demoRevision q = .ok ⟨[], caseIds.map PyStr.ofText⟩ := by
  obtain ⟨v, hv, hvpass, hvcandidate, hlisted⟩ := demo_validates
  have hload := demo_loads hv hvpass
  obtain ⟨digest, hdigest⟩ := evalsDigest_ne_none hlisted
  have hids : (documentIds demoLibrary demoCandidate.packageId (some activeSelector) (.ok evalsValue)).toOption.map
      (fun active => (active.findings.length, active.ids)) = some (0, caseIds.map PyStr.ofText) := by decide +kernel
  obtain ⟨⟨findings, ids⟩, hdocument, hfields⟩ := Option.map_eq_some_iff.mp hids
  obtain ⟨hfindings, rfl⟩ := Prod.mk.inj hfields
  obtain rfl := List.length_eq_zero_iff.mp hfindings
  have hselector : receiptSelector q = some activeSelector := by rw [receiptSelector, hset]; rfl
  rw [readActive, if_pos hpass, activeIds_of_validated hv, activeIdsOf, hvcandidate, hcandidate,
    if_neg (by simp [hvpass]), hdigest]
  dsimp only
  rw [hselector, ← hdigest, hload, toOption_eq_some_iff.mp hdocument]
  rfl

/-- No part of the assessment finds anything. -/
theorem demo_complete {r : ScenarioCoverageResult} (h : assessScenarioCoverage demoLibrary demoPackage demoPackage
    demoPackage demoRevision activeSelector (some demoPlan) = .ok r) : r.val.coverageComplete = true := by
  obtain ⟨q, hq, hpass, hfindings, hcandidate, hset⟩ := demo_quality
  obtain ⟨v, hv, hvpass, hvcandidate, -⟩ := demo_validates
  -- every part of the result is known, and none has a finding
  obtain ⟨quality, active, planned, changed, hparts, hresult⟩ := exists_assembled h
  obtain rfl : quality.val = q := Except.ok.inj (hparts.quality_eq.symm.trans hq)
  obtain rfl : active = ⟨[], caseIds.map PyStr.ofText⟩ :=
    Except.ok.inj (hparts.active_eq.symm.trans (demo_active hpass hcandidate hset))
  have haudit : (planFor demoCandidate).audit ((caseIds.map PyStr.ofText).filterMap PyStr.encode?) = [] := by
    rw [filterMap_encode?_ofText]
    decide +kernel
  obtain ⟨fs, hfs, hclean⟩ := planFindings_eq_ok (some demoPlan) quality.val (caseIds.map PyStr.ofText)
  obtain rfl : fs = planned := Except.ok.inj (hfs.symm.trans hparts.planned_eq)
  have hplanned : fs = [] := hclean.mpr fun p hp => by
    have hval : p.val = planFor demoCandidate := congrArg Subtype.val (Option.some.inj hp).symm
    rw [hval]
    refine ⟨?_, fun _ => haudit⟩
    rw [(planFor_bound _).1, (planFor_bound _).2, hcandidate, hset]
    exact ⟨rfl, rfl⟩
  have hfinal : finalFindings demoLibrary demoPackage demoRevision quality.val (caseIds.map PyStr.ofText) = .ok [] :=
    finalFindings_of_same hv hvpass (hvcandidate.trans hcandidate.symm)
  obtain rfl : changed = [] := Except.ok.inj (hparts.changed_eq.symm.trans hfinal)
  have hnil : allFindings (some demoPlan) quality ⟨[], caseIds.map PyStr.ofText⟩ fs [] = [] :=
    allFindings_eq_nil_iff.mpr ⟨hfindings, nofun, rfl, hplanned, rfl⟩
  rw [coverageResult, mapM_encode?_ofText] at hresult
  have hdata := construct_eq_ok_iff.mp (modelCall_eq_ok_iff.mp hresult)
  rw [hdata, hnil]
  rfl

/-- The package is assessed against a plan for its ten cases, and its coverage is complete. -/
theorem coverage_of_demo : ∃ r, assessScenarioCoverage demoLibrary demoPackage demoPackage demoPackage demoRevision
    activeSelector (some demoPlan) = .ok r ∧ r.val.coverageComplete = true ∧
      CoversActive demoLibrary demoPackage demoPackage demoPackage demoRevision (some demoPlan) r.val := by
  obtain ⟨hreturns, hcovers⟩ := coverage_characterized.2 demoLibrary demoPackage demoPackage demoPackage demoRevision
    activeSelector (some demoPlan)
  obtain ⟨r, hr⟩ := hreturns demo_collisionFree demo_assessable
  have hcomplete := demo_complete hr
  exact ⟨r, hr, hcomplete, hcovers r hr hcomplete⟩

end CoverageDemo

end SkillsSdk
