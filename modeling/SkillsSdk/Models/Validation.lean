/-
SkillsSdk/Models/Validation.lean

Findings, skill identities and the result of validating a skill package.

A finding quotes paths, and its model takes only portable ones: a call that
quotes anything else raises (`finding_of_portable`, `finding_of_not_portable`).
-/
import SkillsSdk.FileNames
import SkillsSdk.Models.Archive

namespace SkillsSdk

/-! ### Findings -/

inductive ValidationSeverity where
  | warning
  | blocker
  deriving DecidableEq

structure SkillPackageFinding where
  code : BlockerCode
  severity : ValidationSeverity
  message : NonEmptyText
  evidenceRefs : List PortablePath
  deriving DecidableEq

/-- A stable code and its message. -/
abbrev FindingText := BlockerCode × NonEmptyText

theorem stripBy_stripBy (p : Char → Bool) (t : Text) : stripBy p (stripBy p t) = stripBy p t := by
  have hdrop : ∀ u : Text, (∀ c ∈ u.head?, p c = false) → u.dropWhile p = u := by
    intro u hu
    rcases u with - | ⟨c, u⟩
    · rfl
    · exact List.dropWhile_cons_of_neg (by simp [hu c rfl])
  have hhead : ∀ c ∈ (stripBy p t).head?, p c = false := by
    intro c hc
    rw [stripBy] at hc
    have hleading : (t.dropWhile p).rdropWhile p <+: t.dropWhile p := List.rdropWhile_prefix p _
    rcases hd : (t.dropWhile p).rdropWhile p with - | ⟨d, u⟩
    · simp [hd] at hc
    · obtain rfl : d = c := by simpa [hd] using hc
      obtain ⟨v, hv⟩ := hleading
      rw [hd] at hv
      have hne : t.dropWhile p ≠ [] := by simp [← hv]
      have := List.head_dropWhile_not p hne
      simpa [← hv] using this
  rw [stripBy, hdrop _ hhead, stripBy, List.rdropWhile_idempotent]

/-- A `NonEmptyText` field: the string must encode, and is stripped. -/
def nonEmptyText? (s : PyStr) : Option NonEmptyText :=
  s.encode?.bind fun t =>
    if h : trim t ≠ [] then
      some ⟨trim t, isNonEmptyText_iff.mpr ⟨stripBy_stripBy _ _, h⟩⟩
    else none

theorem nonEmptyText?_isSome {s : PyStr} {t : Text} (hs : s.encode? = some t)
    (h : ∃ c ∈ t, isWhiteSpace c = false) : ∃ m, nonEmptyText? s = some m := by
  have hne : trim t ≠ [] := by
    rw [Ne, trim, stripBy_eq_nil_iff]
    obtain ⟨c, hc, hwhite⟩ := h
    intro hall
    rw [hall c hc] at hwhite
    cases hwhite
  rw [nonEmptyText?, hs]
  exact ⟨_, dif_pos hne⟩

/-- A call of `SkillPackageFinding`: every quoted path must be portable. -/
def newFinding (text : FindingText) (severity : ValidationSeverity) (refs : List PyStr) :
    Except ValidationError SkillPackageFinding :=
  match refs.mapM portable? with
  | some evidenceRefs => .ok ⟨text.1, severity, text.2, evidenceRefs⟩
  | none =>
    .error ⟨"SkillPackageFinding".toList,
      [("evidence_refs".toList, "path must be a portable relative path".toList)]⟩

/-- `_finding`. -/
def finding (text : FindingText) (refs : List PyStr) : Except ValidationError SkillPackageFinding :=
  newFinding text .blocker refs

/-- `_finding` with a composed message, which must be a text. -/
def findingSaying (code : BlockerCode) (message : PyStr) (refs : List PyStr) :
    Except ValidationError SkillPackageFinding :=
  match nonEmptyText? message with
  | some text => finding (code, text) refs
  | none =>
    .error ⟨"SkillPackageFinding".toList, [("message".toList, "Input should be a valid string".toList)]⟩

theorem finding_nil (text : FindingText) : finding text [] = .ok ⟨text.1, .blocker, text.2, []⟩ := rfl

theorem finding_of_portable {s : PyStr} {path : PortablePath} (h : portable? s = some path)
    (text : FindingText) : finding text [s] = .ok ⟨text.1, .blocker, text.2, [path]⟩ := by
  simp [finding, newFinding, h]

/-- A quoted path that is not portable raises. -/
theorem finding_of_not_portable {s : PyStr} (h : portable? s = none) (text : FindingText) :
    ∃ e, finding text [s] = .error e := by
  simp [finding, newFinding, h]

theorem findingSaying_of_portable {code : BlockerCode} {message : PyStr} {m : NonEmptyText} {s : PyStr}
    {path : PortablePath} (hm : nonEmptyText? message = some m) (hs : portable? s = some path) :
    findingSaying code message [s] = .ok ⟨code, .blocker, m, [path]⟩ := by
  rw [findingSaying, hm]
  exact finding_of_portable hs (code, m)

/-! ### Identities -/

/-- `^[a-z0-9]+(?:-[a-z0-9]+)*$`. -/
def isPackageName (t : Text) : Bool :=
  Rx.fullmatch (Rx.Regex.seq (Rx.Regex.plus (Rx.Regex.cls isLowerAlnum))
    (Rx.Regex.many (Rx.Regex.seq (Rx.Regex.cls (· == '-')) (Rx.Regex.plus (Rx.Regex.cls isLowerAlnum))))) t

abbrev PackageName := { t : Text // isPackageName t = true }

/-- A constrained string field: the string must encode, and is stripped. -/
def constrained? (accepts : Text → Bool) (s : PyStr) : Option { t : Text // accepts t = true } :=
  s.encode?.bind fun t => if h : accepts (trim t) = true then some ⟨trim t, h⟩ else none

structure SkillIdentityData where
  packageId : PackageId
  name : PackageName
  version : NonEmptyText
  deriving DecidableEq

def SkillIdentityData.validate (i : SkillIdentityData) : Except ValidationError Unit :=
  validateWith "SkillIdentity" []
    [violation (i.packageId.val ≠ i.name.val) "skill package_id must match its kebab-case name"]

abbrev SkillIdentity := Accepted SkillIdentityData.validate

/-- `SkillIdentity(package_id=…, name=…, version=…)`. -/
def newSkillIdentity (packageId name version : PyStr) : Except ValidationError SkillIdentity :=
  match constrained? isIdentifier packageId, constrained? isPackageName name, nonEmptyText? version with
  | some p, some n, some v => construct SkillIdentityData.validate ⟨p, n, v⟩
  | p, n, v => .error ⟨"SkillIdentity".toList,
      check p.isSome "package_id" "String should match pattern '^[a-z0-9]+(?:[._-][a-z0-9]+)*$'" ++
      check n.isSome "name" "String should match pattern '^[a-z0-9]+(?:-[a-z0-9]+)*$'" ++
      check v.isSome "version" "String should have at least 1 character"⟩

/-- An identity carries the given package id, which a valid one leaves as it is. -/
theorem packageId_of_newSkillIdentity {packageId name version : PyStr} {i : SkillIdentity}
    (h : newSkillIdentity packageId name version = .ok i) :
    ∃ t, packageId = PyStr.ofText t ∧ i.val.packageId.val = trim t := by
  rw [newSkillIdentity] at h
  split at h
  · rename_i p n v hp hn hv
    obtain ⟨t, ht, hif⟩ := Option.bind_eq_some_iff.mp hp
    refine ⟨t, PyStr.encode?_eq_some_iff.mp ht, ?_⟩
    rw [construct_eq_ok_iff.mp h]
    split_ifs at hif with hok
    exact congrArg Subtype.val (Option.some.inj hif).symm
  · cases h

/-! ### Results -/

structure SkillPackageValidationData where
  candidate : Option PackageCandidateIdentity := none
  status : VerificationStatus
  identity : Option SkillIdentity := none
  files : List PackageManifestFile := []
  findings : List SkillPackageFinding := []
  deriving DecidableEq

namespace SkillPackageValidationData

/-- The findings that block. -/
def blockers (r : SkillPackageValidationData) : List SkillPackageFinding :=
  r.findings.filter (·.severity = .blocker)

/-- `SkillPackageValidation.status_matches_findings`. -/
def statusMatchesFindings (r : SkillPackageValidationData) : List (Bool × String) :=
  (match r.status with
    | .pass =>
      [violation (r.blockers ≠ []) "passing skill validation cannot contain blockers",
        violation (r.candidate = none ∨ r.identity = none ∨ r.files = [])
          "passing skill validation requires candidate, identity, and files",
        violation (r.identity.map (·.val.packageId) ≠ r.candidate.map (·.packageId))
          "skill validation identity must bind the same candidate package"]
    | .blocked =>
      [violation (r.blockers = []) "blocked skill validation requires at least one blocker"]) ++
  [violation (¬ (r.files.map (·.path)).Nodup) "skill validation file paths must be unique"]

def validate (r : SkillPackageValidationData) : Except ValidationError Unit :=
  validateWith "SkillPackageValidation" [] r.statusMatchesFindings

theorem validate_blocked_iff {r : SkillPackageValidationData} (h : r.status = .blocked) :
    r.validate = .ok () ↔ r.blockers ≠ [] ∧ (r.files.map (·.path)).Nodup := by
  simp [validate, validateWith_eq_ok, statusMatchesFindings, h]

theorem validate_pass_iff {r : SkillPackageValidationData} (h : r.status = .pass) :
    r.validate = .ok () ↔ r.blockers = [] ∧
      (r.candidate ≠ none ∧ r.identity ≠ none ∧ r.files ≠ []) ∧
      r.identity.map (·.val.packageId) = r.candidate.map (·.packageId) ∧
      (r.files.map (·.path)).Nodup := by
  simp [validate, validateWith_eq_ok, statusMatchesFindings, h]

end SkillPackageValidationData

abbrev SkillPackageValidation := Accepted SkillPackageValidationData.validate

end SkillsSdk
