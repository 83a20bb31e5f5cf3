/-
SkillsSdk/PrSweep.lean

The two PR-sweep checks: recurring findings of a ledger, and the accounting for
a dirty checkout.

What git prints and what a ledger holds are strings, and some of them are
refused where nothing takes the refusal: an invariant that does not encode, and
a path of the status that is not portable.  The checks return a result exactly
when neither happens (`recurring_returns_iff`, `closeout_returns_iff`).  The
accounting then decides what it should, but for the origin of a rename that the
reader of the status loses (`closeoutExact_iff`).

The JSON schema validator, `str.lower` and `str` of a float belong to the host.
-/
import SkillsSdk.Digests
import SkillsSdk.JsonLoads
import SkillsSdk.Models.Validation
import SkillsSdk.PorcelainStatus
import SkillsSdk.SkillValidation

namespace SkillsSdk

/-! ### The models -/

structure PrSweepFinding where
  code : NonEmptyText
  message : NonEmptyText
  deriving DecidableEq

/-- `PrSweepFinding(code=…, message=…)`. -/
def newPrSweepFinding (code : String) (message : PyStr) : Except PyExc PrSweepFinding :=
  match nonEmptyText? (PyStr.lit code), nonEmptyText? message with
  | some c, some m => .ok ⟨c, m⟩
  | _, _ => .error .valueError

inductive PrSweepKind where
  | recurringFindings
  | dirtyCloseout
  deriving DecidableEq

inductive PrSweepStatus where
  | pass
  | fail
  | blocked
  deriving DecidableEq

structure PrSweepValidationResultData where
  kind : PrSweepKind
  status : PrSweepStatus
  findings : List PrSweepFinding := []
  dirtyState : Option PrSweepDirtyState := none
  ledgeredPaths : List PyStr := []
  unledgeredPaths : List PyStr := []
  deriving DecidableEq

/-- The path check on a string that need not encode: a surrogate is a letter like any other. -/
def isPortablePath (s : PyStr) : Bool :=
  isPortable (s.map fun c => match c with | .scalar c => c | .surrogate _ => '\ufffd')

namespace PrSweepValidationResultData

/-- The dirty paths that are not among the ledgered ones. -/
def unledgered (d : PrSweepValidationResultData) (state : PrSweepDirtyState) : List PyStr :=
  (state.val.dirtyPaths.map PyStr.ofText).filter (· ∉ d.ledgeredPaths)

/-- `findings_match_status`. -/
def validate (d : PrSweepValidationResultData) : Except ValidationError Unit :=
  validateWith "PrSweepValidationResult" []
    [violation (d.status = .pass ↔ d.findings ≠ [])
      "passing validation requires no findings; failure requires findings",
    violation (d.kind = .recurringFindings ∧ d.dirtyState ≠ none)
      "recurring-findings validation cannot report Git dirty state",
    violation (d.kind = .recurringFindings ∧ (d.ledgeredPaths ≠ [] ∨ d.unledgeredPaths ≠ []))
      "recurring-findings validation cannot report dirty-worktree paths",
    violation ((d.ledgeredPaths ++ d.unledgeredPaths).any (!isPortablePath ·) = true)
      "validation result contains a non-portable path",
    violation (d.kind = .dirtyCloseout ∧ d.status ≠ .blocked ∧ d.dirtyState = none)
      "non-blocked dirty closeout requires inspected Git dirty state",
    violation (d.kind = .dirtyCloseout ∧ d.dirtyState.any (fun s => !sameSet d.unledgeredPaths (d.unledgered s)) = true)
      "unledgered paths must equal dirty paths minus ledgered paths",
    violation (d.kind = .dirtyCloseout ∧ d.status = .pass ∧ d.dirtyState.any (fun s => d.unledgered s != []) = true)
      "passing dirty closeout requires all dirty paths to be ledgered"]

end PrSweepValidationResultData

abbrev PrSweepValidationResult := Accepted PrSweepValidationResultData.validate

/-- `PrSweepValidationResult(…)`: the paths are any strings. -/
def newPrSweepResult (kind : PrSweepKind) (status : PrSweepStatus) (findings : List PrSweepFinding)
    (dirtyState : Option PrSweepDirtyState) (ledgered unledgered : List PyStr) :
    Except PyExc PrSweepValidationResult :=
  (construct PrSweepValidationResultData.validate
    ⟨kind, status, findings, dirtyState, ledgered, unledgered⟩).mapError fun _ => .valueError

/-- `_failure`. -/
def prSweepFailure (kind : PrSweepKind) (status : PrSweepStatus) (code message : String) :
    Except PyExc PrSweepValidationResult := do
  let finding ← newPrSweepFinding code (PyStr.lit message)
  newPrSweepResult kind status [finding] none [] []

/-! ### Ledgers -/

/-- `_reject_constant` and `_unique_members`; floats are read as they come. -/
def ledgerHooks : JsonHooks where
  pairs := uniqueMembers
  float := fun f => .ok (.float f)
  constant := fun _ => .error .valueError

/-- What is found at the path of a ledger. -/
inductive LedgerFile where
  | unavailable
  | irregular
  | regular (bytes : List UInt8)

/-- `_read_ledger`. -/
def readLedger (decoder : JsonDecoder) : LedgerFile → Except PyExc JsonDoc
  | .unavailable => .error .osError
  | .irregular => .error .valueError
  | .regular bytes =>
    if 2 * 1024 * 1024 < bytes.length then .error .valueError
    else
      match decodeUtf8 bytes with
      | none => .error .unicodeDecodeError
      | some text => loadsWith ledgerHooks (decoder.ofText (PyStr.ofText text))

/-- `except (OSError, UnicodeError, ValueError, RecursionError)`. -/
def isLedgerFault : PyExc → Bool
  | .osError | .unicodeDecodeError | .valueError | .recursionError => true
  | _ => false

/-! ### Recurring findings -/

/-- A number of the ledger; a float keeps what `str` writes. -/
inductive LedgerNumber where
  | int (i : Int)
  | float (f : PyFloat)
  deriving DecidableEq

/-- What equality compares: `5 == 5.0`. -/
def LedgerNumber.value : LedgerNumber → Option ℚ
  | int i => some i
  | float (.finite q) => some q
  | float _ => none

structure LedgerOccurrence where
  repository : PyStr
  pullRequest : LedgerNumber
  evidenceRef : PyStr
  deriving DecidableEq

/-- What is read of a class of findings; `reference` is the artifact or else the blocker. -/
structure FindingClass where
  findingClassId : PyStr
  fingerprintSha256 : PyStr
  normalizedInvariant : PyStr
  occurrences : List LedgerOccurrence
  guardrailStatus : PyStr
  guardrailReference : PyStr
  mergeEligible : Bool
  deriving DecidableEq

def ledgerString (members : JsonMembers) (key : String) : Except PyExc PyStr :=
  match jsonGet members key with
  | some (.str s) => .ok s
  | some _ => .error .typeError
  | none => .error .keyError

def ledgerMember (members : JsonMembers) (key : String) : Except PyExc JsonDoc :=
  match jsonGet members key with
  | some d => .ok d
  | none => .error .keyError

def ledgerItems : JsonDoc → Except PyExc (List JsonDoc)
  | .arr items => .ok items
  | _ => .error .typeError

def ledgerDict : JsonDoc → Except PyExc JsonMembers
  | .dict members => .ok members
  | _ => .error .typeError

def readOccurrence (d : JsonDoc) : Except PyExc LedgerOccurrence := do
  let members ← ledgerDict d
  let repository ← ledgerString members "repository"
  let number ← ledgerMember members "pull_request"
  let evidenceRef ← ledgerString members "evidence_ref"
  match number with
  | .int i => .ok ⟨repository, .int i, evidenceRef⟩
  | .float f => .ok ⟨repository, .float f, evidenceRef⟩
  | _ => .error .typeError

/-- `guardrail.get("artifact_ref", guardrail.get("blocker_ref", ""))`. -/
def guardrailReference (members : JsonMembers) : Except PyExc PyStr :=
  match jsonGet members "artifact_ref", jsonGet members "blocker_ref" with
  | some (.str s), _ => .ok s
  | some _, _ => .error .typeError
  | none, some (.str s) => .ok s
  | none, some _ => .error .typeError
  | none, none => .ok []

def readFindingClass (d : JsonDoc) : Except PyExc FindingClass := do
  let members ← ledgerDict d
  let findingClassId ← ledgerString members "finding_class_id"
  let fingerprint ← ledgerString members "fingerprint_sha256"
  let invariant ← ledgerString members "normalized_invariant"
  let items ← ledgerMember members "occurrences" >>= ledgerItems
  let occurrences ← items.mapM readOccurrence
  let guardrail ← ledgerMember members "guardrail" >>= ledgerDict
  let guardrailStatus ← ledgerString guardrail "status"
  let reference ← guardrailReference guardrail
  let eligible ← ledgerMember members "merge_eligible"
  match eligible with
  | .bool b => .ok ⟨findingClassId, fingerprint, invariant, occurrences, guardrailStatus, reference, b⟩
  | _ => .error .typeError

/-- `ledger["classes"]`. -/
def readClasses (d : JsonDoc) : Except PyExc (List FindingClass) := do
  let members ← ledgerDict d
  let items ← ledgerMember members "classes" >>= ledgerItems
  items.mapM readFindingClass

/-- What a class must satisfy: the letters of its identifier and of its fingerprint, where
a pattern lets one line feed follow. -/
def FindingClass.MatchesPatterns (c : FindingClass) : Prop :=
  (∀ x ∈ c.findingClassId, ∃ d, x = .scalar d ∧ (isLowerAlnum d = true ∨ d = '_' ∨ d = '\n')) ∧
    ∀ x ∈ c.fingerprintSha256, ∃ d, x = .scalar d ∧ (isHex d = true ∨ d = '\n')

/-- The JSON schema validator of the host, on the schema of the ledger: the failing keywords,
or `none` for a `RecursionError`; a ledger without errors has what the schema requires. -/
structure LedgerHost where
  decoder : JsonDecoder
  /-- `_ledger_paths` stays within the recursion limit. -/
  walks : JsonDoc → Bool
  iterErrors : JsonDoc → Option (List NonEmptyText)
  lower : PyStr → PyStr
  /-- A surrogate is its own lower case, and no other code point has one for it. -/
  lower_encodes : ∀ s, Encodes (lower s) ↔ Encodes s
  floatText : PyFloat → PyStr
  conforms : ∀ d, iterErrors d = some [] →
    ∃ classes, readClasses d = .ok classes ∧ ∀ c ∈ classes, c.MatchesPatterns

/-- `"://"` is behind and the host name is fixed: the path of the URL, if it has neither a query
nor a fragment. -/
def githubPath (rest : PyStr) : Option PyStr :=
  let url := rest.filter fun c => c ≠ .scalar '\t' && c ≠ .scalar '\r' && c ≠ .scalar '\n'
  let beforeFragment := url.takeWhile (· ≠ .scalar '#')
  let fragment := (url.dropWhile (· ≠ .scalar '#')).drop 1
  let query := (beforeFragment.dropWhile (· ≠ .scalar '?')).drop 1
  if query ≠ [] ∨ fragment ≠ [] then none else some (beforeFragment.takeWhile (· ≠ .scalar '?'))

/-- `path.strip("/")`. -/
def stripSlashes (path : PyStr) : PyStr :=
  (path.dropWhile (· = .scalar '/')).rdropWhile (· = .scalar '/')

section

variable (sha256 : List UInt8 → Sha256) (host : LedgerHost)

/-- `str(item["pull_request"])`. -/
def LedgerNumber.text : LedgerNumber → PyStr
  | int i => PyStr.ofText (toString i).toList
  | float f => host.floatText f

/-- `_occurrence_reference_matches`. -/
def occurrenceReferenceMatches (item : LedgerOccurrence) : Bool :=
  if (PyStr.lit "https://github.com/").isPrefixOf item.evidenceRef then
    match githubPath (item.evidenceRef.drop "https://github.com".length) with
    | none => false
    | some path =>
      match (stripSlashes path).splitOn (.scalar '/') with
      | owner :: name :: kind :: number :: more =>
        if owner ++ .scalar '/' :: name ≠ item.repository then false
        else if kind = PyStr.lit "pull" then more = [] && number == item.pullRequest.text host
        else more.length = 1 && kind == PyStr.lit "actions" && number == PyStr.lit "runs"
      | _ => false
  else true

/-- `re.fullmatch(r"(.+):([0-9]+)", reference)`: the first group. -/
def localReferencePath (reference : PyStr) : Option PyStr :=
  let digits := reference.reverse.takeWhile (· ≠ .scalar ':')
  let path := ((reference.reverse.dropWhile (· ≠ .scalar ':')).drop 1).reverse
  if digits ≠ [] ∧ (digits.all fun c => match c with | .scalar d => isDigit d | .surrogate _ => false) ∧
      path ≠ [] ∧ .scalar '\n' ∉ path then some path
  else none

/-- `_local_evidence_reference_is_safe`. -/
def localEvidenceReferenceIsSafe (reference : PyStr) : Bool :=
  match localReferencePath reference with
  | none => true
  | some path => isPortablePath path

/-- The references of a class, its guardrail's last. -/
def FindingClass.references (c : FindingClass) : List PyStr :=
  c.occurrences.map (·.evidenceRef) ++ [c.guardrailReference]

/-- The sets of the loop, and the errors so far. -/
structure SeenClasses where
  ids : List PyStr := []
  fingerprints : List PyStr := []
  errors : List PyStr := []

/-- `hashlib.sha256(invariant.strip().lower().encode("utf-8")).hexdigest()`. -/
def expectedFingerprint (invariant : PyStr) : Except PyExc PyStr :=
  match (host.lower invariant.strip).encode? with
  | some t => .ok (PyStr.ofText (sha256 (utf8 t)).val)
  | none => .error .valueError

/-- The occurrences as the set compares them. -/
def LedgerOccurrence.key (o : LedgerOccurrence) : PyStr × Option ℚ × PyStr :=
  (o.repository, o.pullRequest.value, o.evidenceRef)

def FindingClass.expectedEligible (c : FindingClass) : Bool :=
  c.occurrences.length < 3 || c.guardrailStatus == PyStr.lit "validated"

/-- The errors of one class, against what was seen before it. -/
def classErrors (seen : SeenClasses) (c : FindingClass) (expected : PyStr) : List PyStr :=
  (if c.findingClassId ∈ seen.ids then [PyStr.lit "duplicate finding_class_id: " ++ c.findingClassId] else []) ++
  (if c.fingerprintSha256 ∈ seen.fingerprints then
    [PyStr.lit "duplicate fingerprint_sha256: " ++ c.fingerprintSha256] else []) ++
  (if c.fingerprintSha256 ≠ expected then
    [PyStr.lit "fingerprint_sha256 does not match normalized_invariant: " ++ c.findingClassId] else []) ++
  (if ¬ (c.occurrences.map LedgerOccurrence.key).Nodup then
    [PyStr.lit "duplicate occurrence evidence: " ++ c.findingClassId] else []) ++
  (if c.occurrences.any (!occurrenceReferenceMatches host ·) then
    [PyStr.lit "occurrence evidence does not match repository and pull request: " ++ c.findingClassId] else []) ++
  (if c.mergeEligible ≠ c.expectedEligible then
    [PyStr.lit (if c.expectedEligible then "merge_eligible must be true: " else "merge_eligible must be false: ") ++
      c.findingClassId] else [])

/-- The body of the loop over the classes. -/
def checkClass (seen : SeenClasses) (c : FindingClass) : Except PyExc SeenClasses := do
  let expected ← expectedFingerprint sha256 host c.normalizedInvariant
  return ⟨seen.ids ++ [c.findingClassId], seen.fingerprints ++ [c.fingerprintSha256],
    seen.errors ++ classErrors host seen c expected⟩

/-- The first loop: one error for each class with an unsafe reference. -/
def referenceErrors (classes : List FindingClass) : List PyStr :=
  (classes.filter fun c => c.references.any (!localEvidenceReferenceIsSafe ·)).map fun _ =>
    PyStr.lit "ledger contains an unsafe local evidence reference"

/-- The result of a list of errors. -/
def recurringResult (code : String) (errors : List PyStr) (status : PrSweepStatus) :
    Except PyExc PrSweepValidationResult := do
  let findings ← (sortStrings errors).mapM (newPrSweepFinding code)
  newPrSweepResult .recurringFindings status findings none [] []

/-- What follows the schema. -/
def checkInvariants (ledger : JsonDoc) : Except PyExc PrSweepValidationResult := do
  let classes ← readClasses ledger
  let seen ← classes.foldlM (checkClass sha256 host) { errors := referenceErrors classes }
  recurringResult "ledger_invariant" seen.errors (if seen.errors = [] then .pass else .fail)

/-- What follows the reading of the ledger. -/
def checkLedger (ledger : JsonDoc) : Except PyExc PrSweepValidationResult :=
  match host.iterErrors ledger with
  | none => prSweepFailure .recurringFindings .fail "ledger_schema" "ledger structure exceeds validation depth"
  | some [] => checkInvariants sha256 host ledger
  | some errors =>
    recurringResult "ledger_schema"
      (errors.map fun keyword => PyStr.lit "ledger schema constraint failed: " ++ PyStr.ofText keyword.val) .fail

/-- `validate_recurring_findings`, of what is found at the path. -/
def validateRecurringFindings (file : LedgerFile) : Except PyExc PrSweepValidationResult :=
  match readLedger host.decoder file with
  | .error e =>
    if isLedgerFault e then
      prSweepFailure .recurringFindings .fail "ledger_unreadable" "could not read or parse ledger JSON"
    else .error e
  | .ok ledger => checkLedger sha256 host ledger

/-! ### The dirty closeout -/

/-- Keys whose values name paths. -/
def ledgerPathKeys : List String :=
  ["path", "file", "files", "paths", "changed_files", "dirty_paths", "ledgered_paths"]

mutual

/-- `_ledger_paths`. -/
def ledgerPaths : JsonDoc → List PyStr
  | .arr items => ledgerPathsItems items
  | .dict members => ledgerPathsMembers members
  | _ => []

def ledgerPathsItems : List JsonDoc → List PyStr
  | [] => []
  | d :: ds => ledgerPaths d ++ ledgerPathsItems ds

def ledgerPathsMembers : List (PyStr × JsonDoc) → List PyStr
  | [] => []
  | (key, d) :: ms =>
    (if ledgerPathKeys.any (PyStr.lit · == key) then recognizedPaths d else ledgerPaths d) ++ ledgerPathsMembers ms

/-- `_recognized_paths`. -/
def recognizedPaths : JsonDoc → List PyStr
  | .str s => if s = [] then [] else [s]
  | .arr items => recognizedPathsItems items
  | .dict members => ledgerPathsMembers members
  | _ => []

def recognizedPathsItems : List JsonDoc → List PyStr
  | [] => []
  | d :: ds => recognizedPaths d ++ recognizedPathsItems ds

end

/-- What is said of a checkout whose status is not read. -/
def gitBlockers : List (String × String) :=
  [("invalid_repo_root", "supplied root is not a worktree top level"),
    ("git_status_unavailable", "submodule nesting exceeds safe inspection depth"),
    ("git_status_unavailable", "could not inspect tracked Git paths"),
    ("git_status_unavailable", "could not parse tracked Git paths"),
    ("index_visibility_flags", "index visibility flags prevent a trustworthy clean result"),
    ("git_status_unavailable", "could not inspect tracked Git modes"),
    ("git_status_unavailable", "could not parse tracked Git modes"),
    ("git_status_unavailable", "submodule path is not safe to inspect"),
    ("git_status_unavailable", "could not inspect tracked Git attributes"),
    ("git_status_unavailable", "could not parse tracked Git attributes"),
    ("clean_filter_present", "tracked Git filter attributes prevent read-only status inspection"),
    ("git_status_unavailable", "could not inspect Git dirty state"),
    ("git_status_unavailable", "Git status failed in the supplied repository root")]

abbrev GitBlocker := { blocker : String × String // blocker ∈ gitBlockers }

/-- What git says: a blocker, or the output of `git status` after every check passed, decoded
as the run decodes it. -/
inductive GitInspection where
  | blocked (blocker : GitBlocker)
  | status (stdout : Text)

/-- The line ends of a stream in text mode. -/
def universalNewlines : Text → Text
  | [] => []
  | '\r' :: '\n' :: t => '\n' :: universalNewlines t
  | c :: t => (if c = '\r' then '\n' else c) :: universalNewlines t

/-- What a ledger accounts for: the findings about it and its safe paths. -/
structure LedgerAccount where
  issues : List (String × String) := []
  paths : List PyStr := []

/-- The paths that a ledger names, checked one by one. -/
def accountOf (paths : List PyStr) : LedgerAccount where
  issues := (paths.dedup.filter fun p => !isPortablePath p).map fun _ =>
    ("invalid_ledger_path", "dirty-worktree ledger contains an unsafe path")
  paths := sortStrings (paths.dedup.filter isPortablePath)

/-- The reading of the ledger in `validate_pr_sweep_dirty_closeout`. -/
def accountLedger : Option LedgerFile → Except PyExc LedgerAccount
  | none => .ok {}
  | some file =>
    let unreadable : LedgerAccount :=
      { issues := [("ledger_unreadable", "could not read or parse dirty-worktree ledger JSON")] }
    match readLedger host.decoder file with
    | .error e => if isLedgerFault e then .ok unreadable else .error e
    | .ok doc => if host.walks doc then .ok (accountOf (ledgerPaths doc)) else .ok unreadable

/-- `sorted(set(state.dirty_paths) - ledgered)`. -/
def unledgeredPaths (dirty : List Text) (ledgered : List PyStr) : List Text :=
  sortedChangedPaths (dirty.filter fun p => PyStr.ofText p ∉ ledgered)

/-- The finding about the dirty paths. -/
def dirtyIssues (dirty : List Text) (ledger : Option LedgerFile) (requireClean : Bool) (unledgered : List Text) :
    List (String × String) :=
  if requireClean = true ∧ dirty ≠ [] then
    [("primary_worktree_dirty", "primary checkout is dirty; branch movement requires a clean checkout")]
  else if dirty ≠ [] ∧ ledger.isNone = true then
    [("dirty_worktree_ledger_required", "dirty checkout requires a ledger for accounting")]
  else if unledgered ≠ [] then
    [("dirty_worktree_unledgered_paths", "dirty paths are missing from the ledger")]
  else []

/-- The accounting of a parsed status. -/
def closeoutResult (state : PrSweepDirtyState) (account : LedgerAccount) (ledger : Option LedgerFile)
    (requireClean : Bool) : Except PyExc PrSweepValidationResult := do
  let unledgered := unledgeredPaths state.val.dirtyPaths account.paths
  let issues := account.issues ++ dirtyIssues state.val.dirtyPaths ledger requireClean unledgered
  let findings ← issues.mapM fun issue => newPrSweepFinding issue.1 (PyStr.lit issue.2)
  newPrSweepResult .dirtyCloseout (if findings = [] then .pass else .fail) findings (some state) account.paths
    (unledgered.map PyStr.ofText)

/-- `validate_pr_sweep_dirty_closeout`. -/
def validatePrSweepDirtyCloseout (git : GitInspection) (ledger : Option LedgerFile) (requireClean : Bool) :
    Except PyExc PrSweepValidationResult :=
  match git with
  | .blocked blocker => prSweepFailure .dirtyCloseout .blocked blocker.val.1 blocker.val.2
  | .status stdout => do
    let state ← parsePorcelain (universalNewlines stdout)
    let account ← accountLedger host ledger
    closeoutResult state account ledger requireClean

/-! ### The ledger is read or refused -/

theorem ledgerHooks_raisesValueErrors : ledgerHooks.RaisesValueErrors where
  pairs _ _ h := uniqueMembersFrom_eq_error h
  float _ _ h := by cases h
  constant _ _ h := (Except.error.inj h).symm

/-- Whatever the file holds, what reading it raises is caught. -/
theorem isLedgerFault_of_readLedger {decoder : JsonDecoder} {file : LedgerFile} {e : PyExc}
    (h : readLedger decoder file = .error e) : isLedgerFault e = true := by
  cases file with
  | unavailable =>
    obtain rfl := Except.error.inj h
    rfl
  | irregular =>
    obtain rfl := Except.error.inj h
    rfl
  | regular bytes =>
    rw [readLedger] at h
    split_ifs at h
    · obtain rfl := Except.error.inj h
      rfl
    · split at h
      · obtain rfl := Except.error.inj h
        rfl
      · obtain ⟨fault, rfl⟩ := loadsWith_eq_error ledgerHooks_raisesValueErrors h
        cases fault <;> rfl

/-! ### Results and findings -/

/-- A literal with a letter. -/
def HasLetter (s : String) : Prop := s.toList.any (fun c => !isWhiteSpace c) = true

instance (s : String) : Decidable (HasLetter s) := inferInstanceAs (Decidable (_ = true))

theorem HasLetter.ofList {c : Char} {l : Text} (h : isWhiteSpace c = false) : HasLetter (String.ofList (c :: l)) := by
  rw [HasLetter, String.toList_ofList, List.any_cons, h]
  rfl

theorem HasLetter.exists_letter {s : String} (h : HasLetter s) : ∃ c ∈ s.toList, isWhiteSpace c = false := by
  obtain ⟨c, hc, hletter⟩ := List.any_eq_true.mp h
  exact ⟨c, hc, by simpa using hletter⟩

/-- A finding is accepted when its message encodes. -/
theorem newPrSweepFinding_append {code text : String} {s : PyStr} (hcode : HasLetter code) (htext : HasLetter text)
    (hs : Encodes s) : ∃ f, newPrSweepFinding code (PyStr.lit text ++ s) = .ok f := by
  obtain ⟨c, hc⟩ := nonEmptyText?_isSome (PyStr.encode?_ofText code.toList) hcode.exists_letter
  obtain ⟨t, rfl⟩ := encodes_iff.mp hs
  have hjoin : PyStr.lit text ++ PyStr.ofText t = PyStr.ofText (text.toList ++ t) := List.map_append.symm
  obtain ⟨d, hd, hletter⟩ := htext.exists_letter
  obtain ⟨m, hm⟩ := nonEmptyText?_isSome (PyStr.encode?_ofText (text.toList ++ t))
    ⟨d, List.mem_append_left t hd, hletter⟩
  rw [newPrSweepFinding, hjoin, PyStr.lit, hc, hm]
  exact ⟨_, rfl⟩

theorem newPrSweepFinding_lit {code text : String} (hcode : HasLetter code) (htext : HasLetter text) :
    ∃ f, newPrSweepFinding code (PyStr.lit text) = .ok f := by
  obtain ⟨f, hf⟩ := newPrSweepFinding_append hcode htext (encodes_ofText [])
  rw [show PyStr.ofText [] = [] from rfl, List.append_nil] at hf
  exact ⟨f, hf⟩

theorem newPrSweepResult_of_validate {kind : PrSweepKind} {status : PrSweepStatus} {findings : List PrSweepFinding}
    {dirtyState : Option PrSweepDirtyState} {ledgered unledgered : List PyStr}
    (h : (⟨kind, status, findings, dirtyState, ledgered, unledgered⟩ :
      PrSweepValidationResultData).validate = .ok ()) :
    newPrSweepResult kind status findings dirtyState ledgered unledgered = .ok ⟨_, h⟩ := by
  rw [newPrSweepResult, construct_of_ok h]
  rfl

/-- A result without paths is accepted when its findings fit its status. -/
theorem validate_pathless {kind : PrSweepKind} {status : PrSweepStatus} {findings : List PrSweepFinding}
    (hstatus : status = .pass ↔ findings = []) (hkind : kind = .dirtyCloseout → status = .blocked) :
    (⟨kind, status, findings, none, [], []⟩ : PrSweepValidationResultData).validate = .ok () := by
  rw [PrSweepValidationResultData.validate, validateWith_eq_ok]
  refine ⟨rfl, ?_⟩
  simp only [List.forall_mem_cons, List.not_mem_nil, false_implies, implies_true, and_true, violation_fst]
  refine ⟨?_, ?_, ?_, ?_, ?_, ?_, ?_⟩
  · rw [hstatus]
    tauto
  · rintro ⟨-, h⟩
    exact h rfl
  · rintro ⟨-, h | h⟩
    · exact h rfl
    · exact h rfl
  · exact Bool.false_ne_true
  · rintro ⟨h, hnot⟩
    exact hnot (hkind h)
  · rintro ⟨-, h⟩
    exact Bool.false_ne_true h
  · rintro ⟨-, -, h⟩
    exact Bool.false_ne_true h

theorem prSweepFailure_returns (kind : PrSweepKind) (status : PrSweepStatus) {code message : String}
    (hcode : HasLetter code) (hmessage : HasLetter message) (hstatus : status ≠ .pass)
    (hkind : kind = .dirtyCloseout → status = .blocked) :
    ∃ r, prSweepFailure kind status code message = .ok r ∧ r.val.status = status := by
  obtain ⟨f, hf⟩ := newPrSweepFinding_lit hcode hmessage
  have hvalid := validate_pathless (iff_of_false hstatus (List.cons_ne_nil f [])) hkind
  refine ⟨⟨_, hvalid⟩, ?_, rfl⟩
  rw [prSweepFailure, hf]
  exact newPrSweepResult_of_validate hvalid

/-! ### Recurring findings return -/

variable {sha256 host}

theorem mem_sortStrings {s : PyStr} {strings : List PyStr} : s ∈ sortStrings strings ↔ s ∈ strings :=
  List.mem_insertionSort _

/-- Each error is a finding when it is a literal that an encodable string follows. -/
def IsMessage (s : PyStr) : Prop := ∃ (text : String) (t : PyStr), HasLetter text ∧ Encodes t ∧ s = PyStr.lit text ++ t

theorem recurringResult_returns {code : String} {errors : List PyStr} (status : PrSweepStatus)
    (hcode : HasLetter code) (herrors : ∀ e ∈ errors, IsMessage e) (hstatus : status = .pass ↔ errors = []) :
    ∃ r, recurringResult code errors status = .ok r := by
  obtain ⟨findings, hfindings⟩ : ∃ findings, (sortStrings errors).mapM (newPrSweepFinding code) = .ok findings := by
    apply ok_of_not_raises
    rw [raises_mapM_iff]
    rintro ⟨e, he, hraises⟩
    obtain ⟨text, t, htext, ht, rfl⟩ := herrors e (mem_sortStrings.mp he)
    obtain ⟨f, hf⟩ := newPrSweepFinding_append hcode htext ht
    rw [hf] at hraises
    exact not_raises_ok hraises
  have hlength : findings.length = errors.length := by
    have h := congrArg List.length (mapM_eq_ok_iff.mp hfindings)
    rw [List.length_map, List.length_map, sortStrings, List.length_insertionSort] at h
    exact h.symm
  have hvalid : (⟨.recurringFindings, status, findings, none, [], []⟩ : PrSweepValidationResultData).validate
      = .ok () := by
    apply validate_pathless
    · rw [hstatus, ← List.length_eq_zero_iff, ← List.length_eq_zero_iff, hlength]
    · intro h
      cases h
  refine ⟨⟨_, hvalid⟩, ?_⟩
  rw [recurringResult, hfindings]
  exact newPrSweepResult_of_validate hvalid

theorem encodes_dropWhile {s : PyStr} : Encodes (s.dropWhile isSpacePy) ↔ Encodes s := by
  have hblank : Encodes (s.takeWhile isSpacePy) := by
    rw [encodes_iff_forall]
    intro c hc
    have hspace := List.mem_takeWhile_imp hc
    cases c with
    | scalar d => exact ⟨d, rfl⟩
    | surrogate n => cases hspace
  conv_rhs => rw [← List.takeWhile_append_dropWhile (p := isSpacePy) (l := s), encodes_append]
  exact (and_iff_right hblank).symm

/-- A surrogate is no blank. -/
theorem encodes_strip {s : PyStr} : Encodes s.strip ↔ Encodes s := by
  have hreverse : ∀ t : PyStr, Encodes t.reverse ↔ Encodes t := by
    intro t
    simp only [encodes_iff_forall, List.mem_reverse]
  rw [PyStr.strip, List.rdropWhile, hreverse, encodes_dropWhile, hreverse, encodes_dropWhile]

theorem checkClass_returns_iff {seen : SeenClasses} {c : FindingClass} :
    (∃ s, checkClass sha256 host seen c = .ok s) ↔ Encodes c.normalizedInvariant := by
  rw [← encodes_strip, ← host.lower_encodes, Encodes, checkClass, expectedFingerprint]
  rcases (host.lower c.normalizedInvariant.strip).encode? with - | t
  · apply iff_of_false
    · rintro ⟨s, hs⟩
      cases hs
    · intro h
      cases h
  · exact iff_of_true ⟨_, rfl⟩ rfl

theorem FindingClass.MatchesPatterns.encodes {c : FindingClass} (h : c.MatchesPatterns) :
    Encodes c.findingClassId ∧ Encodes c.fingerprintSha256 := by
  rw [encodes_iff_forall, encodes_iff_forall]
  refine ⟨fun x hx => ?_, fun x hx => ?_⟩
  · obtain ⟨d, rfl, -⟩ := h.1 x hx
    exact ⟨d, rfl⟩
  · obtain ⟨d, rfl, -⟩ := h.2 x hx
    exact ⟨d, rfl⟩

theorem isMessage_of_if {p : Prop} [Decidable p] {text : String} {t e : PyStr} (htext : HasLetter text)
    (ht : Encodes t) (he : e ∈ if p then [PyStr.lit text ++ t] else []) : IsMessage e := by
  split_ifs at he
  · obtain rfl := List.mem_singleton.mp he
    exact ⟨text, t, htext, ht, rfl⟩
  · cases he

/-- What is said of a class names it, or its fingerprint. -/
theorem isMessage_of_mem_classErrors {seen : SeenClasses} {c : FindingClass} {expected e : PyStr}
    (hc : c.MatchesPatterns) (he : e ∈ classErrors host seen c expected) : IsMessage e := by
  obtain ⟨hid, hfingerprint⟩ := hc.encodes
  simp only [classErrors, List.mem_append] at he
  rcases he with ((((he | he) | he) | he) | he) | he
  · exact isMessage_of_if (.ofList (by decide)) hid he
  · exact isMessage_of_if (.ofList (by decide)) hfingerprint he
  · exact isMessage_of_if (.ofList (by decide)) hid he
  · exact isMessage_of_if (.ofList (by decide)) hid he
  · exact isMessage_of_if (.ofList (by decide)) hid he
  · apply isMessage_of_if _ hid he
    split_ifs
    · exact .ofList (by decide)
    · exact .ofList (by decide)

theorem isMessage_of_mem_referenceErrors {classes : List FindingClass} {e : PyStr}
    (he : e ∈ referenceErrors classes) : IsMessage e := by
  obtain ⟨c, -, rfl⟩ := List.mem_map.mp he
  exact ⟨_, [], .ofList (by decide), encodes_ofText [], (List.append_nil _).symm⟩

/-- The loop over the classes returns when every invariant encodes, with messages. -/
theorem foldlM_checkClass_returns {classes : List FindingClass} {seen : SeenClasses}
    (hclasses : ∀ c ∈ classes, c.MatchesPatterns) (hseen : ∀ e ∈ seen.errors, IsMessage e)
    (hencodes : ∀ c ∈ classes, Encodes c.normalizedInvariant) :
    ∃ s, classes.foldlM (checkClass sha256 host) seen = .ok s ∧ ∀ e ∈ s.errors, IsMessage e := by
  induction classes generalizing seen with
  | nil => exact ⟨seen, rfl, hseen⟩
  | cons c classes ih =>
    rw [List.forall_mem_cons] at hclasses hencodes
    have hreturns : ∃ s, checkClass sha256 host seen c = .ok s := checkClass_returns_iff.mpr hencodes.1
    obtain ⟨next, hnext⟩ := hreturns
    rw [List.foldlM_cons, hnext]
    apply ih hclasses.2 _ hencodes.2
    obtain ⟨expected, -, hs⟩ := bind_eq_ok_iff.mp hnext
    obtain rfl := Except.ok.inj hs
    intro e he
    rcases List.mem_append.mp he with he | he
    · exact hseen e he
    · exact isMessage_of_mem_classErrors hclasses.1 he

theorem encodes_of_foldlM_checkClass {classes : List FindingClass} {seen s : SeenClasses}
    (h : classes.foldlM (checkClass sha256 host) seen = .ok s) :
    ∀ c ∈ classes, Encodes c.normalizedInvariant := by
  induction classes generalizing seen with
  | nil => simp
  | cons c classes ih =>
    rw [List.foldlM_cons] at h
    obtain ⟨next, hnext, h⟩ := bind_eq_ok_iff.mp h
    rw [List.forall_mem_cons]
    exact ⟨checkClass_returns_iff.mp ⟨next, hnext⟩, ih h⟩

variable (sha256 host)

/-- The invariants of a ledger that the schema accepts encode. -/
def EncodingInvariants (file : LedgerFile) : Prop :=
  ∀ doc classes, readLedger host.decoder file = .ok doc → host.iterErrors doc = some [] →
    readClasses doc = .ok classes → ∀ c ∈ classes, Encodes c.normalizedInvariant

/-- What follows the reading returns, but for an invariant that does not encode. -/
theorem checkLedger_returns_iff (doc : JsonDoc) :
    (∃ r, checkLedger sha256 host doc = .ok r) ↔
      ∀ classes, host.iterErrors doc = some [] → readClasses doc = .ok classes →
        ∀ c ∈ classes, Encodes c.normalizedInvariant := by
  unfold checkLedger
  -- nested too deep, conforming, or refused by the schema
  rcases herrors : host.iterErrors doc with - | (- | ⟨keyword, keywords⟩)
  · obtain ⟨r, hr, -⟩ := prSweepFailure_returns .recurringFindings .fail
      (HasLetter.ofList (by decide) : HasLetter "ledger_schema")
      (HasLetter.ofList (by decide) : HasLetter "ledger structure exceeds validation depth") nofun nofun
    exact iff_of_true ⟨r, hr⟩ nofun
  · obtain ⟨classes, hclasses, hpatterns⟩ := host.conforms doc herrors
    show (∃ r, checkInvariants sha256 host doc = .ok r) ↔ _
    rw [checkInvariants, hclasses]
    constructor
    · rintro ⟨r, hr⟩ classes' - hclasses'
      obtain rfl := Except.ok.inj hclasses'
      obtain ⟨classes', hok, hr⟩ := bind_eq_ok_iff.mp hr
      obtain rfl := Except.ok.inj hok
      obtain ⟨seen, hseen, -⟩ := bind_eq_ok_iff.mp hr
      exact encodes_of_foldlM_checkClass hseen
    · intro hencodes
      -- every normalized invariant can be hashed, so the loop returns
      have hloop : ∃ s, classes.foldlM (checkClass sha256 host) { errors := referenceErrors classes } = .ok s ∧
          ∀ e ∈ s.errors, IsMessage e :=
        foldlM_checkClass_returns hpatterns (fun e he => isMessage_of_mem_referenceErrors he)
          (hencodes classes rfl rfl)
      obtain ⟨seen, hseen, hmessages⟩ := hloop
      have hstatus : (if seen.errors = [] then PrSweepStatus.pass else .fail) = .pass ↔ seen.errors = [] := by
        split_ifs with h
        · exact iff_of_true rfl h
        · exact iff_of_false nofun h
      obtain ⟨r, hr⟩ := recurringResult_returns _ (HasLetter.ofList (by decide) : HasLetter "ledger_invariant")
        hmessages hstatus
      refine ⟨r, ?_⟩
      show (classes.foldlM (checkClass sha256 host) { errors := referenceErrors classes } >>= _) = _
      rw [hseen]
      exact hr
  · have hmessages : ∀ e ∈ (keyword :: keywords).map fun keyword =>
        PyStr.lit "ledger schema constraint failed: " ++ PyStr.ofText keyword.val, IsMessage e := by
      intro e he
      obtain ⟨k, -, rfl⟩ := List.mem_map.mp he
      exact ⟨_, _, .ofList (by decide), encodes_ofText k.val, rfl⟩
    obtain ⟨r, hr⟩ := recurringResult_returns .fail (HasLetter.ofList (by decide) : HasLetter "ledger_schema") hmessages
      (iff_of_false nofun nofun)
    exact iff_of_true ⟨r, hr⟩ nofun

/-- **The check of the recurring findings returns**, but for an invariant that does not encode. -/
theorem recurring_returns_iff (file : LedgerFile) :
    (∃ r, validateRecurringFindings sha256 host file = .ok r) ↔ EncodingInvariants host file := by
  unfold validateRecurringFindings EncodingInvariants
  rcases hread : readLedger host.decoder file with e | doc
  · obtain ⟨r, hr, -⟩ := prSweepFailure_returns .recurringFindings .fail
      (HasLetter.ofList (by decide) : HasLetter "ledger_unreadable")
      (HasLetter.ofList (by decide) : HasLetter "could not read or parse ledger JSON") nofun nofun
    refine iff_of_true ⟨r, ?_⟩ nofun
    show (if isLedgerFault e then _ else _) = _
    rw [if_pos (isLedgerFault_of_readLedger hread)]
    exact hr
  · show (∃ r, checkLedger sha256 host doc = .ok r) ↔ _
    rw [checkLedger_returns_iff]
    constructor
    · intro h doc' classes hdoc
      obtain rfl := Except.ok.inj hdoc
      exact h classes
    · intro h classes
      exact h doc classes rfl

/-! ### Line ends of the output -/

theorem universalNewlines_cons {c : Char} (hc : c ≠ '\r') (t : Text) :
    universalNewlines (c :: t) = c :: universalNewlines t := by
  rw [universalNewlines, if_neg hc]
  rintro - h
  exact absurd h hc

theorem universalNewlines_append {a : Text} (ha : '\r' ∉ a) (t : Text) :
    universalNewlines (a ++ t) = a ++ universalNewlines t := by
  induction a with
  | nil => rfl
  | cons c a ih =>
    rw [List.mem_cons, not_or] at ha
    rw [List.cons_append, universalNewlines_cons (Ne.symm ha.1), ih ha.2, List.cons_append]

theorem universalNewlines_eq_self {t : Text} (ht : '\r' ∉ t) : universalNewlines t = t := by
  have h := universalNewlines_append ht []
  rwa [List.append_nil, universalNewlines, List.append_nil] at h

/-- The end of a field is no part of a line end. -/
theorem universalNewlines_append_nul (a b : Text) :
    universalNewlines (a ++ '\x00' :: b) = universalNewlines a ++ '\x00' :: universalNewlines b := by
  fun_induction universalNewlines a with
  | case1 => exact universalNewlines_cons (by decide) b
  | case2 t ih => rw [List.cons_append, List.cons_append, universalNewlines, ih, List.cons_append]
  | case3 c t hpair ih =>
    rw [List.cons_append, universalNewlines, ih, List.cons_append]
    intro rest hc hrest
    cases t with
    | nil => exact absurd (List.cons.inj hrest).1 (by decide)
    | cons d t => exact hpair t hc (by rw [(List.cons.inj hrest).1])

theorem nul_mem_universalNewlines {t : Text} (h : '\x00' ∈ universalNewlines t) : '\x00' ∈ t := by
  fun_induction universalNewlines t with
  | case1 => exact h
  | case2 t ih =>
    rcases List.mem_cons.mp h with h | h
    · exact absurd h (by decide)
    · exact List.mem_cons_of_mem _ (List.mem_cons_of_mem _ (ih h))
  | case3 c t hpair ih =>
    rcases List.mem_cons.mp h with h | h
    · split_ifs at h with hc
      · exact absurd h (by decide)
      · exact h ▸ List.mem_cons_self
    · exact List.mem_cons_of_mem _ (ih h)

/-- A carriage return leaves a line feed. -/
theorem lineFeed_mem_universalNewlines {t : Text} (h : '\r' ∈ t) : '\n' ∈ universalNewlines t := by
  fun_induction universalNewlines t with
  | case1 => cases h
  | case2 t ih => exact List.mem_cons_self
  | case3 c t hpair ih =>
    rcases List.mem_cons.mp h with rfl | h
    · exact List.mem_cons_self
    · exact List.mem_cons_of_mem _ (ih h)

/-- No line end is portable, whichever it is. -/
theorem isPortable_universalNewlines (t : Text) : isPortable (universalNewlines t) = isPortable t := by
  by_cases hmem : '\r' ∈ t
  · have hleft : ¬ isPortable (universalNewlines t) = true := fun h =>
      ((portable_iff.mp h).letters _ (lineFeed_mem_universalNewlines hmem)).2.2 rfl
    have hright : ¬ isPortable t = true := fun h => ((portable_iff.mp h).letters _ hmem).2.1 rfl
    rw [Bool.eq_false_iff.mpr hleft, Bool.eq_false_iff.mpr hright]
  · rw [universalNewlines_eq_self hmem]

namespace PorcelainRecord

/-- The record after the run has decoded it. -/
def decoded (r : PorcelainRecord) : PorcelainRecord where
  code := r.code
  path := universalNewlines r.path
  origin := r.origin.map universalNewlines
  path_noNul := fun h => r.path_noNul (nul_mem_universalNewlines h)
  origin_noNul := by
    intro o ho
    obtain ⟨q, hq, rfl⟩ := Option.mem_map.mp ho
    exact fun h => r.origin_noNul q hq (nul_mem_universalNewlines h)
  origin_iff := by rw [Option.isSome_map, r.origin_iff]

/-- The paths that are taken from a record: an origin only of a change in the index. -/
def Reads (r : PorcelainRecord) (p : Text) : Prop :=
  p = r.path ∨ r.code.indexChanged = true ∧ p ∈ r.origin

theorem reads_decoded {r : PorcelainRecord} {p : Text} :
    r.decoded.Reads p ↔ ∃ q, r.Reads q ∧ universalNewlines q = p := by
  constructor
  · rintro (rfl | ⟨hindex, hp⟩)
    · exact ⟨r.path, Or.inl rfl, rfl⟩
    · obtain ⟨q, hq, rfl⟩ := Option.mem_map.mp hp
      exact ⟨q, Or.inr ⟨hindex, hq⟩, rfl⟩
  · rintro ⟨q, rfl | ⟨hindex, hq⟩, rfl⟩
    · exact Or.inl rfl
    · exact Or.inr ⟨hindex, Option.mem_map.mpr ⟨q, hq, rfl⟩⟩

theorem universalNewlines_fields (r : PorcelainRecord) :
    r.decoded.fields = r.fields.map universalNewlines := by
  have hletters : '\r' ∉ r.code.text ++ [' '] := by
    rcases r.code with - | ⟨index, worktree, h⟩
    · decide
    · rw [StatusCode.text]
      cases index <;> cases worktree <;> decide
  rw [fields, fields, List.map_cons, ← List.singleton_append (l := r.path), ← List.append_assoc,
    universalNewlines_append hletters, List.append_assoc]
  show _ :: (r.origin.map universalNewlines).toList = _
  cases r.origin <;> rfl

end PorcelainRecord

theorem universalNewlines_encode (records : List PorcelainRecord) :
    universalNewlines (encodePorcelain records) = encodePorcelain (records.map PorcelainRecord.decoded) := by
  have hfields : ∀ fields : List Text, universalNewlines (fields.flatMap fun field => field ++ ['\x00']) =
      (fields.map universalNewlines).flatMap fun field => field ++ ['\x00'] := by
    intro fields
    induction fields with
    | nil => rfl
    | cons field fields ih =>
      rw [List.flatMap_cons, List.append_assoc, List.singleton_append, universalNewlines_append_nul, ih,
        List.map_cons, List.flatMap_cons, List.append_assoc, List.singleton_append]
  have hdecoded : (records.map PorcelainRecord.decoded).flatMap PorcelainRecord.fields =
      (records.flatMap PorcelainRecord.fields).map universalNewlines := by
    rw [List.flatMap_map, List.map_flatMap]
    exact congrArg (fun f => records.flatMap f) (funext PorcelainRecord.universalNewlines_fields)
  rw [encodePorcelain, hfields, encodePorcelain, hdecoded]

/-- The dirty paths of a status are those that are taken from its records, and it is read
exactly when they are portable. -/
theorem parsePorcelain_encode (records : List PorcelainRecord) :
    ∃ dirty : List Text, (∀ p, p ∈ dirty ↔ ∃ r ∈ records, r.Reads p) ∧
      ((∃ state, parsePorcelain (encodePorcelain records) = .ok state) ↔ ∀ p ∈ dirty, isPortable p = true) ∧
      ∀ state, parsePorcelain (encodePorcelain records) = .ok state →
        state.val.dirtyPaths = sortedChangedPaths dirty := by
  obtain ⟨s, hstaged, hunstaged, huntracked, hparse⟩ := parse_encode records
  refine ⟨s.staged ++ s.unstaged ++ s.untracked, fun p => ?_, ?_, fun state hstate => ?_⟩
  · rw [List.mem_append, List.mem_append, hstaged, hunstaged, huntracked]
    constructor
    · rintro ((⟨r, hr, hindex, hp | hp⟩ | ⟨r, hr, -, rfl⟩) | ⟨r, hr, hcode, hp | hp⟩)
      · exact ⟨r, hr, Or.inl hp⟩
      · exact ⟨r, hr, Or.inr ⟨hindex, hp⟩⟩
      · exact ⟨r, hr, Or.inl rfl⟩
      · exact ⟨r, hr, Or.inl hp⟩
      · -- an untracked path has no origin
        have hsome := r.origin_iff
        rw [Option.mem_def.mp hp, hcode] at hsome
        cases hsome
    · rintro ⟨r, hr, rfl | ⟨hindex, hp⟩⟩
      · rcases classified r.code with hindex | hworktree | hcode
        · exact Or.inl (Or.inl ⟨r, hr, hindex, Or.inl rfl⟩)
        · exact Or.inl (Or.inr ⟨r, hr, hworktree, rfl⟩)
        · exact Or.inr ⟨r, hr, hcode, Or.inl rfl⟩
      · exact Or.inl (Or.inl ⟨r, hr, hindex, Or.inr hp⟩)
  · rw [← s.validate_iff, hparse]
    constructor
    · rintro ⟨state, hstate⟩
      rw [← construct_eq_ok_iff.mp (mapError_eq_ok_iff.mp hstate)]
      exact state.2
    · intro hvalid
      rw [construct_of_ok hvalid]
      exact ⟨_, rfl⟩
  · rw [construct_eq_ok_iff.mp (mapError_eq_ok_iff.mp (hparse.symm.trans hstate))]
    rfl

/-! ### What a ledger accounts for -/

variable {host}

/-- A ledger that is read to its end. -/
def ReadableAs (host : LedgerHost) (file : LedgerFile) (doc : JsonDoc) : Prop :=
  readLedger host.decoder file = .ok doc ∧ host.walks doc = true

theorem ReadableAs.unique {file : LedgerFile} {doc doc' : JsonDoc} (h : ReadableAs host file doc)
    (h' : ReadableAs host file doc') : doc = doc' :=
  Except.ok.inj (h.1.symm.trans h'.1)

/-- The findings about a ledger have texts. -/
def LedgerAccount.HasTexts (account : LedgerAccount) : Prop :=
  ∀ issue ∈ account.issues, HasLetter issue.1 ∧ HasLetter issue.2

theorem accountOf_issues_eq_nil_iff {paths : List PyStr} :
    (accountOf paths).issues = [] ↔ ∀ p ∈ paths, isPortablePath p = true := by
  rw [accountOf, List.map_eq_nil_iff, List.filter_eq_nil_iff]
  simp only [List.mem_dedup, Bool.not_eq_true, Bool.not_eq_false']

theorem mem_accountOf_paths {paths : List PyStr} {p : PyStr} :
    p ∈ (accountOf paths).paths ↔ p ∈ paths ∧ isPortablePath p = true := by
  rw [accountOf, mem_sortStrings, List.mem_filter, List.mem_dedup]

/-- The account is that of the paths of a readable ledger, or a finding about the file. -/
theorem accountLedger_some (file : LedgerFile) :
    (∃ doc, ReadableAs host file doc ∧ accountLedger host (some file) = .ok (accountOf (ledgerPaths doc))) ∨
      (¬ ∃ doc, ReadableAs host file doc) ∧
        accountLedger host (some file) =
          .ok { issues := [("ledger_unreadable", "could not read or parse dirty-worktree ledger JSON")] } := by
  rw [accountLedger]
  rcases hread : readLedger host.decoder file with e | doc
  · right
    refine ⟨?_, if_pos (isLedgerFault_of_readLedger hread)⟩
    rintro ⟨doc, hdoc, -⟩
    cases hread.symm.trans hdoc
  · by_cases hwalks : host.walks doc = true
    · exact Or.inl ⟨doc, ⟨hread, hwalks⟩, if_pos hwalks⟩
    · right
      refine ⟨?_, if_neg hwalks⟩
      rintro ⟨doc', hdoc, hwalks'⟩
      obtain rfl := Except.ok.inj (hread.symm.trans hdoc)
      exact hwalks hwalks'

/-- What an account says, of the ledger it is made from. -/
structure AccountsFor (host : LedgerHost) (ledger : Option LedgerFile) (account : LedgerAccount) : Prop where
  hasTexts : account.HasTexts
  mem_paths : ∀ p, p ∈ account.paths ↔
    ∃ file ∈ ledger, ∃ doc, ReadableAs host file doc ∧ p ∈ ledgerPaths doc ∧ isPortablePath p = true
  issues_eq_nil : account.issues = [] ↔
    ∀ file ∈ ledger, ∃ doc, ReadableAs host file doc ∧ ∀ p ∈ ledgerPaths doc, isPortablePath p = true

theorem accountLedger_accounts (ledger : Option LedgerFile) :
    ∃ account, accountLedger host ledger = .ok account ∧ AccountsFor host ledger account := by
  rcases ledger with - | file
  · refine ⟨{}, rfl, nofun, fun p => ?_, ?_⟩
    · exact iff_of_false List.not_mem_nil nofun
    · exact iff_of_true rfl nofun
  -- a ledger that is given is read, or is one issue itself
  rcases @accountLedger_some host file with ⟨doc, hdoc, haccount⟩ | ⟨hnone, haccount⟩
  · refine ⟨_, haccount, ?_, fun p => ?_, ?_⟩
    · intro issue hissue
      obtain ⟨p, -, rfl⟩ := List.mem_map.mp hissue
      exact ⟨.ofList (by decide), .ofList (by decide)⟩
    · rw [mem_accountOf_paths]
      constructor
      · intro hp
        exact ⟨file, rfl, doc, hdoc, hp⟩
      · rintro ⟨file', hfile, doc', hdoc', hp⟩
        obtain rfl := Option.some.inj hfile
        rw [hdoc'.unique hdoc] at hp
        exact hp
    · rw [accountOf_issues_eq_nil_iff]
      constructor
      · intro hportable file' hfile
        obtain rfl := Option.some.inj hfile
        exact ⟨doc, hdoc, hportable⟩
      · intro h
        obtain ⟨doc', hdoc', hportable⟩ := h file rfl
        rw [hdoc'.unique hdoc] at hportable
        exact hportable
  · refine ⟨_, haccount, ?_, fun p => ?_, ?_⟩
    · intro issue hissue
      obtain rfl := List.mem_singleton.mp hissue
      exact ⟨.ofList (by decide), .ofList (by decide)⟩
    · refine iff_of_false List.not_mem_nil ?_
      rintro ⟨file', hfile, doc, hdoc, -⟩
      obtain rfl := Option.some.inj hfile
      exact hnone ⟨doc, hdoc⟩
    · refine iff_of_false (List.cons_ne_nil _ _) fun h => ?_
      obtain ⟨doc, hdoc, -⟩ := h file rfl
      exact hnone ⟨doc, hdoc⟩

/-! ### What the accounting decides -/

theorem mem_unledgeredPaths {dirty : List Text} {ledgered : List PyStr} {p : Text} :
    p ∈ unledgeredPaths dirty ledgered ↔ p ∈ dirty ∧ PyStr.ofText p ∉ ledgered := by
  rw [unledgeredPaths, mem_sortedChangedPaths, List.mem_filter, decide_eq_true_eq]

theorem dirtyIssues_eq_nil_iff {dirty : List Text} {ledger : Option LedgerFile} {requireClean : Bool}
    {unledgered : List Text} :
    dirtyIssues dirty ledger requireClean unledgered = [] ↔
      (requireClean = true → dirty = []) ∧ (ledger.isNone = true → dirty = []) ∧ unledgered = [] := by
  unfold dirtyIssues
  split_ifs with hclean hledger hnamed
  · exact iff_of_false id fun h => hclean.2 (h.1 hclean.1)
  · exact iff_of_false id fun h => hledger.1 (h.2.1 hledger.2)
  · exact iff_of_false id fun h => hnamed h.2.2
  · refine iff_of_true rfl ⟨fun h => ?_, fun h => ?_, not_not.mp hnamed⟩
    · by_contra hne
      exact hclean ⟨h, hne⟩
    · by_contra hne
      exact hledger ⟨hne, h⟩

theorem hasTexts_dirtyIssues {dirty : List Text} {ledger : Option LedgerFile} {requireClean : Bool}
    {unledgered : List Text} :
    ∀ issue ∈ dirtyIssues dirty ledger requireClean unledgered, HasLetter issue.1 ∧ HasLetter issue.2 := by
  intro issue hissue
  unfold dirtyIssues at hissue
  split_ifs at hissue
  · obtain rfl := List.mem_singleton.mp hissue
    exact ⟨.ofList (by decide), .ofList (by decide)⟩
  · obtain rfl := List.mem_singleton.mp hissue
    exact ⟨.ofList (by decide), .ofList (by decide)⟩
  · obtain rfl := List.mem_singleton.mp hissue
    exact ⟨.ofList (by decide), .ofList (by decide)⟩
  · cases hissue

theorem isPortablePath_ofText (t : Text) : isPortablePath (PyStr.ofText t) = isPortable t := by
  rw [isPortablePath, PyStr.ofText, List.map_map]
  exact congrArg isPortable (List.map_id t)

/-- The ledger is in order, and nothing is dirty, or a clean tree is not required and the
ledger names all that is. -/
def LedgerAccount.Covers (account : LedgerAccount) (dirty : List Text) (ledger : Option LedgerFile)
    (requireClean : Bool) : Prop :=
  account.issues = [] ∧
    (dirty = [] ∨ requireClean = false ∧ ledger.isSome = true ∧ ∀ p ∈ dirty, PyStr.ofText p ∈ account.paths)

theorem unledgeredPaths_eq_nil_iff {dirty : List Text} {ledgered : List PyStr} :
    unledgeredPaths dirty ledgered = [] ↔ ∀ p ∈ dirty, PyStr.ofText p ∈ ledgered := by
  rw [List.eq_nil_iff_forall_not_mem]
  simp only [mem_unledgeredPaths, not_and, not_not]

theorem issues_eq_nil_iff {dirty : List Text} {account : LedgerAccount} {ledger : Option LedgerFile}
    {requireClean : Bool} :
    account.issues ++ dirtyIssues dirty ledger requireClean (unledgeredPaths dirty account.paths) = [] ↔
      account.Covers dirty ledger requireClean := by
  rw [List.append_eq_nil_iff, dirtyIssues_eq_nil_iff, unledgeredPaths_eq_nil_iff]
  refine and_congr_right fun _ => ⟨?_, ?_⟩
  · rintro ⟨hclean, hledger, hnamed⟩
    by_cases hdirty : dirty = []
    · exact Or.inl hdirty
    · refine Or.inr ⟨Bool.eq_false_iff.mpr fun h => hdirty (hclean h), ?_, hnamed⟩
      cases ledger with
      | none => exact absurd (hledger rfl) hdirty
      | some file => rfl
  · rintro (rfl | ⟨hclean, hledger, hnamed⟩)
    · exact ⟨fun _ => rfl, fun _ => rfl, by simp⟩
    · refine ⟨fun h => ?_, fun h => ?_, hnamed⟩
      · rw [hclean] at h
        cases h
      · cases ledger with
        | none => cases hledger
        | some file => cases h

/-- The status says whether there are findings. -/
def statusOf (findings : List PrSweepFinding) : PrSweepStatus := if findings = [] then .pass else .fail

theorem statusOf_eq_pass_iff {findings : List PrSweepFinding} : statusOf findings = .pass ↔ findings = [] := by
  unfold statusOf
  split_ifs with h
  · exact iff_of_true rfl h
  · exact iff_of_false nofun h

/-- The findings are made, and there are none when the account covers the dirty paths. -/
theorem closeoutResult_eq (state : PrSweepDirtyState) {account : LedgerAccount} (ledger : Option LedgerFile)
    (requireClean : Bool) (htexts : account.HasTexts) :
    ∃ findings, (findings = [] ↔ account.Covers state.val.dirtyPaths ledger requireClean) ∧
      closeoutResult state account ledger requireClean =
        newPrSweepResult .dirtyCloseout (statusOf findings) findings (some state) account.paths
          ((unledgeredPaths state.val.dirtyPaths account.paths).map PyStr.ofText) := by
  obtain ⟨findings, hfindings⟩ : ∃ findings,
      (account.issues ++ dirtyIssues state.val.dirtyPaths ledger requireClean
        (unledgeredPaths state.val.dirtyPaths account.paths)).mapM
          (fun issue => newPrSweepFinding issue.1 (PyStr.lit issue.2)) = .ok findings := by
    apply ok_of_not_raises
    rw [raises_mapM_iff]
    rintro ⟨issue, hissue, hraises⟩
    -- every issue has letters in its code and its text
    have htext : HasLetter issue.1 ∧ HasLetter issue.2 := by
      rcases List.mem_append.mp hissue with hissue | hissue
      · exact htexts issue hissue
      · exact hasTexts_dirtyIssues issue hissue
    obtain ⟨f, hf⟩ := newPrSweepFinding_lit htext.1 htext.2
    rw [hf] at hraises
    exact not_raises_ok hraises
  refine ⟨findings, ?_, ?_⟩
  · have h := congrArg List.length (mapM_eq_ok_iff.mp hfindings)
    rw [List.length_map, List.length_map] at h
    rw [← issues_eq_nil_iff, ← List.length_eq_zero_iff, ← h, List.length_eq_zero_iff]
  · show (List.mapM _ _ >>= _) = _
    rw [hfindings]
    rfl

theorem isPortable_of_mem_dirtyPaths {state : PrSweepDirtyState} {p : Text} (hp : p ∈ state.val.dirtyPaths) :
    isPortable p = true := by
  by_contra hnot
  have h := (validateWith_eq_ok.mp state.2).2 _ List.mem_cons_self
  rw [violation_fst] at h
  exact h (List.any_eq_true.mpr ⟨p, List.mem_append_right _ hp, by simpa using hnot⟩)

/-- The model accepts what the accounting makes of portable paths. -/
theorem closeout_validate (state : PrSweepDirtyState) {findings : List PrSweepFinding} {paths : List PyStr}
    (hportable : ∀ p ∈ paths, isPortablePath p = true)
    (hcovers : findings = [] → ∀ p ∈ state.val.dirtyPaths, PyStr.ofText p ∈ paths) :
    (⟨.dirtyCloseout, statusOf findings, findings, some state, paths,
      (unledgeredPaths state.val.dirtyPaths paths).map PyStr.ofText⟩ : PrSweepValidationResultData).validate
        = .ok () := by
  have hmem : ∀ s, s ∈ (unledgeredPaths state.val.dirtyPaths paths).map PyStr.ofText ↔
      s ∈ state.val.dirtyPaths.map PyStr.ofText ∧ s ∉ paths := by
    intro s
    rw [List.mem_map, List.mem_map]
    constructor
    · rintro ⟨p, hp, rfl⟩
      rw [mem_unledgeredPaths] at hp
      exact ⟨⟨p, hp.1, rfl⟩, hp.2⟩
    · rintro ⟨⟨p, hp, rfl⟩, hs⟩
      exact ⟨p, mem_unledgeredPaths.mpr ⟨hp, hs⟩, rfl⟩
  rw [PrSweepValidationResultData.validate, validateWith_eq_ok]
  refine ⟨rfl, ?_⟩
  simp only [List.forall_mem_cons, List.not_mem_nil, false_implies, implies_true, and_true, violation_fst]
  -- the rules of the result model, in its order
  refine ⟨?_, ?_, ?_, ?_, ?_, ?_, ?_⟩
  · rw [statusOf_eq_pass_iff]
    tauto
  · rintro ⟨h, -⟩
    cases h
  · rintro ⟨h, -⟩
    cases h
  · intro hany
    obtain ⟨s, hs, hnot⟩ := List.any_eq_true.mp hany
    have hs' : isPortablePath s = true := by
      rcases List.mem_append.mp hs with hs | hs
      · exact hportable s hs
      · obtain ⟨p, hp, rfl⟩ := List.mem_map.mp ((hmem s).mp hs).1
        rw [isPortablePath_ofText]
        exact isPortable_of_mem_dirtyPaths hp
    rw [hs'] at hnot
    cases hnot
  · rintro ⟨-, -, h⟩
    cases h
  · rintro ⟨-, h⟩
    have hsame : sameSet ((unledgeredPaths state.val.dirtyPaths paths).map PyStr.ofText)
        ((state.val.dirtyPaths.map PyStr.ofText).filter (· ∉ paths)) = true := by
      rw [sameSet_iff]
      intro s
      rw [hmem, List.mem_filter, decide_eq_true_eq]
    rw [Option.any_some, PrSweepValidationResultData.unledgered, hsame] at h
    cases h
  · rintro ⟨-, hstatus, h⟩
    have hnone : (state.val.dirtyPaths.map PyStr.ofText).filter (· ∉ paths) = [] := by
      rw [List.filter_eq_nil_iff]
      intro s hs hnot
      obtain ⟨p, hp, rfl⟩ := List.mem_map.mp hs
      exact of_decide_eq_true hnot (hcovers (statusOf_eq_pass_iff.mp hstatus) p hp)
    rw [Option.any_some, PrSweepValidationResultData.unledgered, hnone] at h
    cases h

/-- **The accounting** returns, and passes when the ledger is in order and covers what it must. -/
theorem closeoutResult_spec (state : PrSweepDirtyState) {account : LedgerAccount} (ledger : Option LedgerFile)
    (requireClean : Bool) (htexts : account.HasTexts)
    (hportable : ∀ p ∈ account.paths, isPortablePath p = true) :
    ∃ r, closeoutResult state account ledger requireClean = .ok r ∧
      (r.val.status = .pass ↔ account.Covers state.val.dirtyPaths ledger requireClean) := by
  obtain ⟨findings, hnil, heq⟩ := closeoutResult_eq state ledger requireClean htexts
  have hcovers : findings = [] → ∀ p ∈ state.val.dirtyPaths, PyStr.ofText p ∈ account.paths := by
    intro hfindings p hp
    rcases (hnil.mp hfindings).2 with hdirty | ⟨-, -, hnamed⟩
    · rw [hdirty] at hp
      cases hp
    · exact hnamed p hp
  have hvalid := closeout_validate state hportable hcovers
  refine ⟨⟨_, hvalid⟩, ?_, ?_⟩
  · rw [heq]
    exact newPrSweepResult_of_validate hvalid
  · rw [← hnil]
    exact statusOf_eq_pass_iff

/-! ### The two checks -/

variable (host)

/-- The ledger names every path of the records that `named` picks. -/
def LedgerCovers (ledger : Option LedgerFile) (requireClean : Bool) (records : List PorcelainRecord)
    (named : PorcelainRecord → Text → Prop) : Prop :=
  (∀ file ∈ ledger, ∃ doc, ReadableAs host file doc ∧ ∀ p ∈ ledgerPaths doc, isPortablePath p = true) ∧
    (records = [] ∨ requireClean = false ∧ ∃ file ∈ ledger, ∃ doc, ReadableAs host file doc ∧
      ∀ r ∈ records, ∀ p, named r p → PyStr.ofText p ∈ ledgerPaths doc)

/-- The closeout returns, and passes exactly when the ledger, if given, is readable and names only
portable paths, and nothing is dirty, or a clean tree is not required and the ledger names every
path that is: the path of each record and the origin of each rename or copy. -/
def CloseoutExact (records : List PorcelainRecord) (ledger : Option LedgerFile) (requireClean : Bool) : Prop :=
  ∃ result, validatePrSweepDirtyCloseout host (.status (encodePorcelain records)) ledger requireClean = .ok result ∧
    (result.val.status = .pass ↔ LedgerCovers host ledger requireClean records PorcelainRecord.Names)

/-- The paths that are taken from a status are portable. -/
def PortableRecords (records : List PorcelainRecord) : Prop :=
  ∀ r ∈ records, ∀ p, r.Reads p → isPortable p = true

/-- A ledger that names every path that is taken from the status names the origins of the renames
in the worktree too. -/
def NamesOrigins (records : List PorcelainRecord) (ledger : Option LedgerFile) (requireClean : Bool) : Prop :=
  requireClean = false → ∀ file ∈ ledger, ∀ doc, ReadableAs host file doc →
    (∀ p ∈ ledgerPaths doc, isPortablePath p = true) →
    (∀ r ∈ records, ∀ p, r.Reads p → PyStr.ofText p ∈ ledgerPaths doc) →
    ∀ r ∈ records, ∀ o ∈ r.origin, PyStr.ofText o ∈ ledgerPaths doc

variable {host}

/-- What is covered, in terms of the records and the ledger. -/
theorem AccountsFor.covers_iff {ledger : Option LedgerFile} {account : LedgerAccount} {requireClean : Bool}
    {dirty : List Text} {records : List PorcelainRecord} (haccount : AccountsFor host ledger account)
    (hdirty : ∀ p, p ∈ dirty ↔ ∃ r ∈ records, r.Reads p) (hportable : PortableRecords records) :
    account.Covers dirty ledger requireClean ↔
      LedgerCovers host ledger requireClean records PorcelainRecord.Reads := by
  -- a record has a path, so no dirty path means no record
  have hnil : dirty = [] ↔ records = [] := by
    constructor
    · rintro rfl
      rw [List.eq_nil_iff_forall_not_mem]
      intro r hr
      exact absurd ((hdirty r.path).mpr ⟨r, hr, Or.inl rfl⟩) List.not_mem_nil
    · rintro rfl
      rw [List.eq_nil_iff_forall_not_mem]
      intro p hp
      obtain ⟨r, hr, -⟩ := (hdirty p).mp hp
      cases hr
  rw [LedgerAccount.Covers, LedgerCovers, haccount.issues_eq_nil, hnil]
  refine and_congr_right fun hreadable => or_congr_right (and_congr_right fun _ => ?_)
  constructor
  · rintro ⟨hsome, hnamed⟩
    obtain ⟨file, rfl⟩ := Option.isSome_iff_exists.mp hsome
    obtain ⟨doc, hdoc, -⟩ := hreadable file rfl
    refine ⟨file, rfl, doc, hdoc, fun r hr p hp => ?_⟩
    obtain ⟨file', hfile, doc', hdoc', hmem, -⟩ := (haccount.mem_paths _).mp (hnamed p ((hdirty p).mpr ⟨r, hr, hp⟩))
    obtain rfl := Option.some.inj hfile
    rwa [hdoc.unique hdoc']
  · rintro ⟨file, hfile, doc, hdoc, hnamed⟩
    refine ⟨Option.isSome_iff_exists.mpr ⟨file, hfile⟩, fun p hp => ?_⟩
    obtain ⟨r, hr, hp⟩ := (hdirty p).mp hp
    refine (haccount.mem_paths _).mpr ⟨file, hfile, doc, hdoc, hnamed r hr p hp, ?_⟩
    rw [isPortablePath_ofText]
    exact hportable r hr p hp

/-- The paths that are read of a record are paths that it names; what it names besides is its origin. -/
theorem PorcelainRecord.names_iff {r : PorcelainRecord} {p : Text} : r.Names p ↔ r.Reads p ∨ p ∈ r.origin := by
  rw [PorcelainRecord.Names, PorcelainRecord.Reads, or_assoc]
  exact or_congr_right ⟨Or.inr, fun h => h.elim And.right id⟩

/-- To name what is read is to name what is dirty exactly when the origins come with it. -/
theorem ledgerCovers_congr_iff {ledger : Option LedgerFile} {requireClean : Bool} {records : List PorcelainRecord} :
    (LedgerCovers host ledger requireClean records PorcelainRecord.Reads ↔
      LedgerCovers host ledger requireClean records PorcelainRecord.Names) ↔
        NamesOrigins host records ledger requireClean := by
  constructor
  · -- a ledger that names what is read passes, so it must name the origins
    rintro hiff hclean file hfile doc hdoc hportable hreads r hr o ho
    have hreadable : ∀ file' ∈ ledger, ∃ doc, ReadableAs host file' doc ∧
        ∀ p ∈ ledgerPaths doc, isPortablePath p = true := by
      intro file' hfile'
      obtain rfl := Option.mem_unique hfile hfile'
      exact ⟨doc, hdoc, hportable⟩
    rcases (hiff.mp ⟨hreadable, Or.inr ⟨hclean, file, hfile, doc, hdoc, hreads⟩⟩).2 with hnil | ⟨-, file', hfile', h⟩
    · rw [hnil] at hr
      cases hr
    · obtain ⟨doc', hdoc', hnames⟩ := h
      obtain rfl := Option.mem_unique hfile hfile'
      rw [hdoc.unique hdoc']
      exact hnames r hr o (Or.inr ho)
  · intro horigins
    refine and_congr_right fun hreadable => or_congr_right (and_congr_right fun hclean => ?_)
    refine exists_congr fun file => and_congr_right fun hfile => exists_congr fun doc => and_congr_right fun hdoc => ?_
    constructor
    · intro hreads r hr p hp
      rcases PorcelainRecord.names_iff.mp hp with hp | hp
      · exact hreads r hr p hp
      · obtain ⟨doc', hdoc', hportable⟩ := hreadable file hfile
        rw [← hdoc.unique hdoc'] at hportable
        exact horigins hclean file hfile doc hdoc hportable hreads r hr p hp
    · intro hnames r hr p hp
      exact hnames r hr p (PorcelainRecord.names_iff.mpr (Or.inl hp))

/-- Decoding does not change a status whose paths are portable. -/
theorem reads_decoded_iff {records : List PorcelainRecord} (hportable : PortableRecords records) (p : Text) :
    (∃ r ∈ records.map PorcelainRecord.decoded, r.Reads p) ↔ ∃ r ∈ records, r.Reads p := by
  have hself : ∀ r ∈ records, ∀ q, r.Reads q → universalNewlines q = q := by
    intro r hr q hq
    refine universalNewlines_eq_self fun hmem => ?_
    exact ((portable_iff.mp (hportable r hr q hq)).letters _ hmem).2.1 rfl
  constructor
  · rintro ⟨r', hr', hp⟩
    obtain ⟨r, hr, rfl⟩ := List.mem_map.mp hr'
    obtain ⟨q, hq, rfl⟩ := PorcelainRecord.reads_decoded.mp hp
    rw [hself r hr q hq]
    exact ⟨r, hr, hq⟩
  · rintro ⟨r, hr, hp⟩
    exact ⟨r.decoded, List.mem_map_of_mem hr, PorcelainRecord.reads_decoded.mpr ⟨p, hp, hself r hr p hp⟩⟩

theorem portableRecords_decoded {records : List PorcelainRecord} :
    PortableRecords (records.map PorcelainRecord.decoded) ↔ PortableRecords records := by
  constructor
  · intro h r hr p hp
    rw [← isPortable_universalNewlines]
    exact h r.decoded (List.mem_map_of_mem hr) _ (PorcelainRecord.reads_decoded.mpr ⟨p, hp, rfl⟩)
  · intro h r' hr' p hp
    obtain ⟨r, hr, rfl⟩ := List.mem_map.mp hr'
    obtain ⟨q, hq, rfl⟩ := PorcelainRecord.reads_decoded.mp hp
    rw [isPortable_universalNewlines]
    exact h r hr q hq

/-- **The closeout returns** when every path that it takes from the status is portable, and it
passes when the ledger covers these paths. -/
theorem closeout_returns_iff (records : List PorcelainRecord) (ledger : Option LedgerFile) (requireClean : Bool) :
    ((∃ result, validatePrSweepDirtyCloseout host (.status (encodePorcelain records)) ledger requireClean
      = .ok result) ↔ PortableRecords records) ∧
      ∀ result, validatePrSweepDirtyCloseout host (.status (encodePorcelain records)) ledger requireClean
        = .ok result →
          (result.val.status = .pass ↔ LedgerCovers host ledger requireClean records PorcelainRecord.Reads) := by
  obtain ⟨account, haccount, hfor⟩ := @accountLedger_accounts host ledger
  obtain ⟨dirty, hdirty, hreturns, hstate⟩ := parsePorcelain_encode (records.map PorcelainRecord.decoded)
  have hportable : (∀ p ∈ dirty, isPortable p = true) ↔ PortableRecords records := by
    rw [← portableRecords_decoded]
    constructor
    · intro h r hr p hp
      exact h p ((hdirty p).mpr ⟨r, hr, hp⟩)
    · intro h p hp
      obtain ⟨r, hr, hp⟩ := (hdirty p).mp hp
      exact h r hr p hp
  have hpaths : ∀ p ∈ account.paths, isPortablePath p = true := by
    intro p hp
    obtain ⟨-, -, -, -, -, hpath⟩ := (hfor.mem_paths p).mp hp
    exact hpath
  -- the parser reads the encoded records back
  rw [validatePrSweepDirtyCloseout, universalNewlines_encode, ← hportable, ← hreturns]
  rcases hparse : parsePorcelain (encodePorcelain (records.map PorcelainRecord.decoded)) with e | state
  · refine ⟨iff_of_false ?_ ?_, ?_⟩
    · rintro ⟨result, hresult⟩
      cases hresult
    · rintro ⟨state, hok⟩
      cases hok
    · intro result hresult
      cases hresult
  · obtain ⟨result, hresult, hpass⟩ := closeoutResult_spec state ledger requireClean hfor.hasTexts hpaths
    have heq : (Except.ok state >>= fun state => accountLedger host ledger >>= fun account =>
        closeoutResult state account ledger requireClean) = .ok result := by
      rw [haccount]
      exact hresult
    refine ⟨iff_of_true ⟨result, heq⟩ ⟨state, rfl⟩, fun result' hresult' => ?_⟩
    obtain rfl := Except.ok.inj (heq.symm.trans hresult')
    have hrecords : PortableRecords records := hportable.mp (hreturns.mp ⟨state, hparse⟩)
    rw [hpass]
    refine hfor.covers_iff (fun p => ?_) hrecords
    rw [hstate state hparse, mem_sortedChangedPaths, hdirty, reads_decoded_iff hrecords]

/-- **The closeout is exact** when every path that it takes from the status is portable and a
ledger that names these names the origins too. -/
theorem closeoutExact_iff (records : List PorcelainRecord) (ledger : Option LedgerFile) (requireClean : Bool) :
    CloseoutExact host records ledger requireClean ↔
      PortableRecords records ∧ NamesOrigins host records ledger requireClean := by
  obtain ⟨hreturns, hpass⟩ := @closeout_returns_iff host records ledger requireClean
  rw [← hreturns, ← ledgerCovers_congr_iff, CloseoutExact]
  constructor
  · rintro ⟨result, hresult, hstatus⟩
    exact ⟨⟨result, hresult⟩, (hpass result hresult).symm.trans hstatus⟩
  · rintro ⟨⟨result, hresult⟩, hcovers⟩
    exact ⟨result, hresult, (hpass result hresult).trans hcovers⟩

/-- A checkout that cannot be inspected is blocked. -/
theorem blocked_returns (blocker : GitBlocker) (ledger : Option LedgerFile) (requireClean : Bool) :
    ∃ result, validatePrSweepDirtyCloseout host (.blocked blocker) ledger requireClean = .ok result ∧
      result.val.status = .blocked := by
  have htexts : ∀ blocker ∈ gitBlockers, HasLetter blocker.1 ∧ HasLetter blocker.2 := by
    simp only [gitBlockers, List.forall_mem_cons]
    refine ⟨?_, ?_, ?_, ?_, ?_, ?_, ?_, ?_, ?_, ?_, ?_, ?_, ?_, nofun⟩ <;>
      exact ⟨.ofList (by decide), .ofList (by decide)⟩
  obtain ⟨hcode, hmessage⟩ := htexts blocker.val blocker.2
  exact prSweepFailure_returns .dirtyCloseout .blocked hcode hmessage nofun fun _ => rfl

variable (host)

/-- The recurring findings are checked exactly when the invariants of the ledger encode, and the
closeout is exact exactly when its paths are portable and no ledger passes that leaves out an origin. -/
theorem prSweep_total_iff :
    (∀ file, (∃ result, validateRecurringFindings sha256 host file = .ok result) ↔ EncodingInvariants host file) ∧
      (∀ records ledger requireClean, CloseoutExact host records ledger requireClean ↔
        PortableRecords records ∧ NamesOrigins host records ledger requireClean) ∧
      ∀ blocker ledger requireClean, ∃ result,
        validatePrSweepDirtyCloseout host (.blocked blocker) ledger requireClean = .ok result ∧
          result.val.status = .blocked :=
  ⟨recurring_returns_iff sha256 host, closeoutExact_iff, blocked_returns⟩

end

/-- Lower case keeps the surrogates. -/
theorem encodes_lower (s : PyStr) : Encodes s.lower ↔ Encodes s := by
  simp only [encodes_iff_forall, PyStr.lower, List.forall_mem_map]
  refine forall₂_congr fun c _ => ?_
  cases c with
  | scalar d => exact iff_of_true ⟨_, rfl⟩ ⟨d, rfl⟩
  | surrogate n => exact iff_of_false nofun nofun

namespace PrSweepDemo

/-- An untracked file whose name has a backslash. -/
def backslashRecord : PorcelainRecord where
  code := .untracked
  path := "a\\b".toList
  origin := none
  path_noNul := by decide
  origin_noNul := nofun
  origin_iff := rfl

/-- A host without a ledger to read. -/
def host : LedgerHost where
  decoder := ⟨fun _ => .error .valueError, fun _ => .error .valueError⟩
  walks _ := true
  iterErrors _ := none
  lower := PyStr.lower
  lower_encodes := encodes_lower
  floatText _ := []
  conforms := nofun

/-- `?? a\b`: the dirty state refuses the path, and nothing takes the refusal. -/
theorem backslash_raises : ¬ CloseoutExact host [backslashRecord] none false := by
  intro h
  obtain ⟨hportable, -⟩ := (closeoutExact_iff _ _ _).mp h
  have hpath := hportable backslashRecord List.mem_cons_self backslashRecord.path (Or.inl rfl)
  exact absurd hpath (by decide +kernel)

end PrSweepDemo

end SkillsSdk
