/-
SkillsSdk/ScenarioQuality.lean

The quality assessment of declared scenarios: `assess_scenario_quality`.

The document `references/evals.yaml` may hold any value.  What the assessment
finds wrong with it becomes a finding; the pieces below list those findings as
drafts (`FindingDraft`), in the order in which the source appends them, and the
assessment emits them stage by stage.  Capturing and parsing the file, compiling
the regular expressions of assertions, and the validation of the package are
taken as given.
-/
import SkillsSdk.SourceIndicators
import SkillsSdk.Models.ScenarioQuality

namespace SkillsSdk

/-! ### The library -/

/-- How `re.compile` ends. -/
inductive RegexOutcome where
  | compiled
  | reError
  | raised (e : PyExc)
  deriving DecidableEq

/-- What the assessment takes from outside. -/
structure QualityLibrary where
  interp : PyInterpreter
  compile : PyStr → RegexOutcome

/-- How capturing and parsing the file fails; the class of an exception has a name. -/
inductive EvalsFailure where
  | unicodeDecodeError
  | valueError (message : Text) (name : PlainText)
  /-- An `OSError`, a `RecursionError`, a `TypeError` or a `YAMLError`. -/
  | handled (name : PlainText)
  | unlisted (e : PyExc)
  deriving DecidableEq

/-! ### Findings -/

/-- `_finding` with a fixed message. -/
def draft (text : FindingText) (caseId : Option PyStr := none) : FindingDraft :=
  ⟨text.1, PyStr.ofText text.2.val, caseId⟩

/-- The findings of a stage. -/
def emitAll (drafts : List FindingDraft) : Except PyExc (List ScenarioQualityFinding) :=
  drafts.mapM (FindingDraft.emit evalsPath)

def joinCommas (strings : List PyStr) : PyStr := List.intercalate (PyStr.lit ", ") strings

/-- `sorted(set(mapping) - allowed)`. -/
def unsupportedKeys (allowed : List PyStr) (members : YamlMembers) : List PyStr :=
  sortStrings ((members.map Prod.fst).filter (· ∉ allowed))

/-! ### Assertions -/

def assertionFields : List (PyStr × List PyStr) :=
  [("contains", ["type", "value"]), ("not_contains", ["type", "value"]), ("regex", ["type", "value"]),
    ("not_regex", ["type", "value"]), ("skill_selected", ["type", "expected_skill"]),
    ("skill_not_selected", ["type", "expected_skill"]), ("expected_signal", ["type", "value"]),
    ("semantic_requirements", ["type", "requirements"]), ("discovery_question", ["type", "value"]),
    ("text_field_equals", ["type", "field", "value"]), ("text_field_in", ["type", "field", "values"]),
    ("text_field_present", ["type", "field"]), ("text_field_absent", ["type", "field"]),
    ("must_not", ["type", "value"])].map fun f => (PyStr.lit f.1, f.2.map PyStr.lit)

/-- `_ASSERTION_TYPES`. -/
def assertionTypes : List PyStr := assertionFields.map Prod.fst

/-- `_FIELD_ASSERTIONS`. -/
def fieldAssertionTypes : List PyStr :=
  ["text_field_equals", "text_field_in", "text_field_present"].map PyStr.lit

/-- The types whose only payload is a text `value`. -/
def valueAssertionTypes : List PyStr :=
  ["contains", "not_contains", "regex", "not_regex", "expected_signal", "discovery_question",
    "must_not"].map PyStr.lit

def isText (v : YamlValue) : Bool := v.text?.isSome

def isTextList (v : YamlValue) : Bool := v.textList?.isSome

def isNone : YamlValue → Bool
  | .none => true
  | _ => false

/-- One of the requirements of a `semantic_requirements` assertion. -/
def requirementValid : YamlValue → Bool
  | .dict members =>
    (unsupportedKeys (["id", "all_of", "any_of"].map PyStr.lit) members).isEmpty &&
      isText (yamlGet members "id") &&
      (isTextList (yamlGet members "all_of") || isTextList (yamlGet members "any_of")) &&
      (isNone (yamlGet members "all_of") || isTextList (yamlGet members "all_of")) &&
      (isNone (yamlGet members "any_of") || isTextList (yamlGet members "any_of"))
  | _ => false

def requirementsValid : YamlValue → Bool
  | .list items => !items.isEmpty && items.all requirementValid
  | _ => false

variable (lib : QualityLibrary)

/-- `re.compile` of a pattern, when the assertion holds one. -/
def compileValid (kind : PyStr) (value : PyStr) : Except PyExc Bool :=
  if kind = PyStr.lit "regex" ∨ kind = PyStr.lit "not_regex" then
    match lib.compile value with
    | .compiled => .ok true
    | .reError => .ok false
    | .raised e => .error e
  else .ok true

/-- The payload of an assertion of the type has the right shape. -/
def payloadValid (kind : PyStr) (members : YamlMembers) : Bool :=
  if kind = PyStr.lit "skill_selected" ∨ kind = PyStr.lit "skill_not_selected" then
    isText (yamlGet members "expected_skill")
  else if kind = PyStr.lit "text_field_equals" then
    isText (yamlGet members "field") && isText (yamlGet members "value")
  else if kind = PyStr.lit "text_field_in" then
    isText (yamlGet members "field") && isTextList (yamlGet members "values")
  else if kind = PyStr.lit "text_field_present" ∨ kind = PyStr.lit "text_field_absent" then
    isText (yamlGet members "field")
  else if kind = PyStr.lit "semantic_requirements" then
    requirementsValid (yamlGet members "requirements")
  else false

/-- `_assertion_valid`. -/
def assertionValid (kind : PyStr) (members : YamlMembers) : Except PyExc Bool :=
  match assertionFields.lookup kind with
  | none => .ok false
  | some allowed =>
    if unsupportedKeys allowed members ≠ [] then .ok false
    else if kind ∈ valueAssertionTypes then
      match (yamlGet members "value").text? with
      | none => .ok false
      | some value => compileValid lib kind value
    else .ok (payloadValid kind members)

/-- The type of an assertion that is a mapping with a supported one. -/
def assertionType? : YamlValue → Option (PyStr × YamlMembers)
  | .dict members =>
    match yamlGet members "type" with
    | .str kind => if kind ∈ assertionTypes then some (kind, members) else none
    | _ => none
  | _ => none

def unsupportedAssertion : FindingText :=
  (literal "unsupported_acceptance_assertion" (by decide +kernel),
    literal "acceptance assertion type is unsupported" (by decide +kernel))

def invalidAssertion : FindingText :=
  (literal "invalid_acceptance_assertion" (by decide +kernel),
    literal "acceptance assertion payload is invalid" (by decide +kernel))

/-- The findings about one assertion. -/
def assertionDrafts (caseId : Option PyStr) (assertion : YamlValue) : Except PyExc (List FindingDraft) :=
  match assertionType? assertion with
  | none => .ok [draft unsupportedAssertion caseId]
  | some (kind, members) => do
    if ← assertionValid lib kind members then return [] else return [draft invalidAssertion caseId]

/-- The field that a valid assertion proves something about. -/
def provenField (assertion : YamlValue) : Option PyStr :=
  match assertionType? assertion with
  | some (kind, members) =>
    if kind ∈ fieldAssertionTypes ∧ payloadValid kind members = true ∧
        (assertionFields.lookup kind).any (fun allowed => (unsupportedKeys allowed members).isEmpty)
      then (yamlGet members "field").text? else none
  | none => none

/-! ### Cases -/

def caseFields : List PyStr :=
  ["id", "name", "category", "task", "given", "should", "realistic", "why_realistic", "unit",
    "actual_artifact", "expected_artifact", "reproduce", "deterministic_checks", "eval_modes",
    "smoke_mode", "should_trigger", "prepend_skill", "claim_ids", "prompt", "acceptance",
    "output_contract"].map PyStr.lit

def invalidScenarioCase : FindingText :=
  (literal "invalid_scenario_case" (by decide +kernel),
    literal "scenario cases must be mappings" (by decide +kernel))

def unsupportedScenarioField : BlockerCode := literal "unsupported_scenario_field" (by decide +kernel)

def missingScenarioField : BlockerCode := literal "missing_scenario_field" (by decide +kernel)

def scenarioNotRealistic : FindingText :=
  (literal "scenario_not_realistic" (by decide +kernel),
    literal "scenario realistic must be true" (by decide +kernel))

def invalidScenarioField : BlockerCode := literal "invalid_scenario_field" (by decide +kernel)

def invalidClaimIds : FindingText :=
  (invalidScenarioField, literal "scenario claim_ids must contain text IDs" (by decide +kernel))

def invalidEvalModes : FindingText :=
  (literal "invalid_eval_modes" (by decide +kernel),
    literal "eval_modes must contain smoke or release" (by decide +kernel))

def missingDeterministicChecks : FindingText :=
  (literal "missing_deterministic_checks" (by decide +kernel),
    literal "scenario requires forbidden_commands" (by decide +kernel))

def missingAcceptance : FindingText :=
  (literal "missing_acceptance" (by decide +kernel),
    literal "scenario requires acceptance assertions" (by decide +kernel))

def invalidOutputContract : FindingText :=
  (literal "invalid_output_contract" (by decide +kernel),
    literal "output_contract requires non-empty required_fields" (by decide +kernel))

def missingFieldAssertion : BlockerCode := literal "missing_field_assertion" (by decide +kernel)

/-- `key in mapping`. -/
def hasKey (members : YamlMembers) (key : String) : Bool := (members.map Prod.fst).contains (PyStr.lit key)

def isBool : YamlValue → Bool
  | .bool _ => true
  | _ => false

def isTrue : YamlValue → Bool
  | .bool b => b
  | _ => false

/-- Every mode is `smoke` or `release`, and there is one. -/
def evalModesValid : YamlValue → Bool
  | .list modes => !modes.isEmpty && modes.all fun
    | .str s => s == PyStr.lit "smoke" || s == PyStr.lit "release"
    | _ => false
  | _ => false

/-- `forbidden_commands` is a list of texts. -/
def checksValid : YamlValue → Bool
  | .dict checks =>
    match yamlGet checks "forbidden_commands" with
    | .list commands => commands.all isText
    | _ => false
  | _ => false

/-- The assertions of a case. -/
def acceptanceOf (members : YamlMembers) : List YamlValue :=
  match yamlGet members "acceptance" with
  | .list assertions => assertions
  | _ => []

/-- The findings about the fields of a case, up to its acceptance. -/
def fieldDrafts (members : YamlMembers) (caseId : Option PyStr) : List FindingDraft :=
  let unsupported := unsupportedKeys caseFields members
  (if unsupported = [] then []
    else [⟨unsupportedScenarioField, PyStr.lit "unsupported scenario fields: " ++ joinCommas unsupported,
      caseId⟩]) ++
  ((["id", "category", "unit", "given", "should", "why_realistic", "prompt", "reproduce"].filter
      fun field => !isText (yamlGet members field)).map
    fun field => ⟨missingScenarioField, PyStr.lit ("scenario requires non-empty " ++ field), caseId⟩) ++
  (if isTrue (yamlGet members "realistic") then [] else [draft scenarioNotRealistic caseId]) ++
  ((["name", "task", "actual_artifact", "expected_artifact"].filter
      fun field => hasKey members field && !isText (yamlGet members field)).map
    fun field => ⟨invalidScenarioField, PyStr.lit ("scenario " ++ field ++ " must be non-empty text"),
      caseId⟩) ++
  ((["smoke_mode", "should_trigger", "prepend_skill"].filter
      fun field => hasKey members field && !isBool (yamlGet members field)).map
    fun field => ⟨invalidScenarioField, PyStr.lit ("scenario " ++ field ++ " must be boolean"), caseId⟩) ++
  (if hasKey members "claim_ids" && !isTextList (yamlGet members "claim_ids")
    then [draft invalidClaimIds caseId] else []) ++
  (if evalModesValid (yamlGet members "eval_modes") then [] else [draft invalidEvalModes caseId]) ++
  (if checksValid (yamlGet members "deterministic_checks") then []
    else [draft missingDeterministicChecks caseId]) ++
  (if (acceptanceOf members).isEmpty then [draft missingAcceptance caseId] else [])

/-- The required fields of an output contract that is well formed. -/
def requiredFields? (contract : YamlMembers) : Option (List PyStr) :=
  if unsupportedKeys [PyStr.lit "required_fields"] contract ≠ [] then none
  else (yamlGet contract "required_fields").textList?

/-- The findings about the output contract of a case. -/
def contractDrafts (members : YamlMembers) (caseId : Option PyStr) : List FindingDraft :=
  match yamlGet members "output_contract" with
  | .none => []
  | .dict contract =>
    match requiredFields? contract with
    | none => [draft invalidOutputContract caseId]
    | some required =>
      let proven := (acceptanceOf members).filterMap provenField
      (required.filter (· ∉ proven)).map fun field =>
        ⟨missingFieldAssertion,
          PyStr.lit "required output field lacks field-aware proof: " ++ field, caseId⟩
  | _ => [draft invalidOutputContract caseId]

/-- The findings about a case, in order. -/
def caseSteps : YamlValue → List (Except PyExc (List FindingDraft))
  | .dict members =>
    let caseId := (yamlGet members "id").text?
    .ok (fieldDrafts members caseId) ::
      ((acceptanceOf members).map (assertionDrafts lib caseId) ++ [.ok (contractDrafts members caseId)])
  | _ => [.ok [draft invalidScenarioCase]]

/-- The findings of steps taken in turn. -/
def emitSteps (steps : List (Except PyExc (List FindingDraft))) :
    Except PyExc (List ScenarioQualityFinding) := do
  let found ← steps.mapM fun step => do emitAll (← step)
  return found.flatten

/-- `_case_findings`. -/
def caseFindings (case : YamlValue) : Except PyExc (List ScenarioQualityFinding) :=
  emitSteps (caseSteps lib case)

/-! ### The document -/

def topFields : List PyStr :=
  ["schema_version", "skill_name", "scorer_quality", "claims", "release_scenario_sets",
    "cases"].map PyStr.lit

def invalidEvalsDocument : FindingText :=
  (literal "invalid_evals_document" (by decide +kernel),
    literal "evals.yaml must contain a mapping" (by decide +kernel))

def unsupportedEvalsField : BlockerCode := literal "unsupported_evals_field" (by decide +kernel)

def unsupportedEvalsSchema : FindingText :=
  (literal "unsupported_evals_schema" (by decide +kernel),
    literal "evals.yaml schema_version must be 2.0" (by decide +kernel))

def skillNameMismatch : FindingText :=
  (literal "skill_name_mismatch" (by decide +kernel),
    literal "evals.yaml skill_name must match the candidate" (by decide +kernel))

def missingScenarios : FindingText :=
  (literal "missing_scenarios" (by decide +kernel),
    literal "evals.yaml requires a non-empty cases list" (by decide +kernel))

/-- `value == text`. -/
def isStr (v : YamlValue) (text : PyStr) : Bool :=
  match v with
  | .str s => s == text
  | _ => false

/-- The cases of the document: those of a list. -/
def documentCases : YamlValue → List YamlValue
  | .dict members =>
    match yamlGet members "cases" with
    | .list cases => cases
    | _ => []
  | _ => []

/-- The findings of `_document_cases`. -/
def documentDrafts (packageId : PackageId) (payload : YamlValue) : List FindingDraft :=
  match payload with
  | .dict members =>
    let unsupported := unsupportedKeys topFields members
    (if unsupported = [] then []
      else [⟨unsupportedEvalsField, PyStr.lit "unsupported eval fields: " ++ joinCommas unsupported,
        none⟩]) ++
    (if isStr (yamlGet members "schema_version") (PyStr.lit "2.0") then []
      else [draft unsupportedEvalsSchema]) ++
    (if isStr (yamlGet members "skill_name") (PyStr.ofText packageId.val) then []
      else [draft skillNameMismatch]) ++
    (if (documentCases payload).isEmpty then [draft missingScenarios] else [])
  | _ => [draft invalidEvalsDocument]

/-! ### Release sets -/

def invalidScenarioSet : BlockerCode := literal "invalid_scenario_set" (by decide +kernel)

def setsNotList : FindingText :=
  (invalidScenarioSet, literal "release scenario sets must be a list" (by decide +kernel))

def setsEmpty : FindingText :=
  (invalidScenarioSet, literal "release scenario sets must not be empty" (by decide +kernel))

def setWithoutId : FindingText :=
  (invalidScenarioSet,
    literal "release scenario set identifiers must be non-empty text" (by decide +kernel))

def setShape : FindingText :=
  (invalidScenarioSet,
    literal "release scenario set groups or cases must contain text IDs" (by decide +kernel))

def setIdSpaced : FindingText :=
  (invalidScenarioSet,
    literal "release scenario set identifiers must not have surrounding whitespace" (by decide +kernel))

def setsRepeated : FindingText :=
  (invalidScenarioSet, literal "release scenario set identifiers must be unique" (by decide +kernel))

/-- The budgets that a set may declare, and how a finding names them. -/
def setBudgets (version : QualityVersion) (selected : Bool) : List (Int × Int × Int) × FindingText :=
  match selected, version with
  | true, .v2 =>
    ([(10, 10, 10)], invalidScenarioSet,
      literal ("release scenario set budget must declare integer minimum/target/maximum values of " ++
        "10/10/10") (by decide +kernel))
  | true, .v1 =>
    ([(5, 8, 10)], invalidScenarioSet,
      literal ("release scenario set budget must declare integer minimum/target/maximum values of " ++
        "5/8/10") (by decide +kernel))
  | false, _ =>
    ([(5, 8, 10), (10, 10, 10)], invalidScenarioSet,
      literal ("release scenario set budget must declare integer minimum/target/maximum values of " ++
        "5/8/10 or 10/10/10") (by decide +kernel))

/-- The budget that a set declares, when its three values are integers. -/
def declaredBudget (set : YamlMembers) : Option (Int × Int × Int) :=
  match yamlGet set "minimum_scenarios", yamlGet set "target_scenarios",
      yamlGet set "maximum_scenarios" with
  | .int least, .int target, .int most => some (least, target, most)
  | _, _, _ => none

/-- The ids of groups that are all non-empty lists of texts. -/
def groupIds? (set : YamlMembers) : Option (List PyStr) :=
  match yamlGet set "groups" with
  | .dict groups =>
    if groups.isEmpty then none else (groups.mapM fun (g : PyStr × YamlValue) => g.2.textList?).map List.flatten
  | _ => none

/-- The ids of a set that lists them flat. -/
def flatIds? (set : YamlMembers) : Option (List PyStr) := (yamlGet set "cases").textList?

/-- The ids that make a set acceptable: those of its groups, or else the flat ones. -/
def acceptedIds? (set : YamlMembers) : Option (List PyStr) := groupIds? set <|> flatIds? set

/-- What `_release_sets` finds wrong with an entry, or the set with its identifier. -/
def checkSet (version : QualityVersion) (selector : Option PyStr) :
    YamlValue → Except FindingText (PyStr × YamlMembers)
  | .dict set =>
    match (yamlGet set "id").text? with
    | none => .error setWithoutId
    | some id =>
      let budgets := setBudgets version (selector = some id)
      if declaredBudget set ∉ budgets.1.map some then .error budgets.2
      else if acceptedIds? set = none then .error setShape
      else if id ≠ id.strip then .error setIdSpaced
      else .ok (id, set)
  | _ => .error setWithoutId

/-- The sets that pass, with their identifiers. -/
def passingSets (version : QualityVersion) (selector : Option PyStr) (entries : List YamlValue) :
    List (PyStr × YamlMembers) :=
  entries.filterMap fun entry => (checkSet version selector entry).toOption

/-- The findings of `_release_sets`. -/
def setDrafts (version : QualityVersion) (selector : Option PyStr) (members : YamlMembers) :
    List FindingDraft :=
  match yamlGet members "release_scenario_sets" with
  | .none => []
  | .list entries =>
    if entries.isEmpty then [draft setsEmpty]
    else
      (entries.filterMap fun entry =>
        match checkSet version selector entry with
        | .error text => some (draft text)
        | .ok _ => none) ++
      (if ((passingSets version selector entries).map Prod.fst).Nodup then [] else [draft setsRepeated])
  | _ => [draft setsNotList]

/-- `_release_sets`: the sets that are kept. -/
def releaseSets (version : QualityVersion) (selector : Option PyStr) (members : YamlMembers) :
    List YamlMembers :=
  match yamlGet members "release_scenario_sets" with
  | .list entries =>
    let passing := passingSets version selector entries
    if (passing.map Prod.fst).Nodup then passing.map Prod.snd else []
  | _ => []

/-- `_release_set_case_ids`. -/
def releaseSetCaseIds (set : YamlMembers) : Except PyExc (List YamlValue) :=
  match yamlGet set "groups" with
  | .dict groups => do return (← groups.mapM fun g => g.2.iterate).flatten
  | _ =>
    match set.lookup (PyStr.lit "cases") with
    | some cases => cases.iterate
    | none => .error .keyError

/-! ### The selected cases -/

def selectedSetMissing : FindingText :=
  (invalidScenarioSet,
    literal "selected release scenario set is missing or empty" (by decide +kernel))

def unknownScenarioId : BlockerCode := literal "unknown_scenario_id" (by decide +kernel)

def duplicateScenarioId : FindingText :=
  (literal "duplicate_scenario_id" (by decide +kernel),
    literal "scenario ids must be unique" (by decide +kernel))

/-- The id of a case that has one. -/
def caseText? : YamlValue → Option PyStr
  | .dict members => (yamlGet members "id").text?
  | _ => none

/-- `by_id.get(id)`: the last case with the id. -/
def caseById (cases : List YamlValue) (id : PyStr) : Option YamlValue :=
  cases.reverse.find? fun case => caseText? case == some id

/-- An id that is no string is not hashable, or is unknown and cannot be joined. -/
def idText : YamlValue → Except PyExc PyStr
  | .str s => .ok s
  | _ => .error .typeError

/-- The cases of a set, and the finding about ids that no case has. -/
def pickCases (cases : List YamlValue) (ids : List PyStr) : List FindingDraft × List YamlValue :=
  let unknown := ids.filter fun id => (caseById cases id).isNone
  (if unknown = [] then []
    else [⟨unknownScenarioId, PyStr.lit "release scenario set contains unknown ids: " ++
      joinCommas unknown, none⟩],
    ids.filterMap (caseById cases))

/-- The one set with the identifier. -/
def matchingSet? (sets : List YamlMembers) (id : PyStr) : Option YamlMembers :=
  match sets.filter fun set => isStr (yamlGet set "id") id with
  | [set] => some set
  | _ => none

/-- `_select_release_cases`. -/
def selectReleaseCases (cases : List YamlValue) (sets : List YamlMembers) :
    Option PyStr → Except PyExc (List FindingDraft × List YamlValue)
  | none => .ok ([], cases)
  | some selector => do
    let ids ← (matchingSet? sets selector).elim (.ok []) releaseSetCaseIds
    if ids.isEmpty then return ([draft selectedSetMissing], [])
    else return pickCases cases (← ids.mapM idText)

/-- The finding about cases that share an id. -/
def duplicateDrafts (cases : List YamlValue) : List FindingDraft :=
  if (cases.filterMap caseText?).Nodup then [] else [draft duplicateScenarioId]

/-! ### The release rules -/

def releaseCaseNotEligible : FindingText :=
  (literal "release_case_not_eligible" (by decide +kernel),
    literal "release scenario set cases must include release in eval_modes" (by decide +kernel))

def releaseCaseFloor : FindingText :=
  (literal "release_case_floor" (by decide +kernel),
    literal "release scenario set requires at least 5 cases" (by decide +kernel))

def releaseCaseCeiling : FindingText :=
  (literal "release_case_ceiling" (by decide +kernel),
    literal "release scenario set permits at most 10 cases" (by decide +kernel))

def activeCaseCount : FindingText :=
  (literal "active_case_count" (by decide +kernel),
    literal "active scenario set requires exactly ten cases" (by decide +kernel))

def releasePressureFloor : FindingText :=
  (literal "release_pressure_floor" (by decide +kernel),
    literal "release scenario set requires pressure or regression coverage" (by decide +kernel))

def releaseNegativeFloor : FindingText :=
  (literal "release_negative_floor" (by decide +kernel),
    literal "release scenario set requires negative or edge coverage" (by decide +kernel))

/-- The members of a case that is a mapping. -/
def members? : YamlValue → Option YamlMembers
  | .dict members => some members
  | _ => none

/-- The modes of a case are strings, `release` among them. -/
def releaseEligible : YamlValue → Bool
  | .list modes =>
    modes.all (fun | .str _ => true | _ => false) && modes.any (isStr · (PyStr.lit "release"))
  | _ => false

/-- The finding about a case that is not eligible for a release. -/
def ineligibleDrafts (members : YamlMembers) : Except PyExc (List FindingDraft) :=
  if releaseEligible (yamlGet members "eval_modes") then .ok []
  else do
    let id := yamlGet members "id"
    let shown ← if id.truthy then id.shown lib.interp else .ok []
    return [draft releaseCaseNotEligible (if shown = [] then none else some shown)]

/-- The categories of the selected cases, as strings. -/
def shownCategories (selected : List YamlValue) : Except PyExc (List PyStr) :=
  (selected.filterMap members?).mapM fun members => (yamlGet members "category").shown lib.interp

/-- How many of the categories are one of two. -/
def countCategories (first second : String) (categories : List PyStr) : Nat :=
  categories.countP fun c => c = PyStr.lit first ∨ c = PyStr.lit second

/-- The findings about the number and the mixture of the selected cases. -/
def floorDrafts (version : QualityVersion) (selected : List YamlValue) (categories : List PyStr) :
    List FindingDraft :=
  (if selected.length < 5 then [draft releaseCaseFloor] else []) ++
  (if 10 < selected.length then [draft releaseCaseCeiling] else []) ++
  (if version = .v2 ∧ selected.length ≠ 10 then [draft activeCaseCount] else []) ++
  (if countCategories "pressure" "regression" categories < 1 then [draft releasePressureFloor] else []) ++
  (if countCategories "negative" "edge" categories < 1 then [draft releaseNegativeFloor] else [])

/-- The findings of a release, in order. -/
def releaseSteps (version : QualityVersion) (selected : List YamlValue) (categories : List PyStr) :
    List (Except PyExc (List FindingDraft)) :=
  (selected.filterMap members?).map (ineligibleDrafts lib) ++
    [.ok (floorDrafts version selected categories)]

/-! ### The assessment -/

def activeScenarioSetRequired : FindingText :=
  (literal "active_scenario_set_required" (by decide +kernel),
    literal "v2 requires an explicit active scenario set" (by decide +kernel))

def invalidSelector : FindingText :=
  (invalidScenarioSet, literal "scenario set identifier must be non-empty text" (by decide +kernel))

def missingEvalsYaml : FindingText :=
  (literal "missing_evals_yaml" (by decide +kernel),
    literal "package requires references/evals.yaml" (by decide +kernel))

def invalidEvalsUtf8 : FindingText :=
  (literal "invalid_evals_utf8" (by decide +kernel), literal "evals.yaml must be UTF-8" (by decide +kernel))

def invalidEvalsYaml : BlockerCode := literal "invalid_evals_yaml" (by decide +kernel)

/-- The messages of `_capture_evals`, which are codes. -/
def captureCodes : List BlockerCode :=
  [literal "evals_file_too_large" (by decide +kernel), literal "evals_source_changed" (by decide +kernel),
    literal "invalid_evals_file_type" (by decide +kernel)]

/-- The finding about a file that cannot be loaded. -/
def failureDraft : EvalsFailure → Except PyExc FindingDraft
  | .unicodeDecodeError => .ok (draft invalidEvalsUtf8)
  | .valueError message name =>
    .ok ⟨(captureCodes.find? (·.val == message)).getD invalidEvalsYaml,
      PyStr.lit "evals.yaml could not be safely loaded: " ++ PyStr.ofText name.val, none⟩
  | .handled name =>
    .ok ⟨invalidEvalsYaml,
      PyStr.lit "evals.yaml could not be safely loaded: " ++ PyStr.ofText name.val, none⟩
  | .unlisted e => .error e

/-- The selector is a text without surrounding whitespace, or there is none. -/
def selectorValid (selector : Option PyStr) : Bool :=
  selector.all fun id => id.strip != [] && id == id.strip

def validSelector (selector : Option PyStr) : Option PyStr :=
  if selectorValid selector then selector else none

/-- The payload, when it is loaded, and the finding when it is not. -/
def loadPayload (files : List PackageManifestFile) (evals : Except EvalsFailure YamlValue)
    (selector : Option PyStr) : Except PyExc (List FindingDraft × Option YamlValue) :=
  if selectorValid selector = false then .ok ([draft invalidSelector], none)
  else if evalsPath ∉ files.map (·.path) then .ok ([draft missingEvalsYaml], none)
  else
    match evals with
    | .ok payload => .ok ([], some payload)
    | .error failure => do return ([← failureDraft failure], none)

/-- The findings before cases are selected. -/
def earlyDrafts (packageId : PackageId) (version : QualityVersion) (selector : Option PyStr)
    (payload : Option YamlValue) : List FindingDraft :=
  match payload with
  | none => []
  | some v =>
    documentDrafts packageId v ++ ((members? v).map (setDrafts version (validSelector selector))).getD [] ++
      duplicateDrafts (documentCases v)

/-- The sets that the assessment keeps. -/
def keptSets (version : QualityVersion) (selector : Option PyStr) (payload : Option YamlValue) :
    List YamlMembers :=
  ((payload.bind members?).map (releaseSets version (validSelector selector))).getD []

/-- The order of `findings.sort`. -/
def findingPrecedes (f g : ScenarioQualityFinding) : Prop :=
  let key := fun x : ScenarioQualityFinding => ((x.caseId.map Subtype.val).getD [], x.code.val, x.message.val)
  (key f).1 < (key g).1 ∨ ((key f).1 = (key g).1 ∧
    ((key f).2.1 < (key g).2.1 ∨ ((key f).2.1 = (key g).2.1 ∧ (key f).2.2 ≤ (key g).2.2)))

instance : DecidableRel findingPrecedes := fun f g => by
  unfold findingPrecedes
  infer_instance

/-- A receipt of the version, outside every handler. -/
def receiptIn (version : QualityVersion) (r : ScenarioQualityReceiptData) :
    Except PyExc ScenarioQualityReceipt :=
  (construct ScenarioQualityReceiptData.validate { r with version := version }).mapError
    fun _ => .valueError

/-- `_versioned_receipt` of a new receipt. -/
def versionedReceipt (r : ScenarioQualityReceiptData) (version : QualityVersion) :
    Except PyExc ScenarioQualityReceipt := do
  let first ← receiptIn .v1 r
  if version = .v1 then return first else receiptIn .v2 r

/-- The selector as a field of the receipt. -/
def setIdField (selector : Option PyStr) : Except PyExc (Option NonEmptyText) :=
  match (validSelector selector).mapM nonEmptyText? with
  | some field => .ok field
  | none => .error .valueError

def scopeOf (selector : Option PyStr) : QualityScope :=
  if validSelector selector = none then .all else .release

/-- `_blocked_validation_receipt`, in the version asked for. -/
def blockedValidationReceipt (validation : SkillPackageValidation) (selector : Option PyStr)
    (version : QualityVersion) : Except PyExc ScenarioQualityReceipt := do
  let setId ← setIdField selector
  versionedReceipt
    { version := .v1
      candidate := validation.val.candidate
      scenarioSetId := setId
      scope := scopeOf selector
      status := .blocked
      scenarioCount := 0
      findings := validation.val.findings.map fun f => ⟨f.code, f.message, none, f.evidenceRefs⟩ }
    version

/-- The receipt about the selected cases. -/
def qualityReceipt (candidate : PackageCandidateIdentity) (selector : Option PyStr)
    (version : QualityVersion) (selected : List YamlValue) (categories : List PyStr)
    (findings : List ScenarioQualityFinding) : Except PyExc ScenarioQualityReceipt := do
  let setId ← setIdField selector
  versionedReceipt
    { version := .v1
      candidate := some candidate
      scenarioSetId := setId
      scope := scopeOf selector
      status := if findings = [] then .pass else .blocked
      scenarioCount := selected.length
      pressureOrRegressionCount := countCategories "pressure" "regression" categories
      negativeOrEdgeCount := countCategories "negative" "edge" categories
      findings := findings.insertionSort findingPrecedes }
    version

/-- The categories that the assessment counts: those of a release. -/
def countedCategories (selector : Option PyStr) (selected : List YamlValue) : Except PyExc (List PyStr) :=
  if scopeOf selector = .release then shownCategories lib selected else .ok []

/-- The findings of the release rules, in a release. -/
def releaseFindings (selector : Option PyStr) (version : QualityVersion) (selected : List YamlValue)
    (categories : List PyStr) : Except PyExc (List ScenarioQualityFinding) :=
  if scopeOf selector = .release then emitSteps (releaseSteps lib version selected categories) else .ok []

/-- The assessment of a candidate whose payload is loaded, if it is. -/
def assessPayload (candidate : PackageCandidateIdentity) (selector : Option PyStr)
    (version : QualityVersion) (loading : List FindingDraft) (payload : Option YamlValue) :
    Except PyExc ScenarioQualityReceipt := do
  let opening := if version = .v2 ∧ selector = none then [draft activeScenarioSetRequired] else []
  let early ← emitAll (opening ++ loading ++ earlyDrafts candidate.packageId version selector payload)
  let cases := (payload.map documentCases).getD []
  let (selecting, selected) ←
    selectReleaseCases cases (keptSets version selector payload) (validSelector selector)
  let selection ← emitAll (selecting ++ duplicateDrafts selected)
  let found ← selected.mapM (caseFindings lib)
  let categories ← countedCategories lib selector selected
  let late ← releaseFindings lib selector version selected categories
  qualityReceipt candidate selector version selected categories
    (early ++ selection ++ found.flatten ++ late)

/-- `assess_scenario_quality` under its own policy. -/
def assessScenarioQuality (validation : SkillPackageValidation) (evals : Except EvalsFailure YamlValue)
    (selector : Option PyStr) (version : QualityVersion) : Except PyExc ScenarioQualityReceipt :=
  match validation.val.candidate, validation.val.status with
  | some candidate, .pass => do
    let (loading, payload) ← loadPayload validation.val.files evals selector
    assessPayload lib candidate selector version loading payload
  | _, _ => blockedValidationReceipt validation selector version

end SkillsSdk
