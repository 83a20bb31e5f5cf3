/-
SkillsSdk/Models/Advisory.lean

Advisory requests and results, which are bound to their caller and are no
acceptance receipts.

A request carries the texts themselves, under bounds on their number, their
lines and the bytes of the whole request.  A result refers to lines by document,
number and digest, and may only say what its status allows
(`FMAdvisoryResultData.outcomeMatchesExecution`).
-/
import Mathlib.Algebra.Ring.Nat
import SkillsSdk.Models.Packaging
import SkillsSdk.Models.PublicText
import SkillsSdk.SkillIr

/-! ### Plain texts -/

namespace Json

mutual

/-- The compact text of a value, its members in their order and its letters as they are. -/
def dumpsPlain : Json → List Char
  | null => "null".toList
  | bool b => if b then "true".toList else "false".toList
  | int i => (toString i).toList
  | num written => written
  | str s => plainQuote s
  | arr items => '[' :: (commas (dumpsPlainItems items) ++ [']'])
  | obj members => '\x7b' :: (commas (dumpsPlainMembers members) ++ ['\x7d'])

def dumpsPlainItems : List Json → List (List Char)
  | [] => []
  | j :: js => dumpsPlain j :: dumpsPlainItems js

def dumpsPlainMembers : List (List Char × Json) → List (List Char)
  | [] => []
  | (k, j) :: ms => (plainQuote k ++ ':' :: dumpsPlain j) :: dumpsPlainMembers ms

end

end Json

namespace SkillsSdk

/-! ### Documents -/

/-- `^[a-z][a-z0-9_-]{0,63}$`. -/
def isDocumentId : Text → Bool
  | [] => false
  | c :: t => isLower c && decide (t.length ≤ 63) && t.all fun d => isLowerAlnum d || oneOf "_-" d

abbrev DocumentId := { t : Text // isDocumentId t = true }

instance : LawfulBEq DocumentId := inferInstance

inductive AdvisoryRole where
  | specification
  | response
  deriving DecidableEq

def AdvisoryRole.value : AdvisoryRole → String
  | specification => "specification"
  | response => "response"

structure AdvisoryDocumentData where
  documentId : DocumentId
  role : AdvisoryRole
  text : Text
  deriving DecidableEq

/-- The bounds of `SnapshotText`, then `text_has_content`. -/
def snapshotErrors (text : Text) : List (Text × Text) :=
  if text = [] then check false "text" "String should have at least 1 character"
  else if 12000 < text.length then check false "text" "String should have at most 12000 characters"
  else check (decide (strip text ≠ [])) "text" "advisory document must have content"

def AdvisoryDocumentData.validate (d : AdvisoryDocumentData) : Except ValidationError Unit :=
  refuse "AdvisoryDocument" (snapshotErrors d.text)

abbrev AdvisoryDocument := Accepted AdvisoryDocumentData.validate

def AdvisoryDocument.toJson (d : AdvisoryDocument) : Json :=
  .obj [field "document_id" (jsonText d.val.documentId.val), field "role" (jsonLit d.val.role.value),
    field "text" (jsonText d.val.text)]

/-- `document.text.splitlines()`, counted from one. -/
def AdvisoryDocument.lines (d : AdvisoryDocument) : List (Text × Nat) := (splitlines d.val.text).zipIdx 1

/-! ### Requests -/

inductive AdvisoryKind where
  | contradiction
  | semantic
  deriving DecidableEq

def AdvisoryKind.value : AdvisoryKind → String
  | contradiction => "contradiction"
  | semantic => "semantic"

structure FMAdvisoryRequestData where
  candidate : PackageCandidateIdentity
  kind : AdvisoryKind
  assertion : Text
  requiredContext : List DocumentId
  documents : List AdvisoryDocument := []

namespace FMAdvisoryRequestData

/-- `model_dump(mode="json")`. -/
def toJson (r : FMAdvisoryRequestData) : Json :=
  .obj [field "schema_version" (jsonLit "fm-advisory-request/v1"),
    field "candidate" r.candidate.toJson,
    field "kind" (jsonLit r.kind.value),
    field "assertion" (jsonText r.assertion),
    field "required_context" (jsonList (fun i => jsonText i.val) r.requiredContext),
    field "documents" (jsonList AdvisoryDocument.toJson r.documents)]

/-- The field bounds. -/
def fieldErrors (r : FMAdvisoryRequestData) : List (Text × Text) :=
  check (decide (r.assertion ≠ [])) "assertion" "String should have at least 1 character" ++
    check (decide (r.assertion.length ≤ 2000)) "assertion" "String should have at most 2000 characters" ++
    check (decide (2 ≤ r.requiredContext.length)) "required_context" "Tuple should have at least 2 items" ++
    check (decide (r.requiredContext.length ≤ 32)) "required_context" "Tuple should have at most 32 items" ++
    check (decide (r.documents.length ≤ 32)) "documents" "Tuple should have at most 32 items"

/-- `request_is_bounded`. -/
def requestIsBounded (r : FMAdvisoryRequestData) : List (Bool × String) :=
  [violation (¬ (r.documents.map fun d => d.val.documentId).Nodup ∨ ¬ r.requiredContext.Nodup)
      "advisory context IDs must be unique",
    violation (strip r.assertion = []) "advisory assertion must have content",
    violation (16384 < (utf8 r.toJson.dumpsPlain).length) "advisory request exceeds 16 KiB",
    violation (12000 < (r.documents.map fun d => (utf8 d.val.text).length).sum)
      "advisory documents exceed the input budget",
    violation (128 < (r.documents.map fun d => (splitlines d.val.text).length).sum)
      "advisory documents exceed 128 source lines"]

def validate (r : FMAdvisoryRequestData) : Except ValidationError Unit :=
  validateWith "FMAdvisoryRequest" r.fieldErrors r.requestIsBounded

end FMAdvisoryRequestData

abbrev FMAdvisoryRequest := Accepted FMAdvisoryRequestData.validate

/-- No two documents of a request share their identity. -/
theorem FMAdvisoryRequest.ids_nodup (r : FMAdvisoryRequest) :
    (r.val.documents.map fun d => d.val.documentId).Nodup := by
  have h := (validateWith_eq_ok.mp r.2).2 _ List.mem_cons_self
  rw [violation_fst, not_or, not_not] at h
  exact h.1

/-! ### Results -/

structure AdvisoryEvidenceData where
  documentId : DocumentId
  line : Nat
  lineSha256 : Sha256
  deriving DecidableEq

/-- `line: int = Field(ge=1)`. -/
def AdvisoryEvidenceData.validate (e : AdvisoryEvidenceData) : Except ValidationError Unit :=
  refuse "AdvisoryEvidence"
    (check (decide (1 ≤ e.line)) "line" "Input should be greater than or equal to 1")

abbrev AdvisoryEvidence := Accepted AdvisoryEvidenceData.validate

/-- The control letters `\x00-\x1f\x7f-\x9f`. -/
def isControl (c : Char) : Bool := decide (c.toNat < 32 ∨ (127 ≤ c.toNat ∧ c.toNat < 160))

/-- `Explanation`, and `public_text_is_safe`. -/
def isExplanation (t : Text) : Bool :=
  decide (1 ≤ t.length) && decide (t.length ≤ 1200) && t.all (fun c => !isControl c) &&
    decide (strip t ≠ []) && publicTextIsRedactionSafe t

abbrev Explanation := { t : Text // isExplanation t = true }

inductive AdvisoryStatus where
  | completed
  | skipped
  | unavailable
  | error
  deriving DecidableEq

inductive AdvisoryReason where
  | missingRequiredContext
  | unsupportedPlatform
  | fmUnavailable
  | customProviderConfigured
  | executionTimeout
  | executionFailed
  | invalidModelOutput
  | inputLimit
  deriving DecidableEq

inductive AdvisoryJudgement where
  | noFinding
  | finding
  | insufficientEvidence
  deriving DecidableEq

structure FMAdvisoryResultData where
  candidate : PackageCandidateIdentity
  requestSha256 : Sha256
  status : AdvisoryStatus
  generationAttempted : Bool := false
  reason : Option AdvisoryReason := none
  missingContextIds : List DocumentId := []
  judgement : Option AdvisoryJudgement := none
  explanation : Option Explanation := none
  missingContextNote : Option Explanation := none
  evidence : List AdvisoryEvidence := []
  modelOutputSha256 : Option Sha256 := none

namespace FMAdvisoryResultData

/-- `outcome_matches_execution`. -/
def outcomeMatchesExecution (r : FMAdvisoryResultData) : List (Bool × String) :=
  [violation (r.status = .completed ∧
        (r.generationAttempted = false ∨ r.reason ≠ none ∨ r.judgement = none))
      "completed advisory requires an attempted model judgement",
    violation (r.status = .completed ∧
        (r.explanation = none ∨ r.modelOutputSha256 = none ∨ r.missingContextIds ≠ []))
      "completed advisory requires bound model output",
    violation (r.status = .completed ∧ r.judgement = some .insufficientEvidence ∧
        (r.missingContextNote = none ∨ r.evidence ≠ []))
      "abstention needs missing context and no decisive evidence",
    violation (r.status = .completed ∧ r.judgement ≠ some .insufficientEvidence ∧
        (r.missingContextNote ≠ none ∨ r.evidence.length < 2))
      "decisive advisory requires both source references",
    violation (r.status ≠ .completed ∧
        (r.judgement ≠ none ∨ r.explanation ≠ none ∨ r.evidence ≠ []))
      "unexecuted or failed advisory cannot contain judgement evidence",
    violation (r.status ≠ .completed ∧ (r.modelOutputSha256 ≠ none ∨ r.missingContextNote ≠ none))
      "unusable output cannot masquerade as a model observation",
    violation (r.status ≠ .completed ∧ r.reason = none) "noncompleted advisory needs a reason",
    violation (r.status = .unavailable ∧ r.reason ∉ [some .unsupportedPlatform, some .fmUnavailable,
        some .customProviderConfigured])
      "unavailable advisory needs an availability reason",
    violation (r.status = .error ∧ r.reason ∉ [some .executionTimeout, some .executionFailed,
        some .invalidModelOutput, some .inputLimit])
      "advisory error needs an execution reason",
    violation ((r.status = .skipped ∨ r.status = .unavailable) ∧ r.generationAttempted = true)
      "skipped or unavailable advisory cannot claim generation",
    violation (¬ (r.status = .skipped ↔ r.reason = some .missingRequiredContext))
      "only missing required context is a preflight skip",
    violation (¬ (r.status = .skipped ↔ r.missingContextIds ≠ [])) "skip must identify missing context",
    violation (¬ r.missingContextIds.Nodup) "missing context IDs must be unique",
    violation (¬ (r.evidence.map fun e => (e.val.documentId, e.val.line)).Nodup)
      "advisory evidence must be unique"]

def validate (r : FMAdvisoryResultData) : Except ValidationError Unit :=
  validateWith "FMAdvisoryResult"
    (check (decide (r.evidence.length ≤ 8)) "evidence" "Tuple should have at most 8 items")
    r.outcomeMatchesExecution

end FMAdvisoryResultData

abbrev FMAdvisoryResult := Accepted FMAdvisoryResultData.validate

end SkillsSdk
