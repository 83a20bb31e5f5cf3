/-
SkillsSdk/Models/ContentReview.lean

Reviewers, evidence references and content review assessments, and how the
models read them from a loaded document.

`model_validate` either takes a document or raises a `ValidationError`; the
readers here return nothing when it raises.  The safety models look at the
nesting of a document before they look at its fields.  Their fields are strings,
so what is nested too deeply is refused by the fields as well, and the readers
leave the first look out.
-/
import SkillsSdk.JsonLoads
import SkillsSdk.Models.Advisory

namespace SkillsSdk

/-! ### Fields -/

/-- The members of a document that has the required fields and no others than these
and the optional ones. -/
def modelMembers? (required optional : List String) : JsonDoc → Option JsonMembers
  | .dict members =>
    if (required.all fun f => (jsonGet members f).isSome) &&
        members.all fun m => decide (m.1 ∈ (required ++ optional).map PyStr.lit) then
      some members
    else none
  | _ => none

/-- A required string field. -/
def stringField? (members : JsonMembers) (key : String) : Option PyStr :=
  match jsonGet members key with
  | some (.str s) => some s
  | _ => none

/-- A `Literal` field with a default. -/
def literalField (members : JsonMembers) (key word : String) : Bool :=
  match jsonGet members key with
  | none => true
  | some (.str s) => decide (s = PyStr.lit word)
  | some _ => false

/-- A list field, with an empty default. -/
def listField? (members : JsonMembers) (key : String) : Option (List JsonDoc) :=
  match jsonGet members key with
  | none => some []
  | some (.arr items) => some items
  | some _ => none

/-- A public identity that must be normalized already. -/
def normalized? (accepts : Text → Bool) (s : PyStr) :
    Option { t : Text // accepts t = true ∧ publicTextIsRedactionSafe t = true } :=
  s.encode?.bind fun t =>
    if h : accepts t = true ∧ publicTextIsRedactionSafe t = true then
      if strip t = t then some ⟨t, h⟩ else none
    else none

open Rx Rx.Regex in
/-- Words of lower-case letters and digits joined by a point, an underscore, a slash or a hyphen. -/
def isSafetyAdapterId (t : Text) : Bool :=
  fullmatch (seq (plus (cls isLowerAlnum)) (many (seq (cls (oneOf "._/-")) (plus (cls isLowerAlnum))))) t

/-- `^[A-Za-z0-9][A-Za-z0-9._+-]{0,127}$`. -/
def isSafetyAdapterVersion : Text → Bool
  | [] => false
  | c :: t => isAlnum c && decide (t.length ≤ 127) && t.all fun d => isAlnum d || oneOf "._+-" d

/-! ### Reviewers -/

inductive ReviewMethod where
  | metadata
  | staticAnalysis
  | manualReview
  | externalReview
  deriving DecidableEq

def ReviewMethod.value : ReviewMethod → String
  | metadata => "metadata"
  | staticAnalysis => "static_analysis"
  | manualReview => "manual_review"
  | externalReview => "external_review"

/-- The method that a string names. -/
def reviewMethod? (s : PyStr) : Option ReviewMethod :=
  [ReviewMethod.metadata, .staticAnalysis, .manualReview, .externalReview].find? fun m =>
    decide (s = PyStr.lit m.value)

abbrev SafetyAdapterId :=
  { t : Text // isSafetyAdapterId t = true ∧ publicTextIsRedactionSafe t = true }

abbrev SafetyAdapterVersion :=
  { t : Text // isSafetyAdapterVersion t = true ∧ publicTextIsRedactionSafe t = true }

structure PackageSafetyReviewer where
  adapterId : SafetyAdapterId
  adapterVersionOrDigest : SafetyAdapterVersion
  method : ReviewMethod
  deriving DecidableEq

def PackageSafetyReviewer.toJson (r : PackageSafetyReviewer) : Json :=
  .obj [field "adapter_id" (jsonText r.adapterId.val),
    field "adapter_version_or_digest" (jsonText r.adapterVersionOrDigest.val),
    field "method" (jsonLit r.method.value)]

/-- `PackageSafetyReviewer.model_validate`. -/
def reviewer? (d : JsonDoc) : Option PackageSafetyReviewer := do
  let members ← modelMembers? ["adapter_id", "adapter_version_or_digest", "method"] [] d
  let adapterId ← (stringField? members "adapter_id").bind (normalized? isSafetyAdapterId)
  let version ← (stringField? members "adapter_version_or_digest").bind (normalized? isSafetyAdapterVersion)
  let method ← (stringField? members "method").bind reviewMethod?
  return ⟨adapterId, version, method⟩

/-! ### Evidence -/

/-- The kinds of evidence. -/
def evidenceKinds : List String :=
  ["metadata", "static_analysis", "manual_review", "external_review", "policy"]

abbrev SafetyEvidenceId := { t : Text // isIdentifier t = true ∧ publicTextIsRedactionSafe t = true }

abbrev SafePath := { p : PortablePath // publicTextIsRedactionSafe p.val = true }

structure PackageSafetyEvidenceReference where
  evidenceId : SafetyEvidenceId
  kind : { k : String // k ∈ evidenceKinds }
  ref : SafePath
  sha256 : Sha256
  deriving DecidableEq

def PackageSafetyEvidenceReference.toJson (e : PackageSafetyEvidenceReference) : Json :=
  .obj [field "evidence_id" (jsonText e.evidenceId.val), field "kind" (jsonLit e.kind.val),
    field "ref" (jsonText e.ref.val.val), field "sha256" (jsonText e.sha256.val)]

def evidenceKind? (s : PyStr) : Option { k : String // k ∈ evidenceKinds } :=
  evidenceKinds.attach.find? fun k => decide (s = PyStr.lit k.val)

def safePath? (s : PyStr) : Option SafePath :=
  (portable? s).bind fun p => if h : publicTextIsRedactionSafe p.val = true then some ⟨p, h⟩ else none

/-- `PackageSafetyEvidenceReference.model_validate`. -/
def evidenceReference? (d : JsonDoc) : Option PackageSafetyEvidenceReference := do
  let members ← modelMembers? ["evidence_id", "kind", "ref", "sha256"] [] d
  let evidenceId ← (stringField? members "evidence_id").bind (normalized? isIdentifier)
  let kind ← (stringField? members "kind").bind evidenceKind?
  let ref ← (stringField? members "ref").bind safePath?
  let sha256 ← (stringField? members "sha256").bind (constrained? (isHexOfLength 64))
  return ⟨evidenceId, kind, ref, sha256⟩

/-! ### Items -/

inductive ReviewDimension where
  | description
  | progressiveDisclosure
  | reference
  deriving DecidableEq

def ReviewDimension.value : ReviewDimension → String
  | description => "description"
  | progressiveDisclosure => "progressive_disclosure"
  | reference => "reference"

inductive ReviewItemStatus where
  | clear
  | finding
  | gap
  deriving DecidableEq

def ReviewItemStatus.value : ReviewItemStatus → String
  | clear => "clear"
  | finding => "finding"
  | gap => "gap"

abbrev SafeReviewText := { t : NonEmptyText // publicTextIsRedactionSafe t.val = true }

structure ContentReviewItemData where
  dimension : ReviewDimension
  path : SafePath
  status : ReviewItemStatus
  rationale : SafeReviewText
  evidenceIds : List SafetyEvidenceId := []
  owner : Option SafeReviewText := none
  deriving DecidableEq

/-- `disposition_has_evidence_or_owner`. -/
def ContentReviewItemData.validate (i : ContentReviewItemData) : Except ValidationError Unit :=
  validateWith "ContentReviewItem" []
    [violation (¬ i.evidenceIds.Nodup) "review evidence ids must be unique",
      violation (i.status = .gap ∧ i.owner = none) "review gaps require an owner",
      violation (i.status ≠ .gap ∧ i.evidenceIds = []) "completed review dispositions require evidence",
      violation (i.dimension ≠ .reference ∧ i.path.val.val ≠ "SKILL.md".toList)
        "entrypoint review dimensions target SKILL.md",
      violation (i.dimension = .reference ∧ ¬ "references/".toList <+: i.path.val.val)
        "reference review targets a package reference"]

abbrev ContentReviewItem := Accepted ContentReviewItemData.validate

def ContentReviewItem.toJson (i : ContentReviewItem) : Json :=
  .obj [field "dimension" (jsonLit i.val.dimension.value), field "path" (jsonText i.val.path.val.val),
    field "status" (jsonLit i.val.status.value), field "rationale" (jsonText i.val.rationale.val.val),
    field "evidence_ids" (jsonList (fun e => jsonText e.val) i.val.evidenceIds),
    field "owner" (jsonOption (fun o => jsonText o.val.val) i.val.owner)]

def safeReviewText? (s : PyStr) : Option SafeReviewText :=
  (nonEmptyText? s).bind fun t => if h : publicTextIsRedactionSafe t.val = true then some ⟨t, h⟩ else none

/-- A member of `evidence_ids`, which is stripped first. -/
def evidenceId? : JsonDoc → Option SafetyEvidenceId
  | .str s => (constrained? isIdentifier s).bind fun t =>
    if h : publicTextIsRedactionSafe t.val = true then some ⟨t.val, t.2, h⟩ else none
  | _ => none

def dimension? (s : PyStr) : Option ReviewDimension :=
  [ReviewDimension.description, .progressiveDisclosure, .reference].find? fun d =>
    decide (s = PyStr.lit d.value)

def itemStatus? (s : PyStr) : Option ReviewItemStatus :=
  [ReviewItemStatus.clear, .finding, .gap].find? fun st => decide (s = PyStr.lit st.value)

def owner? (members : JsonMembers) : Option (Option SafeReviewText) :=
  match jsonGet members "owner" with
  | none | some .null => some none
  | some (.str s) => (safeReviewText? s).map some
  | some _ => none

/-- `ContentReviewItem.model_validate`. -/
def reviewItem? (d : JsonDoc) : Option ContentReviewItem := do
  let members ← modelMembers? ["dimension", "path", "status", "rationale"] ["evidence_ids", "owner"] d
  let dimension ← (stringField? members "dimension").bind dimension?
  let path ← (stringField? members "path").bind safePath?
  let status ← (stringField? members "status").bind itemStatus?
  let rationale ← (stringField? members "rationale").bind safeReviewText?
  let evidenceIds ← (listField? members "evidence_ids").bind fun items => items.mapM evidenceId?
  let owner ← owner? members
  (construct ContentReviewItemData.validate ⟨dimension, path, status, rationale, evidenceIds, owner⟩).toOption

/-! ### Assessments -/

structure ContentReviewAssessmentData where
  candidate : PackageCandidateIdentity
  reviewer : PackageSafetyReviewer
  evidence : List PackageSafetyEvidenceReference
  items : List ContentReviewItem

namespace ContentReviewAssessmentData

def toJson (a : ContentReviewAssessmentData) : Json :=
  .obj [field "schema_version" (jsonLit "content-review-assessment/v1"),
    field "candidate" a.candidate.toJson,
    field "reviewer" a.reviewer.toJson,
    field "evidence" (jsonList PackageSafetyEvidenceReference.toJson a.evidence),
    field "items" (jsonList ContentReviewItem.toJson a.items)]

def keys (a : ContentReviewAssessmentData) : List (ReviewDimension × Text) :=
  a.items.map fun i => (i.val.dimension, i.val.path.val.val)

def ids (a : ContentReviewAssessmentData) : List SafetyEvidenceId := a.evidence.map (·.evidenceId)

/-- `{evidence_paths[key] for key in item.evidence_ids}`; the declared ids are distinct. -/
def evidencePaths (a : ContentReviewAssessmentData) (i : ContentReviewItem) : List Text :=
  (a.evidence.filter fun e => e.evidenceId ∈ i.val.evidenceIds).map fun e => e.ref.val.val

/-- `normalized_assessment_is_bounded`, then `review_has_closed_coverage`. -/
def violations (a : ContentReviewAssessmentData) : List (Bool × String) :=
  [violation (8388608 < (utf8 a.toJson.dumpsPlain).length) "normalized review assessment exceeds eight MiB",
    violation (¬ a.ids.Nodup ∨ ¬ a.keys.Nodup)
      "review evidence and dimension-path pairs must be unique",
    violation ((ReviewDimension.description, "SKILL.md".toList) ∉ a.keys ∨
        (ReviewDimension.progressiveDisclosure, "SKILL.md".toList) ∉ a.keys)
      "review must cover description and progressive disclosure",
    violation (sameSet (a.items.flatMap fun i => i.val.evidenceIds) a.ids = false)
      "every review evidence id must be declared and used",
    violation (∃ i ∈ a.items, i.val.status ≠ .gap ∧ i.val.path.val.val ∉ a.evidencePaths i)
      "completed dispositions require evidence for their own path"]

def validate (a : ContentReviewAssessmentData) : Except ValidationError Unit :=
  validateWith "ContentReviewAssessment"
    (check (decide (1 ≤ a.evidence.length)) "evidence" "Tuple should have at least 1 item" ++
      check (decide (2 ≤ a.items.length)) "items" "Tuple should have at least 2 items")
    a.violations

end ContentReviewAssessmentData

abbrev ContentReviewAssessment := Accepted ContentReviewAssessmentData.validate

/-- `PackageCandidateIdentity.model_validate`. -/
def candidateIdentity? (d : JsonDoc) : Option PackageCandidateIdentity := do
  let members ← modelMembers? ["package_id", "source_revision", "content_sha256"] ["schema_version"] d
  let packageId ← (stringField? members "package_id").bind (constrained? isIdentifier)
  let sourceRevision ← (stringField? members "source_revision").bind (constrained? (isHexOfLength 40))
  let contentSha256 ← (stringField? members "content_sha256").bind (constrained? (isHexOfLength 64))
  if literalField members "schema_version" "package-candidate/v1" then
    return ⟨packageId, sourceRevision, contentSha256⟩
  else none

/-- A required list whose members a model reads. -/
def listOf? {α : Type} (read : JsonDoc → Option α) (members : JsonMembers) (key : String) : Option (List α) :=
  match jsonGet members key with
  | some (.arr items) => items.mapM read
  | _ => none

/-- `ContentReviewAssessment.model_validate`. -/
def contentReviewAssessment? (d : JsonDoc) : Option ContentReviewAssessment := do
  let members ← modelMembers? ["candidate", "reviewer", "evidence", "items"] ["schema_version"] d
  let candidate ← (jsonGet members "candidate").bind candidateIdentity?
  let reviewer ← (jsonGet members "reviewer").bind reviewer?
  let evidence ← listOf? evidenceReference? members "evidence"
  let items ← listOf? reviewItem? members "items"
  if literalField members "schema_version" "content-review-assessment/v1" then
    (construct ContentReviewAssessmentData.validate ⟨candidate, reviewer, evidence, items⟩).toOption
  else none

end SkillsSdk
