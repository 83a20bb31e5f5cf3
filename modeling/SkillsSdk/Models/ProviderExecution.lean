/-
SkillsSdk/Models/ProviderExecution.lean

Requests to an external provider and the evidence of their execution.

The public texts here have patterns of their own, narrower than those of the
lifecycle contracts (`identityIsPublic`).  A model that is built from what an
adapter supplied reads each field as a text, or as nothing when it is none.
-/
import SkillsSdk.Models.Provider
import SkillsSdk.Models.Packaging

namespace SkillsSdk

open Rx Rx.Regex

/-! ### Public identities -/

/-- `[A-Z0-9]` under `re.IGNORECASE`. -/
def unicodeAlnum (c : Char) : Bool := !unicodeNonAlnum c

/-- `$`: the end, or a last line feed. -/
def lineEnd : Regex Char :=
  alt (notNext fun _ => true) (seq (cls (· == '\n')) (notNext fun _ => true))

/-- `-----BEGIN(?: [A-Z0-9]+)? PRIVATE KEY-----`. -/
def executionKeyHeader : Regex Char :=
  concat [unicodeWord "-----BEGIN", opt (seq (word " ") (plus (cls unicodeAlnum))),
    unicodeWord " PRIVATE KEY-----"]

/-- `(?:api[_-]?key|…|token)["']?\s*[:=]`. -/
def executionSecret : Regex Char :=
  concat [
    union [
      concat [unicodeWord "api", opt (cls (oneOf "_-")), unicodeWord "key"],
      unicodeWord "credential", unicodeWord "password",
      concat [unicodeWord "private", opt (cls (oneOf "_ -")), unicodeWord "key"],
      unicodeWord "secret", unicodeWord "token"],
    opt (cls fun c => c == '"' || c == '\''),
    many (cls isSpace),
    cls (oneOf ":=")]

/-- `_CREDENTIAL_PATTERN`. -/
def executionCredentialPattern : Regex Char :=
  alt executionKeyHeader
    (seq (guard unicodeNonAlnum) (union (credentialPrefixes.map unicodeWord ++ [executionSecret])))

/-- `[\\/]`. -/
def anySlash : Regex Char := cls fun c => c == '\\' || c == '/'

/-- `\$(?:\{)?(?:HOME|USER|USERPROFILE)(?:\})?|%(?:HOME|USER|USERPROFILE)%|root|~`. -/
def homeDirectory : Regex Char :=
  let owner := union [unicodeWord "HOME", unicodeWord "USER", unicodeWord "USERPROFILE"]
  union [
    concat [word "$", opt (cls (· == '\x7b')), owner, opt (cls (· == '\x7d'))],
    concat [word "%", owner, word "%"],
    unicodeWord "root",
    word "~"]

/-- `_MACHINE_PATH_PATTERN`. -/
def executionMachinePathPattern : Regex Char :=
  union [
    concat [opt (unicodeWord "file:"), plus (word "/"),
      union (["users", "home", "private", "tmp", "workspace", "var/folders"].map unicodeWord), word "/"],
    concat [cls unicodeAlpha, word ":", plus anySlash, alt (unicodeWord "users") (unicodeWord "home"),
      anySlash],
    concat [alt start anySlash, homeDirectory, alt anySlash lineEnd]]
where
  /-- `[A-Za-z]` under `re.IGNORECASE`. -/
  unicodeAlpha (c : Char) : Bool := isAlpha c || unicodeRelative c != none

/-- `_identity_is_public`. -/
def identityIsPublic (value : Text) : Bool :=
  !search executionCredentialPattern value && !search executionMachinePathPattern value

/-- `ExecutionId`, under the validators of the models that carry one. -/
def isExecutionId (t : Text) : Bool := isIdentifier t && identityIsPublic t

abbrev ExecutionId := { t : Text // isExecutionId t = true }

instance : LawfulBEq ExecutionId := inferInstance

/-- An execution id, of a text that is one. -/
def executionId? (t : Text) : Option ExecutionId := if h : isExecutionId t = true then some ⟨t, h⟩ else none

/-! ### Times -/

/-- An aware datetime, and how the models write it. -/
structure Timestamp where
  instant : Int
  written : Text
  deriving DecidableEq

/-- The reading of a clock; `wire` is empty when its text is no RFC 3339 time. -/
structure ClockReading where
  instant : Int
  wire : Option Text
  deriving DecidableEq

def ClockReading.timestamp? (r : ClockReading) : Option Timestamp := r.wire.map fun t => ⟨r.instant, t⟩

/-! ### Failures -/

/-- The texts of evidence references, each a portable path. -/
def portablePaths? (refs : Option (List Text)) : Option (List PortablePath) :=
  refs.bind (·.mapM fun t => if h : isPortable t = true then some ⟨t, h⟩ else none)

/-- A blocker code, of a text that is already normalized. -/
def blockerCode? (code : Option Text) : Option BlockerCode :=
  code.bind fun t => if strip t = t then if h : isBlockerCode t = true then some ⟨t, h⟩ else none else none

/-- `evidence_refs_must_be_unique_and_portable`, of the model with the given name in messages. -/
def publicRefErrors (noun : String) (refs : List PortablePath) : List (Text × Text) :=
  check refs.Nodup "evidence_refs" (noun ++ " evidence refs must be unique") ++
    check (refs.all fun r => identityIsPublic r.val) "evidence_refs"
      (noun ++ " evidence must not contain credential-shaped values")

inductive BlockerCategory where
  | policy
  | safety
  | provider
  | adapter
  | transport
  | input
  | unknown
  deriving DecidableEq

namespace BlockerCategory

def value : BlockerCategory → String
  | policy => "policy"
  | safety => "safety"
  | provider => "provider"
  | adapter => "adapter"
  | transport => "transport"
  | input => "input"
  | unknown => "unknown"

def all : List BlockerCategory := [policy, safety, provider, adapter, transport, input, unknown]

/-- The category with this value. -/
def ofValue? (t : Option Text) : Option BlockerCategory := all.find? fun c => t == some c.value.toList

end BlockerCategory

inductive ErrorCategory where
  | provider
  | adapter
  | transport
  | timeout
  | policy
  | unknown
  deriving DecidableEq

namespace ErrorCategory

def value : ErrorCategory → String
  | provider => "provider"
  | adapter => "adapter"
  | transport => "transport"
  | timeout => "timeout"
  | policy => "policy"
  | unknown => "unknown"

def all : List ErrorCategory := [provider, adapter, transport, timeout, policy, unknown]

/-- The category with this value. -/
def ofValue? (t : Option Text) : Option ErrorCategory := all.find? fun c => t == some c.value.toList

end ErrorCategory

structure ProviderExecutionBlockerData where
  code : BlockerCode
  category : BlockerCategory
  evidenceRefs : List PortablePath
  deriving DecidableEq

namespace ProviderExecutionBlockerData

def validate (b : ProviderExecutionBlockerData) : Except ValidationError Unit :=
  validateWith "ProviderExecutionBlocker"
    (check (identityIsPublic b.code.val) "code"
        "provider execution blocker code must not contain credential-shaped values" ++
      publicRefErrors "provider execution blocker" b.evidenceRefs) []

def toJson (b : ProviderExecutionBlockerData) : Json :=
  .obj [field "code" (jsonText b.code.val),
    field "category" (jsonLit b.category.value),
    field "evidence_refs" (jsonList (fun p : PortablePath => jsonText p.val) b.evidenceRefs)]

end ProviderExecutionBlockerData

abbrev ProviderExecutionBlocker := Accepted ProviderExecutionBlockerData.validate

/-- `ProviderExecutionBlocker(code=…, category=…, evidence_refs=…)`. -/
def newExecutionBlocker (code category : Option Text) (refs : Option (List Text)) :
    Except ValidationError ProviderExecutionBlocker :=
  match blockerCode? code, BlockerCategory.ofValue? category, portablePaths? refs with
  | some c, some k, some r => construct ProviderExecutionBlockerData.validate ⟨c, k, r⟩
  | c, k, r => .error ⟨"ProviderExecutionBlocker".toList,
      check c.isSome "code" "String should match pattern '^[a-z0-9_]+$'" ++
      check k.isSome "category" "Input should be a declared category" ++
      check r.isSome "evidence_refs" "path must be a portable relative path"⟩

structure ProviderExecutionErrorData where
  code : BlockerCode
  category : ErrorCategory
  retryable : Bool
  evidenceRefs : List PortablePath
  deriving DecidableEq

def ProviderExecutionErrorData.validate (e : ProviderExecutionErrorData) : Except ValidationError Unit :=
  validateWith "ProviderExecutionError"
    (check (identityIsPublic e.code.val) "code"
        "provider execution error code must not contain credential-shaped values" ++
      check (e.evidenceRefs ≠ []) "evidence_refs"
        "Tuple should have at least 1 item after validation, not 0" ++
      publicRefErrors "provider execution error" e.evidenceRefs) []

abbrev ProviderExecutionError := Accepted ProviderExecutionErrorData.validate

/-- `ProviderExecutionError(code=…, category=…, retryable=…, evidence_refs=…)`. -/
def newExecutionError (code category : Option Text) (retryable : Option Bool)
    (refs : Option (List Text)) : Except ValidationError ProviderExecutionError :=
  match blockerCode? code, ErrorCategory.ofValue? category, retryable, portablePaths? refs with
  | some c, some k, some b, some r => construct ProviderExecutionErrorData.validate ⟨c, k, b, r⟩
  | c, k, b, r => .error ⟨"ProviderExecutionError".toList,
      check c.isSome "code" "String should match pattern '^[a-z0-9_]+$'" ++
      check k.isSome "category" "Input should be a declared category" ++
      check b.isSome "retryable" "provider execution retryable must be a JSON boolean" ++
      check r.isSome "evidence_refs" "path must be a portable relative path"⟩

/-! ### Usage -/

inductive UnitKind where
  | tokens
  | characters
  | items
  | providerUnits
  deriving DecidableEq

structure ProviderUsageMetadataData where
  unitKind : UnitKind
  inputUnits : Nat
  outputUnits : Nat
  totalUnits : Nat
  deriving DecidableEq

def ProviderUsageMetadataData.validate (u : ProviderUsageMetadataData) : Except ValidationError Unit :=
  validateWith "ProviderUsageMetadata" []
    [violation (u.totalUnits ≠ u.inputUnits + u.outputUnits)
      "provider usage total must match input and output units"]

abbrev ProviderUsageMetadata := Accepted ProviderUsageMetadataData.validate

/-! ### Requests -/

inductive DeclaredCapability where
  | responseGeneration
  | agentRun
  | embedding
  | classification
  | other
  deriving DecidableEq

def DeclaredCapability.value : DeclaredCapability → String
  | responseGeneration => "response_generation"
  | agentRun => "agent_run"
  | embedding => "embedding"
  | classification => "classification"
  | other => "other"

inductive RequestStatus where
  | prepared
  | blocked
  deriving DecidableEq

def RequestStatus.value : RequestStatus → String
  | prepared => "prepared"
  | blocked => "blocked"

structure ProviderExecutionRequestData where
  requestId : ExecutionId
  candidate : PackageCandidateIdentity
  scenarioSetId : ExecutionId
  caseId : ExecutionId
  provider : ProviderIdentityV2
  declaredCapability : DeclaredCapability
  inputSha256 : Sha256
  idempotencyKeySha256 : Sha256
  packageSafetyReceiptId : ReceiptId
  packageSafetyReceiptSha256 : Sha256
  preparedAt : Timestamp
  status : RequestStatus
  blocker : Option ProviderExecutionBlocker
  evidenceRefs : List PortablePath
  deriving DecidableEq

namespace ProviderExecutionRequestData

def validate (r : ProviderExecutionRequestData) : Except ValidationError Unit :=
  validateWith "ProviderExecutionRequest"
    (check (identityIsPublic r.candidate.packageId.val) "candidate"
        "provider execution candidate package id must not contain credential-shaped values" ++
      check (identityIsPublic r.packageSafetyReceiptId.val) "package_safety_receipt_id"
        "provider execution identity must not contain credential-shaped values" ++
      publicRefErrors "provider execution request" r.evidenceRefs)
    [violation (r.status = .prepared ∧ r.blocker ≠ none)
        "prepared provider execution request cannot contain a blocker",
      violation (r.status = .blocked ∧ r.blocker = none)
        "blocked provider execution request requires a blocker"]

def toJson (r : ProviderExecutionRequestData) : Json :=
  .obj [field "schema_version" (jsonLit "provider-execution-request/v1"),
    field "request_id" (jsonText r.requestId.val),
    field "candidate" r.candidate.toJson,
    field "scenario_set_id" (jsonText r.scenarioSetId.val),
    field "case_id" (jsonText r.caseId.val),
    field "provider" r.provider.val.toJson,
    field "declared_capability" (jsonLit r.declaredCapability.value),
    field "input_sha256" (jsonText r.inputSha256.val),
    field "idempotency_key_sha256" (jsonText r.idempotencyKeySha256.val),
    field "package_safety_receipt_id" (jsonText r.packageSafetyReceiptId.val),
    field "package_safety_receipt_sha256" (jsonText r.packageSafetyReceiptSha256.val),
    field "prepared_at" (jsonText r.preparedAt.written),
    field "status" (jsonLit r.status.value),
    field "blocker" (jsonOption (fun b : ProviderExecutionBlocker => b.val.toJson) r.blocker),
    field "evidence_refs" (jsonList (fun p : PortablePath => jsonText p.val) r.evidenceRefs),
    field "provider_execution_performed" (.bool false),
    field "credentials_included" (.bool false),
    field "raw_payloads_included" (.bool false),
    field "cost_claimed" (.bool false)]

end ProviderExecutionRequestData

abbrev ProviderExecutionRequest := Accepted ProviderExecutionRequestData.validate

/-! ### Results -/

inductive ExecutionStatus where
  | completed
  | failed
  | blocked
  | indeterminate
  deriving DecidableEq

namespace ExecutionStatus

def value : ExecutionStatus → String
  | completed => "completed"
  | failed => "failed"
  | blocked => "blocked"
  | indeterminate => "indeterminate"

def all : List ExecutionStatus := [completed, failed, blocked, indeterminate]

/-- The status with this value. -/
def ofValue? (t : Text) : Option ExecutionStatus := all.find? fun s => t == s.value.toList

end ExecutionStatus

structure ProviderExecutionResultData where
  resultId : ExecutionId
  requestId : ExecutionId
  requestSha256 : Sha256
  idempotencyKeySha256 : Sha256
  candidate : PackageCandidateIdentity
  scenarioSetId : ExecutionId
  caseId : ExecutionId
  provider : ProviderIdentityV2
  status : ExecutionStatus
  startedAt : Timestamp
  finishedAt : Timestamp
  outputSha256 : Option Sha256
  usage : Option ProviderUsageMetadata
  evidenceRefs : List PortablePath
  blocker : Option ProviderExecutionBlocker
  error : Option ProviderExecutionError
  replayOfResultId : Option ExecutionId := none
  replayOfResultSha256 : Option Sha256 := none
  deriving DecidableEq

namespace ProviderExecutionResultData

/-- `status_matches_observation`. -/
def statusMatchesObservation (r : ProviderExecutionResultData) : List (Bool × String) :=
  [violation (¬ (r.replayOfResultId = none ↔ r.replayOfResultSha256 = none))
      "provider replay identity and digest must be supplied together",
    violation (r.replayOfResultId = some r.resultId) "provider execution result cannot replay itself",
    violation (r.finishedAt.instant < r.startedAt.instant)
      "provider execution result cannot finish before it starts"] ++
  match r.status with
  | .completed =>
    [violation (r.outputSha256 = none ∨ r.evidenceRefs = [] ∨ r.blocker ≠ none ∨ r.error ≠ none)
      "completed provider execution requires output evidence and no failure"]
  | .failed =>
    [violation (r.error = none ∨ r.blocker ≠ none ∨ r.outputSha256 ≠ none)
      "failed provider execution requires only a typed error"]
  | .blocked =>
    [violation (r.blocker = none ∨ r.error ≠ none ∨ r.outputSha256 ≠ none ∨ r.usage ≠ none)
      "blocked provider execution requires only a blocker"]
  | .indeterminate =>
    [violation (r.error = none ∨ r.blocker ≠ none ∨ r.outputSha256 ≠ none ∨ r.usage ≠ none)
      "indeterminate provider execution requires only a typed error"]

def validate (r : ProviderExecutionResultData) : Except ValidationError Unit :=
  validateWith "ProviderExecutionResult"
    (check (identityIsPublic r.candidate.packageId.val) "candidate"
        "provider execution candidate package id must not contain credential-shaped values" ++
      publicRefErrors "provider execution result" r.evidenceRefs)
    r.statusMatchesObservation

variable (sha256 : List UInt8 → Sha256)

/-- `validate_against_request`. -/
def againstRequest (r : ProviderExecutionResultData) (request : ProviderExecutionRequestData) :
    List (Bool × String) :=
  [violation (request.status = .blocked ∧ r.status ≠ .blocked)
      "blocked provider execution request requires a blocked result",
    violation (r.startedAt.instant < request.preparedAt.instant)
      "provider execution result cannot start before request preparation",
    violation (r.requestSha256 ≠ canonicalJsonSha256 sha256 request.toJson)
      "provider execution request digest must match the supplied request",
    violation (r.requestId ≠ request.requestId)
      "provider execution request id must match the supplied request",
    violation (r.idempotencyKeySha256 ≠ request.idempotencyKeySha256)
      "provider execution idempotency key must match the supplied request",
    violation (r.candidate ≠ request.candidate ∨ r.scenarioSetId ≠ request.scenarioSetId ∨
        r.caseId ≠ request.caseId ∨ r.provider ≠ request.provider)
      "provider execution result bindings must match the supplied request"]

end ProviderExecutionResultData

abbrev ProviderExecutionResult := Accepted ProviderExecutionResultData.validate

end SkillsSdk
