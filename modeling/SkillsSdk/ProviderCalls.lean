/-
SkillsSdk/ProviderCalls.lean

One bounded call of an injected text provider.

What the adapter, the clock and the caller do is data: the members that are
read, the outcome of `complete` or of every pull of a stream, the outcome of
`cleanup`, and whether the overall timeout or a cancellation ends the run
before it finishes.  An exception is an outcome too, also one that code of the
adapter raises while something that it supplied is read, so that a path on which
one escapes can be seen.  What a call does to the adapter is its trace.
-/
import SkillsSdk.FileNames
import SkillsSdk.Lib.Samples
import SkillsSdk.Lib.Traced
import SkillsSdk.Models.ProviderCall
import SkillsSdk.Raising

namespace SkillsSdk

/-! ### Exceptions -/

/-- What is raised where something that an adapter supplied is written or copied: a
`ValueError` of a validator is none of these. -/
inductive ReadingRaised where
  | contractError (e : ContractError)
  | cancelled
  | other
  deriving DecidableEq

/-- The `status` of a failure or of a terminal.  An object that is no string equals no string. -/
inductive SuppliedStatus where
  | text (t : Text)
  /-- What `json.dumps` writes for the object, and what copying it for validation raises. -/
  | object (written : Except ReadingRaised Text) (copied : Except ReadingRaised Unit)
  deriving DecidableEq

namespace SuppliedStatus

/-- The status as a string. -/
def text? : SuppliedStatus → Option Text
  | text t => some t
  | object _ _ => none

def toJson : SuppliedStatus → Except ReadingRaised Json
  | text t => .ok (jsonText t)
  | object written _ => written.map Json.num

/-- What copying the status raises. -/
def copied : SuppliedStatus → Except ReadingRaised Unit
  | text _ => .ok ()
  | object _ copied => copied

end SuppliedStatus

/-- Evidence references: what the models read of them, or what reading them raises. -/
abbrev SuppliedRefs := Except ReadingRaised (Option (List Text))

/-- The attributes of a `ProviderAdapterFailure`, each read as what the models take.  Nothing has
checked them. -/
structure ProviderAdapterFailure where
  code : Option Text
  category : Option Text
  retryable : Option Bool
  evidenceRefs : Option (List Text)
  status : SuppliedStatus
  /-- What building a blocker or an error from the attributes raises, but for a `ValidationError`. -/
  raises : Option ReadingRaised := none
  deriving DecidableEq

/-- An exception that a part of the call raises. -/
inductive CallExc where
  | contractError (e : ContractError)
  | validationError (e : ValidationError)
  | adapterFailure (f : ProviderAdapterFailure)
  | timeoutError
  | stopAsyncIteration
  | cancelled
  | other
  deriving DecidableEq

def ReadingRaised.toCallExc : ReadingRaised → CallExc
  | contractError e => .contractError e
  | cancelled => .cancelled
  | other => .other

/-- Something that an adapter supplied is read where nothing catches what that raises. -/
def uncaught {α : Type} (x : Except ReadingRaised α) : Except CallExc α := x.mapError ReadingRaised.toCallExc

/-- `raise _contract_error(code, message)`. -/
def raiseContract {α : Type} (code message : String) : Except CallExc α :=
  .error (.contractError ⟨code.toList, message.toList⟩)

/-- `except ValidationError: raise _contract_error(code, message)`. -/
def exceptValidation {α : Type} (x : Except ValidationError α) (code message : String) : Except CallExc α :=
  match x with
  | .ok a => .ok a
  | .error _ => raiseContract code message

/-! ### Limits -/

structure ProviderCallLimits where
  inputBytes : Nat
  metadataBytes : Nat
  nestingDepth : Nat
  outputBytes : Nat
  chunkBytes : Nat
  events : Nat
  bufferedEvents : Nat
  overallSeconds : ℚ
  idleSeconds : ℚ
  cleanupSeconds : ℚ
  deriving DecidableEq

/-- `__post_init__` takes the limits: they are positive and tighten `_LIMIT_CEILINGS`. -/
def ProviderCallLimits.postInit (l : ProviderCallLimits) : Bool :=
  let tightens (value ceiling : Nat) : Bool := 0 < value && value ≤ ceiling
  let tightensSeconds (value ceiling : ℚ) : Bool := 0 < value && value ≤ ceiling
  tightens l.inputBytes 262144 && tightens l.metadataBytes 65536 && tightens l.nestingDepth 32 &&
    tightens l.outputBytes 1048576 && tightens l.chunkBytes 16384 && tightens l.events 4096 &&
    decide (l.bufferedEvents ≤ 8) && tightensSeconds l.overallSeconds 30 &&
    tightensSeconds l.idleSeconds 5 && tightensSeconds l.cleanupSeconds 1

/-! ### Requests and input -/

mutual

/-- The depth at which the deepest value of a JSON value lies. -/
def jsonDepth : Json → Nat
  | .arr items => jsonDepthItems items
  | .obj members => jsonDepthMembers members
  | _ => 0

def jsonDepthItems : List Json → Nat
  | [] => 0
  | j :: js => max (jsonDepth j + 1) (jsonDepthItems js)

def jsonDepthMembers : List (Text × Json) → Nat
  | [] => 0
  | (_, j) :: ms => max (jsonDepth j + 1) (jsonDepthMembers ms)

end

/-- `normalized["metadata"]`, of an object that has it. -/
def metadataOf : Json → Option Json
  | .obj members => (members.find? (·.1 = "metadata".toList)).map Prod.snd
  | _ => none

/-- The integer has no more digits than the interpreter writes. -/
def isWritable (i : Int) : Bool := !isLongInt i

variable (sha256 : List UInt8 → Sha256)

/-- `_validate_request_and_input`; what is no request or no JSON value is `none`, and `converts` says
which integers `json.dumps` can write. -/
def validateRequestAndInput (converts : Int → Bool) (request : Option ProviderExecutionRequest)
    (payload : Option Json) (limits : ProviderCallLimits) : Except CallExc ProviderExecutionRequest := do
  let some request := request
    | raiseContract "invalid_provider_request" "provider request failed revalidation"
  if request.val.status ≠ .prepared then
    raiseContract "unsupported_provider_request" "provider call requires a prepared request"
  else
    let some normalized := payload
      | raiseContract "invalid_provider_input" "provider input must contain only JSON-compatible values"
    if limits.nestingDepth < jsonDepth normalized then
      raiseContract "provider_input_depth_exceeded" "provider input exceeds the nesting-depth limit"
    else if normalized.ints.any fun i => !converts i then
      -- json.dumps refuses to write the integer, and nothing catches that
      .error .other
    else if limits.inputBytes < (utf8 normalized.dumps).length then
      raiseContract "provider_input_too_large" "provider input exceeds the byte limit"
    else if (metadataOf normalized).any fun m => decide (limits.metadataBytes < (utf8 m.dumps).length) then
      raiseContract "provider_metadata_too_large" "provider metadata exceeds the byte limit"
    else if canonicalJsonSha256 sha256 normalized ≠ request.val.inputSha256 then
      raiseContract "provider_input_digest_mismatch" "provider input digest does not match the request"
    else .ok request

/-! ### Adapters -/

/-- What reading the members of an adapter finds. -/
structure AdapterMembers where
  /-- The descriptor, when it and its provider revalidate. -/
  descriptor : Option TextProviderAdapterDescriptor
  cleanupIsAsync : Bool
  selectedIsCallable : Bool
  selectedIsAsync : Bool
  signaturesBind : Bool
  deriving DecidableEq

/-- `_read_adapter`; members that cannot be read are `none`, and an error is what inspecting them
raises. -/
def readAdapter (members : Except ReadingRaised (Option AdapterMembers)) (request : ProviderExecutionRequest) :
    Except CallExc TextProviderAdapterDescriptor := do
  match ← uncaught members with
  | none => raiseContract "invalid_provider_adapter" "provider adapter members could not be read"
  | some m =>
    match m.descriptor with
    | none => raiseContract "invalid_provider_adapter" "provider adapter descriptor failed revalidation"
    | some descriptor =>
      if descriptor.provider ≠ request.val.provider then
        raiseContract "provider_adapter_mismatch" "provider adapter identity does not match the request"
      else if !m.cleanupIsAsync then
        raiseContract "invalid_provider_adapter" "provider adapter does not implement cleanup"
      else if !m.selectedIsCallable then
        raiseContract "invalid_provider_adapter" "provider adapter does not implement its selected mode"
      else if !m.selectedIsAsync then
        raiseContract "invalid_provider_adapter" "provider selected hook must be asynchronous"
      else if !m.signaturesBind then
        raiseContract "invalid_provider_adapter" "provider adapter hook signature is invalid"
      else .ok descriptor

/-- Optional evidence as an adapter supplies it. -/
inductive Supplied (α : Type) where
  | absent
  | rejected
  | accepted (a : α)

/-- `_validate_usage` and `_validate_cost`. -/
def validateSupplied {α : Type} (noun : String) : Supplied α → Except CallExc (Option α)
  | .absent => .ok none
  | .rejected =>
    raiseContract "invalid_provider_event" ("provider " ++ noun ++ " evidence failed validation")
  | .accepted a => .ok (some a)

/-- What an adapter returns from `complete`; a text that is no string is `none`. -/
structure ProviderAdapterComplete where
  text : Option PyStr
  evidenceRefs : SuppliedRefs
  usage : Supplied ProviderUsageMetadata
  cost : Supplied ProviderCostObservation

inductive ProviderAdapterStreamEvent where
  | chunk (text : Option PyStr)
  | terminal (evidenceRefs : SuppliedRefs) (usage : Supplied ProviderUsageMetadata)
      (cost : Supplied ProviderCostObservation)
  | unsupported

/-- One item of a stream; the events of a batch that are no tuple are `none`. -/
inductive ProviderAdapterStreamItem where
  | event (e : ProviderAdapterStreamEvent)
  | batch (events : Option (List ProviderAdapterStreamEvent))

/-- The outcome of one pull, awaited for at most the idle timeout. -/
inductive StreamPull where
  | notAwaitable
  | raised (e : CallExc)
  | item (i : ProviderAdapterStreamItem)

/-- A stream: the outcome of every pull, or nothing when it is no async iterator. -/
abbrev AdapterStream := Option (Nat → StreamPull)

/-! ### Events -/

/-- The public record of one event. -/
inductive EventRecord where
  | complete (bytes : Nat) (sha256 : Sha256)
  | chunk (sequence bytes : Nat) (sha256 : Sha256)
  | terminal (sequence : Nat) (status : Text)
  deriving DecidableEq

namespace EventRecord

def sequence : EventRecord → Nat
  | complete _ _ => 0
  | chunk n _ _ => n
  | terminal n _ => n

def toJson : EventRecord → Json
  | complete bytes digest =>
    .obj [field "kind" (jsonLit "complete"), field "sequence" (.int 0), field "bytes" (.int bytes),
      field "sha256" (jsonText digest.val)]
  | chunk n bytes digest =>
    .obj [field "kind" (jsonLit "chunk"), field "sequence" (.int n), field "bytes" (.int bytes),
      field "sha256" (jsonText digest.val)]
  | terminal n status =>
    .obj [field "kind" (jsonLit "terminal"), field "sequence" (.int n), field "status" (jsonText status)]

end EventRecord

/-- `_event_digest` of records, which hold texts and short numbers. -/
def eventDigest (events : List EventRecord) : Sha256 :=
  canonicalJsonSha256 sha256 (jsonList EventRecord.toJson events)

/-- `_event_digest` of the one event of a failure, whose status nothing has checked. -/
def failureEventDigest (status : SuppliedStatus) : Except ReadingRaised Sha256 :=
  status.toJson.map fun j => canonicalJsonSha256 sha256
    (.arr [.obj [field "kind" (jsonLit "terminal"), field "sequence" (.int 0), field "status" j]])

/-- `_Terminal`. -/
structure CallTerminal where
  status : SuppliedStatus
  text : Option Text
  outputSha256 : Option Sha256
  eventSha256 : Sha256
  eventCount : Nat
  maxBufferedEvents : Nat
  usage : Option ProviderUsageMetadata
  cost : Option ProviderCostObservation
  evidenceRefs : SuppliedRefs
  blocker : Option ProviderExecutionBlocker := none
  error : Option ProviderExecutionError := none

/-- `_utf8_bytes`: the text that is encoded. -/
def utf8Text (s : PyStr) : Except CallExc Text :=
  match s.encode? with
  | some t => .ok t
  | none => raiseContract "invalid_provider_event" "provider text must be valid UTF-8"

/-- `"completed"`. -/
def completedStatus : Text := "completed".toList

/-! ### Complete calls -/

/-- The text of a complete result, within the byte limit. -/
def completeText (limits : ProviderCallLimits) (s : PyStr) : Except CallExc Text := do
  if limits.outputBytes < s.length then
    raiseContract "provider_output_too_large" "provider output exceeds the byte limit"
  else
    let text ← utf8Text s
    if limits.outputBytes < (utf8 text).length then
      raiseContract "provider_output_too_large" "provider output exceeds the byte limit"
    else .ok text

/-- `_run_complete`, of a call that returns a complete result, another object or raises. -/
def runComplete (limits : ProviderCallLimits)
    (returned : Except CallExc (Option ProviderAdapterComplete)) : Except CallExc CallTerminal := do
  let some value ← returned
    | raiseContract "invalid_provider_event" "complete adapter returned an invalid result"
  let some s := value.text
    | raiseContract "invalid_provider_event" "complete adapter returned an invalid result"
  let text ← completeText limits s
  let usage ← validateSupplied "usage" value.usage
  let cost ← validateSupplied "cost" value.cost
  let digest := sha256 (utf8 text)
  return {
    status := .text completedStatus
    text := some text
    outputSha256 := some digest
    eventSha256 := eventDigest sha256 [.complete (utf8 text).length digest]
    eventCount := 1
    maxBufferedEvents := 0
    usage := usage
    cost := cost
    evidenceRefs := value.evidenceRefs }

/-! ### Streams -/

/-- `_StreamState`. -/
structure StreamState where
  chunks : List Text := []
  events : List EventRecord := []
  totalBytes : Nat := 0
  maxBufferedEvents : Nat := 0

/-- `_consume_chunk`. -/
def consumeChunk (limits : ProviderCallLimits) (state : StreamState) (text : Option PyStr) :
    Except CallExc StreamState := do
  let some s := text
    | raiseContract "invalid_provider_event" "provider stream chunk must contain text"
  if limits.chunkBytes < s.length then
    raiseContract "provider_chunk_too_large" "provider stream chunk exceeds the byte limit"
  else
    let t ← utf8Text s
    let bytes := (utf8 t).length
    if limits.chunkBytes < bytes then
      raiseContract "provider_chunk_too_large" "provider stream chunk exceeds the byte limit"
    else if limits.outputBytes < state.totalBytes + bytes then
      raiseContract "provider_output_too_large" "provider output exceeds the byte limit"
    else .ok { state with
      chunks := state.chunks ++ [t]
      events := state.events ++ [.chunk state.events.length bytes (sha256 (utf8 t))]
      totalBytes := state.totalBytes + bytes }

/-- The terminal that a terminal event makes of the state. -/
def streamTerminal (state : StreamState) (refs : SuppliedRefs)
    (usage : Option ProviderUsageMetadata) (cost : Option ProviderCostObservation) : CallTerminal :=
  let text := state.chunks.flatten
  let events := state.events ++ [.terminal state.events.length completedStatus]
  { status := .text completedStatus
    text := some text
    outputSha256 := some (sha256 (utf8 text))
    eventSha256 := eventDigest sha256 events
    eventCount := events.length
    maxBufferedEvents := state.maxBufferedEvents
    usage := usage
    cost := cost
    evidenceRefs := refs }

/-- A round of `_consume_events`, over the last event of a batch or an earlier one. -/
def consumeEvent (limits : ProviderCallLimits) (state : StreamState) (isLast : Bool) :
    ProviderAdapterStreamEvent → Except CallExc (StreamState ⊕ CallTerminal)
  | .chunk text => do return .inl (← consumeChunk sha256 limits state text)
  | .terminal refs usage cost =>
    if !isLast then
      raiseContract "provider_event_after_terminal"
        "provider stream batch contains an event after terminal"
    else do
      let usage ← validateSupplied "usage" usage
      let cost ← validateSupplied "cost" cost
      return .inr (streamTerminal sha256 state refs usage cost)
  | .unsupported =>
    raiseContract "invalid_provider_event" "provider stream returned an unsupported event"

/-- Goes on with the state, or stops at the terminal. -/
def orTerminal {α : Type} (r : StreamState ⊕ CallTerminal) (next : StreamState → Except CallExc α)
    (stop : CallTerminal → Except CallExc α) : Except CallExc α :=
  match r with
  | .inl state => next state
  | .inr terminal => stop terminal

/-- `_consume_events`: the state after the events, or the terminal that ends them. -/
def consumeEvents (limits : ProviderCallLimits) :
    StreamState → List ProviderAdapterStreamEvent → Except CallExc (StreamState ⊕ CallTerminal)
  | state, [] => .ok (.inl state)
  | state, e :: rest =>
    if limits.events ≤ state.events.length then
      raiseContract "provider_event_limit_exceeded" "provider stream exceeds the event limit"
    else do
      orTerminal (← consumeEvent sha256 limits state rest.isEmpty e)
        (fun state => consumeEvents limits state rest) (fun terminal => .ok (.inr terminal))

/-- The events of an item and how many of them were buffered. -/
def itemEvents (limits : ProviderCallLimits) :
    ProviderAdapterStreamItem → Except CallExc (List ProviderAdapterStreamEvent × Nat)
  | .event e => .ok ([e], 0)
  | .batch none =>
    raiseContract "invalid_provider_event" "provider stream batch has an invalid event container"
  | .batch (some events) =>
    if events = [] ∨ limits.bufferedEvents = 0 ∨ limits.bufferedEvents < events.length then
      raiseContract "provider_buffer_limit_exceeded" "provider stream batch exceeds the buffer limit"
    else .ok (events, events.length)

/-- One pull: the item, or what the handlers of the loop make of an exception. -/
def awaitPull : StreamPull → Except CallExc ProviderAdapterStreamItem
  | .notAwaitable => raiseContract "invalid_provider_adapter" "provider stream pulls must be awaitable"
  | .item i => .ok i
  | .raised .timeoutError => .error (.adapterFailure {
      code := some "provider_idle_timeout".toList
      category := some "timeout".toList
      retryable := some true
      evidenceRefs := some ["provider-call/idle-timeout".toList]
      status := .text "failed".toList })
  | .raised .stopAsyncIteration =>
    raiseContract "provider_stream_missing_terminal" "provider stream ended without a terminal event"
  | .raised e => .error e

/-- A round of the loop of `_run_stream`. -/
def pullOnce (limits : ProviderCallLimits) (state : StreamState) (pull : StreamPull) :
    Except CallExc (StreamState ⊕ CallTerminal) := do
  let item ← awaitPull pull
  let (events, buffered) ← itemEvents limits item
  consumeEvents sha256 limits
    { state with maxBufferedEvents := max state.maxBufferedEvents buffered } events

/-- The loop of `_run_stream`.  Every round adds an event, so as many rounds as there may be
events are enough (`pullEvents_of_le`). -/
def pullEvents (limits : ProviderCallLimits) (pulls : Nat → StreamPull) :
    Nat → Nat → StreamState → Except CallExc CallTerminal
  | 0, _, _ => raiseContract "provider_event_limit_exceeded" "provider stream exceeds the event limit"
  | rounds + 1, index, state =>
    if state.events.length < limits.events then do
      orTerminal (← pullOnce sha256 limits state (pulls index))
        (fun state => pullEvents limits pulls rounds (index + 1) state) (fun terminal => .ok terminal)
    else raiseContract "provider_event_limit_exceeded" "provider stream exceeds the event limit"

/-- `_run_stream`, of a call that returns a stream, another object or raises. -/
def runStream (limits : ProviderCallLimits) (returned : Except CallExc AdapterStream) :
    Except CallExc CallTerminal := do
  let some pulls ← returned
    | raiseContract "invalid_provider_adapter" "provider stream must return an async iterator"
  pullEvents sha256 limits pulls limits.events 0 {}

/-! ### Terminals -/

/-- The terminal of a failure whose event is hashed; a `ValidationError` is caught. -/
def describedFailure (failure : ProviderAdapterFailure) (eventSha256 : Sha256) : Except CallExc CallTerminal :=
  let terminal (blocker : Option ProviderExecutionBlocker) (error : Option ProviderExecutionError) :
      CallTerminal := {
    status := failure.status
    text := none
    outputSha256 := none
    eventSha256 := eventSha256
    eventCount := 1
    maxBufferedEvents := 0
    usage := none
    cost := none
    evidenceRefs := .ok failure.evidenceRefs
    blocker := blocker
    error := error }
  match failure.raises with
  | some e => .error e.toCallExc
  | none =>
    if failure.status = .text "blocked".toList then
      -- a blocker has no category for a timeout
      let category :=
        if failure.category = some "timeout".toList then some "transport".toList else failure.category
      exceptValidation (do
        let blocker ← newExecutionBlocker failure.code category failure.evidenceRefs
        return terminal (some blocker) none)
        "invalid_provider_failure" "provider failure evidence failed validation"
    else
      exceptValidation (do
        let error ← newExecutionError failure.code failure.category failure.retryable failure.evidenceRefs
        return terminal none (some error))
        "invalid_provider_failure" "provider failure evidence failed validation"

/-- `_failure_terminal`: the event is hashed first, where nothing is caught. -/
def failureTerminal (failure : ProviderAdapterFailure) : Except CallExc CallTerminal := do
  let eventSha256 ← uncaught (failureEventDigest sha256 failure.status)
  describedFailure failure eventSha256

/-- A failure of the call itself. -/
def callFailure (code category : String) (retryable : Bool) (ref status : String) : ProviderAdapterFailure where
  code := some code.toList
  category := some category.toList
  retryable := some retryable
  evidenceRefs := some [ref.toList]
  status := .text status.toList

/-- `_terminal_from_observed`. -/
def terminalFromObserved (observed : Except CallExc CallTerminal) : Except CallExc CallTerminal :=
  match observed with
  | .ok terminal => .ok terminal
  | .error (.adapterFailure f) => failureTerminal sha256 f
  | .error .timeoutError =>
    failureTerminal sha256
      (callFailure "provider_call_timeout" "timeout" true "provider-call/timeout" "failed")
  | .error (.contractError e) => .error (.contractError e)
  | .error .cancelled => .error .cancelled
  -- an adapter that raises anything else leaves it open what it has done
  | .error _ =>
    failureTerminal sha256
      (callFailure "provider_call_indeterminate" "unknown" false "provider-call/indeterminate"
        "indeterminate")

/-! ### Results -/

/-- `ProviderExecutionResult.model_validate(…)`, with these evidence references. -/
def newExecutionResult (request : ProviderExecutionRequest) (terminal : CallTerminal)
    (supplied : Option (List Text)) (started finished : ClockReading) :
    Except ValidationError ProviderExecutionResult :=
  match executionId? (request.val.requestId.val ++ ".result".toList),
    terminal.status.text?.bind ExecutionStatus.ofValue?, started.timestamp?, finished.timestamp?,
    portablePaths? supplied with
  | some resultId, some status, some startedAt, some finishedAt, some refs =>
    construct ProviderExecutionResultData.validate
      { resultId := resultId
        requestId := request.val.requestId
        requestSha256 := canonicalJsonSha256 sha256 request.val.toJson
        idempotencyKeySha256 := request.val.idempotencyKeySha256
        candidate := request.val.candidate
        scenarioSetId := request.val.scenarioSetId
        caseId := request.val.caseId
        provider := request.val.provider
        status := status
        startedAt := startedAt
        finishedAt := finishedAt
        outputSha256 := terminal.outputSha256
        usage := terminal.usage
        evidenceRefs := refs
        blocker := terminal.blocker
        error := terminal.error }
  | resultId, status, startedAt, finishedAt, refs => .error ⟨"ProviderExecutionResult".toList,
      check resultId.isSome "result_id" "String should match pattern" ++
      check status.isSome "status" "Input should be 'completed', 'failed', 'blocked' or 'indeterminate'" ++
      check startedAt.isSome "started_at" "provider execution timestamps must be RFC3339 strings" ++
      check finishedAt.isSome "finished_at" "provider execution timestamps must be RFC3339 strings" ++
      check refs.isSome "evidence_refs" "path must be a portable relative path"⟩

/-- `result.validate_against_request(request)`. -/
def boundExecutionResult (request : ProviderExecutionRequest) (terminal : CallTerminal)
    (supplied : Option (List Text)) (started finished : ClockReading) :
    Except ValueRaised ProviderExecutionResult := do
  let result ← validated (newExecutionResult sha256 request terminal supplied started finished)
  raiseValueErrors (result.val.againstRequest sha256 request.val)
  return result

/-- The copy of what a terminal takes from its adapter, before the result is validated. -/
def CallTerminal.copied (t : CallTerminal) : SuppliedRefs := do
  t.status.copied
  t.evidenceRefs

/-- `_execution_result`; only a `ValueError` of the validation is caught. -/
def executionResult (request : ProviderExecutionRequest) (terminal : CallTerminal)
    (started finished : ClockReading) : Except CallExc ProviderExecutionResult := do
  let supplied ← uncaught terminal.copied
  match boundExecutionResult sha256 request terminal supplied started finished with
  | .ok result => .ok result
  | .error _ => raiseContract "invalid_provider_result" "provider result evidence failed validation"

/-- `ProviderCallOutcome`. -/
structure ProviderCallOutcome where
  publicResult : ProviderCallPublicResult
  completeText : Option Text

/-- `len(_utf8_bytes(terminal.text)) if terminal.text is not None else 0`. -/
def CallTerminal.outputBytes (t : CallTerminal) : Nat := (t.text.map fun s => (utf8 s).length).getD 0

/-- `ProviderCallPublicResult(…)`. -/
def newPublicResult (request : ProviderExecutionRequest) (mode : AdapterMode) (terminal : CallTerminal)
    (cleanupSucceeded : Bool) (execution : ProviderExecutionResult) :
    Except ValidationError ProviderCallPublicResult :=
  match terminal.status.text?.bind ExecutionStatus.ofValue? with
  | none => .error ⟨"ProviderCallPublicResult".toList, check false "status"
      "Input should be 'completed', 'failed', 'blocked' or 'indeterminate'"⟩
  | some status =>
    construct ProviderCallPublicResultData.validate
      { requestId := request.val.requestId
        mode := mode
        status := status
        eventCount := terminal.eventCount
        outputBytes := terminal.outputBytes
        outputSha256 := terminal.outputSha256
        eventSha256 := terminal.eventSha256
        maxBufferedEvents := terminal.maxBufferedEvents
        cleanupAttempted := true
        cleanupSucceeded := cleanupSucceeded
        cleanupFailed := !cleanupSucceeded
        usage := terminal.usage
        cost := terminal.cost
        execution := execution }

/-! ### Cleanup -/

/-- The outcome of `adapter.cleanup()`, awaited for at most the cleanup timeout. -/
inductive CleanupOutcome where
  | notAwaitable
  | raised (e : CallExc)
  | returned (isNone : Bool)
  /-- The caller is cancelled while it waits. -/
  | interrupted
  deriving DecidableEq

/-- `_cleanup`. -/
def runCleanup : CleanupOutcome → Except CallExc Bool
  | .notAwaitable => raiseContract "invalid_provider_adapter" "provider cleanup must return an awaitable"
  | .raised (.contractError e) => .error (.contractError e)
  -- any other failure is recorded in the result
  | .raised _ => .ok false
  | .returned true => .ok true
  | .returned false => raiseContract "invalid_provider_adapter" "provider cleanup must resolve to None"
  | .interrupted => .error .cancelled

/-! ### The call -/

/-- Why a run ends before its adapter does. -/
inductive Interruption where
  | overallTimeout
  | cancellation
  /-- The scheduler of the clock fails. -/
  | clockFailure
  deriving DecidableEq

/-- Everything that the adapter, the clock and the caller of one call do. -/
structure CallBehaviour where
  members : Except ReadingRaised (Option AdapterMembers)
  clockIsReadable : Bool
  /-- `none`: the clock fails or returns no aware datetime. -/
  started : Option ClockReading
  finished : Option ClockReading
  interruption : Option Interruption
  complete : Except CallExc (Option ProviderAdapterComplete)
  stream : Except CallExc AdapterStream
  cleanup : CleanupOutcome

/-- `_read_clock`. -/
def readClock (reading : Option ClockReading) : Except CallExc ClockReading :=
  match reading with
  | some r => .ok r
  | none => raiseContract "invalid_provider_clock" "provider adapter clock failed"

/-- What the bounded run of the selected mode is observed to do. -/
def observedRun (limits : ProviderCallLimits) (mode : AdapterMode) (b : CallBehaviour) :
    Except CallExc CallTerminal :=
  match b.interruption with
  | some .overallTimeout => .error .timeoutError
  | some .cancellation => .error .cancelled
  | some .clockFailure => raiseContract "invalid_provider_clock" "provider clock scheduler failed"
  | none =>
    match mode with
    | .complete => runComplete sha256 limits b.complete
    | .stream => runStream sha256 limits b.stream

/-- What a call does to its adapter and to its clock. -/
inductive CallEffect where
  | readBindings
  | readClock
  | run
  | cleanup
  deriving DecidableEq

/-- A computation of the call. -/
abbrev CallM := Traced CallEffect CallExc

/-- The body of the `try` statement: the start of the call and its terminal. -/
def callTerminal (limits : ProviderCallLimits) (request : ProviderExecutionRequest) (mode : AdapterMode)
    (b : CallBehaviour) : CallM (ClockReading × CallTerminal) := do
  let started ← .perform .readClock (readClock b.started)
  if request.val.declaredCapability ≠ .responseGeneration then
    let terminal ← .lift (failureTerminal sha256
      (callFailure "unsupported_provider_capability" "adapter" false "provider-call/capability" "blocked"))
    return (started, terminal)
  else
    let terminal ← .perform .run (terminalFromObserved sha256 (observedRun sha256 limits mode b))
    return (started, terminal)

/-- What follows the cleanup. -/
def callOutcome (request : ProviderExecutionRequest) (mode : AdapterMode) (b : CallBehaviour)
    (started : ClockReading) (terminal : CallTerminal) (cleanupSucceeded : Bool) : CallM ProviderCallOutcome := do
  let finished ← .perform .readClock (readClock b.finished)
  let execution ← .lift (executionResult sha256 request terminal started finished)
  let publicResult ← .lift (exceptValidation
    (newPublicResult request mode terminal cleanupSucceeded execution)
    "invalid_provider_result" "provider result evidence failed validation")
  return ⟨publicResult, terminal.text⟩

/-- The call once the bindings are read: `finally` runs the cleanup on every path, and what it
raises replaces what the body raised. -/
def finishCall (limits : ProviderCallLimits) (request : ProviderExecutionRequest) (mode : AdapterMode)
    (b : CallBehaviour) : CallM ProviderCallOutcome := do
  let ((started, terminal), cleanupSucceeded) ←
    Traced.tryFinally (callTerminal sha256 limits request mode b) (.perform .cleanup (runCleanup b.cleanup))
  callOutcome sha256 request mode b started terminal cleanupSucceeded

/-- What the call checks before it reads the adapter, and the descriptor that it reads. -/
def admitCall (limits : ProviderCallLimits) (request : Option ProviderExecutionRequest)
    (payload : Option Json) (b : CallBehaviour) :
    Except CallExc (ProviderExecutionRequest × TextProviderAdapterDescriptor) := do
  if limits.postInit = false then
    raiseContract "invalid_provider_limits" "provider call limits failed validation"
  else
    let request ← validateRequestAndInput sha256 isWritable request payload limits
    if b.clockIsReadable = false then
      raiseContract "invalid_provider_clock" "provider clock members are invalid"
    else
      return (request, ← readAdapter b.members request)

/-- `execute_provider_call`. -/
def executeProviderCall (limits : ProviderCallLimits) (request : Option ProviderExecutionRequest)
    (payload : Option Json) (b : CallBehaviour) : CallM ProviderCallOutcome := do
  let (request, descriptor) ← .lift (admitCall sha256 limits request payload b)
  .perform .readBindings (.ok ())
  finishCall sha256 limits request descriptor.mode b

end SkillsSdk
