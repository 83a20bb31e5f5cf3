/-
SkillsSdk/ContentReviewWorker.lean

The parent's end of the review worker's channel: `_read_worker`.

The worker sends one packet a line.  The reader is a line reader whose step is
the body of the inner loop; deadlines are left out, so that what is modelled are
the runs in which none fires.  `channel` gives what was received, chunk by
chunk, up to the end of the stream.

An exception leaves the loop from any packet.  Those that the handler names
become an observation, with the reviewer that was set by then; any other leaves
the function.
-/
import SkillsSdk.Lib.Binary64
import SkillsSdk.Lib.LineReader
import SkillsSdk.Models.ContentReview

namespace SkillsSdk

/-! ### Times -/

/-- The nearest float of a number, or an infinity where it is out of range. -/
def roundFloat (q : ℚ) : PyFloat :=
  let r := Binary64.round q
  if 2 ^ 1024 ≤ r then .infinity else if r ≤ -2 ^ 1024 then .negInfinity else .finite r

/-- An integer whose nearest float is out of range. -/
def TooLarge (i : Int) : Prop := 2 ^ 1024 ≤ |Binary64.round i|

/-- `difference > limit`. -/
def PyFloat.exceeds (difference : PyFloat) (limit : ℚ) : Bool :=
  match difference with
  | .finite q => decide (limit < q)
  | .infinity => true
  | .negInfinity | .nan => false

/-- The standard library at the reader's end: the decoder, `float(…)` of a string,
which is a `ValueError` where there is no value, and `str(…)` of a document that
is no string, where there is no value for one that is nested too deeply. -/
structure WorkerHost where
  decoder : JsonDecoder
  floatOf : PyStr → Option PyFloat
  shown : JsonDoc → Option PyStr

variable (host : WorkerHost)

/-- `float(packet[key])`. -/
def timeField (packet : JsonMembers) (key : String) : Except PyExc PyFloat :=
  match jsonGet packet key with
  | none => .error .keyError
  | some (.int i) =>
    match roundFloat i with
    | .finite q => .ok (.finite q)
    -- `OverflowError: int too large to convert to float`
    | _ => .error .other
  | some (.bool b) => .ok (.finite (if b then 1 else 0))
  | some (.float f) => .ok f
  | some (.str s) =>
    match host.floatOf s with
    | some f => .ok f
    | none => .error .valueError
  | some _ => .error .typeError

/-- `float(packet[key])`, which must be finite. -/
def finiteTime (packet : JsonMembers) (key : String) : Except PyExc ℚ :=
  match timeField host packet key with
  | .error e => .error e
  | .ok (.finite q) => .ok q
  | .ok _ => .error .valueError

/-- `str(packet["code"])`. -/
def codeField (packet : JsonMembers) : Except PyExc PyStr :=
  match jsonGet packet "code" with
  | none => .error .keyError
  | some (.str s) => .ok s
  | some d =>
    match host.shown d with
    | some s => .ok s
    | none => .error .recursionError

/-! ### Observations -/

structure WorkerObservation where
  reviewer : Option PackageSafetyReviewer := none
  assessment : Option ContentReviewAssessment := none
  code : Option PyStr := none

def outputLimit : PyStr := PyStr.lit "content_review_output_limit"

def reviewTimeout : PyStr := PyStr.lit "content_review_timeout"

def adapterFailed : PyStr := PyStr.lit "content_review_adapter_failed"

/-- The local variables of the reader. -/
structure ReaderState where
  reviewer : Option PackageSafetyReviewer := none
  invokedAt : ℚ := 0

/-- What one packet leads to; an exception finds the reviewer that was set. -/
inductive PacketOutcome where
  | next (s : ReaderState)
  | done (o : WorkerObservation)
  | raised (reviewer : Option PackageSafetyReviewer) (e : PyExc)

/-! ### Packets -/

/-- `_REVIEW_WIRE_LIMIT`. -/
def reviewWireLimit : Nat := 8388608 + 65536

/-- Both timeouts, in seconds. -/
def reviewSeconds : ℚ := 30

/-- `packet.get("kind") == word`. -/
def isKind (packet : JsonMembers) (word : String) : Bool :=
  match jsonGet packet "kind" with
  | some (.str s) => decide (s = PyStr.lit word)
  | _ => false

/-- A list or an object has no hash. -/
def unhashable : Option JsonDoc → Bool
  | some (.arr _) | some (.dict _) => true
  | _ => false

variable (launchedAt : ℚ)

/-- The branch of an invocation. -/
def onInvoked (s : ReaderState) (packet : JsonMembers) : PacketOutcome :=
  match jsonGet packet "reviewer" with
  | none => .raised s.reviewer .keyError
  | some d =>
    match reviewer? d with
    | none => .raised s.reviewer .valueError
    | some reviewer =>
      match finiteTime host packet "invoked_at" with
      | .error e => .raised (some reviewer) e
      | .ok invokedAt =>
        if (roundFloat (invokedAt - launchedAt)).exceeds reviewSeconds then
          .done ⟨some reviewer, none, some reviewTimeout⟩
        else .next ⟨some reviewer, invokedAt⟩

/-- The branch of a completion. -/
def onCompleted (s : ReaderState) (packet : JsonMembers) : PacketOutcome :=
  match finiteTime host packet "completed_at" with
  | .error e => .raised s.reviewer e
  | .ok completedAt =>
    if completedAt < s.invokedAt then .raised s.reviewer .valueError
    else if (roundFloat (completedAt - s.invokedAt)).exceeds reviewSeconds then
      .done ⟨s.reviewer, none, some reviewTimeout⟩
    else if isKind packet "blocked" then
      match codeField host packet with
      | .error e => .raised s.reviewer e
      | .ok code => .done ⟨s.reviewer, none, some code⟩
    else
      match jsonGet packet "assessment" with
      | none => .raised s.reviewer .keyError
      | some d =>
        match contentReviewAssessment? d with
        | none => .raised s.reviewer .valueError
        | some assessment => .done ⟨s.reviewer, some assessment, none⟩

/-- The branch of a worker that is blocked before it invokes anything. -/
def onStartup (s : ReaderState) (packet : JsonMembers) : PacketOutcome :=
  match finiteTime host packet "startup_completed_at" with
  | .error e => .raised s.reviewer e
  | .ok completedAt =>
    if (roundFloat (completedAt - launchedAt)).exceeds reviewSeconds then
      .done ⟨none, none, some reviewTimeout⟩
    else
      match codeField host packet with
      | .error e => .raised s.reviewer e
      | .ok code => .done ⟨s.reviewer, none, some code⟩

/-- The chain of branches. -/
def onPacket (s : ReaderState) (packet : JsonMembers) : PacketOutcome :=
  if isKind packet "invoked" ∧ s.reviewer = none then onInvoked host launchedAt s packet
  else if unhashable (jsonGet packet "kind") then .raised s.reviewer .typeError
  else if (isKind packet "returned" ∨ isKind packet "blocked") ∧ s.reviewer ≠ none then
    onCompleted host s packet
  else if isKind packet "blocked" then onStartup host launchedAt s packet
  else .raised s.reviewer .valueError

/-- The packet of a line. -/
def packet? (line : List UInt8) : Except PyExc JsonMembers :=
  match loadsWith defaultHooks (host.decoder.ofBytes line) with
  | .error e => .error e
  | .ok (.dict packet) => .ok packet
  | .ok _ => .error .valueError

/-- The body of the inner loop, behind the check of the limit. -/
def onLine (s : ReaderState) (line : List UInt8) : PacketOutcome :=
  match packet? host line with
  | .error e => .raised s.reviewer e
  | .ok packet => onPacket host launchedAt s packet

/-! ### The reader -/

/-- What `except (OSError, ValueError, TypeError, KeyError, RuntimeError)` catches. -/
def workerHandled : List PyExc :=
  [.osError, .valueError, .unicodeDecodeError, .typeError, .keyError, .recursionError]

/-- The handler. -/
def PacketOutcome.handled : PacketOutcome → ReaderState ⊕ Except PyExc WorkerObservation
  | next s => .inl s
  | done o => .inr (.ok o)
  | raised reviewer e =>
    if e ∈ workerHandled then .inr (.ok ⟨reviewer, none, some adapterFailed⟩) else .inr (.error e)

/-- The loops of `_read_worker`, over lines that end with a line feed. -/
def workerReader : LineReader.Reader UInt8 ReaderState (Except PyExc WorkerObservation) where
  delim := 10
  limit := reviewWireLimit
  step := fun s line => (onLine host launchedAt s line).handled
  overlong := fun s => .ok ⟨s.reviewer, none, some outputLimit⟩
  ended := fun s => .ok ⟨s.reviewer, none, some adapterFailed⟩

/-- What `sock_recv(channel, 65_536)` returns before the end of the stream. -/
abbrev ReceivedChunk := { chunk : List UInt8 // chunk ≠ [] ∧ chunk.length ≤ 65536 }

/-- `_read_worker`. -/
def readWorker (channel : List ReceivedChunk) : Except PyExc WorkerObservation :=
  LineReader.read (workerReader host launchedAt) {} [] (channel.map Subtype.val)

end SkillsSdk
