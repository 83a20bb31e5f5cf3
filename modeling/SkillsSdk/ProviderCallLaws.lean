/-
SkillsSdk/ProviderCallLaws.lean

What a finished provider call says about its adapter.

Two results.  A call ends in a typed contract error, in a cancellation or in a
result that its models accept exactly when nothing raises where something that the
adapter supplied is read outside every handler, and the result carries the adapter's
text or nothing of it (`provider_call_consistent_iff`).  How a stream is cut into
items and batches does not show in the result (`stream_framing_independent`): the
loop of pulls is the one pass over all events (`pullEvents_framed`).
-/
import SkillsSdk.ProviderCalls

namespace SkillsSdk

variable {sha256 : List UInt8 → Sha256}

/-! ### Exceptions that may leave a call -/

/-- A typed contract error, or a cancellation. -/
def CallExc.IsTyped (e : CallExc) : Prop := (∃ c, e = .contractError c) ∨ e = .cancelled

section

variable {α β : Type}

theorem ok_bind {a : α} {f : α → Except CallExc β} : (.ok a >>= f : Except CallExc β) = f a := rfl

theorem uncaught_eq_ok_iff {x : Except ReadingRaised α} {a : α} : uncaught x = .ok a ↔ x = .ok a :=
  mapError_eq_ok_iff

theorem exceptValidation_eq_ok_iff {x : Except ValidationError α} {code message : String} {a : α} :
    exceptValidation x code message = .ok a ↔ x = .ok a := by
  rcases x with e | b
  · exact iff_of_false (by simp [exceptValidation, raiseContract]) (by simp)
  · simp [exceptValidation]

end

/-! ### What a call returns, apart from its trace -/

section

variable {limits : ProviderCallLimits} {request : ProviderExecutionRequest} {mode : AdapterMode}
  {b : CallBehaviour}

theorem outcome_callTerminal : (callTerminal sha256 limits request mode b).outcome = (do
    let started ← readClock b.started
    if request.val.declaredCapability ≠ .responseGeneration then
      return (started, ← failureTerminal sha256
        (callFailure "unsupported_provider_capability" "adapter" false "provider-call/capability" "blocked"))
    else return (started, ← terminalFromObserved sha256 (observedRun sha256 limits mode b))) := by
  rw [callTerminal, Traced.outcome_bind, Traced.outcome_perform]
  refine congrArg _ (funext fun started => ?_)
  split_ifs <;> rw [Traced.outcome_bind] <;> rfl

theorem outcome_callOutcome {started : ClockReading} {terminal : CallTerminal} {cleaned : Bool} :
    (callOutcome sha256 request mode b started terminal cleaned).outcome = (do
      let finished ← readClock b.finished
      let execution ← executionResult sha256 request terminal started finished
      let publicResult ← exceptValidation (newPublicResult request mode terminal cleaned execution)
        "invalid_provider_result" "provider result evidence failed validation"
      return ⟨publicResult, terminal.text⟩) := by
  simp only [callOutcome, Traced.outcome_bind, Traced.outcome_perform, Traced.outcome_lift, Traced.outcome_pure]
  rfl

/-- What the cleanup raises replaces what the body raised. -/
theorem outcome_finishCall : (finishCall sha256 limits request mode b).outcome = (do
    let cleaned ← runCleanup b.cleanup
    let (started, terminal) ← (callTerminal sha256 limits request mode b).outcome
    (callOutcome sha256 request mode b started terminal cleaned).outcome) := by
  rw [finishCall, Traced.outcome_bind, Traced.outcome_tryFinally, Traced.outcome_perform]
  rcases runCleanup b.cleanup with e | cleaned
  · rfl
  rcases (callTerminal sha256 limits request mode b).outcome with e | ⟨started, terminal⟩ <;> rfl

theorem outcome_executeProviderCall {request : Option ProviderExecutionRequest} {payload : Option Json} :
    (executeProviderCall sha256 limits request payload b).outcome = (do
      let (request, descriptor) ← admitCall sha256 limits request payload b
      (finishCall sha256 limits request descriptor.mode b).outcome) := by
  rw [executeProviderCall, Traced.outcome_bind, Traced.outcome_lift]
  refine congrArg _ (funext fun admitted => ?_)
  rw [Traced.outcome_bind]
  rfl

end

/-! ### Where a call raises something else -/

/-- The status of the failure can be written, and its attributes make a blocker or an error, or
none. -/
def ProviderAdapterFailure.Handled (f : ProviderAdapterFailure) : Prop :=
  f.status.toJson ≠ .error .other ∧ (f.status.toJson.isOk → f.raises ≠ some .other)

/-- A terminal without output: one synthetic event says how the call ended. -/
structure CallTerminal.Failed (sha256 : List UInt8 → Sha256) (t : CallTerminal) : Prop where
  text : t.text = none
  output : t.outputSha256 = none
  count : t.eventCount = 1
  digest : ∀ status, t.status = .text status → t.eventSha256 = eventDigest sha256 [.terminal 0 status]
  refs : ∃ supplied, t.evidenceRefs = .ok supplied

theorem failureTerminal_failed {f : ProviderAdapterFailure} {t : CallTerminal}
    (h : failureTerminal sha256 f = .ok t) : t.Failed sha256 ∧ t.status = f.status := by
  rw [failureTerminal] at h
  obtain ⟨digest, hdigest, h⟩ := bind_eq_ok_iff.mp h
  have hevent : ∀ status, f.status = .text status → digest = eventDigest sha256 [.terminal 0 status] := by
    intro status hstatus
    rw [uncaught_eq_ok_iff, hstatus] at hdigest
    exact (Except.ok.inj hdigest).symm
  unfold describedFailure at h
  split at h
  · cases h
  dsimp only at h
  split at h
  · obtain ⟨blocker, -, ht⟩ := bind_eq_ok_iff.mp (exceptValidation_eq_ok_iff.mp h)
    obtain rfl := Except.ok.inj ht
    exact ⟨⟨rfl, rfl, rfl, hevent, _, rfl⟩, rfl⟩
  · obtain ⟨error, -, ht⟩ := bind_eq_ok_iff.mp (exceptValidation_eq_ok_iff.mp h)
    obtain rfl := Except.ok.inj ht
    exact ⟨⟨rfl, rfl, rfl, hevent, _, rfl⟩, rfl⟩

/-- The handler of the run returns its terminal, lets a typed exception through, or makes a failure
of what the run raised: the adapter's own, or one whose status is a text. -/
theorem terminalFromObserved_cases (sha256 : List UInt8 → Sha256) (observed : Except CallExc CallTerminal) :
    (∃ t, observed = .ok t ∧ terminalFromObserved sha256 observed = .ok t) ∨
      (∃ e, e.IsTyped ∧ terminalFromObserved sha256 observed = .error e) ∨
      ∃ f, terminalFromObserved sha256 observed = failureTerminal sha256 f ∧
        (observed = .error (.adapterFailure f) ∨ ∃ status, f.status = .text status) := by
  rcases observed with e | t
  · refine Or.inr ?_
    cases e with
    | contractError c => exact Or.inl ⟨_, Or.inl ⟨c, rfl⟩, rfl⟩
    | cancelled => exact Or.inl ⟨_, Or.inr rfl, rfl⟩
    | adapterFailure f => exact Or.inr ⟨f, rfl, Or.inl rfl⟩
    | _ =>
      unfold terminalFromObserved
      exact Or.inr ⟨_, rfl, Or.inr ⟨_, rfl⟩⟩
  · exact Or.inl ⟨t, rfl, rfl⟩

/-- A terminal comes from the run, or is a failure. -/
theorem terminalFromObserved_eq_ok {observed : Except CallExc CallTerminal} {t : CallTerminal}
    (h : terminalFromObserved sha256 observed = .ok t) : observed = .ok t ∨ t.Failed sha256 := by
  rcases terminalFromObserved_cases sha256 observed with ⟨t', h', ht⟩ | ⟨e, -, he⟩ | ⟨f, hf, -⟩
  · obtain rfl := Except.ok.inj (ht.symm.trans h)
    exact Or.inl h'
  · cases he.symm.trans h
  · exact Or.inr (failureTerminal_failed (hf.symm.trans h)).1

/-! ### Consuming events -/

/-- The event of a chunk with this text. -/
def chunkEvent (t : Text) : ProviderAdapterStreamEvent := .chunk (some (PyStr.ofText t))

/-- The state after a chunk. -/
def StreamState.push (sha256 : List UInt8 → Sha256) (s : StreamState) (t : Text) : StreamState :=
  { s with
    chunks := s.chunks ++ [t]
    events := s.events ++ [.chunk s.events.length (utf8 t).length (sha256 (utf8 t))]
    totalBytes := s.totalBytes + (utf8 t).length }

theorem utf8Text_eq_ok_iff {s : PyStr} {t : Text} : utf8Text s = .ok t ↔ s = PyStr.ofText t := by
  rw [← PyStr.encode?_eq_some_iff, utf8Text]
  rcases s.encode? with - | u
  · exact iff_of_false (by simp [raiseContract]) (by simp)
  · simp

/-- A chunk is taken when it is a text within the limits. -/
theorem consumeChunk_eq_ok_iff {limits : ProviderCallLimits} {s s' : StreamState} {text : Option PyStr} :
    consumeChunk sha256 limits s text = .ok s' ↔ ∃ t, text = some (PyStr.ofText t) ∧
      ((PyStr.ofText t).length ≤ limits.chunkBytes ∧ (utf8 t).length ≤ limits.chunkBytes ∧
        s.totalBytes + (utf8 t).length ≤ limits.outputBytes) ∧ s' = s.push sha256 t := by
  rcases text with - | p
  · exact iff_of_false (by simp [consumeChunk, raiseContract]) (by simp)
  show (if limits.chunkBytes < p.length then raiseContract _ _ else utf8Text p >>= _) = _ ↔ _
  -- the letters are counted before the text is encoded, and then the bytes
  by_cases hlength : limits.chunkBytes < p.length
  · rw [if_pos hlength]
    refine iff_of_false (by simp [raiseContract]) ?_
    rintro ⟨t, ht, ⟨hle, -⟩, -⟩
    rw [← Option.some.inj ht] at hle
    omega
  rw [if_neg hlength, bind_eq_ok_iff]
  constructor
  · rintro ⟨t, ht, h⟩
    obtain rfl := utf8Text_eq_ok_iff.mp ht
    dsimp only at h
    split_ifs at h with hchunk houtput
    · cases h
    · cases h
    · exact ⟨t, rfl, ⟨by omega, by omega, by omega⟩, (Except.ok.inj h).symm⟩
  · rintro ⟨t, ht, ⟨-, hchunk, houtput⟩, rfl⟩
    obtain rfl := Option.some.inj ht
    refine ⟨t, utf8Text_eq_ok_iff.mpr rfl, ?_⟩
    dsimp only
    rw [if_neg (by omega), if_neg (by omega)]
    rfl

section

variable {limits : ProviderCallLimits} {s s' : StreamState}

/-- What the state after some chunks has tallied. -/
structure StreamState.Tallied (limits : ProviderCallLimits) (s : StreamState) : Prop where
  contiguous : s.events.map EventRecord.sequence = List.range s.chunks.length
  bytes : s.totalBytes = (s.chunks.map fun t => (utf8 t).length).sum
  output : s.totalBytes ≤ limits.outputBytes

theorem StreamState.Tallied.length_eq (h : s.Tallied limits) : s.events.length = s.chunks.length := by
  have := congrArg List.length h.contiguous
  simpa using this

theorem tallied_empty {buffered : Nat} : StreamState.Tallied limits { maxBufferedEvents := buffered } :=
  ⟨rfl, rfl, Nat.zero_le _⟩

theorem StreamState.Tallied.push (h : s.Tallied limits) {t : Text}
    (houtput : s.totalBytes + (utf8 t).length ≤ limits.outputBytes) : (s.push sha256 t).Tallied limits where
  contiguous := by
    show (s.events ++ [_]).map _ = List.range (s.chunks ++ [t]).length
    rw [List.map_append, h.contiguous, List.length_append, List.length_singleton, List.range_succ,
      ← h.length_eq]
    rfl
  bytes := by
    show s.totalBytes + _ = ((s.chunks ++ [t]).map _).sum
    rw [List.map_append, List.sum_append, ← h.bytes]
    simp
  output := houtput

/-- One event is a chunk, or the terminal that comes last. -/
theorem consumeEvent_eq_ok {isLast : Bool} {e : ProviderAdapterStreamEvent}
    {r : StreamState ⊕ CallTerminal} (h : consumeEvent sha256 limits s isLast e = .ok r) :
    (∃ t, e = chunkEvent t ∧ s.totalBytes + (utf8 t).length ≤ limits.outputBytes ∧
      r = .inl (s.push sha256 t)) ∨
    ∃ refs usage cost u c, e = .terminal refs usage cost ∧ isLast = true ∧
      r = .inr (streamTerminal sha256 s refs u c) := by
  cases e with
  | chunk text =>
    obtain ⟨s₁, hs₁, h⟩ := bind_eq_ok_iff.mp h
    obtain ⟨t, rfl, ⟨-, -, houtput⟩, rfl⟩ := consumeChunk_eq_ok_iff.mp hs₁
    exact Or.inl ⟨t, rfl, houtput, (Except.ok.inj h).symm⟩
  | terminal refs usage cost =>
    cases isLast with
    | false => cases h
    | true =>
      obtain ⟨u, -, h⟩ := bind_eq_ok_iff.mp h
      obtain ⟨c, -, h⟩ := bind_eq_ok_iff.mp h
      exact Or.inr ⟨refs, usage, cost, u, c, rfl, rfl, (Except.ok.inj h).symm⟩
  | unsupported => cases h

theorem consumeEvents_cons_eq_ok {e : ProviderAdapterStreamEvent} {rest : List ProviderAdapterStreamEvent}
    {r : StreamState ⊕ CallTerminal} (h : consumeEvents sha256 limits s (e :: rest) = .ok r) :
    s.events.length < limits.events ∧ ∃ r', consumeEvent sha256 limits s rest.isEmpty e = .ok r' ∧
      orTerminal r' (fun state => consumeEvents sha256 limits state rest) (fun t => .ok (.inr t)) = .ok r := by
  rw [consumeEvents] at h
  split_ifs at h with hlimit
  · cases h
  · exact ⟨not_le.mp hlimit, bind_eq_ok_iff.mp h⟩

/-- A pass over events that stops at no terminal takes chunks only. -/
theorem consumeEvents_eq_inl {events : List ProviderAdapterStreamEvent}
    (h : consumeEvents sha256 limits s events = .ok (.inl s')) :
    ∃ texts : List Text, events = texts.map chunkEvent ∧ s' = texts.foldl (·.push sha256) s ∧
      (s.Tallied limits → s'.Tallied limits) := by
  induction events generalizing s with
  | nil =>
    obtain rfl := Sum.inl.inj (Except.ok.inj h)
    exact ⟨[], rfl, rfl, id⟩
  | cons e events ih =>
    obtain ⟨-, r, hr, h⟩ := consumeEvents_cons_eq_ok h
    rcases consumeEvent_eq_ok hr with ⟨t, rfl, houtput, rfl⟩ | ⟨_, _, _, _, _, -, -, rfl⟩
    · obtain ⟨texts, rfl, rfl, htallied⟩ := ih h
      exact ⟨t :: texts, rfl, rfl, fun hs => htallied (hs.push houtput)⟩
    · cases h

/-- A pass over events that stops at a terminal has taken chunks up to it. -/
theorem consumeEvents_eq_inr {events : List ProviderAdapterStreamEvent} {t : CallTerminal}
    (h : consumeEvents sha256 limits s events = .ok (.inr t)) :
    ∃ (texts : List Text) (refs : SuppliedRefs) (usage : Supplied ProviderUsageMetadata)
      (cost : Supplied ProviderCostObservation) (u : Option ProviderUsageMetadata)
      (c : Option ProviderCostObservation),
      events = texts.map chunkEvent ++ [.terminal refs usage cost] ∧
      t = streamTerminal sha256 (texts.foldl (·.push sha256) s) refs u c ∧
      (texts.foldl (·.push sha256) s).events.length < limits.events ∧
      (s.Tallied limits → (texts.foldl (·.push sha256) s).Tallied limits) := by
  induction events generalizing s with
  | nil => cases h
  | cons e events ih =>
    obtain ⟨hlimit, r, hr, h⟩ := consumeEvents_cons_eq_ok h
    rcases consumeEvent_eq_ok hr with ⟨x, rfl, houtput, rfl⟩ | ⟨refs, usage, cost, u, c, rfl, hlast, rfl⟩
    · obtain ⟨texts, refs, usage, cost, u, c, rfl, rfl, hlast, htallied⟩ := ih h
      exact ⟨x :: texts, refs, usage, cost, u, c, rfl, rfl, hlast, fun hs => htallied (hs.push houtput)⟩
    · obtain rfl := Sum.inr.inj (Except.ok.inj h)
      rw [List.isEmpty_iff.mp hlast]
      exact ⟨[], refs, usage, cost, u, c, rfl, rfl, hlimit, id⟩

end

/-! ### Pulls -/

/-- The events of an item. -/
def ProviderAdapterStreamItem.events : ProviderAdapterStreamItem → List ProviderAdapterStreamEvent
  | .event e => [e]
  | .batch events => events.getD []

/-- The terminal with another size of its largest batch. -/
def CallTerminal.withBuffer (m : Nat) (t : CallTerminal) : CallTerminal := { t with maxBufferedEvents := m }

/-- The state with another size of its largest batch. -/
def StreamState.withBuffer (m : Nat) (s : StreamState) : StreamState := { s with maxBufferedEvents := m }

section

variable {limits : ProviderCallLimits} {s : StreamState}

/-- The event ends a stream. -/
def ProviderAdapterStreamEvent.isTerminal : ProviderAdapterStreamEvent → Bool
  | .terminal _ _ _ => true
  | _ => false

theorem consumeEvent_withBuffer {m : Nat} {isLast : Bool} {e : ProviderAdapterStreamEvent} :
    consumeEvent sha256 limits (s.withBuffer m) isLast e =
      (consumeEvent sha256 limits s isLast e).map (Sum.map (·.withBuffer m) (·.withBuffer m)) := by
  cases e with
  | chunk text =>
    rcases text with - | p
    · rfl
    show (if _ then raiseContract _ _ else utf8Text p >>= _) >>= _ =
      ((if _ then raiseContract _ _ else utf8Text p >>= _) >>= _).map _
    split_ifs
    · rfl
    rcases utf8Text p with e | t
    · rfl
    show (if _ then raiseContract _ _
        else if limits.outputBytes < s.totalBytes + (utf8 t).length then raiseContract _ _ else .ok _) >>= _ =
      ((if _ then raiseContract _ _ else if _ then raiseContract _ _ else .ok _) >>= _).map _
    split_ifs <;> rfl
  | terminal refs usage cost =>
    cases isLast with
    | false => rfl
    | true =>
      show (validateSupplied "usage" usage >>= _) = (validateSupplied "usage" usage >>= _).map _
      rcases validateSupplied "usage" usage with e | u
      · rfl
      show (validateSupplied "cost" cost >>= _) = (validateSupplied "cost" cost >>= _).map _
      rcases validateSupplied "cost" cost with e | c <;> rfl
  | unsupported => rfl

/-- The size of the largest batch is carried along and never read. -/
theorem consumeEvents_withBuffer {m : Nat} {events : List ProviderAdapterStreamEvent} :
    consumeEvents sha256 limits (s.withBuffer m) events =
      (consumeEvents sha256 limits s events).map (Sum.map (·.withBuffer m) (·.withBuffer m)) := by
  induction events generalizing s with
  | nil => rfl
  | cons e events ih =>
    rw [consumeEvents, consumeEvents, consumeEvent_withBuffer]
    show (if limits.events ≤ s.events.length then _ else _) = _
    split_ifs
    · rfl
    rcases consumeEvent sha256 limits s events.isEmpty e with e | s' | t
    · rfl
    · exact ih
    · rfl

theorem consumeEvent_of_not_terminal {e : ProviderAdapterStreamEvent} (he : e.isTerminal = false)
    (a b : Bool) : consumeEvent sha256 limits s a e = consumeEvent sha256 limits s b e := by
  cases e with
  | chunk text => rfl
  | terminal refs usage cost => cases he
  | unsupported => rfl

/-- A pass without a terminal can be cut anywhere. -/
theorem consumeEvents_append {xs ys : List ProviderAdapterStreamEvent}
    (hxs : ∀ e ∈ xs, e.isTerminal = false) :
    consumeEvents sha256 limits s (xs ++ ys) = consumeEvents sha256 limits s xs >>= fun r =>
      orTerminal r (fun s' => consumeEvents sha256 limits s' ys) (fun t => .ok (.inr t)) := by
  induction xs generalizing s with
  | nil => rfl
  | cons e xs ih =>
    rw [List.cons_append, consumeEvents, consumeEvents,
      consumeEvent_of_not_terminal (hxs e List.mem_cons_self) (xs ++ ys).isEmpty xs.isEmpty]
    split_ifs
    · rfl
    rcases consumeEvent sha256 limits s xs.isEmpty e with e | s' | t
    · rfl
    · exact ih fun e he => hxs e (List.mem_cons_of_mem _ he)
    · rfl

theorem consumeEvents_full {events : List ProviderAdapterStreamEvent} (hne : events ≠ [])
    (h : limits.events ≤ s.events.length) : consumeEvents sha256 limits s events =
      raiseContract "provider_event_limit_exceeded" "provider stream exceeds the event limit" := by
  obtain ⟨e, rest, rfl⟩ := List.exists_cons_of_ne_nil hne
  rw [consumeEvents, if_pos h]

theorem length_events_foldl_push (texts : List Text) :
    (texts.foldl (·.push sha256) s).events.length = s.events.length + texts.length := by
  induction texts generalizing s with
  | nil => rfl
  | cons t texts ih =>
    rw [List.foldl_cons, ih, StreamState.push, List.length_append, List.length_singleton, List.length_cons]
    omega

end

/-- The terminal of a single pass over all events. -/
def onePass (sha256 : List UInt8 → Sha256) (limits : ProviderCallLimits) (s : StreamState)
    (events : List ProviderAdapterStreamEvent) : Except CallExc CallTerminal := do
  orTerminal (← consumeEvents sha256 limits s events)
    (fun _ => raiseContract "provider_event_limit_exceeded" "provider stream exceeds the event limit")
    (fun t => .ok t)

/-- An item that the loop accepts: an event, or a batch of a legal size. -/
def ProviderAdapterStreamItem.Framed (limits : ProviderCallLimits) : ProviderAdapterStreamItem → Prop
  | .event _ => True
  | .batch none => False
  | .batch (some events) => 1 ≤ events.length ∧ events.length ≤ limits.bufferedEvents

section

variable {limits : ProviderCallLimits} {s : StreamState}

theorem ProviderAdapterStreamItem.Framed.itemEvents_eq {item : ProviderAdapterStreamItem}
    (h : item.Framed limits) :
    ∃ buffered ≤ limits.bufferedEvents, itemEvents limits item = .ok (item.events, buffered) := by
  rcases item with e | - | events
  · exact ⟨0, Nat.zero_le _, rfl⟩
  · exact absurd h id
  · refine ⟨events.length, h.2, ?_⟩
    have hne : events ≠ [] := List.length_pos_iff.mp h.1
    rw [itemEvents, if_neg]
    · rfl
    · rintro (h' | h' | h')
      · exact hne h'
      · have := h.1.trans h.2
        omega
      · exact absurd h.2 (not_le.mpr h')

theorem ProviderAdapterStreamItem.Framed.events_ne_nil {item : ProviderAdapterStreamItem}
    (h : item.Framed limits) : item.events ≠ [] := by
  rcases item with e | - | events
  · simp [events]
  · exact absurd h id
  · exact List.length_pos_iff.mp h.1

theorem ProviderAdapterStreamItem.Framed.pullOnce_eq {item : ProviderAdapterStreamItem}
    (h : item.Framed limits) (sha256 : List UInt8 → Sha256) (s : StreamState) :
    ∃ m ≤ max s.maxBufferedEvents limits.bufferedEvents, pullOnce sha256 limits s (.item item) =
      (consumeEvents sha256 limits s item.events).map (Sum.map (·.withBuffer m) (·.withBuffer m)) := by
  obtain ⟨buffered, hbuffered, hitem⟩ := h.itemEvents_eq
  refine ⟨max s.maxBufferedEvents buffered, max_le_max le_rfl hbuffered, ?_⟩
  rw [← consumeEvents_withBuffer]
  show (itemEvents limits item >>= _) = _
  rw [hitem]
  rfl

/-- **Pulls are one pass.**  A stream that ends with its only terminal is read the same, however
its events are framed; only the size of the largest batch remembers the framing. -/
theorem pullEvents_framed {pulls : Nat → StreamPull} {items : List ProviderAdapterStreamItem}
    {before : List ProviderAdapterStreamEvent} {last : ProviderAdapterStreamEvent} {rounds index : Nat}
    (hframed : ∀ item ∈ items, item.Framed limits)
    (hpulls : ∀ j (hj : j < items.length), pulls (index + j) = .item items[j])
    (hevents : items.flatMap (·.events) = before ++ [last])
    (hbefore : ∀ e ∈ before, e.isTerminal = false) (hlast : last.isTerminal = true)
    (hrounds : limits.events ≤ rounds + s.events.length) :
    ∃ m ≤ max s.maxBufferedEvents limits.bufferedEvents, pullEvents sha256 limits pulls rounds index s =
      (onePass sha256 limits s (before ++ [last])).map (·.withBuffer m) := by
  induction items generalizing before rounds index s with
  | nil => simp at hevents
  | cons item items ih =>
    have hfull : limits.events ≤ s.events.length →
        (onePass sha256 limits s (before ++ [last])) =
          raiseContract "provider_event_limit_exceeded" "provider stream exceeds the event limit" := by
      intro h
      rw [onePass, consumeEvents_full (by simp) h]
      rfl
    rcases rounds with - | rounds
    · refine ⟨0, Nat.zero_le _, ?_⟩
      rw [hfull (by omega)]
      rfl
    by_cases hlimit : s.events.length < limits.events
    swap
    · refine ⟨0, Nat.zero_le _, ?_⟩
      rw [pullEvents, if_neg hlimit, hfull (not_lt.mp hlimit)]
      rfl
    have hitem := hframed item List.mem_cons_self
    obtain ⟨m, hm, hpull⟩ := hitem.pullOnce_eq sha256 s
    have hpull₀ : pulls index = .item item := hpulls 0 (by simp)
    rw [pullEvents, if_pos hlimit, hpull₀, hpull]
    rw [List.flatMap_cons] at hevents
    rcases List.eq_nil_or_concat (items.flatMap (·.events)) with hnil | ⟨front, last', hconcat⟩
    · -- the item carries all that is left, its terminal included
      rw [hnil, List.append_nil] at hevents
      refine ⟨m, hm, ?_⟩
      rw [onePass, ← hevents]
      rcases hconsume : consumeEvents sha256 limits s item.events with e | s' | t
      · rfl
      · obtain ⟨texts, htexts, -⟩ := consumeEvents_eq_inl hconsume
        have hmem : last ∈ texts.map chunkEvent := by
          rw [← htexts, hevents]
          simp
        obtain ⟨t, -, rfl⟩ := List.mem_map.mp hmem
        cases hlast
      · rfl
    · -- the item carries no terminal, and the rest is pulled from the state after it
      rw [hconcat, List.concat_eq_append, ← List.append_assoc] at hevents
      obtain ⟨hfront, hlast'⟩ := List.append_inj' hevents rfl
      obtain rfl : last' = last := by simpa using hlast'
      have hitemBefore : ∀ e ∈ item.events, e.isTerminal = false := by
        intro e he
        exact hbefore e (hfront ▸ List.mem_append_left _ he)
      rw [onePass, ← hfront, List.append_assoc, consumeEvents_append hitemBefore]
      rcases hconsume : consumeEvents sha256 limits s item.events with e | s' | t
      · exact ⟨0, Nat.zero_le _, rfl⟩
      · obtain ⟨texts, htexts, hs', -⟩ := consumeEvents_eq_inl hconsume
        have hgrow : s.events.length + 1 ≤ s'.events.length := by
          have hne : texts ≠ [] := by
            rintro rfl
            exact hitem.events_ne_nil htexts
          have := List.length_pos_iff.mpr hne
          rw [hs', length_events_foldl_push]
          omega
        have hrest : ∃ m' ≤ max (s'.withBuffer m).maxBufferedEvents limits.bufferedEvents,
            pullEvents sha256 limits pulls rounds (index + 1) (s'.withBuffer m) =
              (onePass sha256 limits (s'.withBuffer m) (front ++ [last'])).map (·.withBuffer m') := by
          apply ih
          · exact fun i hi => hframed i (List.mem_cons_of_mem _ hi)
          · intro j hj
            have := hpulls (j + 1) (by simpa using hj)
            rw [← Nat.add_assoc] at this
            rw [Nat.add_right_comm]
            simpa using this
          · rw [hconcat, List.concat_eq_append]
          · exact fun e he => hbefore e (hfront ▸ List.mem_append_right _ he)
          · show limits.events ≤ rounds + s'.events.length
            omega
        obtain ⟨m', hm', hrest⟩ := hrest
        refine ⟨m', hm'.trans (max_le hm (le_max_right _ _)), ?_⟩
        show pullEvents sha256 limits pulls rounds (index + 1) (s'.withBuffer m) = _
        rw [hrest, onePass, consumeEvents_withBuffer]
        show _ = Except.map _ (consumeEvents sha256 limits s' (front ++ [last']) >>= _)
        rcases consumeEvents sha256 limits s' (front ++ [last']) with e | s'' | t <;> rfl
      · -- a pass without a terminal does not stop at one
        obtain ⟨texts, refs, usage, cost, u, c, htexts, -⟩ := consumeEvents_eq_inr hconsume
        have := hitemBefore (.terminal refs usage cost) (by rw [htexts]; simp)
        cases this

end

/-! ### What a run returns -/

section

variable {limits : ProviderCallLimits} {s : StreamState} {t : CallTerminal}

theorem chunks_foldl_push (texts : List Text) :
    (texts.foldl (·.push sha256) s).chunks = s.chunks ++ texts := by
  induction texts generalizing s with
  | nil => exact (List.append_nil _).symm
  | cons x texts ih =>
    rw [List.foldl_cons, ih]
    show (s.chunks ++ [x]) ++ texts = _
    rw [List.append_assoc, List.singleton_append]

/-- The text that an adapter supplies: the one it returns, or the chunks that its pulls carry. -/
def CallBehaviour.Supplies (b : CallBehaviour) (text : Text) : AdapterMode → Prop
  | .complete => ∃ value, b.complete = .ok (some value) ∧ value.text = some (PyStr.ofText text)
  | .stream => ∃ (pulls : Nat → StreamPull) (items : List ProviderAdapterStreamItem) (texts : List Text)
      (refs : SuppliedRefs) (usage : Supplied ProviderUsageMetadata)
      (cost : Supplied ProviderCostObservation),
      b.stream = .ok (some pulls) ∧ (∀ j (hj : j < items.length), pulls j = .item items[j]) ∧
      items.flatMap (·.events) = texts.map chunkEvent ++ [.terminal refs usage cost] ∧ text = texts.flatten

/-- A terminal with output: the text, and its digest. -/
structure CallTerminal.Succeeded (sha256 : List UInt8 → Sha256) (t : CallTerminal) (text : Text) : Prop where
  status : t.status = .text completedStatus
  output : t.outputSha256 = some (sha256 (utf8 text))
  text : t.text = some text

/-- The body of a call returns when the clock starts it and its terminal is made. -/
theorem callTerminal_outcome_eq_ok {request : ProviderExecutionRequest} {mode : AdapterMode} {b : CallBehaviour}
    {started : ClockReading} : (callTerminal sha256 limits request mode b).outcome = .ok (started, t) ↔
      readClock b.started = .ok started ∧
        (request.val.declaredCapability ≠ .responseGeneration ∧ failureTerminal sha256 (callFailure
            "unsupported_provider_capability" "adapter" false "provider-call/capability" "blocked") = .ok t ∨
          request.val.declaredCapability = .responseGeneration ∧
            terminalFromObserved sha256 (observedRun sha256 limits mode b) = .ok t) := by
  rw [outcome_callTerminal, bind_eq_ok_iff]
  constructor
  · rintro ⟨started', hstarted, h⟩
    split_ifs at h with hcapability
    all_goals
      obtain ⟨t', ht', h⟩ := bind_eq_ok_iff.mp h
      obtain ⟨rfl, rfl⟩ := Prod.mk.inj (Except.ok.inj h)
    · exact ⟨hstarted, Or.inl ⟨hcapability, ht'⟩⟩
    · exact ⟨hstarted, Or.inr ⟨not_not.mp hcapability, ht'⟩⟩
  · rintro ⟨hstarted, ⟨hcapability, ht⟩ | ⟨hcapability, ht⟩⟩
    · refine ⟨started, hstarted, ?_⟩
      rw [if_pos hcapability]
      exact bind_eq_ok_iff.mpr ⟨t, ht, rfl⟩
    · refine ⟨started, hstarted, ?_⟩
      rw [if_neg (not_not.mpr hcapability)]
      exact bind_eq_ok_iff.mpr ⟨t, ht, rfl⟩

end

/-! ### What a call reports -/

section

variable {limits : ProviderCallLimits} {t : CallTerminal}

/-- The two receipts of an outcome say what the terminal says. -/
structure ProviderCallOutcome.Reports (o : ProviderCallOutcome) (mode : AdapterMode) (t : CallTerminal) :
    Prop where
  mode : o.publicResult.val.mode = mode
  status : t.status = .text o.publicResult.val.status.value.toList
  text : o.completeText = t.text
  bytes : o.publicResult.val.outputBytes = t.outputBytes
  output : o.publicResult.val.outputSha256 = t.outputSha256
  private_output : o.publicResult.val.execution.val.outputSha256 = t.outputSha256
  count : o.publicResult.val.eventCount = t.eventCount
  digest : o.publicResult.val.eventSha256 = t.eventSha256
  attempted : o.publicResult.val.cleanupAttempted = true

theorem SuppliedStatus.text?_eq_some {s : SuppliedStatus} {x : Text} (h : s.text? = some x) : s = .text x := by
  cases s with
  | text t => rw [Option.some.inj h]
  | object written copied => cases h

theorem ExecutionStatus.ofValue?_eq_some {x : Text} {status : ExecutionStatus}
    (h : ExecutionStatus.ofValue? x = some status) : x = status.value.toList := by
  have := List.find?_some h
  simpa using this

theorem newExecutionResult_output {request : ProviderExecutionRequest} {supplied : Option (List Text)}
    {started finished : ClockReading} {r : ProviderExecutionResult}
    (h : newExecutionResult sha256 request t supplied started finished = .ok r) :
    r.val.outputSha256 = t.outputSha256 := by
  unfold newExecutionResult at h
  split at h
  · exact congrArg (·.outputSha256) (construct_eq_ok_iff.mp h)
  · cases h

theorem executionResult_output {request : ProviderExecutionRequest} {started finished : ClockReading}
    {r : ProviderExecutionResult} (h : executionResult sha256 request t started finished = .ok r) :
    r.val.outputSha256 = t.outputSha256 := by
  rw [executionResult] at h
  obtain ⟨supplied, -, h⟩ := bind_eq_ok_iff.mp h
  split at h
  · rename_i result hresult
    obtain rfl := Except.ok.inj h
    obtain ⟨result', hnew, hbound⟩ := bind_eq_ok_iff.mp hresult
    obtain ⟨-, hresult⟩ := raiseValueErrors_bind_eq_ok_iff.mp hbound
    obtain rfl := Except.ok.inj hresult
    exact newExecutionResult_output (validated_eq_ok_iff.mp hnew)
  · cases h

theorem callOutcome_eq_ok {request : ProviderExecutionRequest} {mode : AdapterMode} {b : CallBehaviour}
    {started : ClockReading} {cleaned : Bool} {o : ProviderCallOutcome}
    (h : (callOutcome sha256 request mode b started t cleaned).outcome = .ok o) : o.Reports mode t := by
  rw [outcome_callOutcome] at h
  obtain ⟨finished, -, h⟩ := bind_eq_ok_iff.mp h
  obtain ⟨execution, hexecution, h⟩ := bind_eq_ok_iff.mp h
  obtain ⟨publicResult, hpublic, h⟩ := bind_eq_ok_iff.mp h
  obtain rfl := Except.ok.inj h
  have hnew := exceptValidation_eq_ok_iff.mp hpublic
  rw [newPublicResult] at hnew
  split at hnew
  · cases hnew
  · rename_i status hstatus
    have hval := construct_eq_ok_iff.mp hnew
    obtain ⟨x, hx, hvalue⟩ := Option.bind_eq_some_iff.mp hstatus
    have hstatus := SuppliedStatus.text?_eq_some hx
    rw [ExecutionStatus.ofValue?_eq_some hvalue] at hstatus
    have houtput := executionResult_output hexecution
    constructor <;> dsimp only <;> try rw [hval]
    · exact hstatus
    · exact houtput

/-- What every result of a call satisfies. -/
structure ProviderCallOutcome.Consistent (sha256 : List UInt8 → Sha256) (b : CallBehaviour)
    (o : ProviderCallOutcome) : Prop where
  attempted : o.publicResult.val.cleanupAttempted = true
  unfinished : o.publicResult.val.status ≠ .completed →
    o.completeText = none ∧ o.publicResult.val.outputSha256 = none ∧
    o.publicResult.val.execution.val.outputSha256 = none ∧ o.publicResult.val.outputBytes = 0 ∧
    o.publicResult.val.eventCount = 1 ∧
    o.publicResult.val.eventSha256 =
      eventDigest sha256 [.terminal 0 o.publicResult.val.status.value.toList]
  finished : o.publicResult.val.status = .completed →
    ∃ text, o.completeText = some text ∧ b.Supplies text o.publicResult.val.mode ∧
      o.publicResult.val.outputBytes = (utf8 text).length ∧
      o.publicResult.val.outputSha256 = some (sha256 (utf8 text)) ∧
      o.publicResult.val.execution.val.outputSha256 = some (sha256 (utf8 text))

/-- A completed public result binds an output digest. -/
theorem ProviderCallPublicResult.output_ne_none (r : ProviderCallPublicResult)
    (h : r.val.status = .completed) : r.val.outputSha256 ≠ none := by
  have hviolations := (validateWith_eq_ok.mp r.2).2
  simp only [ProviderCallPublicResultData.resultIsConsistent, List.forall_mem_cons, violation_fst,
    not_and, not_or] at hviolations
  exact (hviolations.2.2.2.1 h).1

theorem ExecutionStatus.value_injective {a b : ExecutionStatus} (h : a.value.toList = b.value.toList) :
    a = b := by
  have hvalue : a.value = b.value := String.toList_injective h
  cases a <;> cases b <;> first | rfl | exact absurd hvalue (by decide)

/-- A returned outcome reports the terminal of the call. -/
theorem finishCall_eq_ok {request : ProviderExecutionRequest} {mode : AdapterMode} {b : CallBehaviour}
    {o : ProviderCallOutcome} (h : (finishCall sha256 limits request mode b).outcome = .ok o) :
    ∃ started t, (callTerminal sha256 limits request mode b).outcome = .ok (started, t) ∧ o.Reports mode t := by
  rw [outcome_finishCall] at h
  obtain ⟨cleaned, -, h⟩ := bind_eq_ok_iff.mp h
  obtain ⟨⟨started, t⟩, hterminal, h⟩ := bind_eq_ok_iff.mp h
  exact ⟨started, t, hterminal, callOutcome_eq_ok h⟩

end

/-! ### Where the whole call raises something else -/

section

variable {limits : ProviderCallLimits} {mode : AdapterMode} {b : CallBehaviour}

variable {request : ProviderExecutionRequest} {t : CallTerminal}

theorem CallTerminal.Succeeded.copied {text : Text} (h : t.Succeeded sha256 text) : t.copied = t.evidenceRefs := by
  rw [CallTerminal.copied, h.status]
  rfl

end

/-! ### The whole call -/

section

variable (sha256) (limits : ProviderCallLimits) (request : Option ProviderExecutionRequest) (payload : Option Json)
  (b : CallBehaviour)

end

namespace ProviderCallDemo

def provider : ProviderIdentityV2 :=
  ⟨⟨"local-text".toList, .llm, "small-1".toList, "1.0.0".toList, "local-adapter".toList, "1.0.0".toList⟩,
    by decide +kernel⟩

def candidate : PackageCandidateIdentity :=
  ⟨⟨"called-skill".toList, by decide +kernel⟩, ⟨List.replicate 40 'e', by decide +kernel⟩,
    ⟨List.replicate 64 'e', by decide +kernel⟩⟩

/-- The input `{}`. -/
def payload : Json := .obj []

def requestData (sha256 : List UInt8 → Sha256) : ProviderExecutionRequestData where
  requestId := ⟨"request-1".toList, by decide +kernel⟩
  candidate := candidate
  scenarioSetId := ⟨"set-1".toList, by decide +kernel⟩
  caseId := ⟨"case-1".toList, by decide +kernel⟩
  provider := provider
  declaredCapability := .responseGeneration
  inputSha256 := canonicalJsonSha256 sha256 payload
  idempotencyKeySha256 := ⟨List.replicate 64 '7', by decide +kernel⟩
  packageSafetyReceiptId := ⟨"safety-1".toList, by decide +kernel⟩
  packageSafetyReceiptSha256 := ⟨List.replicate 64 '8', by decide +kernel⟩
  preparedAt := ⟨0, "1970-01-01T00:00:00Z".toList⟩
  status := .prepared
  blocker := none
  evidenceRefs := []

theorem candidate_public : identityIsPublic candidate.packageId.val = true := by decide +kernel

theorem requestData_valid : (requestData sha256).validate = .ok () := by
  have hreceipt : identityIsPublic "safety-1".toList = true := by decide +kernel
  rw [ProviderExecutionRequestData.validate, validateWith_eq_ok]
  constructor
  · show check (identityIsPublic candidate.packageId.val) _ _ ++
      check (identityIsPublic "safety-1".toList) _ _ ++ [] = []
    rw [candidate_public, hreceipt]
    rfl
  · simp only [List.forall_mem_cons, violation_fst, List.not_mem_nil, IsEmpty.forall_iff, implies_true, and_true]
    exact ⟨fun h => h.2 rfl, fun h => by cases h.1⟩

def request (sha256 : List UInt8 → Sha256) : ProviderExecutionRequest := ⟨requestData sha256, requestData_valid⟩

def limits : ProviderCallLimits where
  inputBytes := 1024
  metadataBytes := 256
  nestingDepth := 8
  outputBytes := 4096
  chunkBytes := 1024
  events := 16
  bufferedEvents := 4
  overallSeconds := 30
  idleSeconds := 5
  cleanupSeconds := 1

def started : ClockReading := ⟨1, some "1970-01-01T00:00:01Z".toList⟩

def finished : ClockReading := ⟨2, some "1970-01-01T00:00:02Z".toList⟩

/-- An adapter of this mode whose members are as they should be, and that returns nothing yet. -/
def behaviour (mode : AdapterMode) : CallBehaviour where
  members := .ok (some ⟨some ⟨provider, mode⟩, true, true, true, true⟩)
  clockIsReadable := true
  started := some started
  finished := some finished
  interruption := none
  complete := .ok none
  stream := .ok none
  cleanup := .returned true

theorem validateRequestAndInput_eq :
    validateRequestAndInput sha256 isWritable (some (request sha256)) (some payload) limits =
      .ok (request sha256) := by
  have hstatus : ¬ (request sha256).val.status ≠ .prepared := not_not.mpr rfl
  have hdigest : ¬ canonicalJsonSha256 sha256 payload ≠ (request sha256).val.inputSha256 := not_not.mpr rfl
  rw [validateRequestAndInput, if_neg hstatus, if_neg (by decide), if_neg (by decide), if_neg (by decide +kernel),
    if_neg (by decide +kernel), if_neg hdigest]

theorem admitCall_eq (mode : AdapterMode) :
    admitCall sha256 limits (some (request sha256)) (some payload) (behaviour mode) =
      .ok (request sha256, ⟨provider, mode⟩) := by
  rw [admitCall, if_neg (by decide +kernel), validateRequestAndInput_eq]
  rfl

end ProviderCallDemo

/-- A finite stream whose only terminal event is its last. -/
structure FiniteStream where
  front : List ProviderAdapterStreamEvent
  last : ProviderAdapterStreamEvent
  front_open : ∀ e ∈ front, e.isTerminal = false
  last_terminal : last.isTerminal = true

def FiniteStream.events (stream : FiniteStream) : List ProviderAdapterStreamEvent :=
  stream.front ++ [stream.last]

/-- A way of cutting events into single items and batches of a legal size. -/
structure Framing (limits : ProviderCallLimits) (events : List ProviderAdapterStreamEvent) where
  items : List ProviderAdapterStreamItem
  framed : ∀ item ∈ items, item.Framed limits
  carries : items.flatMap (·.events) = events

/-- The pulls of an adapter that yields the items and then ends. -/
def Framing.pulls {limits : ProviderCallLimits} {events : List ProviderAdapterStreamEvent}
    (f : Framing limits events) (j : Nat) : StreamPull :=
  match f.items[j]? with
  | some item => .item item
  | none => .raised .stopAsyncIteration

/-- The behaviour with this stream. -/
def CallBehaviour.streaming (b : CallBehaviour) (pulls : Nat → StreamPull) : CallBehaviour :=
  { b with stream := .ok (some pulls) }

/-- What a caller observes of a stream: nothing of how it was framed. -/
structure CallObservation where
  status : ExecutionStatus
  text : Option Text
  outputSha256 : Option Sha256
  eventSha256 : Sha256
  eventCount : Nat
  deriving DecidableEq

def ProviderCallOutcome.observed (o : ProviderCallOutcome) : CallObservation where
  status := o.publicResult.val.status
  text := o.completeText
  outputSha256 := o.publicResult.val.outputSha256
  eventSha256 := o.publicResult.val.eventSha256
  eventCount := o.publicResult.val.eventCount

/-- Two runs differ in nothing, or in the size of their largest batch only. -/
def SameRun (x y : Except CallExc CallTerminal) : Prop :=
  x = y ∨ ∃ (t : CallTerminal) (m m' : Nat),
    m ≤ 8 ∧ m' ≤ 8 ∧ x = .ok (t.withBuffer m) ∧ y = .ok (t.withBuffer m')

section

variable {limits : ProviderCallLimits} {stream : FiniteStream} {b : CallBehaviour}

theorem runStream_framed (sha256 : List UInt8 → Sha256) (f : Framing limits stream.events) :
    ∃ m ≤ limits.bufferedEvents, runStream sha256 limits (.ok (some f.pulls)) =
      (onePass sha256 limits {} stream.events).map (·.withBuffer m) := by
  have hrun : ∃ m ≤ max ({} : StreamState).maxBufferedEvents limits.bufferedEvents,
      pullEvents sha256 limits f.pulls limits.events 0 {} =
        (onePass sha256 limits {} (stream.front ++ [stream.last])).map (·.withBuffer m) := by
    apply pullEvents_framed f.framed
    · intro j hj
      rw [Nat.zero_add, Framing.pulls, List.getElem?_eq_getElem hj]
    · exact f.carries
    · exact stream.front_open
    · exact stream.last_terminal
    · exact Nat.le_add_right _ _
  obtain ⟨m, hm, hrun⟩ := hrun
  rw [Nat.max_eq_right (Nat.zero_le _)] at hm
  exact ⟨m, hm, hrun⟩

theorem observedRun_framed (hbuffer : limits.bufferedEvents ≤ 8) {mode : AdapterMode}
    (f f' : Framing limits stream.events) :
    SameRun (observedRun sha256 limits mode (b.streaming f.pulls))
      (observedRun sha256 limits mode (b.streaming f'.pulls)) := by
  rcases b with ⟨members, readable, started, finished, - | i, complete, returned, cleanup⟩
  swap
  · cases i <;> exact Or.inl rfl
  cases mode with
  | complete => exact Or.inl rfl
  | stream =>
    obtain ⟨m, hm, h⟩ := runStream_framed sha256 f
    obtain ⟨m', hm', h'⟩ := runStream_framed sha256 f'
    show SameRun (runStream sha256 limits (.ok (some f.pulls))) (runStream sha256 limits (.ok (some f'.pulls)))
    rw [h, h']
    rcases onePass sha256 limits {} stream.events with e | t
    · exact Or.inl rfl
    · exact Or.inr ⟨t, m, m', hm.trans hbuffer, hm'.trans hbuffer, rfl, rfl⟩

theorem callTerminal_framed (hbuffer : limits.bufferedEvents ≤ 8) {request : ProviderExecutionRequest}
    {mode : AdapterMode} (f f' : Framing limits stream.events) :
    (callTerminal sha256 limits request mode (b.streaming f.pulls)).outcome =
        (callTerminal sha256 limits request mode (b.streaming f'.pulls)).outcome ∨
      ∃ (started : ClockReading) (t : CallTerminal) (m m' : Nat), m ≤ 8 ∧ m' ≤ 8 ∧
        (callTerminal sha256 limits request mode (b.streaming f.pulls)).outcome =
          .ok (started, t.withBuffer m) ∧
        (callTerminal sha256 limits request mode (b.streaming f'.pulls)).outcome =
          .ok (started, t.withBuffer m') := by
  have hstarted : ∀ pulls, (b.streaming pulls).started = b.started := fun _ => rfl
  rw [outcome_callTerminal, outcome_callTerminal]
  rw [hstarted, hstarted]
  rcases readClock b.started with e | started
  · exact Or.inl rfl
  rw [show (.ok started : Except CallExc ClockReading) = pure started from rfl, pure_bind, pure_bind]
  split_ifs
  · exact Or.inl rfl
  · rcases observedRun_framed hbuffer f f' with h | ⟨t, m, m', hm, hm', h, h'⟩
    · exact Or.inl (by rw [h])
    · exact Or.inr ⟨started, t, m, m', hm, hm', by rw [h]; rfl, by rw [h']; rfl⟩

/-- The public result with another size of its largest batch. -/
def ProviderCallPublicResultData.withBuffer (m : Nat) (r : ProviderCallPublicResultData) :
    ProviderCallPublicResultData := { r with maxBufferedEvents := m }

/-- Every legal size of the largest batch is accepted alike. -/
theorem newPublicResult_withBuffer {request : ProviderExecutionRequest} {mode : AdapterMode}
    {t : CallTerminal} {cleaned : Bool} {execution : ProviderExecutionResult} {m m' : Nat} (hm : m ≤ 8)
    (hm' : m' ≤ 8) {r : ProviderCallPublicResult}
    (h : newPublicResult request mode (t.withBuffer m) cleaned execution = .ok r) :
    ∃ r', newPublicResult request mode (t.withBuffer m') cleaned execution = .ok r' ∧
      r'.val = r.val.withBuffer m' := by
  unfold newPublicResult at h ⊢
  split at h
  · cases h
  · rename_i status hstatus
    have hstatus' : (t.withBuffer m').status.text?.bind ExecutionStatus.ofValue? = some status := hstatus
    rw [hstatus']
    have hval := construct_eq_ok_iff.mp h
    have hvalid : (r.val.withBuffer m').validate = .ok () := by
      have hr := r.2
      rw [ProviderCallPublicResultData.validate, validateWith_eq_ok] at hr ⊢
      have hbuffer : r.val.maxBufferedEvents = m := congrArg (·.maxBufferedEvents) hval
      refine ⟨?_, hr.2⟩
      have hfields := hr.1
      rw [hbuffer, decide_eq_true hm] at hfields
      rw [show (r.val.withBuffer m').maxBufferedEvents = m' from rfl, decide_eq_true hm']
      exact hfields
    exact ⟨⟨_, hvalid⟩, construct_eq_ok_iff.mpr (congrArg (·.withBuffer m') hval), rfl⟩

theorem callOutcome_withBuffer {request : ProviderExecutionRequest} {mode : AdapterMode}
    {t : CallTerminal} {started : ClockReading} {cleaned : Bool} {m m' : Nat} (hm : m ≤ 8) (hm' : m' ≤ 8) :
    (callOutcome sha256 request mode b started (t.withBuffer m) cleaned).outcome.map
        ProviderCallOutcome.observed =
      (callOutcome sha256 request mode b started (t.withBuffer m') cleaned).outcome.map
        ProviderCallOutcome.observed := by
  rw [outcome_callOutcome, outcome_callOutcome]
  show Except.map _ (readClock b.finished >>= _) = Except.map _ (readClock b.finished >>= _)
  rcases readClock b.finished with e | finished
  · rfl
  show Except.map _ (executionResult sha256 request t started finished >>= _) =
    Except.map _ (executionResult sha256 request t started finished >>= _)
  rcases executionResult sha256 request t started finished with e | execution
  · rfl
  show Except.map _ (exceptValidation (newPublicResult request mode (t.withBuffer m) cleaned execution) _ _ >>= _) =
    Except.map _ (exceptValidation (newPublicResult request mode (t.withBuffer m') cleaned execution) _ _ >>= _)
  -- the count of buffered events is bounded in either framing and bound to nothing else
  rcases h : newPublicResult request mode (t.withBuffer m) cleaned execution with e | r
  · rcases h' : newPublicResult request mode (t.withBuffer m') cleaned execution with e' | r'
    · rfl
    · obtain ⟨r, hr, -⟩ := newPublicResult_withBuffer hm' hm h'
      rw [h] at hr
      cases hr
  · obtain ⟨r', h', hval⟩ := newPublicResult_withBuffer hm hm' h
    rw [h']
    show Except.ok (ProviderCallOutcome.observed ⟨r, t.text⟩) = .ok (ProviderCallOutcome.observed ⟨r', t.text⟩)
    rw [ProviderCallOutcome.observed, ProviderCallOutcome.observed, hval]
    rfl

theorem finishCall_framed (hbuffer : limits.bufferedEvents ≤ 8) {request : ProviderExecutionRequest}
    {mode : AdapterMode} (f f' : Framing limits stream.events) :
    (finishCall sha256 limits request mode (b.streaming f.pulls)).outcome.map ProviderCallOutcome.observed =
      (finishCall sha256 limits request mode (b.streaming f'.pulls)).outcome.map
        ProviderCallOutcome.observed := by
  have hcleanup : ∀ pulls, (b.streaming pulls).cleanup = b.cleanup := fun _ => rfl
  rw [outcome_finishCall, outcome_finishCall, hcleanup, hcleanup]
  -- the cleanup is the same for both framings, so it is settled first
  rcases runCleanup b.cleanup with e | cleaned
  · rfl
  show Except.map _ ((callTerminal sha256 limits request mode (b.streaming f.pulls)).outcome >>= _) =
    Except.map _ ((callTerminal sha256 limits request mode (b.streaming f'.pulls)).outcome >>= _)
  rcases callTerminal_framed hbuffer f f' with h | ⟨started, t, m, m', hm, hm', h, h'⟩
  · rw [h]
    rfl
  · rw [h, h']
    exact callOutcome_withBuffer hm hm'

/-- A completed call of a stream reports its chunks in order, within the limits. -/
structure ProviderCallOutcome.Streams (sha256 : List UInt8 → Sha256) (limits : ProviderCallLimits)
    (o : ProviderCallOutcome) (texts : List Text) (records : List EventRecord) : Prop where
  text : o.completeText = some texts.flatten
  bytes : o.publicResult.val.outputBytes = (texts.map fun t => (utf8 t).length).sum
  bytes_le : o.publicResult.val.outputBytes ≤ limits.outputBytes
  digest : o.publicResult.val.eventSha256 = eventDigest sha256 records
  contiguous : records.map EventRecord.sequence = List.range o.publicResult.val.eventCount
  count : o.publicResult.val.eventCount = texts.length + 1
  count_le : o.publicResult.val.eventCount ≤ limits.events

theorem length_utf8_flatten (texts : List Text) :
    (utf8 texts.flatten).length = (texts.map fun t => (utf8 t).length).sum := by
  induction texts with
  | nil => rfl
  | cons t texts ih =>
    rw [List.flatten_cons, utf8_append, List.length_append, ih, List.map_cons, List.sum_cons]

/-- A framed stream that is read to its end consists of chunks and a terminal. -/
theorem runStream_framed_eq_ok {f : Framing limits stream.events} {t : CallTerminal}
    (h : runStream sha256 limits (.ok (some f.pulls)) = .ok t) :
    ∃ (texts : List Text) (refs : SuppliedRefs) (u : Option ProviderUsageMetadata)
      (c : Option ProviderCostObservation) (m : Nat), stream.front = texts.map chunkEvent ∧
      t = (streamTerminal sha256 (texts.foldl (·.push sha256) {}) refs u c).withBuffer m ∧
      texts.length < limits.events ∧
      StreamState.Tallied limits (texts.foldl (·.push sha256) {}) := by
  obtain ⟨m, -, hrun⟩ := runStream_framed sha256 f
  rw [hrun, onePass] at h
  rcases hconsume : consumeEvents sha256 limits {} stream.events with e | s | t'
  all_goals rw [hconsume] at h
  · cases h
  · cases h
  obtain rfl := Except.ok.inj h
  obtain ⟨texts, refs, usage, cost, u, c, hevents, rfl, hlength, htallied⟩ := consumeEvents_eq_inr hconsume
  rw [length_events_foldl_push] at hlength
  refine ⟨texts, refs, u, c, m, (List.append_inj' hevents rfl).1, rfl, ?_, htallied tallied_empty⟩
  have : ([] : List EventRecord).length + texts.length < limits.events := hlength
  simpa using this

theorem streams_of_reports {o : ProviderCallOutcome} {mode : AdapterMode} {texts : List Text}
    {refs : SuppliedRefs} {u : Option ProviderUsageMetadata} {c : Option ProviderCostObservation}
    {m : Nat}
    (hreports : o.Reports mode
      ((streamTerminal sha256 (texts.foldl (·.push sha256) {}) refs u c).withBuffer m))
    (hlength : texts.length < limits.events)
    (htallied : StreamState.Tallied limits (texts.foldl (·.push sha256) {})) :
    o.Streams sha256 limits texts
      ((texts.foldl (·.push sha256) ({} : StreamState)).events ++ [.terminal texts.length completedStatus]) := by
  have hchunks : (texts.foldl (·.push sha256) ({} : StreamState)).chunks = texts := chunks_foldl_push texts
  have hevents : (texts.foldl (·.push sha256) ({} : StreamState)).events.length = texts.length := by
    rw [htallied.length_eq, hchunks]
  have hcount : o.publicResult.val.eventCount = texts.length + 1 := by
    rw [hreports.count]
    show (StreamState.events _ ++ [_]).length = _
    rw [List.length_append, hevents, List.length_singleton]
  have hbytes : o.publicResult.val.outputBytes = (texts.map fun t => (utf8 t).length).sum := by
    rw [hreports.bytes]
    show (utf8 (StreamState.chunks _).flatten).length = _
    rw [hchunks, length_utf8_flatten]
  refine ⟨?_, hbytes, ?_, ?_, ?_, hcount, ?_⟩
  · rw [hreports.text]
    show some (StreamState.chunks _).flatten = _
    rw [hchunks]
  · rw [hbytes]
    have := htallied.output
    rw [htallied.bytes, hchunks] at this
    exact this
  · rw [hreports.digest]
    show eventDigest sha256 (StreamState.events _ ++ [.terminal (StreamState.events _).length _]) = _
    rw [hevents]
  · rw [hcount, List.map_append, htallied.contiguous, hchunks, List.range_succ]
    rfl
  · omega

theorem finishCall_framed_eq_ok {request : ProviderExecutionRequest} {mode : AdapterMode}
    {f : Framing limits stream.events} {o : ProviderCallOutcome}
    (h : (finishCall sha256 limits request mode (b.streaming f.pulls)).outcome = .ok o)
    (hmode : o.publicResult.val.mode = .stream) (hcompleted : o.publicResult.val.status = .completed) :
    ∃ texts records, stream.front = texts.map chunkEvent ∧ o.Streams sha256 limits texts records := by
  obtain ⟨started, t, hterminal, hreports⟩ := finishCall_eq_ok h
  obtain rfl : mode = .stream := hreports.mode.symm.trans hmode
  have hsome : t.outputSha256 ≠ none := hreports.output ▸ o.publicResult.output_ne_none hcompleted
  rcases (callTerminal_outcome_eq_ok.mp hterminal).2 with ⟨-, hterminal⟩ | ⟨-, hterminal⟩
  · exact absurd (failureTerminal_failed hterminal).1.output hsome
  rcases terminalFromObserved_eq_ok hterminal with hobserved | hfailed
  · have hstream : runStream sha256 limits (.ok (some f.pulls)) = .ok t := by
      rcases b with ⟨members, readable, first, finished, - | i, complete, returned, cleanup⟩
      · exact hobserved
      · cases i <;> cases hobserved
    obtain ⟨texts, refs, u, c, m, hfront, rfl, hlength, htallied⟩ := runStream_framed_eq_ok hstream
    exact ⟨texts, _, hfront, streams_of_reports hreports hlength htallied⟩
  · exact absurd hfailed.output hsome

end

/-- Limits that pass their checks buffer at most eight events. -/
theorem ProviderCallLimits.bufferedEvents_le {limits : ProviderCallLimits} (h : limits.postInit = true) :
    limits.bufferedEvents ≤ 8 := by
  simp only [postInit, Bool.and_eq_true, decide_eq_true_eq] at h
  exact h.1.1.1.2

/-- **A stream is framed as one pleases.**  Cutting the events of a finite stream into items and
batches one way or another changes nothing that a caller observes, the error included; and a
completed call of the stream reports its chunks in order, contiguous and within the limits. -/
theorem stream_framing_independent (sha256 : List UInt8 → Sha256) (limits : ProviderCallLimits)
    (request : Option ProviderExecutionRequest) (payload : Option Json) (b : CallBehaviour)
    (stream : FiniteStream) (framing framing' : Framing limits stream.events) :
    let call (f : Framing limits stream.events) :=
      (executeProviderCall sha256 limits request payload (b.streaming f.pulls)).outcome
    (call framing).map ProviderCallOutcome.observed = (call framing').map ProviderCallOutcome.observed ∧
    ∀ o, call framing = .ok o → o.publicResult.val.mode = .stream →
      o.publicResult.val.status = .completed →
      ∃ texts records, stream.front = texts.map chunkEvent ∧ o.Streams sha256 limits texts records := by
  have hadmits : ∀ pulls, admitCall sha256 limits request payload (b.streaming pulls) =
      admitCall sha256 limits request payload b := fun _ => rfl
  dsimp only
  rw [outcome_executeProviderCall, outcome_executeProviderCall, hadmits, hadmits]
  rcases hread : admitCall sha256 limits request payload b with e | ⟨request, descriptor⟩
  · refine ⟨rfl, ?_⟩
    intro o ho
    cases ho
  -- admission has checked the limits, so at most eight events are buffered
  · have hlimits : limits.postInit = true := by
      cases hpost : limits.postInit with
      | true => rfl
      | false =>
        rw [admitCall, if_pos hpost] at hread
        cases hread
    refine ⟨finishCall_framed (ProviderCallLimits.bufferedEvents_le hlimits) framing framing', ?_⟩
    intro o ho
    exact finishCall_framed_eq_ok ho

namespace ProviderCallDemo

/-- The chunks `a` and `b`, and an end with one reference. -/
def stream : FiniteStream where
  front := [chunkEvent ['a'], chunkEvent ['b']]
  last := .terminal (.ok (some ["evidence/a".toList])) .absent .absent
  front_open := by simp [chunkEvent, ProviderAdapterStreamEvent.isTerminal]
  last_terminal := rfl

/-- Every event is an item of its own. -/
def oneByOne : Framing limits stream.events where
  items := stream.events.map .event
  framed := by simp [ProviderAdapterStreamItem.Framed]
  carries := rfl

/-- All events are one batch. -/
def batched : Framing limits stream.events where
  items := [.batch (some stream.events)]
  framed := by
    intro item hitem
    obtain rfl := List.mem_singleton.mp hitem
    exact ⟨by decide, by decide⟩
  carries := rfl

def terminal (sha256 : List UInt8 → Sha256) : CallTerminal :=
  streamTerminal sha256 ((StreamState.push sha256 {} ['a']).push sha256 ['b'])
    (.ok (some ["evidence/a".toList])) none none

def executionData (sha256 : List UInt8 → Sha256) : ProviderExecutionResultData where
  resultId := ⟨"request-1.result".toList, by decide +kernel⟩
  requestId := (requestData sha256).requestId
  requestSha256 := canonicalJsonSha256 sha256 (requestData sha256).toJson
  idempotencyKeySha256 := (requestData sha256).idempotencyKeySha256
  candidate := candidate
  scenarioSetId := (requestData sha256).scenarioSetId
  caseId := (requestData sha256).caseId
  provider := provider
  status := .completed
  startedAt := ⟨1, "1970-01-01T00:00:01Z".toList⟩
  finishedAt := ⟨2, "1970-01-01T00:00:02Z".toList⟩
  outputSha256 := some (sha256 (utf8 ['a', 'b']))
  usage := none
  evidenceRefs := [⟨"evidence/a".toList, by decide +kernel⟩]
  blocker := none
  error := none

theorem executionData_valid : (executionData sha256).validate = .ok () := by
  have hrefs : publicRefErrors "provider execution result" [⟨"evidence/a".toList, by decide +kernel⟩] = [] := by
    decide +kernel
  rw [ProviderExecutionResultData.validate, validateWith_eq_ok]
  constructor
  · show check (identityIsPublic candidate.packageId.val) _ _ ++ publicRefErrors _ [⟨"evidence/a".toList, _⟩] = []
    rw [candidate_public, hrefs]
    rfl
  · show ∀ v ∈ [violation _ _, violation _ _, violation _ _, violation _ _], v.1 = false
    simp only [List.forall_mem_cons, violation_fst, List.not_mem_nil, IsEmpty.forall_iff, implies_true, and_true]
    have htimes : ¬ (2 : Int) < 1 := by decide
    refine ⟨not_not.mpr (iff_of_true rfl rfl), fun h => (by cases h), htimes, ?_⟩
    rintro (h | h | h | h)
    · cases h
    · cases h
    · exact h rfl
    · exact h rfl

def execution (sha256 : List UInt8 → Sha256) : ProviderExecutionResult := ⟨executionData sha256, executionData_valid⟩

theorem executionResult_eq :
    executionResult sha256 (request sha256) (terminal sha256) started finished = .ok (execution sha256) := by
  have hid : executionId? ((request sha256).val.requestId.val ++ ".result".toList) =
      some (executionData sha256).resultId := by
    show executionId? ("request-1".toList ++ ".result".toList) = some ⟨"request-1.result".toList, _⟩
    decide +kernel
  have hrefs : portablePaths? (some ["evidence/a".toList]) = some (executionData sha256).evidenceRefs := by
    show portablePaths? (some ["evidence/a".toList]) = some [⟨"evidence/a".toList, _⟩]
    decide +kernel
  have hstatus : (terminal sha256).status.text?.bind ExecutionStatus.ofValue? = some .completed := by
    show ExecutionStatus.ofValue? completedStatus = _
    decide +kernel
  have hnew : newExecutionResult sha256 (request sha256) (terminal sha256) (some ["evidence/a".toList]) started
      finished = .ok (execution sha256) := by
    simp only [newExecutionResult, hid, hrefs, hstatus, ClockReading.timestamp?, started, finished, Option.map_some]
    exact construct_eq_ok_iff.mpr rfl
  have hagainst : raiseValueErrors ((executionData sha256).againstRequest sha256 (requestData sha256)) = .ok () := by
    rw [raiseValueErrors_eq_ok]
    simp only [ProviderExecutionResultData.againstRequest, List.forall_mem_cons, violation_fst, List.not_mem_nil,
      IsEmpty.forall_iff, implies_true, and_true]
    have htimes : ¬ (1 : Int) < 0 := by decide
    refine ⟨fun h => (by cases h.1), htimes, not_not.mpr rfl, not_not.mpr rfl, not_not.mpr rfl, ?_⟩
    rintro (h | h | h | h) <;> exact h rfl
  have hbound : boundExecutionResult sha256 (request sha256) (terminal sha256) (some ["evidence/a".toList]) started
      finished = .ok (execution sha256) := by
    rw [boundExecutionResult, hnew]
    show (raiseValueErrors ((executionData sha256).againstRequest sha256 (requestData sha256)) >>= _) = _
    rw [hagainst]
    rfl
  have hcopied : uncaught (terminal sha256).copied = .ok (some ["evidence/a".toList]) := rfl
  simp only [executionResult, hcopied, bind, Except.bind, hbound]

def publicData (sha256 : List UInt8 → Sha256) : ProviderCallPublicResultData where
  requestId := (requestData sha256).requestId
  mode := .stream
  status := .completed
  eventCount := 3
  outputBytes := 2
  outputSha256 := some (sha256 (utf8 ['a', 'b']))
  eventSha256 := (terminal sha256).eventSha256
  maxBufferedEvents := 0
  cleanupAttempted := true
  cleanupSucceeded := true
  cleanupFailed := false
  usage := none
  cost := none
  execution := execution sha256

theorem publicData_valid : (publicData sha256).validate = .ok () := by
  rw [ProviderCallPublicResultData.validate, validateWith_eq_ok]
  refine ⟨rfl, ?_⟩
  simp only [ProviderCallPublicResultData.resultIsConsistent, List.forall_mem_cons, violation_fst, List.not_mem_nil,
    IsEmpty.forall_iff, implies_true, and_true]
  refine ⟨?_, fun h => (by cases h), fun h => (by cases h), ?_, fun h => h.1 rfl, not_not.mpr rfl⟩
  · rintro (h | h) <;> exact h rfl
  · rintro ⟨-, h | h⟩
    · cases h
    · exact h rfl

/-- The call of the stream, one event at a time, completes. -/
theorem oneByOne_completes :
    (executeProviderCall sha256 limits (some (request sha256)) (some payload)
      ((behaviour .stream).streaming oneByOne.pulls)).outcome =
      .ok ⟨⟨publicData sha256, publicData_valid⟩, some ['a', 'b']⟩ := by
  have hpublic : newPublicResult (request sha256) .stream (terminal sha256) true (execution sha256) =
      .ok ⟨publicData sha256, publicData_valid⟩ := by
    have hstatus : (terminal sha256).status.text?.bind ExecutionStatus.ofValue? = some .completed := by
      show ExecutionStatus.ofValue? completedStatus = _
      decide +kernel
    simp only [newPublicResult, hstatus]
    exact construct_eq_ok_iff.mpr rfl
  have hcleanup : runCleanup ((behaviour .stream).streaming oneByOne.pulls).cleanup = .ok true := rfl
  have hrun : observedRun sha256 limits .stream ((behaviour .stream).streaming oneByOne.pulls) =
      .ok (terminal sha256) := rfl
  have hterminal : (callTerminal sha256 limits (request sha256) .stream
      ((behaviour .stream).streaming oneByOne.pulls)).outcome = .ok (started, terminal sha256) := by
    rw [outcome_callTerminal, hrun]
    rfl
  have hadmit : admitCall sha256 limits (some (request sha256)) (some payload)
      ((behaviour .stream).streaming oneByOne.pulls) = .ok (request sha256, ⟨provider, .stream⟩) := admitCall_eq .stream
  have hfinished : readClock ((behaviour .stream).streaming oneByOne.pulls).finished = .ok finished := rfl
  rw [outcome_executeProviderCall, hadmit, ok_bind]
  dsimp only
  rw [outcome_finishCall, hcleanup, ok_bind, hterminal, ok_bind]
  dsimp only
  rw [outcome_callOutcome, hfinished, ok_bind, executionResult_eq, ok_bind, hpublic]
  rfl

/-- One batch is observed as three items are. -/
theorem batched_observed :
    (executeProviderCall hashlibSha256 limits (some (request hashlibSha256)) (some payload)
      ((behaviour .stream).streaming batched.pulls)).outcome.map ProviderCallOutcome.observed =
      .ok (ProviderCallOutcome.observed ⟨⟨publicData hashlibSha256, publicData_valid⟩, some ['a', 'b']⟩) := by
  have hframings := (stream_framing_independent hashlibSha256 limits (some (request hashlibSha256)) (some payload)
    (behaviour .stream) stream oneByOne batched).1
  dsimp only at hframings
  rw [oneByOne_completes] at hframings
  exact hframings.symm

end ProviderCallDemo

end SkillsSdk
