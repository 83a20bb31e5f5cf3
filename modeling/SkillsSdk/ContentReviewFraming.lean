/-
SkillsSdk/ContentReviewFraming.lean

What the reader of the worker's packets makes of a stream.

The reader goes on behind a packet only when it is an invocation, and never goes
on behind a second one, so at most two lines are read.  Whatever they hold, the
observation depends on the stream alone and not on how it arrived; the one
exception that leaves the function is that of a time that is an integer out of
the range of floats (`ReadsTooLargeTime`).
-/
import SkillsSdk.ContentReviewWorker

namespace SkillsSdk

variable (host : WorkerHost) (launchedAt : ℚ)

/-! ### Packets -/

/-- A packet that the reader takes as the invocation. -/
structure Invokes (packet : JsonMembers) (reviewer : PackageSafetyReviewer) (invokedAt : ℚ) : Prop where
  kind : isKind packet "invoked" = true
  reviewer : (jsonGet packet "reviewer").bind reviewer? = some reviewer
  time : finiteTime host packet "invoked_at" = .ok invokedAt
  inTime : (roundFloat (invokedAt - launchedAt)).exceeds reviewSeconds = false

/-- A packet that returns an assessment in time. -/
structure ReturnsInTime (invokedAt : ℚ) (packet : JsonMembers) (assessment : ContentReviewAssessment) : Prop where
  kind : isKind packet "returned" = true
  assessment : (jsonGet packet "assessment").bind contentReviewAssessment? = some assessment
  time : ∃ completedAt, finiteTime host packet "completed_at" = .ok completedAt ∧
    invokedAt ≤ completedAt ∧ (roundFloat (completedAt - invokedAt)).exceeds reviewSeconds = false

/-- The time is an integer that is no float. -/
def TooLargeField (packet : JsonMembers) (key : String) : Prop :=
  ∃ i, jsonGet packet key = some (.int i) ∧ TooLarge i

/-- The time that is read of a first packet is too large. -/
def FirstTimeTooLarge (packet : JsonMembers) : Prop :=
  (isKind packet "invoked" = true ∧ ((jsonGet packet "reviewer").bind reviewer?).isSome = true ∧
      TooLargeField packet "invoked_at") ∨
    (isKind packet "blocked" = true ∧ TooLargeField packet "startup_completed_at")

/-- The time that is read of a second packet is too large. -/
def SecondTimeTooLarge (packet : JsonMembers) : Prop :=
  (isKind packet "returned" = true ∨ isKind packet "blocked" = true) ∧
    TooLargeField packet "completed_at"

/-- An exception leaves the function. -/
def PacketOutcome.Escapes (o : PacketOutcome) : Prop :=
  ∃ reviewer e, o = .raised reviewer e ∧ e ∉ workerHandled

theorem PacketOutcome.escapes_raised_iff {reviewer : Option PackageSafetyReviewer} {e : PyExc} :
    (PacketOutcome.raised reviewer e).Escapes ↔ e ∉ workerHandled := by
  constructor
  · rintro ⟨_, _, h, he⟩
    injection h with _ heq
    rwa [heq]
  · exact fun h => ⟨_, _, rfl, h⟩

theorem PacketOutcome.not_escapes_done {o : WorkerObservation} : ¬ (PacketOutcome.done o).Escapes := by
  rintro ⟨_, _, h, -⟩
  cases h

theorem PacketOutcome.not_escapes_next {s : ReaderState} : ¬ (PacketOutcome.next s).Escapes := by
  rintro ⟨_, _, h, -⟩
  cases h

/-! ### Times -/

theorem roundFloat_finite_or_tooLarge (i : Int) :
    (TooLarge i ∧ ∀ q, roundFloat i ≠ .finite q) ∨ (¬ TooLarge i ∧ ∃ q, roundFloat i = .finite q) := by
  rw [TooLarge, le_abs', roundFloat]
  split
  case isTrue h => exact Or.inl ⟨Or.inr h, nofun⟩
  case isFalse h =>
    split
    case isTrue h' => exact Or.inl ⟨Or.inl h', nofun⟩
    case isFalse h' => exact Or.inr ⟨fun hor => hor.elim h' h, _, rfl⟩

/-- The conversion raises what is not caught for integers that are too large only. -/
theorem timeField_escapes_iff {packet : JsonMembers} {key : String} :
    (∃ e, timeField host packet key = .error e ∧ e ∉ workerHandled) ↔ TooLargeField packet key := by
  rw [timeField, TooLargeField]
  cases hget : jsonGet packet key with
  | none => exact iff_of_false (by rintro ⟨e, he, h⟩; exact h (Except.error.inj he ▸ by decide)) nofun
  | some d =>
    cases d with
    | int i =>
      rcases roundFloat_finite_or_tooLarge i with ⟨hlarge, hnot⟩ | ⟨hnot, q, hq⟩
      · refine iff_of_true ⟨.other, ?_, by decide⟩ ⟨i, rfl, hlarge⟩
        cases hround : roundFloat i with
        | finite q => exact absurd hround (hnot q)
        | _ => simp only [hround]
      · refine iff_of_false ?_ ?_
        · rintro ⟨e, he, -⟩
          simp only [hq] at he
          cases he
        · rintro ⟨j, hj, hlarge⟩
          obtain rfl := JsonDoc.int.inj (Option.some.inj hj)
          exact hnot hlarge
    | str s =>
      refine iff_of_false ?_ nofun
      rintro ⟨e, he, h⟩
      cases hread : host.floatOf s with
      | none =>
        simp only [hread] at he
        exact h (Except.error.inj he ▸ by decide)
      | some f =>
        simp only [hread] at he
        cases he
    | bool b | float f => exact iff_of_false (by rintro ⟨e, he, -⟩; cases he) nofun
    | null | arr items | dict members =>
      exact iff_of_false (by rintro ⟨e, he, h⟩; exact h (Except.error.inj he ▸ by decide)) nofun

theorem finiteTime_escapes_iff {packet : JsonMembers} {key : String} :
    (∃ e, finiteTime host packet key = .error e ∧ e ∉ workerHandled) ↔ TooLargeField packet key := by
  rw [← timeField_escapes_iff host, finiteTime]
  cases htime : timeField host packet key with
  | error e => simp only [Except.error.injEq]
  | ok f =>
    refine iff_of_false ?_ (by rintro ⟨e, he, -⟩; cases he)
    rintro ⟨e, he, h⟩
    cases f with
    | finite q => cases he
    | _ => exact h (Except.error.inj he ▸ by decide)

theorem codeField_handled {packet : JsonMembers} {e : PyExc} (h : codeField host packet = .error e) :
    e ∈ workerHandled := by
  rw [codeField] at h
  split at h
  · exact Except.error.inj h ▸ by decide
  · cases h
  · split at h
    · cases h
    · exact Except.error.inj h ▸ by decide

/-! ### Branches -/

theorem isKind_of_isKind {packet : JsonMembers} {a b : String} (h : isKind packet a = true)
    (hab : PyStr.lit a ≠ PyStr.lit b) : isKind packet b = false := by
  rw [isKind] at h ⊢
  split at h
  · exact decide_eq_false fun h' => hab ((of_decide_eq_true h).symm.trans h')
  · cases h

theorem unhashable_of_isKind {packet : JsonMembers} {a : String} (h : isKind packet a = true) :
    unhashable (jsonGet packet "kind") = false := by
  rw [isKind] at h
  split at h
  case h_1 s hs =>
    rw [hs]
    rfl
  case h_2 => cases h

/-- The branch of an invocation. -/
theorem onInvoked_escapes_iff {s : ReaderState} {packet : JsonMembers} :
    (onInvoked host launchedAt s packet).Escapes ↔
      ((jsonGet packet "reviewer").bind reviewer?).isSome = true ∧ TooLargeField packet "invoked_at" := by
  rw [← finiteTime_escapes_iff host, onInvoked]
  cases hget : jsonGet packet "reviewer" with
  | none => exact iff_of_false (fun h => PacketOutcome.escapes_raised_iff.mp h (by decide)) nofun
  | some d =>
    cases hread : reviewer? d with
    | none =>
      simp only [hread, Option.bind_some]
      exact iff_of_false (fun h => PacketOutcome.escapes_raised_iff.mp h (by decide)) nofun
    | some reviewer =>
      simp only [hread, Option.bind_some, Option.isSome_some, true_and]
      cases htime : finiteTime host packet "invoked_at" with
      | error e => simp only [PacketOutcome.escapes_raised_iff, Except.error.injEq, exists_eq_left']
      | ok q =>
        refine iff_of_false (fun h => ?_) nofun
        dsimp only at h
        split at h
        · exact PacketOutcome.not_escapes_done h
        · exact PacketOutcome.not_escapes_next h

/-- The branch of a completion. -/
theorem onCompleted_escapes_iff {s : ReaderState} {packet : JsonMembers} :
    (onCompleted host s packet).Escapes ↔ TooLargeField packet "completed_at" := by
  rw [← finiteTime_escapes_iff host, onCompleted]
  cases htime : finiteTime host packet "completed_at" with
  | error e => simp only [PacketOutcome.escapes_raised_iff, Except.error.injEq, exists_eq_left']
  | ok q =>
    refine iff_of_false (fun h => ?_) nofun
    dsimp only at h
    split at h
    · exact PacketOutcome.escapes_raised_iff.mp h (by decide)
    · split at h
      · exact PacketOutcome.not_escapes_done h
      · split at h
        · cases hcode : codeField host packet with
          | error e =>
            rw [hcode] at h
            exact PacketOutcome.escapes_raised_iff.mp h (codeField_handled host hcode)
          | ok code =>
            rw [hcode] at h
            exact PacketOutcome.not_escapes_done h
        · split at h
          · exact PacketOutcome.escapes_raised_iff.mp h (by decide)
          · split at h
            · exact PacketOutcome.escapes_raised_iff.mp h (by decide)
            · exact PacketOutcome.not_escapes_done h

/-- The branch of a worker that is blocked at its start. -/
theorem onStartup_escapes_iff {s : ReaderState} {packet : JsonMembers} :
    (onStartup host launchedAt s packet).Escapes ↔ TooLargeField packet "startup_completed_at" := by
  rw [← finiteTime_escapes_iff host, onStartup]
  cases htime : finiteTime host packet "startup_completed_at" with
  | error e => simp only [PacketOutcome.escapes_raised_iff, Except.error.injEq, exists_eq_left']
  | ok q =>
    refine iff_of_false (fun h => ?_) nofun
    dsimp only at h
    split at h
    · exact PacketOutcome.not_escapes_done h
    · cases hcode : codeField host packet with
      | error e =>
        rw [hcode] at h
        exact PacketOutcome.escapes_raised_iff.mp h (codeField_handled host hcode)
      | ok code =>
        rw [hcode] at h
        exact PacketOutcome.not_escapes_done h

/-! ### The first packet -/

theorem onPacket_escapes_fresh_iff {packet : JsonMembers} :
    (onPacket host launchedAt {} packet).Escapes ↔ FirstTimeTooLarge packet := by
  rw [onPacket, FirstTimeTooLarge]
  by_cases hinvoked : isKind packet "invoked" = true
  · have hblocked : isKind packet "blocked" = false := isKind_of_isKind hinvoked (by decide +kernel)
    rw [if_pos ⟨hinvoked, rfl⟩, onInvoked_escapes_iff]
    simp only [hinvoked, hblocked, true_and, Bool.false_eq_true, false_and, or_false]
  · rw [if_neg fun h => hinvoked h.1]
    simp only [hinvoked, Bool.false_eq_true, false_and, false_or, ne_eq, not_true_eq_false, and_false,
      if_false]
    by_cases hblocked : isKind packet "blocked" = true
    · rw [if_neg (by rw [unhashable_of_isKind hblocked]; exact Bool.false_ne_true), if_pos hblocked,
        onStartup_escapes_iff]
      simp only [hblocked, true_and]
    · refine iff_of_false (fun h => ?_) fun h => hblocked h.1
      rw [if_neg hblocked] at h
      split at h <;> exact PacketOutcome.escapes_raised_iff.mp h (by decide)

/-- The reader goes on behind an invocation. -/
theorem onPacket_fresh_next_iff {packet : JsonMembers} {s : ReaderState} :
    onPacket host launchedAt {} packet = .next s ↔
      ∃ reviewer invokedAt, Invokes host launchedAt packet reviewer invokedAt ∧
        s = ⟨some reviewer, invokedAt⟩ := by
  constructor
  · intro h
    rw [onPacket] at h
    split at h
    case isTrue hkind =>
      rw [onInvoked] at h
      split at h
      case h_1 => cases h
      case h_2 d hget =>
        split at h
        case h_1 => cases h
        case h_2 reviewer hread =>
          split at h
          case h_1 => cases h
          case h_2 invokedAt htime =>
            split at h
            case isTrue => cases h
            case isFalse hlate =>
              injection h with hs
              refine ⟨reviewer, invokedAt, ⟨hkind.1, ?_, htime, Bool.not_eq_true _ ▸ hlate⟩, hs.symm⟩
              rw [hget]
              exact hread
    -- a packet that is no invocation never goes on
    case isFalse =>
      split at h
      · cases h
      · split at h
        case isTrue hkind => exact absurd rfl hkind.2
        case isFalse =>
          split at h
          · rw [onStartup] at h
            split at h
            · cases h
            · split at h
              · cases h
              · split at h <;> cases h
          · cases h
  · rintro ⟨reviewer, invokedAt, hi, rfl⟩
    obtain ⟨d, hget, hread⟩ := Option.bind_eq_some_iff.mp hi.reviewer
    rw [onPacket, if_pos ⟨hi.kind, rfl⟩, onInvoked]
    simp only [hget, hread, hi.time, hi.inTime, Bool.false_eq_true, if_false]

/-- A first packet never gives an assessment. -/
theorem onPacket_fresh_done {packet : JsonMembers} {o : WorkerObservation}
    (h : onPacket host launchedAt {} packet = .done o) : o.assessment = none := by
  -- neither a late invocation nor a failed startup has an assessment
  rw [onPacket] at h
  split at h
  case isTrue =>
    rw [onInvoked] at h
    split at h
    · cases h
    · split at h
      · cases h
      · split at h
        · cases h
        · split at h
          · injection h with ho
            rw [← ho]
          · cases h
  case isFalse =>
    split at h
    · cases h
    · split at h
      case isTrue hkind => exact absurd rfl hkind.2
      case isFalse =>
        split at h
        · rw [onStartup] at h
          split at h
          · cases h
          · split at h
            · injection h with ho
              rw [← ho]
            · split at h
              · cases h
              · injection h with ho
                rw [← ho]
        · cases h

/-! ### The second packet -/

variable {reviewer : PackageSafetyReviewer} {invokedAt : ℚ}

/-- Behind an invocation a packet completes the review or is no transition. -/
theorem onPacket_invoked {packet : JsonMembers} :
    onPacket host launchedAt ⟨some reviewer, invokedAt⟩ packet =
      if unhashable (jsonGet packet "kind") then .raised (some reviewer) .typeError
      else if isKind packet "returned" ∨ isKind packet "blocked" then
        onCompleted host ⟨some reviewer, invokedAt⟩ packet
      else .raised (some reviewer) .valueError := by
  rw [onPacket, if_neg fun h => by cases h.2]
  simp only [ne_eq, reduceCtorEq, not_false_eq_true, and_true]
  split
  · rfl
  · split
    · rfl
    · rename_i hkind
      rw [if_neg fun h => hkind (Or.inr h)]

theorem onPacket_escapes_invoked_iff {packet : JsonMembers} :
    (onPacket host launchedAt ⟨some reviewer, invokedAt⟩ packet).Escapes ↔
      SecondTimeTooLarge packet := by
  rw [onPacket_invoked, SecondTimeTooLarge]
  by_cases hkind : isKind packet "returned" = true ∨ isKind packet "blocked" = true
  · have hhash : unhashable (jsonGet packet "kind") = false :=
      hkind.elim unhashable_of_isKind unhashable_of_isKind
    simp only [hhash, hkind, Bool.false_eq_true, if_false, if_true, true_and]
    exact onCompleted_escapes_iff host
  · refine iff_of_false (fun h => ?_) fun h => hkind h.1
    rw [if_neg hkind] at h
    split at h <;> exact PacketOutcome.escapes_raised_iff.mp h (by decide)

theorem onPacket_invoked_ne_next {packet : JsonMembers} {s : ReaderState} :
    onPacket host launchedAt ⟨some reviewer, invokedAt⟩ packet ≠ .next s := by
  rw [onPacket_invoked]
  split
  · nofun
  · split
    · rw [onCompleted]
      split
      · nofun
      · split
        · nofun
        · split
          · nofun
          · split
            · split <;> nofun
            · split
              · nofun
              · split <;> nofun
    · nofun

/-- An assessment comes from a packet that returns it in time. -/
theorem onPacket_invoked_done {packet : JsonMembers} {o : WorkerObservation}
    {assessment : ContentReviewAssessment}
    (h : onPacket host launchedAt ⟨some reviewer, invokedAt⟩ packet = .done o)
    (ha : o.assessment = some assessment) :
    ReturnsInTime host invokedAt packet assessment ∧ o = ⟨some reviewer, some assessment, none⟩ := by
  -- only a completion in time, with an assessment that reads, ends with one
  rw [onPacket_invoked] at h
  split at h
  case isTrue => cases h
  case isFalse =>
    split at h
    case isFalse => cases h
    case isTrue hkind =>
      rw [onCompleted] at h
      split at h
      case h_1 => cases h
      case h_2 completedAt htime =>
        split at h
        case isTrue => cases h
        case isFalse hbefore =>
          split at h
          case isTrue =>
            injection h with ho
            rw [← ho] at ha
            cases ha
          case isFalse hlate =>
            split at h
            case isTrue =>
              split at h
              · cases h
              · injection h with ho
                rw [← ho] at ha
                cases ha
            case isFalse hblocked =>
              split at h
              case h_1 => cases h
              case h_2 d hget =>
                split at h
                case h_1 => cases h
                case h_2 assessment' hread =>
                  injection h with ho
                  obtain rfl : assessment' = assessment := by
                    rw [← ho] at ha
                    exact Option.some.inj ha
                  refine ⟨⟨hkind.resolve_right hblocked, ?_, completedAt, htime, not_lt.mp hbefore,
                    Bool.not_eq_true _ ▸ hlate⟩, ho.symm⟩
                  rw [hget]
                  exact hread

/-! ### Streams -/

/-- A finished line within the limit, and its packet. -/
def ReadsPacket (stream rest : List UInt8) (packet : JsonMembers) : Prop :=
  ∃ line, stream = line ++ 10 :: rest ∧ 10 ∉ line ∧ line.length < reviewWireLimit ∧
    packet? host line = .ok packet

/-- A line that is longer than the limit, finished or not. -/
def LineTooLong (stream : List UInt8) : Prop :=
  ∃ line tail, stream = line ++ tail ∧ 10 ∉ line ∧
    (reviewWireLimit < line.length ∨ (reviewWireLimit < line.length + 1 ∧ ∃ rest, tail = 10 :: rest))

/-- The first line, or the one behind an invocation, is longer than the limit. -/
def ReadsLongLine (stream : List UInt8) : Prop :=
  LineTooLong stream ∨ ∃ rest packet reviewer invokedAt, ReadsPacket host stream rest packet ∧
    Invokes host launchedAt packet reviewer invokedAt ∧ LineTooLong rest

/-- The time of the first packet, or that of the packet behind an invocation, is an
integer that is no float. -/
def ReadsTooLargeTime (stream : List UInt8) : Prop :=
  ∃ rest packet, ReadsPacket host stream rest packet ∧
    (FirstTimeTooLarge packet ∨ ∃ reviewer invokedAt, Invokes host launchedAt packet reviewer invokedAt ∧
      ∃ rest' packet', ReadsPacket host rest rest' packet' ∧ SecondTimeTooLarge packet')

/-- The observation of an invocation and a return, both valid and in time. -/
def AssessedFrom (stream : List UInt8) (assessment : ContentReviewAssessment) (o : WorkerObservation) :
    Prop :=
  ∃ rest packet reviewer invokedAt, ReadsPacket host stream rest packet ∧
    Invokes host launchedAt packet reviewer invokedAt ∧
    ∃ rest' packet', ReadsPacket host rest rest' packet' ∧ ReturnsInTime host invokedAt packet' assessment ∧
      o = ⟨some reviewer, some assessment, none⟩

/-- The reading of a stream that is there at once. -/
abbrev wholeFrom (s : ReaderState) (stream : List UInt8) : Except PyExc WorkerObservation :=
  LineReader.whole (workerReader host launchedAt) s stream

/-- However the stream is cut, the reader makes the same of it. -/
theorem readWorker_eq_whole (channel : List ReceivedChunk) :
    readWorker host launchedAt channel = wholeFrom host launchedAt {} (channel.map Subtype.val).flatten := by
  refine LineReader.read_eq_whole (List.not_mem_nil) (Nat.zero_le _) fun chunk hchunk => ?_
  obtain ⟨c, -, rfl⟩ := List.mem_map.mp hchunk
  exact c.2.2.trans (show 65536 ≤ reviewWireLimit by decide)

/-- The loop over the finished lines, at a finished line. -/
theorem drain_workerReader {line : List UInt8} (h : 10 ∉ line) (s : ReaderState) (rest : List UInt8) :
    LineReader.drain (workerReader host launchedAt) s (line ++ 10 :: rest) =
      if reviewWireLimit < line.length + 1 then .finished (.ok ⟨s.reviewer, none, some outputLimit⟩)
      else (onLine host launchedAt s line).handled.elim
        (fun s' => LineReader.drain (workerReader host launchedAt) s' rest) .finished :=
  LineReader.drain_line (m := workerReader host launchedAt) h rest

theorem wholeFrom_lineTooLong {stream : List UInt8} (h : LineTooLong stream) (s : ReaderState) :
    wholeFrom host launchedAt s stream = .ok ⟨s.reviewer, none, some outputLimit⟩ := by
  obtain ⟨line, tail, rfl, hline, hlong | ⟨hlong, rest, rfl⟩⟩ := h
  · exact LineReader.whole_overlong hline hlong tail
  · rw [wholeFrom, LineReader.whole, drain_workerReader host launchedAt hline, if_pos hlong]
    rfl

/-- A stream holds no line within the limit, or begins with one. -/
theorem wholeFrom_cases (s : ReaderState) (stream : List UInt8) :
    LineTooLong stream ∨
      (10 ∉ stream ∧ wholeFrom host launchedAt s stream = .ok ⟨s.reviewer, none, some adapterFailed⟩) ∨
      ∃ line rest, stream = line ++ 10 :: rest ∧ 10 ∉ line ∧ line.length < reviewWireLimit ∧
        wholeFrom host launchedAt s stream =
          (onLine host launchedAt s line).handled.elim (fun s' => wholeFrom host launchedAt s' rest) id := by
  by_cases hmem : (10 : UInt8) ∈ stream
  · obtain ⟨line, rest, rfl, hline⟩ := List.eq_append_cons_of_mem hmem
    by_cases hlong : reviewWireLimit < line.length + 1
    · exact Or.inl ⟨line, 10 :: rest, rfl, hline, Or.inr ⟨hlong, rest, rfl⟩⟩
    · refine Or.inr (Or.inr ⟨line, rest, rfl, hline, by omega, ?_⟩)
      rw [wholeFrom, LineReader.whole, drain_workerReader host launchedAt hline, if_neg hlong]
      rcases (onLine host launchedAt s line).handled with s' | r <;> rfl
  · by_cases hlong : reviewWireLimit < stream.length
    · exact Or.inl ⟨stream, [], (List.append_nil _).symm, hmem, Or.inl hlong⟩
    · refine Or.inr (Or.inl ⟨hmem, ?_⟩)
      rw [wholeFrom, LineReader.whole, LineReader.drain_of_not_mem hmem]
      exact if_neg hlong

/-! ### What a stream amounts to -/

/-- The packet that a line holds, if it holds one. -/
theorem onLine_packet {s : ReaderState} {line : List UInt8} {packet : JsonMembers}
    (h : packet? host line = .ok packet) :
    onLine host launchedAt s line = onPacket host launchedAt s packet := by
  rw [onLine, h]

/-- What holds no packet is handled. -/
theorem onLine_error {s : ReaderState} {line : List UInt8} {e : PyExc} (h : packet? host line = .error e) :
    (onLine host launchedAt s line).handled = .inr (.ok ⟨s.reviewer, none, some adapterFailed⟩) := by
  have hmem : e ∈ workerHandled := by
    rw [packet?] at h
    split at h
    case h_1 e' hload =>
      obtain ⟨fault, hfault⟩ := loadsWith_defaultHooks_error hload
      rw [← Except.error.inj h, hfault]
      cases fault <;> decide
    case h_2 => cases h
    case h_3 => exact Except.error.inj h ▸ by decide
  rw [onLine, h]
  exact if_pos hmem

theorem PacketOutcome.handled_of_escapes {o : PacketOutcome} (h : o.Escapes) :
    ∃ e, o.handled = .inr (.error e) := by
  obtain ⟨reviewer, e, rfl, he⟩ := h
  exact ⟨e, if_neg he⟩

/-- What does not leave the function and does not go on is an observation; it holds
an assessment only if the packet gave it. -/
theorem PacketOutcome.handled_of_not_escapes {o : PacketOutcome} (h : ¬ o.Escapes)
    (hnext : ∀ s, o ≠ .next s) :
    ∃ w, o.handled = .inr (.ok w) ∧ ∀ a, w.assessment = some a → o = .done w := by
  cases o with
  | next s => exact absurd rfl (hnext s)
  | done w => exact ⟨w, rfl, fun _ _ => rfl⟩
  | raised reviewer e =>
    have he : e ∈ workerHandled := by
      by_contra hnot
      exact h ⟨reviewer, e, rfl, hnot⟩
    exact ⟨⟨reviewer, none, some adapterFailed⟩, if_pos he, nofun⟩

/-- Behind an invocation: the observation of the second line. -/
theorem wholeFrom_invoked {stream : List UInt8}
    (h : ¬ ∃ rest packet, ReadsPacket host stream rest packet ∧ SecondTimeTooLarge packet) :
    ∃ o, wholeFrom host launchedAt ⟨some reviewer, invokedAt⟩ stream = .ok o ∧
      ∀ a, o.assessment = some a → ∃ rest packet, ReadsPacket host stream rest packet ∧
        ReturnsInTime host invokedAt packet a ∧ o = ⟨some reviewer, some a, none⟩ := by
  rcases wholeFrom_cases host launchedAt ⟨some reviewer, invokedAt⟩ stream with
    hlong | ⟨-, hend⟩ | ⟨line, rest, rfl, hline, hlen, hwhole⟩
  · exact ⟨_, wholeFrom_lineTooLong host launchedAt hlong _, nofun⟩
  · exact ⟨_, hend, nofun⟩
  · rw [hwhole]
    cases hpacket : packet? host line with
    | error e =>
      rw [onLine_error host launchedAt hpacket]
      exact ⟨_, rfl, nofun⟩
    | ok packet =>
      have hreads : ReadsPacket host (line ++ 10 :: rest) rest packet := ⟨line, rfl, hline, hlen, hpacket⟩
      have hquiet : ¬ (onPacket host launchedAt ⟨some reviewer, invokedAt⟩ packet).Escapes := fun hesc =>
        h ⟨rest, packet, hreads, (onPacket_escapes_invoked_iff host launchedAt).mp hesc⟩
      obtain ⟨w, hw, hfrom⟩ := PacketOutcome.handled_of_not_escapes hquiet
        fun s => onPacket_invoked_ne_next host launchedAt
      rw [onLine_packet host launchedAt hpacket, hw]
      refine ⟨w, rfl, fun a ha => ?_⟩
      obtain ⟨hreturns, hw'⟩ := onPacket_invoked_done host launchedAt (hfrom a ha) ha
      exact ⟨rest, packet, hreads, hreturns, hw'⟩

/-- A stream whose times are floats is observed. -/
theorem wholeFrom_fresh {stream : List UInt8} (h : ¬ ReadsTooLargeTime host launchedAt stream) :
    ∃ o, wholeFrom host launchedAt {} stream = .ok o ∧
      (∀ a, o.assessment = some a → AssessedFrom host launchedAt stream a o) ∧
      (ReadsLongLine host launchedAt stream → o.code = some outputLimit) := by
  have hlong : ∀ o, wholeFrom host launchedAt {} stream = .ok o →
      ReadsLongLine host launchedAt stream → o.code = some outputLimit := by
    rintro o ho (hfirst | ⟨rest, packet, r, t, ⟨line, rfl, hline, hlen, hpacket⟩, hi, hsecond⟩)
    · rw [wholeFrom_lineTooLong host launchedAt hfirst] at ho
      rw [← Except.ok.inj ho]
    · have hnext := (onPacket_fresh_next_iff host launchedAt).mpr ⟨r, t, hi, rfl⟩
      rw [wholeFrom, LineReader.whole, drain_workerReader host launchedAt hline,
        if_neg (by omega), onLine_packet host launchedAt hpacket, hnext] at ho
      have ho' : wholeFrom host launchedAt ⟨some r, t⟩ rest = .ok o := ho
      rw [wholeFrom_lineTooLong host launchedAt hsecond] at ho'
      rw [← Except.ok.inj ho']
  suffices hread : ∃ o, wholeFrom host launchedAt {} stream = .ok o ∧
      ∀ a, o.assessment = some a → AssessedFrom host launchedAt stream a o by
    obtain ⟨o, ho, hassessed⟩ := hread
    exact ⟨o, ho, hassessed, hlong o ho⟩
  rcases wholeFrom_cases host launchedAt {} stream with
    hfirst | ⟨-, hend⟩ | ⟨line, rest, rfl, hline, hlen, hwhole⟩
  · refine ⟨_, wholeFrom_lineTooLong host launchedAt hfirst _, ?_⟩
    intro a ha
    cases ha
  · refine ⟨_, hend, ?_⟩
    intro a ha
    cases ha
  · cases hpacket : packet? host line with
    | error e =>
      rw [hwhole, onLine_error host launchedAt hpacket]
      refine ⟨_, rfl, ?_⟩
      intro a ha
      cases ha
    | ok packet =>
      have hreads : ReadsPacket host (line ++ 10 :: rest) rest packet := ⟨line, rfl, hline, hlen, hpacket⟩
      rw [hwhole, onLine_packet host launchedAt hpacket]
      by_cases hnext : ∃ s, onPacket host launchedAt {} packet = .next s
      · obtain ⟨s, hs⟩ := hnext
        obtain ⟨r, t, hi, rfl⟩ := (onPacket_fresh_next_iff host launchedAt).mp hs
        rw [hs]
        have hsecond : ¬ ∃ rest' packet', ReadsPacket host rest rest' packet' ∧ SecondTimeTooLarge packet' :=
          fun hlarge => h ⟨rest, packet, hreads, Or.inr ⟨r, t, hi, hlarge⟩⟩
        obtain ⟨o, ho, hassessed⟩ := wholeFrom_invoked host launchedAt hsecond
        refine ⟨o, ho, fun a ha => ?_⟩
        obtain ⟨rest', packet', hreads', hreturns, ho'⟩ := hassessed a ha
        exact ⟨rest, packet, r, t, hreads, hi, rest', packet', hreads', hreturns, ho'⟩
      · have hquiet : ¬ (onPacket host launchedAt {} packet).Escapes := fun hesc =>
          h ⟨rest, packet, hreads, Or.inl ((onPacket_escapes_fresh_iff host launchedAt).mp hesc)⟩
        obtain ⟨w, hw, hfrom⟩ := PacketOutcome.handled_of_not_escapes hquiet fun s hs => hnext ⟨s, hs⟩
        rw [hw]
        refine ⟨w, rfl, fun a ha => ?_⟩
        rw [onPacket_fresh_done host launchedAt (hfrom a ha)] at ha
        cases ha

/-- A time that is no float leaves the function. -/
theorem wholeFrom_tooLarge {stream : List UInt8} (h : ReadsTooLargeTime host launchedAt stream) :
    ∃ e, wholeFrom host launchedAt {} stream = .error e := by
  obtain ⟨rest, packet, ⟨line, rfl, hline, hlen, hpacket⟩, hlarge⟩ := h
  rw [wholeFrom, LineReader.whole, drain_workerReader host launchedAt hline, if_neg (by omega),
    onLine_packet host launchedAt hpacket]
  rcases hlarge with hfirst | ⟨r, t, hi, rest', packet', ⟨line', rfl, hline', hlen', hpacket'⟩, hsecond⟩
  · obtain ⟨e, he⟩ := PacketOutcome.handled_of_escapes
      ((onPacket_escapes_fresh_iff host launchedAt).mpr hfirst)
    rw [he]
    exact ⟨e, rfl⟩
  · have hescapes : (onPacket host launchedAt ⟨some r, t⟩ packet').Escapes :=
      (onPacket_escapes_invoked_iff host launchedAt).mpr hsecond
    obtain ⟨e, he⟩ := PacketOutcome.handled_of_escapes hescapes
    refine ⟨e, ?_⟩
    rw [(onPacket_fresh_next_iff host launchedAt).mpr ⟨r, t, hi, rfl⟩]
    show LineReader.Progress.close _
      (LineReader.drain (workerReader host launchedAt) ⟨some r, t⟩ (line' ++ 10 :: rest')) = _
    rw [drain_workerReader host launchedAt hline', if_neg (by omega),
      onLine_packet host launchedAt hpacket', he]
    rfl

/-! ### The reader -/

/-- What the reader is for: one observation for every way the stream may arrive, an
assessment only where one was returned in time, and a limit on every line. -/
def ReadsSoundly (stream : List UInt8) : Prop :=
  ∃ o, (∀ channel : List ReceivedChunk, (channel.map Subtype.val).flatten = stream →
      readWorker host launchedAt channel = .ok o) ∧
    (∀ a, o.assessment = some a → AssessedFrom host launchedAt stream a o) ∧
    (ReadsLongLine host launchedAt stream → o.code = some outputLimit)

/-- Every stream may arrive byte by byte. -/
theorem exists_channel (stream : List UInt8) :
    ∃ channel : List ReceivedChunk, (channel.map Subtype.val).flatten = stream := by
  refine ⟨stream.map fun b => ⟨[b], List.cons_ne_nil b [], show 1 ≤ 65536 by decide⟩, ?_⟩
  rw [List.map_map]
  induction stream with
  | nil => rfl
  | cons b stream ih =>
    rw [List.map_cons, List.flatten_cons, ih]
    rfl

/-- **The reader is total and does not depend on the framing**, exactly when no time
that it reads is an integer out of the range of floats. -/
theorem readsSoundly_iff (stream : List UInt8) :
    ReadsSoundly host launchedAt stream ↔ ¬ ReadsTooLargeTime host launchedAt stream := by
  constructor
  · rintro ⟨o, hall, -, -⟩ hlarge
    obtain ⟨channel, rfl⟩ := exists_channel stream
    obtain ⟨e, he⟩ := wholeFrom_tooLarge host launchedAt hlarge
    have ho := hall channel rfl
    rw [readWorker_eq_whole, he] at ho
    cases ho
  · intro h
    obtain ⟨o, ho, hassessed, hlong⟩ := wholeFrom_fresh host launchedAt h
    refine ⟨o, fun channel hchannel => ?_, hassessed, hlong⟩
    rw [readWorker_eq_whole, hchannel, ho]

/-! ### A time out of range -/

namespace OverflowDemo

/-- The members of `{"kind":"blocked","startup_completed_at":…}`. -/
def blockedPacket (time : Int) : List (PyStr × RawJson) :=
  [(PyStr.lit "kind", .str (PyStr.lit "blocked")), (PyStr.lit "startup_completed_at", .int time)]

/-- The line of the packet whose time is the integer `10 ** 309`. -/
def blockedLine : List UInt8 :=
  utf8 ("\x7b\"kind\":\"blocked\",\"startup_completed_at\":1".toList ++ List.replicate 309 '0' ++
    "\x7d".toList)

/-- The standard library, on one line and what it reads as. -/
def stdlib (line : List UInt8) (raw : RawJson) : WorkerHost where
  decoder := ⟨fun l => if l = line then .ok raw else .error .valueError, fun _ => .error .valueError⟩
  floatOf := fun _ => none
  shown := fun _ => none

theorem stdlib_reads (line : List UInt8) (raw : RawJson) :
    (stdlib line raw).decoder.ofBytes line = .ok raw := if_pos rfl

/-- The host of the demonstration. -/
def overflowHost : WorkerHost := stdlib blockedLine (.obj (blockedPacket (10 ^ 309)))

theorem tooLarge_of_le {i : Int} (h : 2 ^ 1024 ≤ i) : TooLarge i := by
  have hfloat : Binary64.round (2 ^ (1024 : ℤ)) = 2 ^ (1024 : ℤ) := Binary64.round_zpow (by norm_num)
  have hpow : (2 : ℚ) ^ (1024 : ℤ) = 2 ^ 1024 := zpow_natCast 2 1024
  have hle : (2 : ℚ) ^ 1024 ≤ i := by
    have hcast : ((2 ^ 1024 : ℤ) : ℚ) ≤ i := Int.cast_le.mpr h
    rwa [Int.cast_pow, Int.cast_ofNat] at hcast
  rw [hpow] at hfloat
  have h0 : (0 : ℚ) ≤ 2 ^ 1024 := pow_nonneg zero_le_two 1024
  exact (Binary64.le_round hfloat h0 hle).trans (le_abs_self _)

theorem tooLarge : TooLarge (10 ^ 309) := tooLarge_of_le (by decide +kernel)

def loadedPacket (time : Int) : JsonMembers :=
  [(PyStr.lit "kind", .str (PyStr.lit "blocked")), (PyStr.lit "startup_completed_at", .int time)]

theorem loads_blockedPacket (time : Int) :
    loadsWith defaultHooks (.ok (.obj (blockedPacket time))) = .ok (.dict (loadedPacket time)) := by
  have hnot : PyStr.lit "startup_completed_at" ∉
      [(PyStr.lit "kind", JsonDoc.str (PyStr.lit "blocked"))].map Prod.fst := by decide +kernel
  have hdict : dictOf (loadedPacket time) = loadedPacket time := by
    show KeyedList.upsert Prod.fst (PyStr.lit "startup_completed_at", JsonDoc.int time)
      [(PyStr.lit "kind", JsonDoc.str (PyStr.lit "blocked"))] = _
    exact KeyedList.upsert_of_not_mem hnot
  rw [← hdict]
  rfl

theorem packet_blockedLine : packet? overflowHost blockedLine = .ok (loadedPacket (10 ^ 309)) := by
  rw [packet?, overflowHost, stdlib_reads, loads_blockedPacket]

theorem startup_loadedPacket (time : Int) :
    jsonGet (loadedPacket time) "startup_completed_at" = some (.int time) := by
  have hne : (PyStr.lit "startup_completed_at" == PyStr.lit "kind") = false := by decide +kernel
  rw [jsonGet, loadedPacket, List.lookup_cons, hne]
  exact List.lookup_cons_self

/-- A worker that says it is blocked, at a time that is no float. -/
theorem readWorker_overflow : ¬ ReadsSoundly overflowHost 0 (blockedLine ++ [10]) := by
  have hline : (10 : UInt8) ∉ blockedLine := by decide +kernel
  have hlen : blockedLine.length < reviewWireLimit := by decide +kernel
  have hkind : isKind (loadedPacket (10 ^ 309)) "blocked" = true := by decide +kernel
  have hlarge : ReadsTooLargeTime overflowHost 0 (blockedLine ++ [10]) :=
    ⟨[], loadedPacket (10 ^ 309), ⟨blockedLine, rfl, hline, hlen, packet_blockedLine⟩,
      Or.inl (Or.inr ⟨hkind, 10 ^ 309, startup_loadedPacket _, tooLarge⟩)⟩
  rintro ⟨o, hall, -, -⟩
  obtain ⟨channel, hchannel⟩ := exists_channel (blockedLine ++ [10])
  obtain ⟨e, he⟩ := wholeFrom_tooLarge overflowHost 0 hlarge
  have ho := hall channel hchannel
  rw [readWorker_eq_whole, hchannel, he] at ho
  cases ho

end OverflowDemo

end SkillsSdk
