/-
SkillsSdk/JudgeEvents.lean

The reading of a judge's output: `_decode_events` and `_validated_events`.

The output is one event a line, and the text of the one completed message is a
document of its own, the verdict.  The reader is a machine of two counters; what
it accepts is `JudgeOutput`, and everything else it refuses with a
`ContractError` (`decodeEvents_contract`).
-/
import SkillsSdk.JsonLoads
import SkillsSdk.JudgeLifecycle

namespace SkillsSdk

/-! ### Errors -/

def judgeProtocolInvalid : ContractError :=
  judgeError "codex_judge_protocol_invalid" "Codex judge returned invalid event or verdict data"

def judgeCompletedEarly : ContractError :=
  judgeError "codex_judge_incomplete" "Judge completed without one final result"

def judgeIncomplete : ContractError :=
  judgeError "codex_judge_incomplete" "Judge requires exactly one completed final result"

def judgeTurnFailed : ContractError :=
  judgeError "codex_judge_turn_failed" "Codex judge did not complete"

def judgeToolUse : ContractError :=
  judgeError "codex_judge_tool_use" "Judge attempted a non-judgment action"

def judgeAssertions : ContractError :=
  judgeError "codex_judge_assertions" "Judge returned unknown or repeated assertions"

/-- What `_validated_events` raises. -/
inductive JudgeRaised where
  | contract (e : ContractError)
  | exc (e : PyExc)
  deriving DecidableEq

/-! ### Lines and events -/

def splitByteLinesFrom : List UInt8 → List UInt8 → List (List UInt8)
  | [], line => if line = [] then [] else [line.reverse]
  | 13 :: 10 :: bs, line => line.reverse :: splitByteLinesFrom bs []
  | b :: bs, line =>
    if b = 10 ∨ b = 13 then line.reverse :: splitByteLinesFrom bs [] else splitByteLinesFrom bs (b :: line)

/-- `payload.splitlines()` of bytes. -/
def splitByteLines (payload : List UInt8) : List (List UInt8) := splitByteLinesFrom payload []

/-- A typed object. -/
structure JudgeEvent where
  kind : PyStr
  members : JsonMembers

namespace JudgeEvent

/-- `event.get("item", {})`. -/
def item (e : JudgeEvent) : JsonDoc := (jsonGet e.members "item").getD (.dict [])

end JudgeEvent

def turnCompleted : PyStr := PyStr.lit "turn.completed"

def itemCompleted : PyStr := PyStr.lit "item.completed"

def failureKinds : List PyStr := ["error", "turn.failed"].map PyStr.lit

def itemKinds : List PyStr := PyStr.lit "item.started" :: itemCompleted :: [PyStr.lit "item.updated"]

def startKinds : List PyStr := ["thread.started", "turn.started"].map PyStr.lit

def reasoning : PyStr := PyStr.lit "reasoning"

def agentMessage : PyStr := PyStr.lit "agent_message"

variable (decoder : JsonDecoder)

/-- One line: a document that encodes and is an object with a type. -/
def readEvent (line : List UInt8) : Except PyExc JudgeEvent :=
  match loadsWith judgeHooks (decoder.ofBytes line) with
  | .error e => .error e
  | .ok event =>
    if event.encodes = false then .error .valueError
    else
      match event with
      | .dict members =>
        match jsonGet members "type" with
        | some (.str kind) => .ok ⟨kind, members⟩
        | _ => .error .valueError
      | _ => .error .valueError

/-! ### The machine -/

structure EventScan where
  messages : List PyStr
  completed : Nat

/-- `item.get("type") not in {"reasoning", "agent_message"}`; a list or an object is
not hashable. -/
def checkItemType (type : Option JsonDoc) : Except JudgeRaised Unit :=
  match type with
  | some (.arr _) | some (.dict _) => .error (.exc .typeError)
  | some (.str s) => if s = reasoning ∨ s = agentMessage then .ok () else .error (.contract judgeToolUse)
  | _ => .error (.contract judgeToolUse)

/-- `kind == "item.completed" and item.get("type") == "agent_message"`. -/
def completesMessage (kind : PyStr) (item : JsonMembers) : Bool :=
  decide (kind = itemCompleted) &&
    match jsonGet item "type" with
    | some (.str s) => decide (s = agentMessage)
    | _ => false

/-- The branch of an item event. -/
def acceptItem (scan : EventScan) (kind : PyStr) (item : JsonMembers) : Except JudgeRaised EventScan :=
  match checkItemType (jsonGet item "type") with
  | .error e => .error e
  | .ok () =>
    if completesMessage kind item then
      match jsonGet item "text" with
      | some (.str text) => .ok { scan with messages := scan.messages ++ [text] }
      | _ => .error (.exc .valueError)
    else .ok scan

/-- The body of the loop, behind the reading of the event. -/
def acceptEvent (scan : EventScan) (event : JudgeEvent) : Except JudgeRaised EventScan :=
  if scan.completed ≠ 0 then .error (.exc .valueError)
  else if event.kind = turnCompleted then
    if scan.messages.length ≠ 1 then .error (.contract judgeCompletedEarly)
    else .ok { scan with completed := scan.completed + 1 }
  else if event.kind ∈ failureKinds then .error (.contract judgeTurnFailed)
  else if event.kind ∈ itemKinds then
    match event.item with
    | .dict item => acceptItem scan event.kind item
    | _ => .error (.exc .valueError)
  else if event.kind ∉ startKinds then .error (.exc .valueError)
  else .ok scan

/-- The loop over the lines. -/
def scanLines (scan : EventScan) : List (List UInt8) → Except JudgeRaised EventScan
  | [] => .ok scan
  | line :: lines =>
    match readEvent decoder line with
    | .error e => .error (.exc e)
    | .ok event =>
      match acceptEvent scan event with
      | .error e => .error e
      | .ok scan => scanLines scan lines

/-! ### The verdict -/

/-- `Field(strict=True, ge=0, le=1, allow_inf_nan=False)`: a number that is no boolean. -/
def verdictScore? : JsonDoc → Option { q : ℚ // 0 ≤ q ∧ q ≤ 1 }
  | .int i => if h : 0 ≤ (i : ℚ) ∧ (i : ℚ) ≤ 1 then some ⟨i, h⟩ else none
  | .float (.finite q) => if h : 0 ≤ q ∧ q ≤ 1 then some ⟨q, h⟩ else none
  | _ => none

/-- A `str` without a bound: the model takes any string, one that does not encode included. -/
def jsonString? : JsonDoc → Option PyStr
  | .str s => some s
  | _ => none

/-- `list[str]`. -/
def jsonStrings? : JsonDoc → Option (List PyStr)
  | .arr items => items.mapM jsonString?
  | _ => none

/-- A rationale has 1 to 4000 letters and is not blank. -/
def isRationale (t : Text) : Bool := decide (1 ≤ t.length) && decide (t.length ≤ 4000) && strip t != []

/-- The bounds on the length read the letters, so that here the string has to encode. -/
def rationale? (d : JsonDoc) : Option { t : Text // isRationale t = true } :=
  ((jsonString? d).bind PyStr.encode?).bind fun t => if h : isRationale t = true then some ⟨t, h⟩ else none

/-- `_Verdict`. -/
structure Verdict where
  score : { q : ℚ // 0 ≤ q ∧ q ≤ 1 }
  satisfiedAssertionIds : List PyStr
  rationale : { t : Text // isRationale t = true }

def verdictFields : List PyStr := ["score", "satisfied_assertion_ids", "rationale"].map PyStr.lit

/-- `_Verdict.model_validate`, where `extra="forbid"`. -/
def verdict? : JsonDoc → Option Verdict
  | .dict members =>
    if members.all (fun m => decide (m.1 ∈ verdictFields)) then do
      let score ← (jsonGet members "score").bind verdictScore?
      let ids ← (jsonGet members "satisfied_assertion_ids").bind jsonStrings?
      let rationale ← (jsonGet members "rationale").bind rationale?
      some ⟨score, ids, rationale⟩
    else none
  | _ => none

/-- The end of `_validated_events`, on the text of the message. -/
def readVerdict (text : PyStr) (assertionIds : List PyStr) : Except JudgeRaised Verdict :=
  match loadsWith judgeHooks (decoder.ofText text) with
  | .error e => .error (.exc e)
  | .ok d =>
    match verdict? d with
    | none => .error (.exc .valueError)
    | some verdict =>
      if ¬ verdict.satisfiedAssertionIds.Nodup ∨
          ¬ ∀ id ∈ verdict.satisfiedAssertionIds, id ∈ assertionIds then
        .error (.contract judgeAssertions)
      else .ok verdict

/-- `_validated_events`. -/
def validatedEvents (payload : List UInt8) (assertionIds : List PyStr) : Except JudgeRaised Verdict :=
  match scanLines decoder ⟨[], 0⟩ (splitByteLines payload) with
  | .error e => .error e
  | .ok ⟨messages, completed⟩ =>
    match messages with
    | [text] =>
      if completed ≠ 1 then .error (.contract judgeIncomplete)
      else readVerdict decoder text assertionIds
    | _ => .error (.contract judgeIncomplete)

/-- `except (ValueError, TypeError, AttributeError, KeyError, UnicodeError, RecursionError)`. -/
def handledByDecoder : PyExc → Bool
  | .valueError | .unicodeDecodeError | .typeError | .keyError | .recursionError => true
  | .osError | .yamlError | .other => false

/-- `_decode_events`. -/
def decodeEvents (payload : List UInt8) (assertionIds : List PyStr) : Except JudgeRaised Verdict :=
  match validatedEvents decoder payload assertionIds with
  | .ok verdict => .ok verdict
  | .error (.contract e) => .error (.contract e)
  | .error (.exc e) =>
    if handledByDecoder e then .error (.contract judgeProtocolInvalid) else .error (.exc e)

/-! ### What is accepted -/

namespace JudgeEvent

/-- The event carries reasoning or an agent message. -/
def CarriesMessage (e : JudgeEvent) : Prop :=
  ∃ item, e.item = .dict item ∧
    (jsonGet item "type" = some (.str reasoning) ∨ jsonGet item "type" = some (.str agentMessage))

/-- The text of the agent message that the event completes. -/
def completedMessage (e : JudgeEvent) : Option JsonDoc :=
  match e.item with
  | .dict item =>
    if completesMessage e.kind item then some ((jsonGet item "text").getD .null) else none
  | _ => none

/-- An event that may stand before the last. -/
structure Plain (e : JudgeEvent) : Prop where
  known : e.kind ∈ startKinds ∨ e.kind ∈ itemKinds
  carries : e.kind ∈ itemKinds → e.CarriesMessage

end JudgeEvent

/-- The line is an object with a string type, unique members at every depth, finite
numbers and text that encodes. -/
def IsEvent (line : List UInt8) (e : JudgeEvent) : Prop :=
  ∃ raw, decoder.ofBytes line = .ok raw ∧ raw.Strict ∧ raw.value = .dict e.members ∧
    raw.value.encodes = true ∧ jsonGet e.members "type" = some (.str e.kind)

/-- The text is a document without repeated members that is a verdict on the assertions. -/
def IsVerdict (text : PyStr) (assertionIds : List PyStr) (verdict : Verdict) : Prop :=
  ∃ raw, decoder.ofText text = .ok raw ∧ raw.Strict ∧ verdict? raw.value = some verdict ∧
    verdict.satisfiedAssertionIds.Nodup ∧
    ∀ id ∈ verdict.satisfiedAssertionIds, id ∈ assertionIds

/-- An output that the protocol allows: events of which the last and no other completes
the turn, with one completed message, and a verdict in it. -/
def JudgeOutput (payload : List UInt8) (assertionIds : List PyStr) (verdict : Verdict) : Prop :=
  ∃ before last text, List.Forall₂ (IsEvent decoder) (splitByteLines payload) (before ++ [last]) ∧
    last.kind = turnCompleted ∧ (∀ e ∈ before, e.Plain) ∧
    before.filterMap JudgeEvent.completedMessage = [.str text] ∧
    IsVerdict decoder text assertionIds verdict

/-! ### Kinds -/

theorem itemKinds_facts {kind : PyStr} (h : kind ∈ itemKinds) :
    kind ≠ turnCompleted ∧ kind ∉ failureKinds := by
  have hall : itemKinds.all (fun k => decide (k ≠ turnCompleted) && decide (k ∉ failureKinds)) = true := by
    decide +kernel
  simpa using List.all_eq_true.mp hall kind h

theorem startKinds_facts {kind : PyStr} (h : kind ∈ startKinds) :
    kind ≠ turnCompleted ∧ kind ∉ failureKinds ∧ kind ∉ itemKinds := by
  have hall : startKinds.all (fun k =>
      decide (k ≠ turnCompleted) && decide (k ∉ failureKinds) && decide (k ∉ itemKinds)) = true := by
    decide +kernel
  simpa [and_assoc] using List.all_eq_true.mp hall kind h

theorem itemCompleted_mem : itemCompleted ∈ itemKinds := List.mem_cons_of_mem _ List.mem_cons_self

/-! ### The machine and the protocol -/

variable {decoder}

theorem readEvent_eq_ok_iff {line : List UInt8} {e : JudgeEvent} :
    readEvent decoder line = .ok e ↔ IsEvent decoder line e := by
  rw [readEvent]
  constructor
  · intro h
    split at h
    case h_1 => cases h
    case h_2 event hevent =>
      obtain ⟨raw, hread, hstrict, rfl⟩ := loadsWith_eq_ok_iff.mp hevent
      split at h
      case isTrue => cases h
      case isFalse hencodes =>
        rw [Bool.not_eq_false] at hencodes
        split at h
        case h_1 members hvalue =>
          split at h
          case h_1 kind hkind =>
            obtain rfl := Except.ok.inj h
            exact ⟨raw, hread, hstrict, hvalue, hencodes, hkind⟩
          case h_2 => cases h
        case h_2 => cases h
  · rintro ⟨raw, hread, hstrict, hvalue, hencodes, hkind⟩
    have hload : loadsWith judgeHooks (decoder.ofBytes line) = .ok raw.value :=
      loadsWith_eq_ok_iff.mpr ⟨raw, hread, hstrict, rfl⟩
    rw [hload]
    dsimp only
    rw [if_neg (by simp [hencodes]), hvalue]
    dsimp only
    rw [hkind]

theorem checkItemType_eq_ok_iff {type : Option JsonDoc} :
    checkItemType type = .ok () ↔ type = some (.str reasoning) ∨ type = some (.str agentMessage) := by
  unfold checkItemType
  constructor
  · intro h
    split at h
    case h_3 s =>
      split at h
      case isTrue hs => exact hs.imp (congrArg fun s => some (JsonDoc.str s)) (congrArg fun s => some (JsonDoc.str s))
      case isFalse => cases h
    all_goals cases h
  · rintro (rfl | rfl)
    · exact if_pos (Or.inl rfl)
    · exact if_pos (Or.inr rfl)

/-- The texts that a plain event adds. -/
def AddsTexts (e : JudgeEvent) (texts : List PyStr) : Prop :=
  e.completedMessage.toList = texts.map JsonDoc.str

theorem acceptItem_eq_ok_iff {scan scan' : EventScan} {e : JudgeEvent} {item : JsonMembers}
    (hitem : e.item = .dict item) :
    acceptItem scan e.kind item = .ok scan' ↔
      e.CarriesMessage ∧ ∃ texts, AddsTexts e texts ∧
        scan' = { scan with messages := scan.messages ++ texts } := by
  have hcarries : e.CarriesMessage ↔ checkItemType (jsonGet item "type") = .ok () := by
    rw [checkItemType_eq_ok_iff]
    constructor
    · rintro ⟨item', h, htype⟩
      obtain rfl := JsonDoc.dict.inj (hitem.symm.trans h)
      exact htype
    · exact fun htype => ⟨item, hitem, htype⟩
  have hmessage : e.completedMessage =
      if completesMessage e.kind item then some ((jsonGet item "text").getD .null) else none := by
    rw [JudgeEvent.completedMessage, hitem]
  simp only [hcarries, acceptItem, AddsTexts, hmessage]
  cases hcheck : checkItemType (jsonGet item "type") with
  | error err => exact iff_of_false nofun fun h => by cases h.1
  | ok u =>
    dsimp only
    rw [and_iff_right rfl]
    -- only a completed agent message adds a text
    by_cases hcompletes : completesMessage e.kind item = true
    · rw [if_pos hcompletes, if_pos hcompletes]
      constructor
      · intro h
        split at h
        case h_1 text htext =>
          obtain rfl := Except.ok.inj h
          exact ⟨[text], by rw [htext]; rfl, rfl⟩
        case h_2 => cases h
      · rintro ⟨texts, htexts, rfl⟩
        rcases texts with - | ⟨text, - | ⟨_, _⟩⟩
        · exact absurd (congrArg List.length htexts) (by simp)
        · have hget : (jsonGet item "text").getD .null = .str text := (List.cons.inj htexts).1
          have htext : jsonGet item "text" = some (.str text) := by
            cases hdoc : jsonGet item "text" with
            | none =>
              rw [hdoc] at hget
              cases hget
            | some d =>
              rw [hdoc] at hget
              exact congrArg some hget
          rw [htext]
        · exact absurd (congrArg List.length htexts) (by simp)
    · rw [if_neg hcompletes, if_neg hcompletes]
      constructor
      · intro h
        obtain rfl := Except.ok.inj h
        exact ⟨[], rfl, by rw [List.append_nil]⟩
      · rintro ⟨texts, htexts, rfl⟩
        obtain rfl : texts = [] := List.map_eq_nil_iff.mp htexts.symm
        rw [List.append_nil]

theorem completedMessage_of_not_item {e : JudgeEvent} (h : e.kind ∉ itemKinds) :
    e.completedMessage = none := by
  have hkind : e.kind ≠ itemCompleted := fun he => h (he ▸ itemCompleted_mem)
  rw [JudgeEvent.completedMessage]
  split
  · rw [completesMessage, decide_eq_false hkind, Bool.false_and]
    rfl
  · rfl

/-- One event before the turn is completed. -/
theorem acceptEvent_eq_ok_iff {messages : List PyStr} {e : JudgeEvent} {scan' : EventScan} :
    acceptEvent ⟨messages, 0⟩ e = .ok scan' ↔
      (e.kind = turnCompleted ∧ messages.length = 1 ∧ scan' = ⟨messages, 1⟩) ∨
      (e.Plain ∧ ∃ texts, AddsTexts e texts ∧ scan' = ⟨messages ++ texts, 0⟩) := by
  rw [acceptEvent, if_neg (not_not.mpr rfl)]
  -- the kinds in the order of the source: the turn, failures, items, starts
  by_cases hturn : e.kind = turnCompleted
  · have hplain : ¬ e.Plain := by
      rintro ⟨hknown | hknown, -⟩
      · exact (startKinds_facts hknown).1 hturn
      · exact (itemKinds_facts hknown).1 hturn
    rw [if_pos hturn]
    constructor
    · intro h
      split at h
      case isTrue => cases h
      case isFalse hone => exact Or.inl ⟨hturn, not_not.mp hone, (Except.ok.inj h).symm⟩
    · rintro (⟨-, hone, rfl⟩ | ⟨h, -⟩)
      · rw [if_neg (not_not.mpr hone)]
      · exact absurd h hplain
  rw [if_neg hturn]
  by_cases hfailure : e.kind ∈ failureKinds
  · rw [if_pos hfailure]
    refine iff_of_false nofun ?_
    rintro (⟨h, -⟩ | ⟨⟨hknown | hknown, -⟩, -⟩)
    · exact hturn h
    · exact (startKinds_facts hknown).2.1 hfailure
    · exact (itemKinds_facts hknown).2 hfailure
  rw [if_neg hfailure]
  by_cases hitem : e.kind ∈ itemKinds
  · rw [if_pos hitem]
    constructor
    · intro h
      split at h
      case h_1 item hdict =>
        obtain ⟨hcarries, texts, htexts, rfl⟩ := (acceptItem_eq_ok_iff hdict).mp h
        exact Or.inr ⟨⟨Or.inr hitem, fun _ => hcarries⟩, texts, htexts, rfl⟩
      case h_2 => cases h
    · rintro (⟨h, -⟩ | ⟨hplain, texts, htexts, rfl⟩)
      · exact absurd h hturn
      · obtain ⟨item, hdict, htype⟩ := hplain.carries hitem
        rw [hdict]
        exact (acceptItem_eq_ok_iff hdict).mpr ⟨⟨item, hdict, htype⟩, texts, htexts, rfl⟩
  rw [if_neg hitem]
  -- an event that is no item has no text to add
  have hnone := completedMessage_of_not_item hitem
  by_cases hstart : e.kind ∈ startKinds
  · rw [if_neg (not_not.mpr hstart)]
    constructor
    · intro h
      obtain rfl := Except.ok.inj h
      refine Or.inr ⟨⟨Or.inl hstart, fun h => absurd h hitem⟩, [], ?_, by rw [List.append_nil]⟩
      rw [AddsTexts, hnone]
      rfl
    · rintro (⟨h, -⟩ | ⟨-, texts, htexts, rfl⟩)
      · exact absurd h hturn
      · rw [AddsTexts, hnone] at htexts
        obtain rfl : texts = [] := List.map_eq_nil_iff.mp htexts.symm
        rw [List.append_nil]
  · rw [if_pos hstart]
    refine iff_of_false nofun ?_
    rintro (⟨h, -⟩ | ⟨⟨hknown | hknown, -⟩, -⟩)
    · exact hturn h
    · exact hstart hknown
    · exact hitem hknown

/-- Behind the completed turn no line is read. -/
theorem scanLines_completed {messages : List PyStr} {lines : List (List UInt8)} {scan' : EventScan} :
    scanLines decoder ⟨messages, 1⟩ lines = .ok scan' ↔ lines = [] ∧ scan' = ⟨messages, 1⟩ := by
  cases lines with
  | nil =>
    rw [scanLines, and_iff_right rfl, Except.ok.injEq, eq_comm]
  | cons line lines =>
    refine iff_of_false ?_ nofun
    rw [scanLines]
    split
    · exact nofun
    · rw [acceptEvent, if_pos (show (1 : Nat) ≠ 0 from Nat.one_ne_zero)]
      exact nofun

/-- The lines that lead to one message and a completed turn. -/
theorem scanLines_eq_ok_iff {messages : List PyStr} {lines : List (List UInt8)} {text : PyStr} :
    scanLines decoder ⟨messages, 0⟩ lines = .ok ⟨[text], 1⟩ ↔
      ∃ before last, List.Forall₂ (IsEvent decoder) lines (before ++ [last]) ∧
        last.kind = turnCompleted ∧ (∀ e ∈ before, e.Plain) ∧
        messages.map JsonDoc.str ++ before.filterMap JudgeEvent.completedMessage = [.str text] := by
  induction lines generalizing messages with
  | nil =>
    refine iff_of_false ?_ ?_
    · rw [scanLines]
      intro h
      have := congrArg EventScan.completed (Except.ok.inj h)
      cases this
    · rintro ⟨before, last, h, -⟩
      have := List.forall₂_nil_left_iff.mp h
      simp at this
  | cons line lines ih =>
    rw [scanLines]
    constructor
    · intro h
      split at h
      case h_1 => cases h
      case h_2 e he =>
        have hevent := readEvent_eq_ok_iff.mp he
        split at h
        case h_1 => cases h
        case h_2 scan hscan =>
          rcases acceptEvent_eq_ok_iff.mp hscan with ⟨hturn, -, rfl⟩ | ⟨hplain, texts, htexts, rfl⟩
          · obtain ⟨rfl, hmessages⟩ := scanLines_completed.mp h
            obtain rfl : [text] = messages := congrArg EventScan.messages hmessages
            exact ⟨[], e, .cons hevent .nil, hturn, by simp, rfl⟩
          · obtain ⟨before, last, hforall, hturn, hbefore, hmessages⟩ := ih.mp h
            refine ⟨e :: before, last, .cons hevent hforall, hturn, ?_, ?_⟩
            · exact List.forall_mem_cons.mpr ⟨hplain, hbefore⟩
            · rw [List.map_append, ← htexts, List.append_assoc] at hmessages
              rw [← hmessages, List.filterMap_cons]
              cases e.completedMessage <;> rfl
    · rintro ⟨before, last, hforall, hturn, hbefore, hmessages⟩
      cases before with
      | nil =>
        obtain ⟨hevent, hlines⟩ := List.forall₂_cons.mp hforall
        obtain rfl := List.forall₂_nil_right_iff.mp hlines
        have hone : messages = [text] := by
          rw [List.filterMap_nil, List.append_nil] at hmessages
          rcases messages with - | ⟨m, - | ⟨_, _⟩⟩
          · cases hmessages
          · rw [JsonDoc.str.inj (List.cons.inj hmessages).1]
          · cases hmessages
        rw [readEvent_eq_ok_iff.mpr hevent]
        dsimp only
        have hscan : acceptEvent ⟨messages, 0⟩ last = .ok ⟨messages, 1⟩ :=
          acceptEvent_eq_ok_iff.mpr (Or.inl ⟨hturn, by rw [hone]; rfl, rfl⟩)
        rw [hscan]
        exact scanLines_completed.mpr ⟨rfl, by rw [hone]⟩
      | cons e before =>
        obtain ⟨hevent, hlines⟩ := List.forall₂_cons.mp hforall
        obtain ⟨hplain, hbefore⟩ := List.forall_mem_cons.mp hbefore
        -- the texts of the first event are among those of all
        have hadds : ∃ texts, AddsTexts e texts := by
          cases hmessage : e.completedMessage with
          | none => exact ⟨[], by rw [AddsTexts, hmessage]; rfl⟩
          | some d =>
            have hmem : d ∈ messages.map JsonDoc.str ++
                (e :: before).filterMap JudgeEvent.completedMessage :=
              List.mem_append_right _ (List.mem_filterMap.mpr ⟨e, List.mem_cons_self, hmessage⟩)
            rw [hmessages, List.mem_singleton] at hmem
            exact ⟨[text], by rw [AddsTexts, hmessage, hmem]; rfl⟩
        obtain ⟨texts, htexts⟩ := hadds
        rw [readEvent_eq_ok_iff.mpr hevent]
        dsimp only
        have hscan : acceptEvent ⟨messages, 0⟩ e = .ok ⟨messages ++ texts, 0⟩ :=
          acceptEvent_eq_ok_iff.mpr (Or.inr ⟨hplain, texts, htexts, rfl⟩)
        rw [hscan]
        refine ih.mpr ⟨before, last, hlines, hturn, hbefore, ?_⟩
        rw [List.map_append, ← htexts, List.append_assoc, ← hmessages, List.filterMap_cons]
        cases e.completedMessage <;> rfl

theorem readVerdict_eq_ok_iff {text : PyStr} {assertionIds : List PyStr} {verdict : Verdict} :
    readVerdict decoder text assertionIds = .ok verdict ↔
      IsVerdict decoder text assertionIds verdict := by
  rw [readVerdict]
  constructor
  · intro h
    split at h
    case h_1 => cases h
    case h_2 d hd =>
      obtain ⟨raw, hread, hstrict, rfl⟩ := loadsWith_eq_ok_iff.mp hd
      split at h
      case h_1 => cases h
      case h_2 v hv =>
        split at h
        case isTrue => cases h
        case isFalse hids =>
          obtain rfl := Except.ok.inj h
          rw [not_or, not_not, not_not] at hids
          exact ⟨raw, hread, hstrict, hv, hids⟩
  · rintro ⟨raw, hread, hstrict, hv, hids⟩
    have hload : loadsWith judgeHooks (decoder.ofText text) = .ok raw.value :=
      loadsWith_eq_ok_iff.mpr ⟨raw, hread, hstrict, rfl⟩
    rw [hload]
    dsimp only
    rw [hv]
    dsimp only
    rw [if_neg]
    rw [not_or, not_not, not_not]
    exact hids

theorem validatedEvents_eq_ok_iff {payload : List UInt8} {assertionIds : List PyStr} {verdict : Verdict} :
    validatedEvents decoder payload assertionIds = .ok verdict ↔
      JudgeOutput decoder payload assertionIds verdict := by
  rw [validatedEvents]
  constructor
  · intro h
    split at h
    case h_1 => cases h
    case h_2 messages completed hscan =>
      split at h
      case h_1 text =>
        split at h
        case isTrue => cases h
        case isFalse hone =>
          rw [not_not] at hone
          subst hone
          obtain ⟨before, last, hforall, hturn, hbefore, hmessages⟩ := scanLines_eq_ok_iff.mp hscan
          exact ⟨before, last, text, hforall, hturn, hbefore, hmessages, readVerdict_eq_ok_iff.mp h⟩
      case h_2 => cases h
  · rintro ⟨before, last, text, hforall, hturn, hbefore, hmessages, hverdict⟩
    have hscan : scanLines decoder ⟨[], 0⟩ (splitByteLines payload) = .ok ⟨[text], 1⟩ :=
      scanLines_eq_ok_iff.mpr ⟨before, last, hforall, hturn, hbefore, hmessages⟩
    rw [hscan]
    dsimp only
    rw [if_neg (not_not.mpr rfl)]
    exact readVerdict_eq_ok_iff.mpr hverdict

/-! ### What is raised -/

/-- What the computation raises is a `ContractError`, or is made one. -/
def Handled {α : Type*} (x : Except JudgeRaised α) : Prop :=
  ∀ e, x = .error (.exc e) → handledByDecoder e = true

theorem handledByDecoder_exc (fault : JsonFault) : handledByDecoder fault.exc = true := by
  cases fault <;> rfl

theorem handledByDecoder_load {read : Except JsonFault RawJson} {e : PyExc}
    (h : loadsWith judgeHooks read = .error e) : handledByDecoder e = true := by
  obtain ⟨fault, rfl⟩ := loadsWith_eq_error judgeHooks_raisesValueErrors h
  exact handledByDecoder_exc fault

theorem readEvent_handled {line : List UInt8} {e : PyExc} (h : readEvent decoder line = .error e) :
    handledByDecoder e = true := by
  rw [readEvent] at h
  split at h
  case h_1 e' he =>
    obtain rfl := Except.error.inj h
    exact handledByDecoder_load he
  case h_2 =>
    split at h
    · obtain rfl := Except.error.inj h
      rfl
    · split at h
      · split at h
        · cases h
        · obtain rfl := Except.error.inj h
          rfl
      · obtain rfl := Except.error.inj h
        rfl

theorem acceptItem_handled (scan : EventScan) (kind : PyStr) (item : JsonMembers) :
    Handled (acceptItem scan kind item) := by
  intro e h
  rw [acceptItem] at h
  split at h
  case h_1 e' he =>
    obtain rfl := Except.error.inj h
    unfold checkItemType at he
    split at he
    case h_3 => split at he <;> cases he
    all_goals first | cases he; rfl | cases he
  case h_2 =>
    split at h
    · split at h
      · cases h
      · cases h
        rfl
    · cases h

theorem acceptEvent_handled (scan : EventScan) (event : JudgeEvent) :
    Handled (acceptEvent scan event) := by
  intro e h
  rw [acceptEvent] at h
  split at h
  · cases h
    rfl
  split at h
  · split at h <;> cases h
  split at h
  · cases h
  split at h
  · split at h
    · exact acceptItem_handled _ _ _ e h
    · cases h
      rfl
  split at h
  · cases h
    rfl
  · cases h

theorem scanLines_handled (lines : List (List UInt8)) (scan : EventScan) :
    Handled (scanLines decoder scan lines) := by
  induction lines generalizing scan with
  | nil => exact nofun
  | cons line lines ih =>
    intro e h
    rw [scanLines] at h
    split at h
    case h_1 e' he =>
      cases h
      exact readEvent_handled he
    case h_2 event _ =>
      split at h
      case h_1 e' he =>
        cases h
        exact acceptEvent_handled scan event e he
      case h_2 => exact ih _ e h

theorem validatedEvents_handled (payload : List UInt8) (assertionIds : List PyStr) :
    Handled (validatedEvents decoder payload assertionIds) := by
  intro e h
  rw [validatedEvents] at h
  split at h
  case h_1 e' he =>
    cases h
    exact scanLines_handled _ _ e he
  case h_2 =>
    split at h
    · split at h
      · cases h
      · rw [readVerdict] at h
        split at h
        case h_1 e' he =>
          cases h
          exact handledByDecoder_load he
        case h_2 =>
          split at h
          · cases h
            rfl
          · split at h <;> cases h
    · cases h

/-! ### The decoder -/

theorem decodeEvents_eq_ok_iff {payload : List UInt8} {assertionIds : List PyStr} {verdict : Verdict} :
    decodeEvents decoder payload assertionIds = .ok verdict ↔
      validatedEvents decoder payload assertionIds = .ok verdict := by
  rw [decodeEvents]
  cases validatedEvents decoder payload assertionIds with
  | ok v => exact Iff.rfl
  | error raised =>
    cases raised with
    | contract e => exact iff_of_false nofun nofun
    | exc e =>
      refine iff_of_false ?_ nofun
      dsimp only
      split <;> exact nofun

/-- **The event decoder accepts its protocol and nothing else**, and what it refuses it
refuses with a `ContractError`. -/
theorem decodeEvents_exact (decoder : JsonDecoder) (payload : List UInt8) (assertionIds : List PyStr) :
    (∀ verdict, decodeEvents decoder payload assertionIds = .ok verdict ↔
      JudgeOutput decoder payload assertionIds verdict) ∧
    ((¬ ∃ verdict, JudgeOutput decoder payload assertionIds verdict) →
      ∃ e, decodeEvents decoder payload assertionIds = .error (.contract e)) := by
  have hexact : ∀ verdict, decodeEvents decoder payload assertionIds = .ok verdict ↔
      JudgeOutput decoder payload assertionIds verdict := fun verdict =>
    decodeEvents_eq_ok_iff.trans validatedEvents_eq_ok_iff
  refine ⟨hexact, fun hnone => ?_⟩
  have hhandled := @validatedEvents_handled decoder payload assertionIds
  rw [decodeEvents]
  cases hvalid : validatedEvents decoder payload assertionIds with
  | ok verdict => exact absurd ⟨verdict, validatedEvents_eq_ok_iff.mp hvalid⟩ hnone
  | error raised =>
    cases raised with
    | contract e => exact ⟨e, rfl⟩
    | exc e =>
      dsimp only
      rw [if_pos (hhandled e hvalid)]
      exact ⟨_, rfl⟩

end SkillsSdk
