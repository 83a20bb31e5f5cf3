/-
SkillsSdk/CalibrationInput.lean

Raw calibration input: the audit of its members and its rebuilding.

The audit is a depth-first search over the identities of the containers, with
markers for the containers that are left.  What it holds as active is the path
from the input (`DepthFirst.Linked`), so the search meets an active container
exactly when it closes a cycle, and a container that was left before is skipped
whatever leads to it.  Its work boundary is its own: the members of the distinct
containers, and the depth of the walks that repeat none (`WithinNodes`,
`WithinDepth`).
-/
import Mathlib.Data.Fintype.Card
import Mathlib.Data.Prod.Lex
import SkillsSdk.FileNames
import SkillsSdk.Lib.DepthFirst
import SkillsSdk.Raising
import SkillsSdk.YamlValues

namespace SkillsSdk

open DepthFirst

/-! ### Objects -/

/-- A scalar of an exact type; a date is kept as its ISO text. -/
inductive CalibrationScalar where
  | none
  | str (s : PyStr)
  | bool (b : Bool)
  | int (i : Int)
  | float (f : PyFloat)
  | datetime (iso : Text)
  deriving DecidableEq

/-- What an identity is: members are identities again, and a key that is not exactly a
string is `none`. -/
inductive CalibrationObject (α : Type) where
  | scalar (value : CalibrationScalar)
  | bytes
  | mapping
  | foreign
  | list (items : List α)
  | tuple (items : List α)
  | dict (members : List (Option PyStr × α))
  | model (isCanonical hasUnknown : Bool) (members : List (Option PyStr × α))

namespace CalibrationObject

variable {α : Type}

/-- The members, in their order. -/
def members : CalibrationObject α → List α
  | list items => items
  | tuple items => items
  | dict ms => ms.map Prod.snd
  | model _ _ ms => ms.map Prod.snd
  | _ => []

/-- A plain list or tuple, a dictionary with string keys, or a scalar. -/
def IsPlain : CalibrationObject α → Prop
  | scalar _ => True
  | list _ => True
  | tuple _ => True
  | dict ms => ∀ m ∈ ms, m.1.isSome = true
  | _ => False

end CalibrationObject

/-- A `ValueError` of the audit or of the rebuilding. -/
inductive CalibrationFault where
  | boundary
  | bytes
  | mapping
  | foreign
  | cycle
  | model
  | unknownFields
  | keys
  | work
  deriving DecidableEq

def CalibrationFault.message : CalibrationFault → String
  | boundary => "calibration input exceeds its nesting or work boundary"
  | bytes => "calibration input must not coerce byte strings"
  | mapping => "calibration raw mappings require canonical dictionaries"
  | foreign => "calibration input requires canonical containers and scalars"
  | cycle => "calibration input contains a cycle"
  | model => "calibration requires canonical SDK model classes"
  | unknownFields => "copied calibration models contain unknown fields"
  | keys => "calibration input requires string dictionary keys"
  | work => "calibration input exceeds its work boundary"

variable {α : Type}

/-! ### The audit -/

/-- The members that a container is searched for, after its own checks. -/
def auditedMembers : CalibrationObject α → Except CalibrationFault (List α)
  | .model isCanonical hasUnknown ms =>
    if isCanonical then
      if hasUnknown then .error .unknownFields else .ok (ms.map Prod.snd)
    else .error .model
  | .dict ms => if ms.all (·.1.isSome) then .ok (ms.map Prod.snd) else .error .keys
  | object => .ok object.members

/-- The checks before the search looks at the identity: whether the object is a container. -/
def isContainer : CalibrationObject α → Except CalibrationFault Bool
  | .bytes => .error .bytes
  | .mapping => .error .mapping
  | .foreign => .error .foreign
  | .scalar _ => .ok false
  | _ => .ok true

theorem auditedMembers_eq_ok {object : CalibrationObject α} {ms : List α} (h : auditedMembers object = .ok ms) :
    ms = object.members := by
  unfold auditedMembers at h
  split at h
  · split_ifs at h
    exact (Except.ok.inj h).symm
  · split_ifs at h
    exact (Except.ok.inj h).symm
  · exact (Except.ok.inj h).symm

/-- A scalar has no members. -/
theorem members_of_isContainer {object : CalibrationObject α} (h : isContainer object = .ok false) :
    object.members = [] := by
  cases object with
  | scalar value => rfl
  | list items => cases h
  | tuple items => cases h
  | dict ms => cases h
  | model isCanonical hasUnknown ms => cases h
  | bytes => cases h
  | mapping => cases h
  | foreign => cases h

structure AuditState (α : Type) where
  search : Search α
  remaining : Nat := 4096

variable [DecidableEq α] (graph : α → CalibrationObject α)

/-- A container that is not active or completed is entered. -/
def enterContainer (s : AuditState α) (item : α) (depth : Nat) (rest : List (Entry α)) (members : List α) :
    Except CalibrationFault (Option (AuditState α)) :=
  if s.remaining - 1 < members.length then .error .work
  else .ok (some ⟨s.search.enter item members depth rest, s.remaining - 1⟩)

/-- The loop body for an entry that is not left. -/
def auditEntry (s : AuditState α) (item : α) (depth : Nat) (rest : List (Entry α)) :
    Except CalibrationFault (Option (AuditState α)) :=
  if s.remaining = 0 ∨ 32 < depth then .error .boundary
  else
    match isContainer (graph item) with
    | .error e => .error e
    | .ok false => .ok (some ⟨s.search.skip rest, s.remaining - 1⟩)
    | .ok true =>
      if item ∈ s.search.active then .error .cycle
      else if item ∈ s.search.completed then .ok (some ⟨s.search.skip rest, s.remaining - 1⟩)
      else auditedMembers (graph item) >>= enterContainer s item depth rest

/-- The loop body; an empty stack ends the loop. -/
def auditStep (s : AuditState α) : Except CalibrationFault (Option (AuditState α)) :=
  match s.search.stack with
  | [] => .ok none
  | ⟨item, _, true⟩ :: rest => .ok (some { s with search := s.search.leave item rest })
  | ⟨item, depth, false⟩ :: rest => auditEntry graph s item depth rest

/-! ### What a step does -/

/-- What a step does when it raises nothing. -/
inductive AuditStepped (s : AuditState α) : AuditState α → Prop
  | leave {item : α} {depth : Nat} {rest : List (Entry α)} (hstack : s.search.stack = ⟨item, depth, true⟩ :: rest) :
      AuditStepped s { s with search := s.search.leave item rest }
  | skip {item : α} {depth : Nat} {rest : List (Entry α)} (hstack : s.search.stack = ⟨item, depth, false⟩ :: rest)
      (hremaining : 0 < s.remaining) (hskip : (graph item).members = [] ∨ item ∈ s.search.completed) :
      AuditStepped s ⟨s.search.skip rest, s.remaining - 1⟩
  | enter {item : α} {depth : Nat} {rest : List (Entry α)} (hstack : s.search.stack = ⟨item, depth, false⟩ :: rest)
      (hremaining : 0 < s.remaining) (hactive : item ∉ s.search.active) (hcompleted : item ∉ s.search.completed) :
      AuditStepped s ⟨s.search.enter item (graph item).members depth rest, s.remaining - 1⟩

variable {graph} {s s' : AuditState α}

theorem auditEntry_cases {item : α} {depth : Nat} {rest : List (Entry α)}
    (hstack : s.search.stack = ⟨item, depth, false⟩ :: rest)
    (h : auditEntry graph s item depth rest = .ok (some s')) : AuditStepped graph s s' := by
  by_cases hboundary : s.remaining = 0 ∨ 32 < depth
  · rw [auditEntry, if_pos hboundary] at h
    cases h
  · rw [auditEntry, if_neg hboundary] at h
    rw [not_or, not_lt] at hboundary
    have hpos : 0 < s.remaining := Nat.pos_of_ne_zero hboundary.1
    rcases hkind : isContainer (graph item) with e | container
    · rw [hkind] at h
      cases h
    · rw [hkind] at h
      -- a leaf is counted and dropped; a container is entered once
      cases container with
      | false =>
        obtain rfl := Option.some.inj (Except.ok.inj h)
        exact AuditStepped.skip hstack hpos (Or.inl (members_of_isContainer hkind))
      | true =>
        dsimp only at h
        split_ifs at h with hactive hcompleted
        · obtain rfl := Option.some.inj (Except.ok.inj h)
          exact AuditStepped.skip hstack hpos (Or.inr hcompleted)
        · obtain ⟨ms, hms, h⟩ := bind_eq_ok_iff.mp h
          obtain rfl := auditedMembers_eq_ok hms
          rw [enterContainer] at h
          split_ifs at h
          obtain rfl := Option.some.inj (Except.ok.inj h)
          exact AuditStepped.enter hstack hpos hactive hcompleted

/-- Taking an entry does not end the loop. -/
theorem auditEntry_ne_none (item : α) (depth : Nat) (rest : List (Entry α)) :
    auditEntry graph s item depth rest ≠ .ok none := by
  intro h
  by_cases hboundary : s.remaining = 0 ∨ 32 < depth
  · rw [auditEntry, if_pos hboundary] at h
    cases h
  · rw [auditEntry, if_neg hboundary] at h
    rcases hkind : isContainer (graph item) with e | container
    · rw [hkind] at h
      cases h
    · rw [hkind] at h
      cases container with
      | false => cases h
      | true =>
        dsimp only at h
        split_ifs at h
        · cases h
        · obtain ⟨ms, -, h⟩ := bind_eq_ok_iff.mp h
          rw [enterContainer] at h
          split_ifs at h
          cases h

theorem auditStep_cases (h : auditStep graph s = .ok (some s')) : AuditStepped graph s s' := by
  rw [auditStep] at h
  split at h
  · cases h
  · rename_i item depth rest hstack
    obtain rfl := Option.some.inj (Except.ok.inj h)
    exact AuditStepped.leave hstack
  · rename_i item depth rest hstack
    exact auditEntry_cases hstack h

/-- A step leaves less to do: one entry less to take, or a shorter stack. -/
theorem auditStep_lt (h : auditStep graph s = .ok (some s')) :
    Prod.Lex (· < ·) (· < ·) (s'.remaining, s'.search.stack.length) (s.remaining, s.search.stack.length) := by
  cases auditStep_cases h with
  | leave hstack =>
    refine Prod.Lex.right _ ?_
    rw [hstack]
    exact Nat.lt_succ_self _
  | skip hstack hremaining hskip => exact Prod.Lex.left _ _ (Nat.sub_lt hremaining Nat.one_pos)
  | enter hstack hremaining hactive hcompleted => exact Prod.Lex.left _ _ (Nat.sub_lt hremaining Nat.one_pos)

variable (graph) in
/-- The loop of `_audit_copied_members`. -/
def auditLoop (s : AuditState α) : Except CalibrationFault Unit :=
  match _hstep : auditStep graph s with
  | .error e => .error e
  | .ok none => .ok ()
  | .ok (some s') => auditLoop s'
termination_by (s.remaining, s.search.stack.length)
decreasing_by exact auditStep_lt _hstep

variable (graph) in
/-- `_audit_copied_members`. -/
def auditCopiedMembers (value : α) : Except CalibrationFault Unit := auditLoop graph ⟨Search.start value, 4096⟩

/-! ### The search of the audit -/

/-- The members that the identities of the containers have in all. -/
def memberCount (graph : α → CalibrationObject α) (nodes : List α) : Nat :=
  (nodes.map fun a => (graph a).members.length).sum

/-- The entries that are still to be taken. -/
def pendingCount (stack : List (Entry α)) : Nat := (stack.filter fun e => !e.leaving).length

omit [DecidableEq α] in
theorem pendingCount_pushed_append {ms : List α} {depth : Nat} {stack : List (Entry α)} :
    pendingCount (pushed ms depth ++ stack) = ms.length + pendingCount stack := by
  induction ms with
  | nil => exact (Nat.zero_add _).symm
  | cons b ms ih =>
    show pendingCount (pushed ms depth ++ stack) + 1 = _
    rw [ih, List.length_cons]
    omega

variable (graph) in
/-- The search as the library has it, with the work that is left. -/
structure AuditInvariant (root : α) (s : AuditState α) : Prop where
  search : DepthFirst.Invariant (fun a => (graph a).members) root s.search
  tally : s.remaining + memberCount graph (s.search.active ++ s.search.completed) + 1 =
    4096 + pendingCount s.search.stack

variable {root : α}

omit [DecidableEq α] in
theorem AuditInvariant.start : AuditInvariant graph root ⟨Search.start root, 4096⟩ where
  search := DepthFirst.Invariant.start
  tally := rfl

/-- A step keeps the invariant. -/
theorem AuditInvariant.step (hs : AuditInvariant graph root s) (h : auditStep graph s = .ok (some s')) :
    AuditInvariant graph root s' := by
  have htally := hs.tally
  cases auditStep_cases h with
  | leave hstack =>
    refine ⟨hs.search.leave hstack, ?_⟩
    rw [hstack] at htally
    rw [memberCount, List.Perm.sum_nat ((hs.search.leave_perm hstack).map _)]
    exact htally
  | @skip item depth rest hstack hremaining hskip =>
    have hground : Grounded (fun a => (graph a).members) item := by
      rcases hskip with hnil | hcompleted
      · refine Acc.intro item fun b hb => ?_
        rw [show Edge (fun a => (graph a).members) item b = (b ∈ (graph item).members) from rfl, hnil] at hb
        cases hb
      · exact hs.search.grounded item hcompleted
    refine ⟨hs.search.skip hstack hground, ?_⟩
    have hpending : pendingCount s.search.stack = pendingCount rest + 1 := by
      rw [hstack]
      rfl
    show s.remaining - 1 + memberCount graph (s.search.active ++ s.search.completed) + 1 = 4096 + pendingCount rest
    omega
  | @enter item depth rest hstack hremaining hactive hcompleted =>
    -- the members that are pushed are the members that are now counted
    refine ⟨hs.search.enter hstack hactive hcompleted, ?_⟩
    have hpending : pendingCount s.search.stack = pendingCount rest + 1 := by
      rw [hstack]
      rfl
    have hpushed : pendingCount (s.search.enter item (graph item).members depth rest).stack =
        (graph item).members.length + pendingCount rest := by
      rw [Search.enter, pendingCount_pushed_append, List.length_reverse]
      rfl
    have hcount : memberCount graph ((s.search.enter item (graph item).members depth rest).active ++
        (s.search.enter item (graph item).members depth rest).completed) =
          (graph item).members.length + memberCount graph (s.search.active ++ s.search.completed) := by
      show ((item :: (s.search.active ++ s.search.completed)).map fun a => (graph a).members.length).sum = _
      rw [List.map_cons, List.sum_cons]
      rfl
    show s.remaining - 1 + memberCount graph _ + 1 = 4096 + pendingCount _
    rw [hpushed, hcount]
    omega

/-- Why a step raises. -/
inductive AuditFailed (graph : α → CalibrationObject α) (s : AuditState α) (item : α) (depth : Nat) :
    CalibrationFault → Prop
  | boundary (h : s.remaining = 0 ∨ 32 < depth) : AuditFailed graph s item depth .boundary
  | cycle (h : item ∈ s.search.active) : AuditFailed graph s item depth .cycle
  | work (hactive : item ∉ s.search.active) (hcompleted : item ∉ s.search.completed)
      (h : s.remaining - 1 < (graph item).members.length) : AuditFailed graph s item depth .work
  | notPlain {e : CalibrationFault} (h : ¬ (graph item).IsPlain) (he : e ≠ .cycle) : AuditFailed graph s item depth e

omit [DecidableEq α] in
theorem auditedMembers_error {object : CalibrationObject α} {e : CalibrationFault}
    (h : auditedMembers object = .error e) : ¬ object.IsPlain ∧ e ≠ .cycle := by
  unfold auditedMembers at h
  split at h
  · split_ifs at h
    · obtain rfl := Except.error.inj h
      exact ⟨id, by decide⟩
    · obtain rfl := Except.error.inj h
      exact ⟨id, by decide⟩
  · split_ifs at h with hkeys
    obtain rfl := Except.error.inj h
    exact ⟨fun hplain => hkeys (List.all_eq_true.mpr hplain), by decide⟩
  · cases h

omit [DecidableEq α] in
theorem isContainer_error {object : CalibrationObject α} {e : CalibrationFault}
    (h : isContainer object = .error e) : ¬ object.IsPlain ∧ e ≠ .cycle := by
  unfold isContainer at h
  split at h
  · obtain rfl := Except.error.inj h
    exact ⟨id, by decide⟩
  · obtain rfl := Except.error.inj h
    exact ⟨id, by decide⟩
  · obtain rfl := Except.error.inj h
    exact ⟨id, by decide⟩
  · cases h
  · cases h

theorem auditStep_error {e : CalibrationFault} (h : auditStep graph s = .error e) :
    ∃ item depth rest, s.search.stack = ⟨item, depth, false⟩ :: rest ∧ AuditFailed graph s item depth e := by
  rw [auditStep] at h
  split at h
  · cases h
  · cases h
  · rename_i item depth rest hstack
    refine ⟨item, depth, rest, hstack, ?_⟩
    by_cases hboundary : s.remaining = 0 ∨ 32 < depth
    · rw [auditEntry, if_pos hboundary] at h
      obtain rfl := Except.error.inj h
      exact AuditFailed.boundary hboundary
    · rw [auditEntry, if_neg hboundary] at h
      rcases hkind : isContainer (graph item) with e' | container
      · rw [hkind] at h
        obtain rfl := Except.error.inj h
        exact AuditFailed.notPlain (isContainer_error hkind).1 (isContainer_error hkind).2
      · rw [hkind] at h
        cases container with
        | false => cases h
        | true =>
          dsimp only at h
          split_ifs at h with hactive hcompleted
          · obtain rfl := Except.error.inj h
            exact AuditFailed.cycle hactive
          · rcases bind_eq_error_iff.mp h with h | ⟨ms, hms, h⟩
            · exact AuditFailed.notPlain (auditedMembers_error h).1 (auditedMembers_error h).2
            · obtain rfl := auditedMembers_eq_ok hms
              rw [enterContainer] at h
              split_ifs at h with hwork
              obtain rfl := Except.error.inj h
              exact AuditFailed.work hactive hcompleted hwork

/-! ### What the audit decides -/

/-- The work boundary of the graph itself: its distinct containers have no more than 4095
members in all. -/
def WithinNodes (graph : α → CalibrationObject α) (root : α) : Prop :=
  ∀ nodes : List α, nodes.Nodup → (∀ a ∈ nodes, Reaches (fun a => (graph a).members) root a) →
    memberCount graph nodes + 1 ≤ 4096

/-- The depth boundary: a walk that repeats no container before its last has no more than 32 edges. -/
def WithinDepth (graph : α → CalibrationObject α) (root : α) : Prop :=
  ∀ p : List α, Walk (fun a => (graph a).members) root p → p.tail.Nodup → p.length ≤ 33

/-- Within the boundaries a step raises nothing but the cycle error. -/
theorem AuditInvariant.error_eq_cycle {e : CalibrationFault} (hs : AuditInvariant graph root s)
    (hplain : ∀ a, Reaches (fun a => (graph a).members) root a → (graph a).IsPlain)
    (hnodes : WithinNodes graph root) (hdepth : WithinDepth graph root) (h : auditStep graph s = .error e) :
    e = .cycle := by
  obtain ⟨item, depth, rest, hstack, hfailed⟩ := auditStep_error h
  have hwalk := hs.search.walk hstack
  have htally := hs.tally
  have hpending : pendingCount s.search.stack = pendingCount rest + 1 := by
    rw [hstack]
    rfl
  have hvisited := hnodes _ hs.search.nodup hs.search.reached
  cases hfailed with
  | boundary hboundary =>
    have hactive : s.search.active.Nodup := (List.nodup_append.mp hs.search.nodup).1
    have hlength := hdepth _ hwalk.1 hactive
    rw [List.length_cons, hwalk.2] at hlength
    omega
  | cycle hactive => rfl
  | work hactive hcompleted hwork =>
    have hnew : (item :: (s.search.active ++ s.search.completed)).Nodup :=
      List.nodup_cons.mpr ⟨fun hmem => (List.mem_append.mp hmem).elim hactive hcompleted, hs.search.nodup⟩
    have hwith := hnodes _ hnew (List.forall_mem_cons.mpr ⟨hwalk.1.reaches, hs.search.reached⟩)
    have hcount : memberCount graph (item :: (s.search.active ++ s.search.completed)) =
        (graph item).members.length + memberCount graph (s.search.active ++ s.search.completed) := List.sum_cons
    omega
  | notPlain hnot he => exact absurd (hplain item hwalk.1.reaches) hnot

theorem auditLoop_of_error {e : CalibrationFault} (h : auditStep graph s = .error e) :
    auditLoop graph s = .error e := by
  rw [auditLoop]
  split
  · rename_i e' h'
    rw [h] at h'
    rw [Except.error.inj h']
  · rename_i h'
    rw [h] at h'
    cases h'
  · rename_i t h'
    rw [h] at h'
    cases h'

theorem auditLoop_of_none (h : auditStep graph s = .ok none) : auditLoop graph s = .ok () := by
  rw [auditLoop]
  split
  · rename_i e' h'
    rw [h] at h'
    cases h'
  · rfl
  · rename_i t h'
    rw [h] at h'
    cases h'

theorem auditLoop_of_some (h : auditStep graph s = .ok (some s')) : auditLoop graph s = auditLoop graph s' := by
  conv_lhs => rw [auditLoop]
  split
  · rename_i e' h'
    rw [h] at h'
    cases h'
  · rename_i h'
    rw [h] at h'
    cases h'
  · rename_i t h'
    rw [h] at h'
    rw [Option.some.inj (Except.ok.inj h')]

/-- What the loop returns: no cycle when it accepts, a cycle when it says so. -/
theorem auditLoop_spec (s : AuditState α) (hs : AuditInvariant graph root s) :
    (auditLoop graph s = .ok () → Grounded (fun a => (graph a).members) root) ∧
      (auditLoop graph s = .error .cycle → HasCycle (fun a => (graph a).members) root) ∧
      ∀ e, auditLoop graph s = .error e → ∃ t, AuditInvariant graph root t ∧ auditStep graph t = .error e := by
  -- the loop by its own recursion: an error, the end, another step
  induction s using auditLoop.induct graph with
  | case1 s e hstep =>
    rw [auditLoop_of_error hstep]
    refine ⟨fun h => (by cases h), fun h => ?_, fun e' h => ⟨s, hs, ?_⟩⟩
    · obtain rfl := Except.error.inj h
      obtain ⟨item, depth, rest, hstack, hfailed⟩ := auditStep_error hstep
      cases hfailed with
      | cycle hactive => exact hs.search.hasCycle hstack hactive
      | notPlain hnot he => exact absurd rfl he
    · obtain rfl := Except.error.inj h
      exact hstep
  | case2 s hstep =>
    rw [auditLoop_of_none hstep]
    refine ⟨fun _ => hs.search.grounded_root ?_, fun h => (by cases h), fun e h => (by cases h)⟩
    rw [auditStep] at hstep
    split at hstep
    · assumption
    · cases hstep
    · rename_i item depth rest hstack
      exact absurd hstep (auditEntry_ne_none item depth rest)
  | case3 s s' hstep ih =>
    rw [auditLoop_of_some hstep]
    exact ih (hs.step hstep)

/-! ### The rebuilding -/

/-- A rebuilt value; an object that the audit refuses would stay as it is. -/
inductive CalibrationTree (α : Type) where
  | scalar (value : CalibrationScalar)
  | list (items : List (CalibrationTree α))
  | dict (members : List (Option PyStr × CalibrationTree α))
  | raw (object : α)

/-- A date is written as its ISO text. -/
def CalibrationScalar.rebuilt : CalibrationScalar → CalibrationScalar
  | datetime iso => str (PyStr.ofText iso)
  | value => value

/-- `{key: visit(member, depth + 1) for key, member in item.items()}`. -/
def rebuildMembers (visit : α → Nat → Except CalibrationFault (CalibrationTree α × Nat)) :
    List (Option PyStr × α) → Nat → Except CalibrationFault (List (Option PyStr × CalibrationTree α) × Nat) :=
  threadItems fun m remaining => (visit m.2 remaining).map fun t => ((m.1, t.1), t.2)

variable (graph) in
/-- `visit` of `_canonical_calibration_input`; `levels` is how far the depth may still grow. -/
def rebuild : Nat → α → Nat → Except CalibrationFault (CalibrationTree α × Nat)
  | _, _, 0 => .error .boundary
  | 0, _, _ + 1 => .error .boundary
  | levels + 1, item, remaining + 1 =>
    match graph item with
    | .model _ _ ms =>
      -- its `__dict__` is visited one level down
      match levels, remaining with
      | levels + 1, remaining + 1 => (rebuildMembers (rebuild levels) ms remaining).map fun t => (.dict t.1, t.2)
      | _, _ => .error .boundary
    | .dict ms => (rebuildMembers (rebuild levels) ms remaining).map fun t => (.dict t.1, t.2)
    | .list items => (threadItems (rebuild levels) items remaining).map fun t => (.list t.1, t.2)
    | .tuple items => (threadItems (rebuild levels) items remaining).map fun t => (.list t.1, t.2)
    | .scalar value => .ok (.scalar value.rebuilt, remaining)
    | _ => .ok (.raw item, remaining)

variable (graph) in
/-- `_canonical_calibration_input`. -/
def canonicalCalibrationInput (value : α) : Except CalibrationFault (CalibrationTree α) :=
  match auditCopiedMembers graph value with
  | .error e => .error e
  | .ok () => (rebuild graph 33 value 4096).map Prod.fst

/-- The tree is the object, its members unfolded wherever they stand. -/
inductive Unfolds (graph : α → CalibrationObject α) : α → CalibrationTree α → Prop
  | scalar {item : α} {value : CalibrationScalar} (h : graph item = .scalar value) :
      Unfolds graph item (.scalar value.rebuilt)
  | list {item : α} {items : List α} {ts : List (CalibrationTree α)}
      (h : graph item = .list items ∨ graph item = .tuple items) (hitems : List.Forall₂ (Unfolds graph) items ts) :
      Unfolds graph item (.list ts)
  | dict {item : α} {ms : List (Option PyStr × α)} {ts : List (Option PyStr × CalibrationTree α)}
      (h : graph item = .dict ms ∨ ∃ isCanonical hasUnknown, graph item = .model isCanonical hasUnknown ms)
      (hkeys : ms.map Prod.fst = ts.map Prod.fst)
      (hmembers : List.Forall₂ (Unfolds graph) (ms.map Prod.snd) (ts.map Prod.snd)) :
      Unfolds graph item (.dict ts)
  | raw {item : α} (h : graph item = .bytes ∨ graph item = .mapping ∨ graph item = .foreign) :
      Unfolds graph item (.raw item)

omit [DecidableEq α] in
/-- Rebuilt members keep their keys. -/
theorem rebuildMembers_spec {visit : α → Nat → Except CalibrationFault (CalibrationTree α × Nat)}
    (hvisit : ∀ a remaining t, visit a remaining = .ok t → Unfolds graph a t.1)
    {ms : List (Option PyStr × α)} {remaining : Nat} {result : List (Option PyStr × CalibrationTree α) × Nat}
    (h : rebuildMembers visit ms remaining = .ok result) :
    ms.map Prod.fst = result.1.map Prod.fst ∧
      List.Forall₂ (Unfolds graph) (ms.map Prod.snd) (result.1.map Prod.snd) := by
  have hall := forall₂_of_threadItems h
  clear h
  generalize result.1 = ts at hall
  induction hall with
  | nil => exact ⟨rfl, List.Forall₂.nil⟩
  | @cons m t ms ts hm _ ih =>
    obtain ⟨r, r', hm⟩ := hm
    rcases hfirst : visit m.2 r with e | first
    · rw [hfirst] at hm
      cases hm
    · rw [hfirst] at hm
      obtain ⟨rfl, rfl⟩ := Prod.mk.inj (Except.ok.inj hm)
      refine ⟨?_, List.Forall₂.cons (hvisit _ _ _ hfirst) ih.2⟩
      rw [List.map_cons, List.map_cons, ih.1]

omit [DecidableEq α] in
/-- What is rebuilt is the unfolding of the object. -/
theorem rebuild_unfolds {levels remaining : Nat} {item : α} {result : CalibrationTree α × Nat}
    (h : rebuild graph levels item remaining = .ok result) : Unfolds graph item result.1 := by
  -- a canonical mapping spends two levels, so the induction is strong
  induction levels using Nat.strongRecOn generalizing item remaining result with
  | ind levels ih =>
    rcases levels with - | levels
    · cases remaining <;> cases h
    rcases remaining with - | remaining
    · cases h
    have hvisit : ∀ a remaining t, rebuild graph levels a remaining = .ok t → Unfolds graph a t.1 :=
      fun a remaining t ht => ih levels (Nat.lt_succ_self _) ht
    rw [rebuild] at h
    split at h
    · rename_i isCanonical hasUnknown ms hitem
      split at h
      · rename_i levels remaining
        obtain ⟨t, ht, rfl⟩ := except_map_eq_ok_iff.mp h
        have hvisit' : ∀ a remaining t, rebuild graph levels a remaining = .ok t → Unfolds graph a t.1 :=
          fun a remaining t ht => ih levels (by omega) ht
        obtain ⟨hkeys, hmembers⟩ := rebuildMembers_spec hvisit' ht
        exact Unfolds.dict (Or.inr ⟨isCanonical, hasUnknown, hitem⟩) hkeys hmembers
      · cases h
    · rename_i ms hitem
      obtain ⟨t, ht, rfl⟩ := except_map_eq_ok_iff.mp h
      obtain ⟨hkeys, hmembers⟩ := rebuildMembers_spec hvisit ht
      exact Unfolds.dict (Or.inl hitem) hkeys hmembers
    · rename_i items hitem
      obtain ⟨t, ht, rfl⟩ := except_map_eq_ok_iff.mp h
      refine Unfolds.list (Or.inl hitem) ((forall₂_of_threadItems ht).imp ?_)
      rintro a b ⟨r, r', hab⟩
      exact hvisit a r _ hab
    · rename_i items hitem
      obtain ⟨t, ht, rfl⟩ := except_map_eq_ok_iff.mp h
      refine Unfolds.list (Or.inr hitem) ((forall₂_of_threadItems ht).imp ?_)
      rintro a b ⟨r, r', hab⟩
      exact hvisit a r _ hab
    · rename_i value hitem
      obtain rfl := Except.ok.inj h
      exact Unfolds.scalar hitem
    · rename_i hmodel hdict hlist htuple hscalar
      obtain rfl := Except.ok.inj h
      refine Unfolds.raw ?_
      rcases hitem : graph item with value | _ | _ | _ | items | items | ms | ⟨isCanonical, hasUnknown, ms⟩
      · exact absurd hitem (hscalar value)
      · exact Or.inl rfl
      · exact Or.inr (Or.inl rfl)
      · exact Or.inr (Or.inr rfl)
      · exact absurd hitem (hlist items)
      · exact absurd hitem (htuple items)
      · exact absurd hitem (hdict ms)
      · exact absurd hitem (hmodel isCanonical hasUnknown ms)

/-- **The audit of calibration input** detects exactly cycles: it raises its cycle error only at a
cycle and accepts only where there is none, it ends on every graph, and what the rebuilding returns
is the full unfolding; and on plain objects, within the work boundary of the graph, it raises that
error or accepts. -/
theorem auditCopiedMembers_exact (graph : α → CalibrationObject α) (root : α) :
    (auditCopiedMembers graph root = .error .cycle → HasCycle (fun a => (graph a).members) root) ∧
    (auditCopiedMembers graph root = .ok () → ¬ HasCycle (fun a => (graph a).members) root) ∧
    (WellFounded fun s' s : AuditState α => auditStep graph s = .ok (some s')) ∧
    (∀ t, canonicalCalibrationInput graph root = .ok t → Unfolds graph root t) ∧
    ((∀ a, Reaches (fun a => (graph a).members) root a → (graph a).IsPlain) →
      (∀ e, auditCopiedMembers graph root = .error e → e = .cycle ∨ e = .boundary ∨ e = .work) ∧
      (WithinNodes graph root → WithinDepth graph root →
        (auditCopiedMembers graph root = .error .cycle ↔ HasCycle (fun a => (graph a).members) root) ∧
          (auditCopiedMembers graph root = .ok () ↔ ¬ HasCycle (fun a => (graph a).members) root))) := by
  obtain ⟨hok, hcycle, herror⟩ := auditLoop_spec _ (@AuditInvariant.start _ graph root)
  have hno : auditCopiedMembers graph root = .ok () → ¬ HasCycle (fun a => (graph a).members) root :=
    fun h => (hok h).not_hasCycle
  refine ⟨hcycle, hno, ?_, ?_, fun hplain => ⟨?_, ?_⟩⟩
  · exact Subrelation.wf (fun {s' s} h => auditStep_lt h)
      (InvImage.wf (fun s : AuditState α => (s.remaining, s.search.stack.length))
        (Prod.lex Nat.lt_wfRel Nat.lt_wfRel).wf)
  · intro t h
    rw [canonicalCalibrationInput] at h
    split at h
    · cases h
    · obtain ⟨result, hresult, rfl⟩ := except_map_eq_ok_iff.mp h
      exact rebuild_unfolds hresult
  · intro e he
    obtain ⟨s, hs, hstep⟩ := herror e he
    obtain ⟨item, depth, rest, hstack, hfailed⟩ := auditStep_error hstep
    cases hfailed with
    | boundary h => exact Or.inr (Or.inl rfl)
    | cycle h => exact Or.inl rfl
    | work hactive hcompleted h => exact Or.inr (Or.inr rfl)
    | notPlain hnot he => exact absurd (hplain item (hs.search.walk hstack).1.reaches) hnot
  · intro hnodes hdepth
    have htotal : auditCopiedMembers graph root = .ok () ∨ auditCopiedMembers graph root = .error .cycle := by
      rcases haudit : auditCopiedMembers graph root with e | u
      · obtain ⟨s, hs, hstep⟩ := herror e haudit
        rw [hs.error_eq_cycle hplain hnodes hdepth hstep]
        exact Or.inr rfl
      · exact Or.inl rfl
    refine ⟨⟨hcycle, fun h => ?_⟩, ⟨hno, fun h => ?_⟩⟩
    · exact htotal.resolve_left fun haccept => hno haccept h
    · exact htotal.resolve_right fun hraise => h (hcycle hraise)

namespace CalibrationDemo

/-- A list that holds one list twice. -/
def shared : Bool → CalibrationObject Bool
  | true => .list [false, false]
  | false => .list []

theorem shared_grounded (b : Bool) : Grounded (fun a => (shared a).members) b := by
  have hfalse : Grounded (fun a => (shared a).members) false := Acc.intro _ fun b hb => by cases hb
  cases b with
  | false => exact hfalse
  | true =>
    refine Acc.intro _ fun b hb => ?_
    obtain rfl : b = false := by simpa [Edge, shared, CalibrationObject.members] using hb
    exact hfalse

theorem memberCount_shared (nodes : List Bool) : memberCount shared nodes ≤ 2 * nodes.length := by
  induction nodes with
  | nil => exact le_refl 0
  | cons b nodes ih =>
    have hb : (shared b).members.length ≤ 2 := by cases b <;> decide
    have hcons : memberCount shared (b :: nodes) = (shared b).members.length + memberCount shared nodes := List.sum_cons
    rw [hcons, List.length_cons]
    omega

/-- A container that is reached along two paths is accepted. -/
theorem shared_accepted : auditCopiedMembers shared true = .ok () := by
  have hplain : ∀ a, Reaches (fun a => (shared a).members) true a → (shared a).IsPlain := by
    intro a _
    cases a <;> trivial
  have hnodes : WithinNodes shared true := by
    intro nodes hnodup _
    have hlength : nodes.length ≤ 2 := hnodup.length_le_card
    have hcount := memberCount_shared nodes
    omega
  have hdepth : WithinDepth shared true := by
    intro p _ hnodup
    have hlength : p.tail.length ≤ 2 := hnodup.length_le_card
    rw [List.length_tail] at hlength
    omega
  have haudit := (auditCopiedMembers_exact shared true).2.2.2.2 hplain
  exact (haudit.2 hnodes hdepth).2.mpr (shared_grounded true).not_hasCycle

end CalibrationDemo

end SkillsSdk
