/-
SkillsSdk/Lib/DepthFirst.lean

Depth-first search with an explicit stack of nodes to enter and nodes to leave.

The nodes to leave are the path from the root to the top of the stack
(`Linked`), and every member of a node to leave is above it or has no infinite
descent below it (`Invariant.covered`).  So a search that meets a node of its
path has found a cycle (`Invariant.hasCycle`), and one whose stack becomes empty
has none (`Invariant.grounded_root`), whatever it skips because it was left
before.
-/
import Mathlib.Data.List.Nodup
import Mathlib.Logic.Relation
import Mathlib.Order.WellFounded

namespace DepthFirst

open Relation

variable {α : Type*} (members : α → List α)

/-! ### Graphs -/

def Edge (a b : α) : Prop := b ∈ members a

def Reaches (root a : α) : Prop := ReflTransGen (Edge members) root a

/-- A node that is reached lies on a cycle. -/
def HasCycle (root : α) : Prop := ∃ c, Reaches members root c ∧ TransGen (Edge members) c c

/-- Every descent from the node ends. -/
def Grounded (a : α) : Prop := Acc (fun b a => Edge members a b) a

/-- A walk from the root, the last node first. -/
inductive Walk (root : α) : List α → Prop
  | start : Walk root [root]
  | step {a b : α} {p : List α} : Walk root (a :: p) → Edge members a b → Walk root (b :: a :: p)

variable {members} {root a b : α}

theorem Grounded.of_edge (h : Grounded members a) (hab : Edge members a b) : Grounded members b := h.inv hab

theorem Grounded.not_transGen (h : Grounded members a) : ¬ TransGen (Edge members) a a := by
  induction h with
  | intro a _ ih =>
    intro hcycle
    obtain ⟨b, hab, hba⟩ := TransGen.head'_iff.mp hcycle
    exact ih b hab (TransGen.tail' hba hab)

theorem Grounded.not_hasCycle (h : Grounded members root) : ¬ HasCycle members root := by
  rintro ⟨c, hc, hcycle⟩
  have hground : Grounded members c := by
    clear hcycle
    induction hc with
    | refl => exact h
    | tail _ hedge ih => exact ih.of_edge hedge
  exact hground.not_transGen hcycle

theorem Walk.reaches {p : List α} (h : Walk members root (b :: p)) : Reaches members root b := by
  induction p generalizing b with
  | nil =>
    cases h
    exact ReflTransGen.refl
  | cons a p ih =>
    cases h with
    | step h hedge => exact (ih h).tail hedge

/-- The nodes of a walk reach its last. -/
theorem Walk.transGen {p : List α} (h : Walk members root (b :: p)) (ha : a ∈ p) :
    TransGen (Edge members) a b := by
  induction p generalizing b with
  | nil => cases ha
  | cons c p ih =>
    cases h with
    | step h hedge =>
      rcases List.mem_cons.mp ha with rfl | ha
      · exact TransGen.single hedge
      · exact (ih h ha).tail hedge

/-! ### The stack -/

/-- A node to enter, or to leave, with its depth. -/
structure Entry (α : Type*) where
  node : α
  depth : Nat
  leaving : Bool

/-- The nodes to leave, the last first. -/
def path (stack : List (Entry α)) : List α := (stack.filter (·.leaving)).map (·.node)

@[simp] theorem path_nil : path ([] : List (Entry α)) = [] := rfl

@[simp] theorem path_leaving {d : Nat} {stack : List (Entry α)} :
    path (⟨a, d, true⟩ :: stack) = a :: path stack := rfl

@[simp] theorem path_entering {d : Nat} {stack : List (Entry α)} :
    path (⟨a, d, false⟩ :: stack) = path stack := rfl

variable (members root) in
/-- The node follows the path. -/
def Follows : List α → α → Prop
  | [], b => b = root
  | a :: _, b => Edge members a b

variable (members root) in
/-- Every entry follows the path below it, at the depth that is its length. -/
def Linked : List (Entry α) → Prop
  | [] => True
  | e :: below => e.depth = (path below).length ∧ Follows members root (path below) e.node ∧ Linked below

theorem Linked.walk {stack : List (Entry α)} (h : Linked members root stack)
    (hb : Follows members root (path stack) b) : Walk members root (b :: path stack) := by
  induction stack generalizing b with
  | nil =>
    obtain rfl : b = root := hb
    exact Walk.start
  | cons e below ih =>
    obtain ⟨-, hfollows, hbelow⟩ := h
    obtain ⟨a, d, leaving⟩ := e
    cases leaving with
    | true => exact Walk.step (ih hbelow hfollows) hb
    | false => exact ih hbelow hb

/-- The members of a node, to be entered. -/
def pushed (ms : List α) (depth : Nat) : List (Entry α) := ms.map fun b => ⟨b, depth, false⟩

theorem pushed_cons {ms : List α} {depth : Nat} : pushed (b :: ms) depth = ⟨b, depth, false⟩ :: pushed ms depth := rfl

theorem path_pushed_append {ms : List α} {depth : Nat} {stack : List (Entry α)} :
    path (pushed ms depth ++ stack) = path stack := by
  induction ms with
  | nil => rfl
  | cons b ms ih => exact ih

theorem Linked.pushed_append {ms : List α} {depth : Nat} {stack : List (Entry α)}
    (h : Linked members root stack) (hdepth : depth = (path stack).length)
    (hms : ∀ b ∈ ms, Follows members root (path stack) b) : Linked members root (pushed ms depth ++ stack) := by
  induction ms with
  | nil => exact h
  | cons b ms ih =>
    have hpath : path (pushed ms depth ++ stack) = path stack := path_pushed_append
    refine ⟨?_, ?_, ih fun c hc => hms c (List.mem_cons_of_mem b hc)⟩
    · show depth = (path (pushed ms depth ++ stack)).length
      rw [hpath]
      exact hdepth
    · show Follows members root (path (pushed ms depth ++ stack)) b
      rw [hpath]
      exact hms b List.mem_cons_self

/-- No node to leave is among those that were pushed. -/
theorem pushed_append_eq {ms : List α} {depth d : Nat} {stack above below : List (Entry α)}
    (h : pushed ms depth ++ stack = above ++ ⟨a, d, true⟩ :: below) :
    ∃ above', above = pushed ms depth ++ above' ∧ stack = above' ++ ⟨a, d, true⟩ :: below := by
  induction ms generalizing above with
  | nil => exact ⟨above, rfl, h⟩
  | cons b ms ih =>
    rcases above with - | ⟨e, above⟩
    · cases h
    · rw [pushed_cons, List.cons_append, List.cons_append] at h
      obtain ⟨rfl, htail⟩ := List.cons.inj h
      obtain ⟨above', rfl, hstack⟩ := ih htail
      exact ⟨above', rfl, hstack⟩

/-! ### The search -/

structure Search (α : Type*) where
  stack : List (Entry α)
  active : List α := []
  completed : List α := []

namespace Search

def start (root : α) : Search α where
  stack := [⟨root, 0, false⟩]

/-- The entry on top is dropped. -/
def skip (s : Search α) (rest : List (Entry α)) : Search α := { s with stack := rest }

/-- The node on top is left. -/
def leave [DecidableEq α] (s : Search α) (a : α) (rest : List (Entry α)) : Search α where
  stack := rest
  active := s.active.filter (· ≠ a)
  completed := a :: s.completed

/-- The node on top is entered; its last member is the next on top. -/
def enter (s : Search α) (a : α) (ms : List α) (depth : Nat) (rest : List (Entry α)) : Search α :=
  { s with
    stack := pushed ms.reverse (depth + 1) ++ ⟨a, depth, true⟩ :: rest
    active := a :: s.active }

end Search

variable (members root) in
structure Invariant (s : Search α) : Prop where
  linked : Linked members root s.stack
  active : s.active = path s.stack
  nodup : (s.active ++ s.completed).Nodup
  reached : ∀ a ∈ s.active ++ s.completed, Reaches members root a
  grounded : ∀ a ∈ s.completed, Grounded members a
  covered : ∀ above a d below, s.stack = above ++ ⟨a, d, true⟩ :: below →
    ∀ b ∈ members a, Grounded members b ∨ ∃ e ∈ above, e.node = b
  origin : Grounded members root ∨ ∃ e ∈ s.stack, e.node = root

namespace Invariant

variable {s : Search α} {d : Nat} {rest : List (Entry α)}

/-- A search that has nothing left to do found no cycle. -/
theorem grounded_root (h : Invariant members root s) (hstack : s.stack = []) : Grounded members root := by
  rcases h.origin with hroot | ⟨e, he, -⟩
  · exact hroot
  · rw [hstack] at he
    cases he

theorem walk (h : Invariant members root s) (hstack : s.stack = ⟨a, d, false⟩ :: rest) :
    Walk members root (a :: s.active) ∧ s.active.length = d := by
  have hlinked := h.linked
  rw [hstack] at hlinked
  have hactive : s.active = path rest := by rw [h.active, hstack, path_entering]
  obtain ⟨hdepth, hfollows, hrest⟩ := hlinked
  rw [hactive]
  exact ⟨hrest.walk hfollows, hdepth.symm⟩

/-- A node of the path that is met again lies on a cycle. -/
theorem hasCycle (h : Invariant members root s) (hstack : s.stack = ⟨a, d, false⟩ :: rest)
    (ha : a ∈ s.active) : HasCycle members root :=
  ⟨a, (h.walk hstack).1.reaches, (h.walk hstack).1.transGen ha⟩

theorem start : Invariant members root (Search.start root) where
  linked := ⟨rfl, rfl, trivial⟩
  active := rfl
  nodup := List.nodup_nil
  reached a ha := by cases ha
  grounded a ha := by cases ha
  covered above a d below heq b hb := by
    rcases above with - | ⟨e, above⟩
    · cases heq
    · have hnil := (List.cons.inj heq).2
      simp at hnil
  origin := Or.inr ⟨_, List.mem_singleton_self _, rfl⟩

/-- A node without an infinite descent may be skipped. -/
theorem skip (h : Invariant members root s) (hstack : s.stack = ⟨a, d, false⟩ :: rest)
    (ha : Grounded members a) : Invariant members root (s.skip rest) where
  linked := by
    have hlinked := h.linked
    rw [hstack] at hlinked
    exact hlinked.2.2
  active := by
    show s.active = path rest
    rw [h.active, hstack, path_entering]
  nodup := h.nodup
  reached := h.reached
  grounded := h.grounded
  covered above c depth below heq b hb := by
    obtain rfl : rest = above ++ ⟨c, depth, true⟩ :: below := heq
    rcases h.covered (⟨a, d, false⟩ :: above) c depth below hstack b hb with hb | ⟨e, he, rfl⟩
    · exact Or.inl hb
    · rcases List.mem_cons.mp he with rfl | he
      · exact Or.inl ha
      · exact Or.inr ⟨e, he, rfl⟩
  origin := by
    rcases h.origin with hroot | ⟨e, he, rfl⟩
    · exact Or.inl hroot
    · rw [hstack] at he
      rcases List.mem_cons.mp he with rfl | he
      · exact Or.inl ha
      · exact Or.inr ⟨e, he, rfl⟩

theorem leave_active [DecidableEq α] (h : Invariant members root s) (hstack : s.stack = ⟨a, d, true⟩ :: rest) :
    s.active = a :: path rest ∧ (s.leave a rest).active = path rest := by
  have hactive : s.active = a :: path rest := by rw [h.active, hstack, path_leaving]
  have hnodup := h.nodup
  rw [hactive, List.cons_append, List.nodup_cons] at hnodup
  refine ⟨hactive, ?_⟩
  show s.active.filter (· ≠ a) = path rest
  rw [hactive, List.filter_cons_of_neg (by simp), List.filter_eq_self]
  intro b hb
  refine decide_eq_true ?_
  rintro rfl
  exact hnodup.1 (List.mem_append_left _ hb)

/-- Leaving moves a node from the path to those that were left. -/
theorem leave_perm [DecidableEq α] (h : Invariant members root s) (hstack : s.stack = ⟨a, d, true⟩ :: rest) :
    ((s.leave a rest).active ++ (s.leave a rest).completed).Perm (s.active ++ s.completed) := by
  rw [(h.leave_active hstack).1, (h.leave_active hstack).2]
  exact List.perm_middle

/-- A node is left when nothing above it is left to do. -/
theorem leave [DecidableEq α] (h : Invariant members root s) (hstack : s.stack = ⟨a, d, true⟩ :: rest) :
    Invariant members root (s.leave a rest) := by
  -- every member is done when the item is left
  have hground : Grounded members a := by
    refine Acc.intro a fun b hb => ?_
    rcases h.covered [] a d rest hstack b hb with hb | ⟨e, he, -⟩
    · exact hb
    · cases he
  exact {
    linked := by
      have hlinked := h.linked
      rw [hstack] at hlinked
      exact hlinked.2.2
    active := (h.leave_active hstack).2
    nodup := (h.leave_perm hstack).nodup_iff.mpr h.nodup
    reached := fun b hb => h.reached b ((h.leave_perm hstack).mem_iff.mp hb)
    grounded := by
      intro b hb
      rcases List.mem_cons.mp hb with rfl | hb
      · exact hground
      · exact h.grounded b hb
    covered := by
      intro above c depth below heq b hb
      obtain rfl : rest = above ++ ⟨c, depth, true⟩ :: below := heq
      rcases h.covered (⟨a, d, true⟩ :: above) c depth below hstack b hb with hb | ⟨e, he, rfl⟩
      · exact Or.inl hb
      · rcases List.mem_cons.mp he with rfl | he
        · exact Or.inl hground
        · exact Or.inr ⟨e, he, rfl⟩
    origin := by
      rcases h.origin with hroot | ⟨e, he, rfl⟩
      · exact Or.inl hroot
      · rw [hstack] at he
        rcases List.mem_cons.mp he with rfl | he
        · exact Or.inl hground
        · exact Or.inr ⟨e, he, rfl⟩ }

/-- A node is entered that is neither on the path nor left before. -/
theorem enter (h : Invariant members root s) (hstack : s.stack = ⟨a, d, false⟩ :: rest)
    (hactive : a ∉ s.active) (hcompleted : a ∉ s.completed) :
    Invariant members root (s.enter a (members a) d rest) := by
  have hpath : path s.stack = path rest := by rw [hstack, path_entering]
  have hlinked := h.linked
  rw [hstack] at hlinked
  obtain ⟨hdepth, hfollows, hrest⟩ := hlinked
  exact {
    linked := by
      refine Linked.pushed_append ⟨hdepth, hfollows, hrest⟩ ?_ ?_
      · rw [path_leaving, List.length_cons]
        exact congrArg _ hdepth
      · intro b hb
        exact List.mem_reverse.mp hb
    active := by
      show a :: s.active = path (pushed _ _ ++ _)
      rw [path_pushed_append, path_leaving, h.active, hpath]
    nodup := by
      rw [show (s.enter a (members a) d rest).active ++ (s.enter a (members a) d rest).completed =
        a :: (s.active ++ s.completed) from rfl, List.nodup_cons, List.mem_append, not_or]
      exact ⟨⟨hactive, hcompleted⟩, h.nodup⟩
    reached := by
      intro b hb
      rcases List.mem_cons.mp hb with rfl | hb
      · exact (h.walk hstack).1.reaches
      · exact h.reached b hb
    grounded := h.grounded
    covered := by
      intro above c depth below heq b hb
      obtain ⟨above', rfl, htail⟩ := pushed_append_eq heq
      rcases above' with - | ⟨e, above'⟩
      · -- the node itself: all its members have been pushed
        obtain ⟨he, -⟩ := List.cons.inj htail
        obtain ⟨rfl, -, -⟩ := Entry.mk.inj he
        refine Or.inr ⟨⟨b, d + 1, false⟩, List.mem_append_left _ ?_, rfl⟩
        exact List.mem_map_of_mem (List.mem_reverse.mpr hb)
      · rw [List.cons_append] at htail
        obtain ⟨rfl, hbelow⟩ := List.cons.inj htail
        rcases h.covered (⟨a, d, false⟩ :: above') c depth below (hstack.trans (congrArg _ hbelow)) b hb with
          hb | ⟨e, he, rfl⟩
        · exact Or.inl hb
        · rcases List.mem_cons.mp he with rfl | he
          · exact Or.inr ⟨_, List.mem_append_right _ List.mem_cons_self, rfl⟩
          · exact Or.inr ⟨e, List.mem_append_right _ (List.mem_cons_of_mem _ he), rfl⟩
    origin := by
      rcases h.origin with hroot | ⟨e, he, rfl⟩
      · exact Or.inl hroot
      · rw [hstack] at he
        rcases List.mem_cons.mp he with rfl | he
        · exact Or.inr ⟨_, List.mem_append_right _ List.mem_cons_self, rfl⟩
        · exact Or.inr ⟨e, List.mem_append_right _ (List.mem_cons_of_mem _ he), rfl⟩ }

end Invariant

end DepthFirst
