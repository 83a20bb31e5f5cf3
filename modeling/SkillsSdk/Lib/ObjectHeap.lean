/-
SkillsSdk/Lib/ObjectHeap.lean

Objects with identities, and deep copies of them.

An object is a cell of the heap: what it is without its members (`label`) and
the addresses of its members.  `Holds P h a t` says that the object at `a` has
the tree `t` as its value, with all its cells in `P`, members before the object
that holds them.  A deep copy reads the value and allocates it again, so it
shares no cell with the original.

Whoever holds some objects can write every cell that is reachable from them, and
no other.  A region `P` that no held object reaches stays as it is (`Closed`).
-/
import Mathlib.Data.List.Forall2
import Mathlib.Data.List.GetD

namespace ObjectHeap

variable {σ : Type*}

/-- The value of an object: its label and the values of its members. -/
inductive Tree (σ : Type*) where
  | node (label : σ) (members : List (Tree σ))

/-- An object. -/
structure Cell (σ : Type*) where
  label : σ
  members : List Nat

/-- The objects by their addresses; a new one is appended. -/
abbrev Heap (σ : Type*) := List (Cell σ)

/-! ### Allocation -/

mutual

/-- Build the value out of new objects. -/
def alloc : Heap σ → Tree σ → Heap σ × Nat
  | h, .node label ts =>
    ((allocAll h ts).1 ++ [⟨label, (allocAll h ts).2⟩], (allocAll h ts).1.length)

def allocAll : Heap σ → List (Tree σ) → Heap σ × List Nat
  | h, [] => (h, [])
  | h, t :: ts =>
    ((allocAll (alloc h t).1 ts).1, (alloc h t).2 :: (allocAll (alloc h t).1 ts).2)

end

/-- The value of the object at an address, read down to a depth. -/
def readTree (h : Heap σ) : Nat → Nat → Option (Tree σ)
  | 0, _ => none
  | depth + 1, a => do
    let cell ← h[a]?
    let ts ← cell.members.mapM (readTree h depth)
    some (.node cell.label ts)

/-- The value of an object whose members are older than itself. -/
def valueAt (h : Heap σ) (a : Nat) : Option (Tree σ) := readTree h (a + 1) a

/-- `deepcopy(…)` of such an object; any other object is left alone. -/
def deepCopy (h : Heap σ) (a : Nat) : Heap σ × Nat :=
  match valueAt h a with
  | some t => alloc h t
  | none => (h, a)

/-! ### What an address holds -/

mutual

/-- The object at the address has this value, all of it in `P`, members first. -/
def Holds (P : Nat → Prop) (h : Heap σ) : Nat → Tree σ → Prop
  | a, .node label ts =>
    P a ∧ ∃ members, h[a]? = some ⟨label, members⟩ ∧ (∀ b ∈ members, b < a) ∧ HoldAll P h members ts

def HoldAll (P : Nat → Prop) (h : Heap σ) : List Nat → List (Tree σ) → Prop
  | members, [] => members = []
  | members, t :: ts => ∃ a rest, members = a :: rest ∧ Holds P h a t ∧ HoldAll P h rest ts

end

variable {P Q : Nat → Prop} {h h' : Heap σ}

mutual

/-- A value survives every change outside its cells. -/
theorem Holds.mono {a : Nat} {t : Tree σ} (hold : Holds P h a t) (hPQ : ∀ b, P b → Q b)
    (hsame : ∀ b cell, P b → h[b]? = some cell → h'[b]? = some cell) : Holds Q h' a t := by
  match t with
  | .node label ts =>
    rw [Holds] at hold ⊢
    obtain ⟨ha, members, hcell, hold', hall⟩ := hold
    exact ⟨hPQ a ha, members, hsame a _ ha hcell, hold', hall.mono hPQ hsame⟩

theorem HoldAll.mono {members : List Nat} {ts : List (Tree σ)} (hold : HoldAll P h members ts)
    (hPQ : ∀ b, P b → Q b) (hsame : ∀ b cell, P b → h[b]? = some cell → h'[b]? = some cell) :
    HoldAll Q h' members ts := by
  match ts with
  | [] => exact hold
  | t :: ts =>
    rw [HoldAll] at hold ⊢
    obtain ⟨a, rest, rfl, hfirst, hrest⟩ := hold
    exact ⟨a, rest, rfl, hfirst.mono hPQ hsame, hrest.mono hPQ hsame⟩

end

mutual

/-- What an address holds is what reading it yields. -/
theorem Holds.readTree_eq {a depth : Nat} {t : Tree σ} (hold : Holds P h a t) (hdepth : a < depth) :
    readTree h depth a = some t := by
  match depth, t with
  | depth + 1, .node label ts =>
    rw [Holds] at hold
    obtain ⟨-, members, hcell, holder, hall⟩ := hold
    have hread := hall.mapM_eq fun b hb => Nat.lt_of_lt_of_le (holder b hb) (Nat.le_of_lt_succ hdepth)
    rw [readTree, hcell]
    show (members.mapM (readTree h depth)).bind (fun ts => some (Tree.node label ts)) = _
    rw [hread]
    rfl

theorem HoldAll.mapM_eq {depth : Nat} {members : List Nat} {ts : List (Tree σ)}
    (hold : HoldAll P h members ts) (hdepth : ∀ b ∈ members, b < depth) :
    members.mapM (readTree h depth) = some ts := by
  match ts with
  | [] =>
    obtain rfl : members = [] := hold
    rfl
  | t :: ts =>
    rw [HoldAll] at hold
    obtain ⟨a, rest, rfl, hfirst, hrest⟩ := hold
    rw [List.mapM_cons, hfirst.readTree_eq (hdepth a List.mem_cons_self),
      hrest.mapM_eq fun b hb => hdepth b (List.mem_cons_of_mem _ hb)]
    rfl

end

theorem Holds.valueAt_eq {a : Nat} {t : Tree σ} (hold : Holds P h a t) : valueAt h a = some t :=
  hold.readTree_eq (Nat.lt_succ_self a)

theorem Holds.deepCopy_eq {a : Nat} {t : Tree σ} (hold : Holds P h a t) :
    deepCopy h a = alloc h t := by
  rw [deepCopy, hold.valueAt_eq]

theorem Holds.mem {a : Nat} {t : Tree σ} (hold : Holds P h a t) : P a := by
  cases t with
  | node label ts => exact hold.1

/-! ### New objects -/

mutual

theorem alloc_extends (h : Heap σ) (t : Tree σ) : h <+: (alloc h t).1 := by
  match t with
  | .node label ts =>
    rw [alloc]
    exact (allocAll_extends h ts).trans (List.prefix_append _ _)

theorem allocAll_extends (h : Heap σ) (ts : List (Tree σ)) : h <+: (allocAll h ts).1 := by
  match ts with
  | [] => exact List.prefix_refl h
  | t :: ts =>
    rw [allocAll]
    exact (alloc_extends h t).trans (allocAll_extends (alloc h t).1 ts)

end

/-- The cells that an allocation adds. -/
def Between (h h' : Heap σ) (a : Nat) : Prop := h.length ≤ a ∧ a < h'.length

theorem getElem?_of_prefix (hle : h <+: h') {a : Nat} {cell : Cell σ} (ha : h[a]? = some cell) :
    h'[a]? = some cell := by
  obtain ⟨rest, rfl⟩ := hle
  obtain ⟨hlt, -⟩ := List.getElem?_eq_some_iff.mp ha
  rw [List.getElem?_append_left hlt]
  exact ha

mutual

/-- A new value lies in the new cells. -/
theorem holds_alloc (h : Heap σ) (t : Tree σ) :
    Holds (Between h (alloc h t).1) (alloc h t).1 (alloc h t).2 t := by
  match t with
  | .node label ts =>
    have hall := holdAll_allocAll h ts
    have hleading := allocAll_extends h ts
    -- the members are allocated first, and the cell itself above them
    have hnew : (alloc h (.node label ts)).1 = (allocAll h ts).1 ++ [⟨label, (allocAll h ts).2⟩] := by
      rw [alloc]
    have haddr : (alloc h (.node label ts)).2 = (allocAll h ts).1.length := by
      rw [alloc]
    have hlen : (alloc h (.node label ts)).1.length = (allocAll h ts).1.length + 1 := by
      rw [hnew, List.length_append]
      rfl
    rw [Holds]
    refine ⟨⟨?_, ?_⟩, (allocAll h ts).2, ?_, ?_, ?_⟩
    · rw [haddr]
      exact hleading.length_le
    · rw [haddr, hlen]
      exact Nat.lt_succ_self _
    · rw [haddr, hnew, List.getElem?_append_right (Nat.le_refl _), Nat.sub_self]
      rfl
    · intro b hb
      rw [haddr]
      exact (hall.2 b hb).2
    · refine hall.1.mono (fun b hb => ⟨hb.1, ?_⟩) fun b cell _ hcell => ?_
      · rw [hlen]
        exact Nat.lt_succ_of_lt hb.2
      · rw [hnew]
        exact getElem?_of_prefix (List.prefix_append _ _) hcell

theorem holdAll_allocAll (h : Heap σ) (ts : List (Tree σ)) :
    HoldAll (Between h (allocAll h ts).1) (allocAll h ts).1 (allocAll h ts).2 ts ∧
      ∀ b ∈ (allocAll h ts).2, Between h (allocAll h ts).1 b := by
  match ts with
  | [] =>
    rw [allocAll]
    exact ⟨rfl, fun b hb => absurd hb List.not_mem_nil⟩
  | t :: ts =>
    have hfirst := holds_alloc h t
    have hrest := holdAll_allocAll (alloc h t).1 ts
    have hle := (alloc_extends h t).length_le
    have hle' := (allocAll_extends (alloc h t).1 ts).length_le
    rw [allocAll]
    dsimp only
    -- the later allocations only extend the heap
    have hin : ∀ b, Between h (alloc h t).1 b → Between h (allocAll (alloc h t).1 ts).1 b :=
      fun b hb => ⟨hb.1, Nat.lt_of_lt_of_le hb.2 hle'⟩
    have hin' : ∀ b, Between (alloc h t).1 (allocAll (alloc h t).1 ts).1 b →
        Between h (allocAll (alloc h t).1 ts).1 b := fun b hb => ⟨Nat.le_trans hle hb.1, hb.2⟩
    refine ⟨?_, ?_⟩
    · rw [HoldAll]
      exact ⟨_, _, rfl,
        hfirst.mono hin fun b cell _ hcell => getElem?_of_prefix (allocAll_extends _ ts) hcell,
        hrest.1.mono hin' fun b cell _ hcell => hcell⟩
    · intro b hb
      rcases List.mem_cons.mp hb with rfl | hb
      · exact hin _ hfirst.mem
      · exact hin' b (hrest.2 b hb)

end

/-! ### What a holder can reach -/

/-- The cells that are reachable from the held objects. -/
inductive Reachable (h : Heap σ) (held : List Nat) : Nat → Prop
  | held {a : Nat} : a ∈ held → Reachable h held a
  | member {a b : Nat} {cell : Cell σ} : Reachable h held a → h[a]? = some cell → b ∈ cell.members →
      Reachable h held b

/-- No object outside `P` has a member in `P`. -/
def Closed (P : Nat → Prop) (h : Heap σ) : Prop :=
  ∀ (a : Nat) (cell : Cell σ), ¬ P a → h[a]? = some cell → ∀ b ∈ cell.members, ¬ P b

/-- Nothing in `P` is reachable from objects outside. -/
theorem Closed.not_reachable (hclosed : Closed P h) {held : List Nat} (hheld : ∀ a ∈ held, ¬ P a)
    {a : Nat} (hreach : Reachable h held a) : ¬ P a := by
  induction hreach with
  | held hmem => exact hheld _ hmem
  | member _ hcell hb ih => exact hclosed _ _ ih hcell _ hb

mutual

/-- The members of a new object are new. -/
theorem alloc_members (h : Heap σ) (t : Tree σ) {a : Nat} {cell : Cell σ} (ha : h.length ≤ a)
    (hcell : (alloc h t).1[a]? = some cell) : ∀ b ∈ cell.members, Between h (alloc h t).1 b := by
  match t with
  | .node label ts =>
    have hleading := allocAll_extends h ts
    rw [alloc] at hcell ⊢
    have hin : ∀ b, Between h (allocAll h ts).1 b →
        Between h ((allocAll h ts).1 ++ [⟨label, (allocAll h ts).2⟩]) b := by
      intro b hb
      refine ⟨hb.1, ?_⟩
      rw [List.length_append]
      exact Nat.lt_of_lt_of_le hb.2 (Nat.le_add_right _ _)
    intro b hb
    apply hin
    by_cases hlt : a < (allocAll h ts).1.length
    · rw [List.getElem?_append_left hlt] at hcell
      exact allocAll_members h ts ha hcell b hb
    · rw [List.getElem?_append_right (Nat.le_of_not_lt hlt), List.getElem?_singleton] at hcell
      split at hcell
      · obtain rfl := Option.some.inj hcell
        exact (holdAll_allocAll h ts).2 b hb
      · cases hcell

theorem allocAll_members (h : Heap σ) (ts : List (Tree σ)) {a : Nat} {cell : Cell σ}
    (ha : h.length ≤ a) (hcell : (allocAll h ts).1[a]? = some cell) :
    ∀ b ∈ cell.members, Between h (allocAll h ts).1 b := by
  match ts with
  | [] =>
    rw [allocAll, List.getElem?_eq_none ha] at hcell
    cases hcell
  | t :: ts =>
    have hle := (alloc_extends h t).length_le
    have hle' := (allocAll_extends (alloc h t).1 ts).length_le
    rw [allocAll] at hcell ⊢
    intro b hb
    by_cases hlt : a < (alloc h t).1.length
    · have hold : (alloc h t).1[a]? = some cell := by
        obtain ⟨rest, hrest⟩ := allocAll_extends (alloc h t).1 ts
        rw [← hrest, List.getElem?_append_left hlt] at hcell
        exact hcell
      have := alloc_members h t ha hold b hb
      exact ⟨this.1, Nat.lt_of_lt_of_le this.2 hle'⟩
    · have := allocAll_members (alloc h t).1 ts (Nat.le_of_not_lt hlt) hcell b hb
      exact ⟨Nat.le_trans hle this.1, this.2⟩

end

/-! ### A region that is kept apart -/

/-- `P` is a region of the heap, no object outside has a member in it, and the
members of all objects exist. -/
structure Apart (P : Nat → Prop) (h : Heap σ) : Prop where
  inside : ∀ a, P a → a < h.length
  exist : ∀ (a : Nat) (cell : Cell σ), h[a]? = some cell → ∀ b ∈ cell.members, b < h.length
  closed : Closed P h

namespace Apart

theorem empty : Apart (fun _ => False) ([] : Heap σ) where
  inside := fun _ h => h.elim
  exist := by
    intro a cell hcell
    cases hcell
  closed := fun _ _ _ _ _ _ h => h.elim

/-- What a reachable address is. -/
theorem reachable (hapart : Apart P h) {held : List Nat} (hheld : ∀ a ∈ held, ¬ P a ∧ a < h.length)
    {a : Nat} (hreach : Reachable h held a) : ¬ P a ∧ a < h.length := by
  refine ⟨hapart.closed.not_reachable (fun a ha => (hheld a ha).1) hreach, ?_⟩
  cases hreach with
  | held hmem => exact (hheld a hmem).2
  | member _ hcell hb => exact hapart.exist _ _ hcell _ hb

/-- A cell of an extended heap is old, or new. -/
theorem old_or_new {t : Tree σ} {a : Nat} {cell : Cell σ} (hcell : (alloc h t).1[a]? = some cell) :
    h[a]? = some cell ∨ h.length ≤ a := by
  by_cases hlt : a < h.length
  · obtain ⟨rest, hrest⟩ := alloc_extends h t
    rw [← hrest, List.getElem?_append_left hlt] at hcell
    exact Or.inl hcell
  · exact Or.inr (Nat.le_of_not_lt hlt)

theorem exist_alloc (hapart : Apart P h) (t : Tree σ) {a : Nat} {cell : Cell σ}
    (hcell : (alloc h t).1[a]? = some cell) : ∀ b ∈ cell.members, b < (alloc h t).1.length := by
  intro b hb
  rcases old_or_new hcell with hold | hnew
  · exact Nat.lt_of_lt_of_le (hapart.exist a cell hold b hb) (alloc_extends h t).length_le
  · exact (alloc_members h t hnew hcell b hb).2

/-- A value built outside the region. -/
theorem alloc_outside (hapart : Apart P h) (t : Tree σ) : Apart P (alloc h t).1 where
  inside := fun a ha => Nat.lt_of_lt_of_le (hapart.inside a ha) (alloc_extends h t).length_le
  exist := fun _ _ hcell => hapart.exist_alloc t hcell
  closed := by
    intro a cell ha hcell b hb hP
    rcases old_or_new hcell with hold | hnew
    · exact hapart.closed a cell ha hold b hb hP
    · exact absurd (hapart.inside b hP) (Nat.not_lt_of_le (alloc_members h t hnew hcell b hb).1)

/-- A value built inside it. -/
theorem alloc_inside (hapart : Apart P h) (t : Tree σ) :
    Apart (fun a => P a ∨ Between h (alloc h t).1 a) (alloc h t).1 where
  inside := by
    rintro a (ha | ha)
    · exact Nat.lt_of_lt_of_le (hapart.inside a ha) (alloc_extends h t).length_le
    · exact ha.2
  exist := fun _ _ hcell => hapart.exist_alloc t hcell
  closed := by
    intro a cell ha hcell b hb hP
    have hlt : a < (alloc h t).1.length := (List.getElem?_eq_some_iff.mp hcell).1
    rcases old_or_new hcell with hold | hnew
    · rcases hP with hP | hP
      · exact hapart.closed a cell (fun h => ha (Or.inl h)) hold b hb hP
      · exact absurd (hapart.exist a cell hold b hb) (Nat.not_lt_of_le hP.1)
    · exact ha (Or.inr ⟨hnew, hlt⟩)

/-- A holder writes a cell that it can reach. -/
theorem set (hapart : Apart P h) {held : List Nat} (hheld : ∀ a ∈ held, ¬ P a ∧ a < h.length)
    (a : Nat) (cell : Cell σ) (hmembers : ∀ b ∈ cell.members, Reachable h held b) :
    Apart P (h.set a cell) where
  inside := by
    intro b hb
    rw [List.length_set]
    exact hapart.inside b hb
  exist := by
    intro b other hother c hc
    rw [List.length_set]
    rw [List.getElem?_set] at hother
    split at hother
    · split at hother
      · obtain rfl := Option.some.inj hother
        exact (hapart.reachable hheld (hmembers c hc)).2
      · cases hother
    · exact hapart.exist b other hother c hc
  closed := by
    intro b other hb hother c hc
    rw [List.getElem?_set] at hother
    split at hother
    · split at hother
      · obtain rfl := Option.some.inj hother
        exact (hapart.reachable hheld (hmembers c hc)).1
      · cases hother
    · exact hapart.closed b other hb hother c hc

/-- A holder builds an object out of what it can reach. -/
theorem append (hapart : Apart P h) {held : List Nat} (hheld : ∀ a ∈ held, ¬ P a ∧ a < h.length)
    (cell : Cell σ) (hmembers : ∀ b ∈ cell.members, Reachable h held b) :
    Apart P (h ++ [cell]) := by
  have hcase : ∀ (a : Nat) (other : Cell σ), (h ++ [cell])[a]? = some other →
      h[a]? = some other ∨ other = cell := by
    intro a other hother
    by_cases hlt : a < h.length
    · rw [List.getElem?_append_left hlt] at hother
      exact Or.inl hother
    · rw [List.getElem?_append_right (Nat.le_of_not_lt hlt), List.getElem?_singleton] at hother
      split at hother
      · exact Or.inr (Option.some.inj hother).symm
      · cases hother
  have hlen : h.length ≤ (h ++ [cell]).length := (List.prefix_append h [cell]).length_le
  refine ⟨fun a ha => Nat.lt_of_lt_of_le (hapart.inside a ha) hlen, ?_, ?_⟩
  · intro a other hother b hb
    rcases hcase a other hother with hold | rfl
    · exact Nat.lt_of_lt_of_le (hapart.exist a other hold b hb) hlen
    · exact Nat.lt_of_lt_of_le (hapart.reachable hheld (hmembers b hb)).2 hlen
  · intro a other ha hother b hb
    rcases hcase a other hother with hold | rfl
    · exact hapart.closed a other ha hold b hb
    · exact (hapart.reachable hheld (hmembers b hb)).1

end Apart

/-- A value in the region survives a write outside it. -/
theorem Holds.set {a b : Nat} {t : Tree σ} (hold : Holds P h a t) (hb : ¬ P b) (cell : Cell σ) :
    Holds P (h.set b cell) a t := by
  refine hold.mono (fun _ hc => hc) fun c other hc hother => ?_
  have hne : b ≠ c := by
    rintro rfl
    exact hb hc
  rw [List.getElem?_set_ne hne]
  exact hother

theorem Holds.extend {a : Nat} {t : Tree σ} (hold : Holds P h a t) (hPQ : ∀ b, P b → Q b)
    (hle : h <+: h') : Holds Q h' a t :=
  hold.mono hPQ fun _ _ _ hcell => getElem?_of_prefix hle hcell

end ObjectHeap
