/-
SkillsSdk/Lib/NamedTree.lean

Finite trees whose edges carry names: a directory holds a list of entries, each
a name with a leaf or a directory below it.

    At es path node     following `path` down from the entries `es` ends at `node`
    Distinct es         in every directory the entries have different names

A node is either one of the entries or below one of them (`at_cons_iff`), which
is the induction that a walk of the tree follows.  Under distinct names a name
stands for one entry, and what is below it is the tree of that entry
(`at_under_iff`).
-/
import Mathlib.Data.List.Nodup
import Mathlib.Tactic.Common

namespace NamedTree

universe u v w

mutual

/-- A leaf, or a directory with its entries. -/
inductive Node (N : Type u) (L : Type v) (D : Type w) where
  | leaf (l : L)
  | dir (d : D) (entries : Entries N L D)

/-- The entries of a directory, in order. -/
inductive Entries (N : Type u) (L : Type v) (D : Type w) where
  | nil
  | cons (name : N) (node : Node N L D) (rest : Entries N L D)

end

variable {N : Type u} {L : Type v} {D : Type w}

namespace Entries

def names : Entries N L D → List N
  | nil => []
  | cons name _ rest => name :: names rest

/-- The node is the entry with that name. -/
def Has : Entries N L D → N → Node N L D → Prop
  | nil, _, _ => False
  | cons name node rest, m, x => (m = name ∧ x = node) ∨ Has rest m x

theorem Has.mem_names {es : Entries N L D} {name : N} {node : Node N L D} (h : es.Has name node) :
    name ∈ es.names := by
  induction es using Entries.rec (motive_1 := fun _ => True) with
  | leaf => trivial
  | dir => trivial
  | nil => exact h.elim
  | cons m x rest _ ih =>
    rcases h with ⟨rfl, -⟩ | h
    · exact List.mem_cons_self
    · exact List.mem_cons_of_mem _ (ih h)

theorem exists_has {es : Entries N L D} {name : N} (h : name ∈ es.names) : ∃ node, es.Has name node := by
  induction es using Entries.rec (motive_1 := fun _ => True) with
  | leaf => trivial
  | dir => trivial
  | nil => cases h
  | cons m x rest _ ih =>
    rcases List.mem_cons.mp h with rfl | h
    · exact ⟨x, Or.inl ⟨rfl, rfl⟩⟩
    · obtain ⟨node, hnode⟩ := ih h
      exact ⟨node, Or.inr hnode⟩

end Entries

mutual

/-- Different names in every directory below the node. -/
def Node.Distinct : Node N L D → Prop
  | .leaf _ => True
  | .dir _ entries => Entries.Distinct entries

/-- Different names among the entries and in every directory below them. -/
def Entries.Distinct : Entries N L D → Prop
  | .nil => True
  | .cons name node rest => name ∉ rest.names ∧ node.Distinct ∧ Entries.Distinct rest

end

theorem Entries.Has.distinct {es : Entries N L D} {name : N} {node : Node N L D} (hd : es.Distinct)
    (h : es.Has name node) : node.Distinct := by
  induction es using Entries.rec (motive_1 := fun _ => True) with
  | leaf => trivial
  | dir => trivial
  | nil => exact h.elim
  | cons m x rest _ ih =>
    rcases h with ⟨rfl, rfl⟩ | h
    · exact hd.2.1
    · exact ih hd.2.2 h

/-- A name stands for one entry. -/
theorem Entries.Has.unique {es : Entries N L D} {name : N} {node node' : Node N L D} (hd : es.Distinct)
    (h : es.Has name node) (h' : es.Has name node') : node = node' := by
  induction es using Entries.rec (motive_1 := fun _ => True) with
  | leaf => trivial
  | dir => trivial
  | nil => exact h.elim
  | cons m x rest _ ih =>
    rcases h with ⟨rfl, rfl⟩ | h
    · rcases h' with ⟨-, rfl⟩ | h'
      · rfl
      · exact absurd h'.mem_names hd.1
    · rcases h' with ⟨rfl, -⟩ | h'
      · exact absurd h.mem_names hd.1
      · exact ih hd.2.2 h h'

/-- Following the path down from the entries ends at the node. -/
inductive At : Entries N L D → List N → Node N L D → Prop
  | entry {es : Entries N L D} {name : N} {node : Node N L D} : es.Has name node → At es [name] node
  | under {es sub : Entries N L D} {name : N} {d : D} {path : List N} {node : Node N L D} :
      es.Has name (.dir d sub) → At sub path node → At es (name :: path) node

theorem At.ne_nil {es : Entries N L D} {path : List N} {node : Node N L D} (h : At es path node) :
    path ≠ [] := by
  cases h <;> simp

theorem not_at_nil {path : List N} {node : Node N L D} : ¬ At (.nil : Entries N L D) path node := by
  intro h
  cases h with
  | entry h => exact h
  | under h _ => exact h

/-- A node of the tree is in the first entry or in the others. -/
theorem at_cons_iff {name : N} {first : Node N L D} {rest : Entries N L D} {path : List N}
    {node : Node N L D} :
    At (.cons name first rest) path node ↔
      (path = [name] ∧ node = first) ∨
        (∃ d sub tail, first = .dir d sub ∧ path = name :: tail ∧ At sub tail node) ∨
        At rest path node := by
  constructor
  · intro h
    cases h with
    | entry h =>
      rcases h with ⟨rfl, rfl⟩ | h
      · exact Or.inl ⟨rfl, rfl⟩
      · exact Or.inr (Or.inr (.entry h))
    | under h hbelow =>
      rcases h with ⟨rfl, rfl⟩ | h
      · exact Or.inr (Or.inl ⟨_, _, _, rfl, rfl, hbelow⟩)
      · exact Or.inr (Or.inr (.under h hbelow))
  · rintro (⟨rfl, rfl⟩ | ⟨d, sub, tail, rfl, rfl, h⟩ | h)
    · exact .entry (Or.inl ⟨rfl, rfl⟩)
    · exact .under (Or.inl ⟨rfl, rfl⟩) h
    · cases h with
      | entry h => exact .entry (Or.inr h)
      | under h hbelow => exact .under (Or.inr h) hbelow

/-- A path starts with the name of an entry. -/
theorem At.head_mem {es : Entries N L D} {path : List N} {node : Node N L D} (h : At es path node) :
    ∃ name tail, path = name :: tail ∧ name ∈ es.names := by
  cases h with
  | entry h => exact ⟨_, [], rfl, h.mem_names⟩
  | under h _ => exact ⟨_, _, rfl, h.mem_names⟩

/-- What is below a directory is the tree of its entries. -/
theorem at_under_iff {es sub : Entries N L D} {name : N} {d : D} {path : List N} {node : Node N L D}
    (hd : es.Distinct) (h : es.Has name (.dir d sub)) (hpath : path ≠ []) :
    At es (name :: path) node ↔ At sub path node := by
  constructor
  · intro hat
    cases hat with
    | entry _ => exact absurd rfl hpath
    | under h' hbelow =>
      obtain ⟨-, rfl⟩ := Node.dir.inj (h.unique hd h')
      exact hbelow
  · exact At.under h

end NamedTree
