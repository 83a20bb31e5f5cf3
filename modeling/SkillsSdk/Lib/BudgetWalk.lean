/-
SkillsSdk/Lib/BudgetWalk.lean

A walk over a tree with a stack and a budget.

The walk takes the item that was put last, gives up when the budget is used up,
visits the item at its depth and puts the children.  The order of the stack does
not decide whether the walk returns: it returns when the items below the stack
are no more than the budget and every visit at every level does
(`walk_eq_ok_iff`).
-/
import Mathlib.Algebra.BigOperators.Group.List.Basic
import Mathlib.Algebra.Ring.Nat

namespace BudgetWalk

variable {α ε : Type*} (children : α → List α) (visit : α → Nat → Except ε Unit) (exceeded : ε)

/-- `b` stands `n` levels below `a`. -/
inductive Level : α → Nat → α → Prop
  | here (a : α) : Level a 0 a
  | under {a c b : α} {n : Nat} : c ∈ children a → Level c n b → Level a (n + 1) b

/-- The loop, with the top of the stack first. -/
def walk : Nat → List (α × Nat) → Except ε Unit
  | _, [] => .ok ()
  | 0, _ :: _ => .error exceeded
  | remaining + 1, (item, depth) :: stack =>
    match visit item depth with
    | .error e => .error e
    | .ok () => walk remaining ((children item).reverse.map (fun c => (c, depth + 1)) ++ stack)

variable {children visit exceeded}

/-- What is visited below an item: itself, and what is visited below its children. -/
theorem forall_level_iff {a : α} {P : Nat → α → Prop} :
    (∀ n b, Level children a n b → P n b) ↔
      P 0 a ∧ ∀ c ∈ children a, ∀ n b, Level children c n b → P (n + 1) b := by
  constructor
  · intro h
    exact ⟨h 0 a (.here a), fun c hc n b hb => h (n + 1) b (.under hc hb)⟩
  · rintro ⟨hhere, hbelow⟩ n b hb
    cases hb with
    | here => exact hhere
    | under hc hb => exact hbelow _ hc _ b hb

/-- **A walk returns** when the budget covers the items and every visit returns. -/
theorem walk_eq_ok_iff {weight : α → Nat} (hweight : ∀ a, weight a = 1 + ((children a).map weight).sum)
    {remaining : Nat} {stack : List (α × Nat)} :
    walk children visit exceeded remaining stack = .ok () ↔
      (stack.map fun p => weight p.1).sum ≤ remaining ∧
        ∀ p ∈ stack, ∀ n b, Level children p.1 n b → visit b (p.2 + n) = .ok () := by
  induction remaining generalizing stack with
  | zero =>
      rcases stack with - | ⟨⟨item, depth⟩, stack⟩
      · exact iff_of_true rfl ⟨le_refl 0, fun p hp => absurd hp List.not_mem_nil⟩
      · refine iff_of_false nofun ?_
        rintro ⟨hsum, -⟩
        rw [List.map_cons, List.sum_cons, hweight] at hsum
        omega
  | succ remaining ih =>
      rcases stack with - | ⟨⟨item, depth⟩, stack⟩
      · exact iff_of_true rfl ⟨Nat.zero_le _, fun p hp => absurd hp List.not_mem_nil⟩
      · -- the children take the place of the item
        have hsum : (((children item).reverse.map (fun c => (c, depth + 1)) ++ stack).map fun p => weight p.1).sum =
            ((children item).map weight).sum + (stack.map fun p => weight p.1).sum := by
          rw [List.map_append, List.sum_append, List.map_map, List.map_reverse, List.sum_reverse]
          rfl
        rw [walk]
        rcases hvisit : visit item depth with e | ⟨⟩
        · refine iff_of_false nofun ?_
          rintro ⟨-, h⟩
          have := h (item, depth) List.mem_cons_self 0 item (.here item)
          rw [Nat.add_zero, hvisit] at this
          cases this
        · rw [ih, hsum, List.map_cons, List.sum_cons, hweight item, List.forall_mem_append, List.forall_mem_cons,
            forall_level_iff (a := item)]
          refine and_congr ?_ (and_congr ?_ Iff.rfl)
          · omega
          · simp only [List.mem_map, List.mem_reverse]
            constructor
            · intro h
              refine ⟨hvisit, fun c hc n b hb => ?_⟩
              have hchild := h (c, depth + 1) ⟨c, hc, rfl⟩ n b hb
              rwa [Nat.add_assoc, Nat.add_comm 1 n] at hchild
            · rintro ⟨-, h⟩ p ⟨c, hc, rfl⟩ n b hb
              have hchild := h c hc n b hb
              rwa [Nat.add_comm n 1, ← Nat.add_assoc] at hchild

/-- What a walk raises is the exhausted budget or comes from a visit. -/
theorem walk_eq_error {remaining : Nat} {stack : List (α × Nat)} {e : ε}
    (h : walk children visit exceeded remaining stack = .error e) :
    e = exceeded ∨ ∃ item depth, visit item depth = .error e := by
  induction remaining generalizing stack with
  | zero =>
      rcases stack with - | ⟨p, stack⟩
      · cases h
      · exact Or.inl (Except.error.inj h).symm
  | succ remaining ih =>
      rcases stack with - | ⟨⟨item, depth⟩, stack⟩
      · cases h
      · rw [walk] at h
        rcases hvisit : visit item depth with e' | ⟨⟩
        · rw [hvisit] at h
          obtain rfl := Except.error.inj h
          exact Or.inr ⟨item, depth, hvisit⟩
        · rw [hvisit] at h
          exact ih h

end BudgetWalk
