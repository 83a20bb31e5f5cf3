/-
SkillsSdk/Lib/Samples.lean

Finite samples of an ordered field: mean, extremes and spread.

The mean and the spread do not depend on the order of a sample.  Negating every
value negates the mean and keeps the spread; adding one amount to every value
adds it to the mean and keeps the spread.
-/
import Mathlib.Algebra.BigOperators.Group.List.Basic
import Mathlib.Algebra.Order.BigOperators.Group.List
import Mathlib.Algebra.Order.Field.Basic
import Mathlib.Order.Lattice
import Mathlib.Tactic.Linarith
import Mathlib.Tactic.FieldSimp
import Mathlib.Tactic.Ring

namespace Samples

variable {K : Type*} [Field K] [LinearOrder K] [IsStrictOrderedRing K]

def mean (l : List K) : K := l.sum / l.length

/-- The greatest value. -/
def upper (l : List K) : K := l.max?.getD 0

/-- The least value. -/
def lower (l : List K) : K := l.min?.getD 0

def spread (l : List K) : K := upper l - lower l

/-! ### Extremes -/

omit [Field K] [IsStrictOrderedRing K] in
theorem max?_eq_some {l : List K} {m : K} : l.max? = some m ↔ m ∈ l ∧ ∀ x ∈ l, x ≤ m :=
  List.max?_eq_some_iff

omit [Field K] [IsStrictOrderedRing K] in
theorem min?_eq_some {l : List K} {m : K} : l.min? = some m ↔ m ∈ l ∧ ∀ x ∈ l, m ≤ x :=
  List.min?_eq_some_iff

omit [IsStrictOrderedRing K] in
theorem upper_spec {l : List K} (h : l ≠ []) : upper l ∈ l ∧ ∀ x ∈ l, x ≤ upper l := by
  rcases hm : l.max? with - | m
  · exact absurd (List.max?_eq_none_iff.mp hm) h
  · rw [upper, hm]
    exact max?_eq_some.mp hm

omit [IsStrictOrderedRing K] in
theorem lower_spec {l : List K} (h : l ≠ []) : lower l ∈ l ∧ ∀ x ∈ l, lower l ≤ x := by
  rcases hm : l.min? with - | m
  · exact absurd (List.min?_eq_none_iff.mp hm) h
  · rw [lower, hm]
    exact min?_eq_some.mp hm

omit [IsStrictOrderedRing K] in
theorem upper_eq_of {l : List K} {m : K} (hmem : m ∈ l) (hle : ∀ x ∈ l, x ≤ m) : upper l = m := by
  rw [upper, max?_eq_some.mpr ⟨hmem, hle⟩]
  rfl

omit [IsStrictOrderedRing K] in
theorem lower_eq_of {l : List K} {m : K} (hmem : m ∈ l) (hle : ∀ x ∈ l, m ≤ x) : lower l = m := by
  rw [lower, min?_eq_some.mpr ⟨hmem, hle⟩]
  rfl

theorem spread_nonneg {l : List K} (h : l ≠ []) : 0 ≤ spread l :=
  sub_nonneg.mpr ((lower_spec h).2 _ (upper_spec h).1)

theorem spread_le {l : List K} (h : l ≠ []) {a b : K} (hl : ∀ x ∈ l, a ≤ x ∧ x ≤ b) :
    spread l ≤ b - a :=
  sub_le_sub (hl _ (upper_spec h).1).2 (hl _ (lower_spec h).1).1

/-! ### Order -/

omit [LinearOrder K] [IsStrictOrderedRing K] in
theorem mean_perm {l l' : List K} (h : l.Perm l') : mean l = mean l' := by
  rw [mean, mean, h.sum_eq, h.length_eq]

omit [IsStrictOrderedRing K] in
theorem spread_perm {l l' : List K} (h : l.Perm l') : spread l = spread l' := by
  rcases List.eq_nil_or_concat l with rfl | ⟨_, _, hne⟩
  · rw [List.nil_perm.mp h]
  · have hl : l ≠ [] := by simp [hne]
    obtain ⟨hu, hule⟩ := upper_spec hl
    obtain ⟨hw, hwle⟩ := lower_spec hl
    rw [spread, spread, upper_eq_of (h.mem_iff.mp hu) fun x hx => hule x (h.mem_iff.mpr hx),
      lower_eq_of (h.mem_iff.mp hw) fun x hx => hwle x (h.mem_iff.mpr hx)]

/-! ### Negation -/

omit [LinearOrder K] [IsStrictOrderedRing K] in
theorem sum_map_neg (l : List K) : (l.map Neg.neg).sum = -l.sum := by
  induction l with
  | nil => simp
  | cons x l ih =>
    rw [List.map_cons, List.sum_cons, List.sum_cons, ih]
    ring

omit [LinearOrder K] [IsStrictOrderedRing K] in
theorem mean_neg (l : List K) : mean (l.map Neg.neg) = -mean l := by
  rw [mean, mean, sum_map_neg, List.length_map, neg_div]

theorem spread_neg {l : List K} (h : l ≠ []) : spread (l.map Neg.neg) = spread l := by
  obtain ⟨hu, hule⟩ := upper_spec h
  obtain ⟨hw, hwle⟩ := lower_spec h
  have hupper : upper (l.map Neg.neg) = -lower l := by
    refine upper_eq_of (List.mem_map.mpr ⟨_, hw, rfl⟩) fun x hx => ?_
    obtain ⟨y, hy, rfl⟩ := List.mem_map.mp hx
    exact neg_le_neg (hwle y hy)
  have hlower : lower (l.map Neg.neg) = -upper l := by
    refine lower_eq_of (List.mem_map.mpr ⟨_, hu, rfl⟩) fun x hx => ?_
    obtain ⟨y, hy, rfl⟩ := List.mem_map.mp hx
    exact neg_le_neg (hule y hy)
  rw [spread, hupper, hlower, spread]
  ring

/-! ### Shifts -/

omit [LinearOrder K] [IsStrictOrderedRing K] in
theorem sum_map_add (l : List K) (c : K) : (l.map (· + c)).sum = l.sum + l.length * c := by
  induction l with
  | nil => simp
  | cons x l ih =>
    rw [List.map_cons, List.sum_cons, List.sum_cons, ih, List.length_cons]
    push_cast
    ring

theorem mean_shift {l : List K} (h : l ≠ []) (c : K) : mean (l.map (· + c)) = mean l + c := by
  have hlen : (l.length : K) ≠ 0 := by
    rw [Nat.cast_ne_zero]
    exact fun h0 => h (List.length_eq_zero_iff.mp h0)
  rw [mean, mean, sum_map_add, List.length_map]
  field_simp

theorem spread_shift {l : List K} (h : l ≠ []) (c : K) : spread (l.map (· + c)) = spread l := by
  obtain ⟨hu, hule⟩ := upper_spec h
  obtain ⟨hw, hwle⟩ := lower_spec h
  have hupper : upper (l.map (· + c)) = upper l + c := by
    refine upper_eq_of (List.mem_map.mpr ⟨_, hu, rfl⟩) fun x hx => ?_
    obtain ⟨y, hy, rfl⟩ := List.mem_map.mp hx
    exact add_le_add_left (hule y hy) c
  have hlower : lower (l.map (· + c)) = lower l + c := by
    refine lower_eq_of (List.mem_map.mpr ⟨_, hw, rfl⟩) fun x hx => ?_
    obtain ⟨y, hy, rfl⟩ := List.mem_map.mp hx
    exact add_le_add_left (hwle y hy) c
  rw [spread, hupper, hlower, spread]
  ring

/-! ### Bounds -/

theorem mean_bounds {l : List K} (h : l ≠ []) {a b : K} (hl : ∀ x ∈ l, a ≤ x ∧ x ≤ b) :
    a ≤ mean l ∧ mean l ≤ b := by
  have hpos : (0 : K) < l.length := by
    rw [Nat.cast_pos]
    exact List.length_pos_iff.mpr h
  have hsum : l.length * a ≤ l.sum ∧ l.sum ≤ l.length * b := by
    clear h hpos
    induction l with
    | nil => simp
    | cons x l ih =>
      obtain ⟨hlow, hhigh⟩ := ih fun y hy => hl y (by simp [hy])
      obtain ⟨hx, hx'⟩ := hl x (by simp)
      rw [List.sum_cons, List.length_cons]
      push_cast
      constructor
      · linarith
      · linarith
  rw [mean, le_div_iff₀ hpos, div_le_iff₀ hpos]
  constructor
  · linarith [hsum.1]
  · linarith [hsum.2]

end Samples
