/-
SkillsSdk/Lib/Bytes.lean

Reading binary data by position.

    slice s i n            the `n` elements from `i` on, fewer at the end
    OccursAt p s i         `p` stands in `s` at `i`
    rfind p s start stop   the last place in `[start, stop)` where `p` stands
    unpackLe w s i         the little-endian number in the `w` bytes from `i` on

A pattern is *unbordered* when no proper suffix of it is a prefix of it.  Two
places where an unbordered pattern stands are apart by its whole length
(`Unbordered.apart`), so a backward search that goes on strictly before its
last hit misses none (`rfind_eq_none_iff`, `rfind_eq_some_iff`).
-/
import Mathlib.Algebra.Order.Ring.Nat
import Mathlib.Data.List.Basic
import Mathlib.Tactic.Common

namespace Bytes

variable {α : Type*}

/-! ### Slices and occurrences -/

def slice (s : List α) (i n : Nat) : List α := (s.drop i).take n

theorem length_slice (s : List α) (i n : Nat) : (slice s i n).length = min n (s.length - i) := by
  rw [slice, List.length_take, List.length_drop]

/-- A slice of a slice. -/
theorem take_drop_slice (s : List α) (i n k m : Nat) (h : k + m ≤ n) :
    ((slice s i n).drop k).take m = slice s (i + k) m := by
  rw [slice, slice, List.drop_take, List.take_take, List.drop_drop]
  congr 1
  omega

def OccursAt (p s : List α) (i : Nat) : Prop := slice s i p.length = p

instance [DecidableEq α] (p s : List α) : DecidablePred (OccursAt p s) := fun i =>
  inferInstanceAs (Decidable (slice s i p.length = p))

theorem OccursAt.le {p s : List α} {i : Nat} (h : OccursAt p s i) (hp : p ≠ []) :
    i + p.length ≤ s.length := by
  have hlen := congrArg List.length h
  rw [length_slice] at hlen
  have : 0 < p.length := List.length_pos_iff.mpr hp
  omega

/-- No proper suffix of the pattern is a prefix of it. -/
def Unbordered (p : List α) : Prop :=
  ∀ k < p.length, 0 < k → p.drop k ≠ p.take (p.length - k)

instance [DecidableEq α] (p : List α) : Decidable (Unbordered p) :=
  inferInstanceAs (Decidable (∀ k < p.length, 0 < k → p.drop k ≠ p.take (p.length - k)))

/-- An unbordered pattern does not overlap itself. -/
theorem Unbordered.apart {p s : List α} (hp : Unbordered p) {i j : Nat} (hi : OccursAt p s i)
    (hj : OccursAt p s j) (hij : i < j) : i + p.length ≤ j := by
  by_contra hlt
  have hk : j - i < p.length := by omega
  apply hp (j - i) hk (by omega)
  calc p.drop (j - i) = (p.drop (j - i)).take (p.length - (j - i)) := by
        rw [List.take_of_length_le (Nat.le_of_eq List.length_drop)]
    _ = ((slice s i p.length).drop (j - i)).take (p.length - (j - i)) := by
        rw [show slice s i p.length = p from hi]
    _ = slice s j (p.length - (j - i)) := by
        rw [take_drop_slice _ _ _ _ _ (by omega), show i + (j - i) = j by omega]
    _ = ((slice s j p.length).drop 0).take (p.length - (j - i)) := by
        rw [take_drop_slice _ _ _ _ _ (by omega), Nat.add_zero]
    _ = p.take (p.length - (j - i)) := by
        rw [show slice s j p.length = p from hj, List.drop_zero]

/-! ### Searching backwards -/

/-- The last number below `stop`, and not below `start`, with a property. -/
def lastBelow (P : Nat → Prop) [DecidablePred P] (start : Nat) : Nat → Option Nat
  | 0 => none
  | n + 1 => if n < start then none else if P n then some n else lastBelow P start n

section

variable {P : Nat → Prop} [DecidablePred P] {start stop : Nat}

theorem lastBelow_eq_none_iff :
    lastBelow P start stop = none ↔ ∀ j, start ≤ j → j < stop → ¬ P j := by
  induction stop with
  | zero => simp [lastBelow]
  | succ n ih =>
    rw [lastBelow]
    split
    · rename_i hn
      exact iff_of_true rfl fun j h₁ h₂ => absurd h₁ (by omega)
    · rename_i hn
      split
      · rename_i hP
        exact iff_of_false (by simp) fun h => h n (by omega) (by omega) hP
      · rename_i hP
        rw [ih]
        constructor
        · intro h j h₁ h₂
          rcases Nat.lt_succ_iff_lt_or_eq.mp h₂ with hj | rfl
          · exact h j h₁ hj
          · exact hP
        · exact fun h j h₁ h₂ => h j h₁ (by omega)

theorem lastBelow_eq_some_iff {i : Nat} :
    lastBelow P start stop = some i ↔
      (start ≤ i ∧ i < stop ∧ P i) ∧ ∀ j, i < j → j < stop → ¬ P j := by
  induction stop with
  | zero => simp [lastBelow]
  | succ n ih =>
    rw [lastBelow]
    -- the highest position is tried first
    split
    · rename_i hn
      refine iff_of_false (by simp) ?_
      rintro ⟨⟨h₁, h₂, -⟩, -⟩
      omega
    · rename_i hn
      split
      · rename_i hP
        rw [Option.some.injEq]
        constructor
        · rintro rfl
          exact ⟨⟨by omega, by omega, hP⟩, fun j h₁ h₂ => absurd h₁ (by omega)⟩
        · rintro ⟨⟨-, hi, -⟩, hlast⟩
          by_contra hne
          exact hlast n (by omega) (by omega) hP
      · rename_i hP
        rw [ih]
        constructor
        · rintro ⟨⟨h₁, h₂, h₃⟩, hlast⟩
          refine ⟨⟨h₁, by omega, h₃⟩, fun j h₄ h₅ => ?_⟩
          rcases Nat.lt_succ_iff_lt_or_eq.mp h₅ with hj | rfl
          · exact hlast j h₄ hj
          · exact hP
        · rintro ⟨⟨h₁, h₂, h₃⟩, hlast⟩
          have : i ≠ n := by
            rintro rfl
            exact hP h₃
          exact ⟨⟨h₁, by omega, h₃⟩, fun j h₄ h₅ => hlast j h₄ (by omega)⟩

end

variable [DecidableEq α]

/-- `s.rfind(p, start, stop)` for a non-empty pattern. -/
def rfind (p s : List α) (start stop : Nat) : Option Nat :=
  lastBelow (OccursAt p s) start (stop + 1 - p.length)

theorem rfind_eq_none_iff {p s : List α} {start stop : Nat} :
    rfind p s start stop = none ↔
      ∀ j, start ≤ j → j + p.length ≤ stop → ¬ OccursAt p s j := by
  rw [rfind, lastBelow_eq_none_iff]
  exact forall_congr' fun j => by
    rw [show j < stop + 1 - p.length ↔ j + p.length ≤ stop by omega]

theorem rfind_eq_some_iff {p s : List α} {start stop i : Nat} :
    rfind p s start stop = some i ↔
      (start ≤ i ∧ i + p.length ≤ stop ∧ OccursAt p s i) ∧
        ∀ j, i < j → j + p.length ≤ stop → ¬ OccursAt p s j := by
  rw [rfind, lastBelow_eq_some_iff, show i < stop + 1 - p.length ↔ i + p.length ≤ stop by omega]
  exact and_congr_right fun _ => forall_congr' fun j => by
    rw [show j < stop + 1 - p.length ↔ j + p.length ≤ stop by omega]

/-! ### Little-endian numbers -/

/-- The number whose base-256 digits are the bytes, least significant first. -/
def leNat : List UInt8 → Nat
  | [] => 0
  | b :: bs => b.toNat + 256 * leNat bs

theorem leNat_lt (bs : List UInt8) : leNat bs < 256 ^ bs.length := by
  induction bs with
  | nil => simp [leNat]
  | cons b bs ih =>
    have hb : b.toNat < 256 := b.toNat_lt
    rw [leNat, List.length_cons, Nat.pow_succ]
    omega

/-- The number that the `w` bytes from `i` on spell. -/
def leAt (w : Nat) (s : List UInt8) (i : Nat) : Nat := leNat (slice s i w)

theorem leAt_lt (w : Nat) (s : List UInt8) (i : Nat) : leAt w s i < 256 ^ w := by
  have hlen : (slice s i w).length ≤ w := by
    rw [length_slice]
    omega
  exact Nat.lt_of_lt_of_le (leNat_lt _) (Nat.pow_le_pow_right (by omega) hlen)

/-- A field that is read past the end. -/
inductive StructError where
  | short
  deriving DecidableEq

/-- One little-endian field of `struct.unpack_from`. -/
def unpackLe (w : Nat) (s : List UInt8) (i : Nat) : Except StructError Nat :=
  if i + w ≤ s.length then .ok (leAt w s i) else .error .short

theorem unpackLe_of_le {w : Nat} {s : List UInt8} {i : Nat} (h : i + w ≤ s.length) :
    unpackLe w s i = .ok (leAt w s i) := if_pos h

end Bytes
