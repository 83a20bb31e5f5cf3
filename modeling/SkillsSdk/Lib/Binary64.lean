/-
SkillsSdk/Lib/Binary64.lean

Floating-point numbers of 53 significant bits, by their values.

A number is rounded to the nearest multiple of the last place of its binade,
to the even multiple of two that are as near (`round`).  A float is a number
that rounding keeps.  The exponent is bounded below, at that of the least
subnormal number, and not above: what is rounded here stays far from overflow.

Everything follows from `round_nearest`: no float is nearer to a number than its
rounding.  Rounding is therefore monotone (`round_mono`), and a float below a
number stays below its rounding (`le_round`).
-/
import Mathlib.Data.Int.Log
import Mathlib.Algebra.Order.Round
import Mathlib.Data.Rat.Floor
import Mathlib.Tactic.Linarith
import Mathlib.Tactic.FieldSimp
import Mathlib.Tactic.Ring
import Mathlib.Tactic.NormNum

namespace Binary64

/-! ### Rounding -/

/-- The exponent of the last place of a number. -/
def lastPlace (x : ℚ) : ℤ := max (Int.log 2 |x| - 52) (-1074)

/-- The unit in the last place. -/
def ulp (x : ℚ) : ℚ := 2 ^ lastPlace x

/-- The nearest integer, of two the even one. -/
def nearestEven (q : ℚ) : ℤ :=
  if q - ⌊q⌋ < 1 / 2 ∨ (q - ⌊q⌋ = 1 / 2 ∧ Even ⌊q⌋) then ⌊q⌋ else ⌊q⌋ + 1

/-- Rounding to nearest, ties to even. -/
def round (x : ℚ) : ℚ := nearestEven (x / ulp x) * ulp x

end Binary64

/-- A float, by its value. -/
abbrev Binary64 := { x : ℚ // Binary64.round x = x }

namespace Binary64

/-! ### The nearest integer -/

theorem abs_nearestEven_sub_le (q : ℚ) : |nearestEven q - q| ≤ 1 / 2 := by
  have hfloor := Int.floor_le q
  have hlt := Int.lt_floor_add_one q
  rw [nearestEven, abs_le]
  split
  · rename_i h
    have hle : q - ⌊q⌋ ≤ 1 / 2 := h.elim le_of_lt fun h => h.1.le
    constructor <;> linarith
  · rename_i h
    have hle : 1 / 2 ≤ q - ⌊q⌋ := not_lt.mp fun hlt => h (Or.inl hlt)
    push_cast
    constructor <;> linarith

/-- No integer is nearer. -/
theorem nearestEven_nearest (q : ℚ) (n : ℤ) : |(nearestEven q : ℚ) - q| ≤ |(n : ℚ) - q| := by
  have hle := abs_nearestEven_sub_le q
  by_cases hn : n = nearestEven q
  · rw [hn]
  · -- two integers are at least one apart, so a nearer one would be at half a unit or more
    have hapart : (1 : ℚ) ≤ |(n : ℚ) - nearestEven q| := by
      have : (1 : ℤ) ≤ |n - nearestEven q| := Int.one_le_abs (sub_ne_zero.mpr hn)
      exact_mod_cast this
    have htriangle : |(n : ℚ) - nearestEven q| ≤ |(n : ℚ) - q| + |(nearestEven q : ℚ) - q| := by
      rw [abs_sub_comm (nearestEven q : ℚ) q]
      exact abs_sub_le _ _ _
    linarith

theorem nearestEven_intCast (n : ℤ) : nearestEven n = n := by
  rw [nearestEven, Int.floor_intCast, sub_self, if_pos (Or.inl (by norm_num))]

/-! ### The last place -/

theorem ulp_pos (x : ℚ) : 0 < ulp x := zpow_pos (by norm_num) _

/-- A number spans fewer than `2 ^ 53` last places. -/
theorem lt_ulp_mul (x : ℚ) : |x| < 2 ^ 53 * ulp x := by
  have hlog := Int.lt_zpow_succ_log_self (R := ℚ) (b := 2) (by norm_num) |x|
  have hle : Int.log 2 |x| + 1 ≤ 53 + lastPlace x := by
    have := le_max_left (Int.log 2 |x| - 52) (-1074)
    rw [lastPlace]
    omega
  refine hlog.trans_le ?_
  rw [ulp, ← zpow_natCast, ← zpow_add₀ (by norm_num)]
  push_cast
  exact zpow_le_zpow_right₀ (by norm_num) hle

/-- A power of two is a whole number of units of a lower place. -/
theorem zpow_multiple {a b : ℤ} (h : a ≤ b) : ∃ n : ℤ, (2 : ℚ) ^ b = n * 2 ^ a := by
  refine ⟨2 ^ (b - a).toNat, ?_⟩
  push_cast
  rw [← zpow_natCast, ← zpow_add₀ (by norm_num), Int.toNat_of_nonneg (by omega)]
  congr 1
  omega

/-! ### Floats -/

/-- A whole number of its own last places is a float. -/
theorem round_of_multiple {x : ℚ} {n : ℤ} (h : x = n * ulp x) : round x = x := by
  have hdiv : x / ulp x = n := by
    rw [div_eq_iff (ulp_pos x).ne']
    exact h
  rw [round, hdiv, nearestEven_intCast]
  exact h.symm

/-- A float is a whole number of its last places. -/
theorem multiple_of_round {x : ℚ} (h : round x = x) : ∃ n : ℤ, x = n * ulp x :=
  ⟨nearestEven (x / ulp x), h.symm⟩

theorem round_zpow {e : ℤ} (he : -1074 ≤ e) : round (2 ^ e) = 2 ^ e := by
  have hle : lastPlace (2 ^ e) ≤ e := by
    rw [lastPlace, abs_of_pos (zpow_pos (by norm_num) e), show (2 : ℚ) = ((2 : ℕ) : ℚ) from rfl,
      Int.log_zpow (by norm_num)]
    omega
  obtain ⟨n, hn⟩ := zpow_multiple hle
  exact round_of_multiple hn

theorem round_zero : round 0 = 0 := round_of_multiple (n := 0) (by simp)

theorem round_one : round 1 = 1 := by simpa using round_zpow (e := 0) (by norm_num)

theorem round_nonneg {x : ℚ} (h : 0 ≤ x) : 0 ≤ round x := by
  have hq : (0 : ℤ) ≤ ⌊x / ulp x⌋ := Int.floor_nonneg.mpr (div_nonneg h (ulp_pos x).le)
  have hn : (0 : ℤ) ≤ nearestEven (x / ulp x) := by
    rw [nearestEven]
    split <;> omega
  exact mul_nonneg (by exact_mod_cast hn) (ulp_pos x).le

/-- Rounding gives a float: a whole number of last places of `x` is one, unless
it has carried into the next binade, and there it is a power of two. -/
theorem round_round {x : ℚ} (h : 0 ≤ x) : round (round x) = round x := by
  obtain ⟨n, hn⟩ : ∃ n : ℤ, round x = n * ulp x := ⟨_, rfl⟩
  have hpos := ulp_pos x
  rcases (round_nonneg h).eq_or_lt with h0 | h0
  · rw [← h0, round_zero]
  · have hle : round x ≤ 2 ^ 53 * ulp x := by
      have hx := lt_ulp_mul x
      rw [abs_of_nonneg h] at hx
      have hq : x / ulp x < (2 ^ 53 : ℤ) := by
        rw [div_lt_iff₀ hpos]
        push_cast
        exact hx
      have hfloor : ⌊x / ulp x⌋ < 2 ^ 53 := Int.floor_lt.mpr hq
      have hnear : nearestEven (x / ulp x) ≤ 2 ^ 53 := by
        rw [nearestEven]
        split <;> omega
      exact mul_le_mul_of_nonneg_right (by exact_mod_cast hnear) hpos.le
    -- at the upper end the rounded number has the next exponent
    rcases hle.eq_or_lt with heq | hlt
    · have hzpow : round x = 2 ^ (53 + lastPlace x) := by
        rw [heq, ulp, zpow_add₀ (by norm_num)]
        norm_num
      rw [hzpow]
      apply round_zpow
      have := le_max_right (Int.log 2 |x| - 52) (-1074)
      rw [lastPlace]
      omega
    · have hplace : lastPlace (round x) ≤ lastPlace x := by
        have hlog : Int.log 2 (round x) < 53 + lastPlace x := by
          rw [← Int.lt_zpow_iff_log_lt (by norm_num) h0]
          rw [zpow_add₀ (by norm_num)]
          exact_mod_cast hlt
        rw [lastPlace, abs_of_pos h0]
        refine max_le ?_ (le_max_right _ _)
        omega
      obtain ⟨m, hm⟩ := zpow_multiple hplace
      apply round_of_multiple (n := n * m)
      calc round x = n * ulp x := hn
        _ = n * (m * ulp (round x)) := by rw [ulp, hm, ulp]
        _ = (n * m : ℤ) * ulp (round x) := by
          push_cast
          ring

/-! ### Nearness -/

/-- No multiple of the last place of a number is nearer than its rounding. -/
theorem round_nearest_multiple (x : ℚ) (n : ℤ) : |round x - x| ≤ |n * ulp x - x| := by
  have hpos := ulp_pos x
  have hscale : ∀ m : ℤ, |m * ulp x - x| = |(m : ℚ) - x / ulp x| * ulp x := fun m => by
    rw [← abs_of_pos hpos, ← abs_mul, abs_of_pos hpos, sub_mul, div_mul_cancel₀ _ hpos.ne']
  rw [round, hscale, hscale]
  exact mul_le_mul_of_nonneg_right (nearestEven_nearest _ n) hpos.le

/-- **Rounding is to nearest**: no float is nearer to a number. -/
theorem round_nearest {x y : ℚ} (hx : 0 ≤ x) (hy : round y = y) : |round x - x| ≤ |y - x| := by
  rcases hx.eq_or_lt with rfl | hx0
  · rw [round_zero, sub_self, abs_zero]
    exact abs_nonneg _
  obtain ⟨n, hn⟩ := multiple_of_round hy
  by_cases hplace : lastPlace x ≤ lastPlace y
  · obtain ⟨m, hm⟩ := zpow_multiple hplace
    have hmult : y = (n * m : ℤ) * ulp x := by
      calc y = n * ulp y := hn
        _ = n * (m * ulp x) := by rw [ulp, hm, ulp]
        _ = (n * m : ℤ) * ulp x := by
          push_cast
          ring
    rw [hmult]
    exact round_nearest_multiple x _
  · -- `y` lies below the binade of `x`, whose least number is between them
    rcases le_or_gt y 0 with hy0 | hy0
    · calc |round x - x| ≤ |((0 : ℤ) : ℚ) * ulp x - x| := round_nearest_multiple x 0
        _ = x := by rw [Int.cast_zero, zero_mul, zero_sub, abs_neg, abs_of_nonneg hx]
        _ ≤ |y - x| := by
          rw [abs_sub_comm, abs_of_nonneg (by linarith)]
          linarith
    · rw [lastPlace, lastPlace, abs_of_pos hx0, abs_of_pos hy0] at hplace
      have hlog : Int.log 2 y < Int.log 2 x := by
        by_contra hge
        exact hplace (max_le_max (sub_le_sub_right (not_lt.mp hge) 52) le_rfl)
      have hsub : -1074 ≤ Int.log 2 x - 52 := by
        by_contra hlt
        apply hplace
        rw [max_eq_right (by omega), max_eq_right (by omega)]
      obtain ⟨m, hm⟩ := zpow_multiple (a := lastPlace x) (b := Int.log 2 x) (by
        rw [lastPlace, abs_of_pos hx0]
        omega)
      have hbelow : (2 : ℚ) ^ Int.log 2 x ≤ x := by
        exact_mod_cast Int.zpow_log_le_self (R := ℚ) (b := 2) (by norm_num) hx0
      have hyle : y ≤ 2 ^ Int.log 2 x := by
        have hlt := Int.lt_zpow_succ_log_self (R := ℚ) (b := 2) (by norm_num) y
        have hpow : (2 : ℚ) ^ (Int.log 2 y + 1) ≤ 2 ^ Int.log 2 x :=
          zpow_le_zpow_right₀ (by norm_num) hlog
        push_cast at hlt
        exact hlt.le.trans hpow
      calc |round x - x| ≤ |(m : ℚ) * ulp x - x| := round_nearest_multiple x m
        _ = x - 2 ^ Int.log 2 x := by
          rw [ulp, ← hm, abs_sub_comm, abs_of_nonneg (by linarith)]
        _ ≤ x - y := by linarith
        _ ≤ |y - x| := by
          rw [abs_sub_comm]
          exact le_abs_self _

/-- A larger number has no smaller rounding: it would be at least as near to both. -/
theorem round_mono {x y : ℚ} (hx : 0 ≤ x) (h : x ≤ y) : round x ≤ round y := by
  rcases h.eq_or_lt with rfl | hlt
  · exact le_rfl
  · by_contra hgt
    have hx' := round_nearest hx (round_round (hx.trans h))
    have hy' := round_nearest (hx.trans h) (round_round hx)
    have hlow : round y + round x ≤ 2 * x := by
      by_contra hmid
      have : |round y - x| < |round x - x| := by
        rw [abs_lt, abs_of_pos (by linarith)]
        constructor <;> linarith
      linarith
    have hhigh : 2 * y ≤ round y + round x := by
      by_contra hmid
      have : |round x - y| < |round y - y| := by
        rw [abs_sub_comm (round y), abs_lt, abs_of_pos (by linarith)]
        constructor <;> linarith
      linarith
    linarith

/-- A float below a number stays below its rounding. -/
theorem le_round {x t : ℚ} (ht : round t = t) (h0 : 0 ≤ t) (h : t ≤ x) : t ≤ round x :=
  ht ▸ round_mono h0 h

/-- A float above a number stays above its rounding. -/
theorem round_le {x t : ℚ} (ht : round t = t) (h0 : 0 ≤ x) (h : x ≤ t) : round x ≤ t :=
  (round_mono h0 h).trans_eq ht

/-! ### Quotients -/

/-- The quotient of two natural numbers, rounded once. -/
def trueDiv (m n : ℕ) : Binary64 :=
  ⟨round (m / n), round_round (div_nonneg m.cast_nonneg n.cast_nonneg)⟩

theorem trueDiv_nonneg (m n : ℕ) : 0 ≤ (trueDiv m n).val :=
  round_nonneg (div_nonneg m.cast_nonneg n.cast_nonneg)

theorem trueDiv_le_one {m n : ℕ} (h : m ≤ n) : (trueDiv m n).val ≤ 1 := by
  refine round_le round_one (div_nonneg m.cast_nonneg n.cast_nonneg) (div_le_one_of_le₀ ?_ n.cast_nonneg)
  exact_mod_cast h

end Binary64
