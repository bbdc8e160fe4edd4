import Mathlib.Algebra.Order.Field.Basic
import Mathlib.Data.Rat.Cast.Order
import Mathlib.Tactic.Linarith
import Mathlib.Tactic.Ring
import Tunebook.Double.Basic

/-!
# The nearest integer

Which integer is nearest to a rational number is settled but for the halves, and there the even
neighbour is taken.  So a rational number has one nearest integer, greater numbers have greater ones,
and `nearest` is a way to find it for a quotient.

What a computation needs of this is that rounding twice is rounding once.  A quotient is rounded to a
fine grid first and to an integer then.  It may come to a half only by being one, since a quotient that
is not a half keeps a distance from it that its denominator tells, and the grid is finer than that.

* `IsNearest.mono`, `IsNearest.unique`: greater numbers have greater nearest integers, and only one.
* `IsNearest.abs_twice_sub_le`: doubling and rounding may be exchanged, up to one.
* `isNearest_nearest`: **`nearest` finds the nearest integer of a quotient**; `nearest_eq_zero_iff`: which
  quotients are rounded to zero.
* `nearest_nearest`: **a quotient may be rounded to a fine grid before it is rounded to an integer.**
-/

namespace Tunebook

/-- An integer is nearest to a number; of two that are equally near it is the even one. -/
def IsNearest (q : ℚ) (n : ℤ) : Prop := |q - n| ≤ 1 / 2 ∧ (|q - n| = 1 / 2 → Even n)

namespace IsNearest

variable {q r : ℚ} {m n : ℤ}

/-- Greater numbers have greater nearest integers. -/
theorem mono (hm : IsNearest q m) (hn : IsNearest r n) (h : q ≤ r) : m ≤ n := by
  by_contra hlt
  have hstep : (n : ℚ) + 1 ≤ m := by exact_mod_cast Int.not_le.1 hlt
  have hlow := (abs_le.1 hm.1).1
  have hhigh := (abs_le.1 hn.1).2
  -- both are as far away as they may be, on both sides of one half
  have hq : q - m = -(1 / 2) := by linarith
  have hr : r - n = 1 / 2 := by linarith
  have hnext : (m : ℚ) = n + 1 := by linarith
  have hm' : Even m := hm.2 (by rw [hq, abs_neg]; norm_num)
  have hn' : Even n := hn.2 (by rw [hr]; norm_num)
  have hnext' : m = n + 1 := by exact_mod_cast hnext
  rw [Int.even_iff] at hm' hn'
  omega

theorem unique (hm : IsNearest q m) (hn : IsNearest q n) : m = n :=
  Int.le_antisymm (hm.mono hn le_rfl) (hn.mono hm le_rfl)

theorem self (n : ℤ) : IsNearest n n := by
  rw [IsNearest, sub_self, abs_zero]
  norm_num

/-- Rounding before doubling and rounding after it make a difference of one at most. -/
theorem abs_twice_sub_le (hm : IsNearest q m) (hn : IsNearest (2 * q) n) : |2 * m - n| ≤ 1 := by
  obtain ⟨hlow, hhigh⟩ := abs_le.1 hm.1
  obtain ⟨hlow', hhigh'⟩ := abs_le.1 hn.1
  -- the two roundings are off by one and by one half
  have hdistance : |((2 * m - n : ℤ) : ℚ)| < 2 := by
    rw [abs_lt]
    push_cast
    constructor <;> linarith
  have hless : |2 * m - n| < 2 := by exact_mod_cast hdistance
  omega

end IsNearest

/-! ### Quotients -/

theorem isNearest_div_iff {num n : ℤ} {den : ℕ} (hden : 0 < den) :
    IsNearest (num / den) n ↔
      2 * |num - den * n| ≤ den ∧ (2 * |num - den * n| = den → Even n) := by
  have hpos : (0 : ℚ) < den := by exact_mod_cast hden
  have hdistance : |(num : ℚ) / den - n| = (|num - den * n| : ℤ) / den := by
    have hsub : (num : ℚ) / den - n = (num - den * n) / den := by
      rw [sub_div, mul_div_cancel_left₀ _ (ne_of_gt hpos)]
    rw [hsub, abs_div, abs_of_pos hpos]
    push_cast
    rfl
  have hhalf : (1 : ℚ) / 2 = den / (2 * den) := by
    rw [div_mul_cancel_right₀ (ne_of_gt hpos), one_div]
  have hle : |(num : ℚ) / den - n| ≤ 1 / 2 ↔ 2 * |num - den * n| ≤ den := by
    rw [hdistance, div_le_div_iff₀ hpos two_pos, one_mul, mul_comm]
    exact_mod_cast Iff.rfl
  have heq : |(num : ℚ) / den - n| = 1 / 2 ↔ 2 * |num - den * n| = den := by
    rw [hdistance, div_eq_div_iff (ne_of_gt hpos) two_ne_zero, one_mul, mul_comm]
    exact_mod_cast Iff.rfl
  rw [IsNearest, hle, heq]

theorem nearest_even_of_half {num den : Nat} (hden : 0 < den)
    (half : 2 * num = 2 * (den * nearest num den) + den ∨
      2 * (den * nearest num den) = 2 * num + den) : nearest num den % 2 = 0 := by
  have hsplit := Nat.div_add_mod num den
  have hrest := Nat.mod_lt num hden
  have hnext : den * (num / den + 1) = den * (num / den) + den := Nat.mul_succ _ _
  rw [nearest] at half ⊢
  split at half
  · omega
  · split at half
    · omega
    · next hlow hhigh =>
      rw [if_neg hlow, if_neg hhigh]
      omega

/-- **The nearest integer of a quotient is found.** -/
theorem isNearest_nearest (num : Nat) {den : Nat} (hden : 0 < den) :
    IsNearest (num / den) (nearest num den) := by
  have hle := nearest_le num den hden
  have hge := le_nearest num den hden
  have heven := @nearest_even_of_half num den hden
  rw [← Int.cast_natCast num, isNearest_div_iff hden]
  generalize nearest num den = k at hle hge heven ⊢
  have hcast : (den : ℤ) * k = (den * k : ℕ) := (Int.natCast_mul den k).symm
  rw [hcast, Int.even_iff]
  constructor
  · have habs : |(num : ℤ) - (den * k : ℕ)| ≤ den / 2 := by
      rw [abs_le]
      omega
    omega
  · intro half
    rcases abs_choice ((num : ℤ) - (den * k : ℕ)) with h | h
    · rw [h] at half
      have := heven (by omega)
      omega
    · rw [h] at half
      have := heven (by omega)
      omega

theorem nearest_eq_of_isNearest {num den : Nat} {n : ℤ} (hden : 0 < den)
    (h : IsNearest (num / den) n) : (nearest num den : ℤ) = n :=
  (isNearest_nearest num hden).unique h

theorem nearest_congr {num den num' den' : Nat} (hden : 0 < den) (hden' : 0 < den')
    (h : (num : ℚ) / den = num' / den') : nearest num den = nearest num' den' := by
  have hnear := isNearest_nearest num' hden'
  rw [← h] at hnear
  exact_mod_cast nearest_eq_of_isNearest hden hnear

theorem nearest_antitone (num : Nat) {den den' : Nat} (hden : 0 < den) (h : den ≤ den') :
    nearest num den' ≤ nearest num den := by
  have hle : (num : ℚ) / den' ≤ num / den := by
    have hpos : (0 : ℚ) < den := by exact_mod_cast hden
    exact div_le_div_of_nonneg_left (by positivity) hpos (by exact_mod_cast h)
  exact_mod_cast (isNearest_nearest num (by omega)).mono (isNearest_nearest num hden) hle

/-- What is no more than a half is rounded to zero, which is even, and nothing else is. -/
theorem nearest_eq_zero_iff {num den : Nat} (hden : 0 < den) :
    nearest num den = 0 ↔ 2 * num ≤ den := by
  constructor
  · intro h
    have hge := le_nearest num den hden
    rw [h] at hge
    omega
  · intro h
    have hdiv : num / den = 0 := Nat.div_eq_of_lt (by omega)
    have hmod : num % den = num := Nat.mod_eq_of_lt (by omega)
    rw [nearest, hdiv, hmod]
    split
    · rfl
    · rw [if_neg (by omega)]

theorem nearest_eq_zero {num den : Nat} (h : 2 * num < den) : nearest num den = 0 :=
  (nearest_eq_zero_iff (by omega)).2 (Nat.le_of_lt h)

theorem nearest_one (n : Nat) : nearest n 1 = n := by
  simp [nearest, Nat.mod_one]

/-! ### Rounding twice -/

/-- One side of rounding twice: a point of the grid next to a quotient is no further above an integer
than a half, if the quotient is not, and a half above it only if the quotient is. -/
theorem le_half_of_nearest {num den unit fine n : ℤ} (hden : 0 < den) (hunit : den < unit)
    (even : unit % 2 = 0) (hn : 2 * (num - den * n) ≤ den)
    (hfine : 2 * (den * fine - num * unit) ≤ den) :
    2 * (fine - unit * n) ≤ unit ∧
      (2 * (fine - unit * n) = unit → 2 * (num - den * n) = den) := by
  obtain ⟨p, rfl⟩ : ∃ p, unit = 2 * p := ⟨unit / 2, by omega⟩
  -- how far the quotient and the point of the grid are below the half, in units of their grids
  obtain ⟨gap, hgap⟩ : ∃ gap, gap = den * (2 * n + 1) - 2 * num := ⟨_, rfl⟩
  obtain ⟨rest, hrest⟩ : ∃ rest, rest = p * (2 * n + 1) - fine := ⟨_, rfl⟩
  have hgap0 : 0 ≤ gap := by linarith
  have hscaled : 2 * (p * gap) ≤ den + 2 * (den * rest) := by
    rw [hgap, hrest]
    linarith
  have hrest0 : 0 ≤ rest := by
    by_contra hneg
    have hbelow : den * rest ≤ den * (-1) := Int.mul_le_mul_of_nonneg_left (by omega) hden.le
    have hpos : 0 ≤ p * gap := Int.mul_nonneg (by omega) hgap0
    linarith
  have hpoint : 2 * (fine - 2 * p * n) = 2 * p - 2 * rest := by
    rw [hrest]
    ring
  constructor
  · omega
  · intro half
    have hrest' : rest = 0 := by omega
    rw [hrest', Int.mul_zero] at hscaled
    have hgap' : gap < 1 := by
      by_contra hlarge
      have habove : p * 1 ≤ p * gap := Int.mul_le_mul_of_nonneg_left (by omega) (by omega)
      omega
    linarith

/-- **A quotient may be rounded to a fine grid before it is rounded to an integer**, if the grid is finer
than what the quotient is made of. -/
theorem nearest_nearest {num den unit : Nat} (hden : 0 < den) (hunit : den < unit)
    (even : unit % 2 = 0) : nearest (nearest (num * unit) den) unit = nearest num den := by
  have hle : 2 * ((den : ℤ) * nearest (num * unit) den) ≤ 2 * (num * unit) + den := by
    exact_mod_cast nearest_le (num * unit) den hden
  have hge : 2 * ((num : ℤ) * unit) ≤ 2 * (den * nearest (num * unit) den) + den := by
    exact_mod_cast le_nearest (num * unit) den hden
  have hnear := isNearest_nearest num hden
  rw [← Int.cast_natCast num, isNearest_div_iff hden] at hnear
  obtain ⟨hnear, heven⟩ := hnear
  generalize nearest (num * unit) den = fine at hle hge ⊢
  generalize nearest num den = n at hnear heven ⊢
  have hunit' : (den : ℤ) < unit := by exact_mod_cast hunit
  have heven' : (unit : ℤ) % 2 = 0 := by exact_mod_cast even
  have hlow := neg_abs_le ((num : ℤ) - den * n)
  have hhigh := le_abs_self ((num : ℤ) - den * n)
  obtain ⟨hup, hup'⟩ := @le_half_of_nearest num den unit fine n (by omega) hunit' heven'
    (by linarith) (by linarith)
  obtain ⟨hdown, hdown'⟩ := @le_half_of_nearest (-num) den unit (-fine) (-n) (by omega) hunit' heven'
    (by linarith) (by linarith)
  have hfine : IsNearest (fine / unit) n := by
    rw [← Int.cast_natCast fine, isNearest_div_iff (by omega)]
    rcases abs_choice ((fine : ℤ) - unit * n) with h | h
    · rw [h]
      refine ⟨hup, fun half => heven ?_⟩
      have := hup' half
      linarith
    · rw [h]
      refine ⟨by linarith, fun half => heven ?_⟩
      have := hdown' (by linarith)
      have habs := neg_le_abs ((num : ℤ) - den * n)
      linarith
  exact_mod_cast nearest_eq_of_isNearest (by omega) hfine

end Tunebook
