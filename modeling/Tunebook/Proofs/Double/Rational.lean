import Mathlib.Algebra.Order.Field.Power
import Mathlib.Data.Int.Log
import Mathlib.Data.Rat.Floor
import Mathlib.Tactic.FieldSimp
import Tunebook.Proofs.Double.Nearest
import Tunebook.Proofs.Double.Overflow

/-!
# Doubles as rational numbers

A finite double is a rational number, and an operation on doubles is the exact operation on these with
one rounding behind it.  The exponent to which a quotient is rounded is its binary logarithm, so the
double depends on the quotient alone and not on how it is written.

* `exponentOf_eq_log`, `ofRatio_congr`: **the nearest double of a quotient depends on the quotient alone.**
* `IsExactly`: which number a double is; `IsExactly.lt_iff`, `IsExactly.div_eq`, `IsExactly.round_eq`:
  comparing, dividing and rounding doubles by the numbers that they are.
* `round_ofRatio`: **a quotient with a small numerator is rounded to the same integer as its double.**
* `isExactly_ofRatio`, `IsExactly.mul`: **a quotient or a product that is a double is found exactly.**
* `isExactly_ofInt`, `exists_isExactly_ofInt`: a positive integer is an integer as a double, and itself
  below `2 ^ 53`.
-/

namespace Tunebook

/-! ### Powers of two -/

theorem two_zpow_eq (e : ℤ) :
    (2 : ℚ) ^ e = (Nat.pow 2 e.toNat : ℕ) / (Nat.pow 2 (-e).toNat : ℕ) := by
  simp only [Nat.pow_eq, Nat.cast_pow, Nat.cast_ofNat]
  rcases Int.le_total 0 e with h | h
  · obtain ⟨k, rfl⟩ := Int.eq_ofNat_of_zero_le h
    simp
  · obtain ⟨k, hk⟩ := Int.eq_ofNat_of_zero_le (Int.neg_nonneg.2 h)
    obtain rfl : e = -(k : ℤ) := by omega
    simp

theorem shifted_quotient (num den : ℕ) (e : ℤ) :
    ((num * Nat.pow 2 (-e).toNat : ℕ) : ℚ) / (den * Nat.pow 2 e.toNat : ℕ) = num / den / 2 ^ e := by
  rw [two_zpow_eq, Nat.cast_mul, Nat.cast_mul, div_div_div_eq]

namespace Double

/-! ### The nearest double of a quotient -/

theorem log_quotient {num den : ℕ} (hnum : 0 < num) (hden : 0 < den) :
    (num.log2 : ℤ) - den.log2 - 1 ≤ Int.log 2 ((num : ℚ) / den) ∧
      Int.log 2 ((num : ℚ) / den) ≤ (num.log2 : ℤ) - den.log2 := by
  have hnum' : (0 : ℚ) < num := by exact_mod_cast hnum
  have hden' : (0 : ℚ) < den := by exact_mod_cast hden
  have low : ∀ {n : ℕ}, 0 < n → (2 : ℚ) ^ (n.log2 : ℤ) ≤ n := by
    intro n hn
    rw [zpow_natCast]
    exact_mod_cast Nat.log2_self_le hn.ne'
  have high : ∀ n : ℕ, (n : ℚ) < 2 ^ ((n.log2 : ℤ) + 1) := by
    intro n
    have h : (n : ℚ) < 2 ^ (n.log2 + 1) := by exact_mod_cast Nat.lt_log2_self
    exact_mod_cast h
  constructor
  · rw [← Int.zpow_le_iff_le_log one_lt_two (div_pos hnum' hden'), Nat.cast_ofNat, le_div_iff₀ hden']
    calc
      (2 : ℚ) ^ ((num.log2 : ℤ) - den.log2 - 1) * den
          ≤ 2 ^ ((num.log2 : ℤ) - den.log2 - 1) * 2 ^ ((den.log2 : ℤ) + 1) :=
        mul_le_mul_of_nonneg_left (high den).le (by positivity)
      _ = 2 ^ (num.log2 : ℤ) := by
        rw [← zpow_add₀ two_ne_zero]
        congr 1
        omega
      _ ≤ num := low hnum
  · rw [← Int.lt_add_one_iff, ← Int.lt_zpow_iff_log_lt one_lt_two (div_pos hnum' hden'),
      Nat.cast_ofNat, div_lt_iff₀ hden']
    calc
      (num : ℚ) < 2 ^ ((num.log2 : ℤ) + 1) := high num
      _ = 2 ^ ((num.log2 : ℤ) - den.log2 + 1) * 2 ^ (den.log2 : ℤ) := by
        rw [← zpow_add₀ two_ne_zero]
        congr 1
        omega
      _ ≤ 2 ^ ((num.log2 : ℤ) - den.log2 + 1) * den :=
        mul_le_mul_of_nonneg_left (low hden) (by positivity)

/-- **The exponent of a quotient is its binary logarithm** less the bits of a mantissa. -/
theorem exponentOf_eq_log {num den : ℕ} (hnum : 0 < num) (hden : 0 < den) :
    exponentOf num den = max (Int.log 2 ((num : ℚ) / den) - 52) leastExponent := by
  have hpos : (0 : ℚ) < num / den := div_pos (by exact_mod_cast hnum) (by exact_mod_cast hden)
  obtain ⟨hlow, hhigh⟩ := log_quotient hnum hden
  rw [exponentOf]
  generalize hguess : (num.log2 : ℤ) - den.log2 - 52 = guess
  have hshift : (0 : ℚ) < (den * Nat.pow 2 guess.toNat : ℕ) := by
    exact_mod_cast Nat.mul_pos hden (Nat.pow_pos two_pos)
  have hless : num * Nat.pow 2 (-guess).toNat < den * Nat.pow 2 guess.toNat * Nat.pow 2 52 ↔
      Int.log 2 ((num : ℚ) / den) < guess + 52 := by
    rw [← Int.lt_zpow_iff_log_lt one_lt_two hpos, Nat.cast_ofNat, add_comm, zpow_add₀ two_ne_zero,
      ← div_lt_iff₀ (by positivity), ← shifted_quotient, div_lt_iff₀ hshift, mul_comm (2 ^ _ : ℚ)]
    norm_cast
  simp only [hless]
  split <;> omega

/-- **The nearest double depends on the quotient alone.** -/
theorem ofRatio_congr {num den num' den' : ℕ} (hden : 0 < den) (hden' : 0 < den')
    (h : (num : ℚ) / den = num' / den') (negative : Bool) :
    ofRatio negative num den = ofRatio negative num' den' := by
  have hzero : num = 0 ↔ num' = 0 := by
    have hne : (den : ℚ) ≠ 0 := by exact_mod_cast hden.ne'
    have hne' : (den' : ℚ) ≠ 0 := by exact_mod_cast hden'.ne'
    rw [div_eq_div_iff hne hne'] at h
    constructor
    · rintro rfl
      simpa [hne] using h.symm
    · rintro rfl
      simpa [hne'] using h
  rw [ofRatio, ofRatio]
  by_cases hnum : num = 0
  · rw [if_pos hnum, if_pos (hzero.1 hnum)]
  · have hnum' : num' ≠ 0 := mt hzero.2 hnum
    rw [if_neg hnum, if_neg hnum', exponentOf_eq_log (Nat.pos_of_ne_zero hnum) hden,
      exponentOf_eq_log (Nat.pos_of_ne_zero hnum') hden', h]
    dsimp only
    generalize max (Int.log 2 ((num' : ℚ) / den') - 52) leastExponent = e
    congr 1
    refine nearest_congr (Nat.mul_pos hden (Nat.pow_pos two_pos))
      (Nat.mul_pos hden' (Nat.pow_pos two_pos)) ?_
    rw [shifted_quotient, shifted_quotient, h]

/-! ### The numbers that doubles are -/

def IsExactly (x : Double) (q : ℚ) : Prop := ∃ m e, x = finite false m e ∧ (m : ℚ) * 2 ^ e = q

theorem isExactly_ofParts {m : ℕ} {e : ℤ} (h : (ofParts false m e).isFinite = true) :
    (ofParts false m e).IsExactly (m * 2 ^ e) :=
  ⟨m, e, ofParts_finite ((isFinite_ofParts _ _ _).1 h) _ _, rfl⟩

theorem isExactly_ofRounded {m : ℕ} {e : ℤ} (h : (ofRounded false m e).isFinite = true) :
    (ofRounded false m e).IsExactly (m * 2 ^ e) := by
  rw [ofRounded] at h ⊢
  split at h
  · next hcarry =>
    have hcarry' : (m : ℚ) * 2 ^ e = (Nat.pow 2 52 : ℕ) * 2 ^ (e + 1) := by
      rw [hcarry, zpow_add_one₀ two_ne_zero, Nat.pow_eq, Nat.pow_eq, Nat.pow_succ]
      push_cast
      ring
    rw [if_pos hcarry, hcarry']
    exact isExactly_ofParts h
  · next hno =>
    rw [if_neg hno]
    exact isExactly_ofParts h

namespace IsExactly

variable {x y : Double} {p q : ℚ}

/-- The integer nearest to a double is the integer nearest to its number. -/
theorem round_eq (hx : x.IsExactly q) {n : ℤ} (h : IsNearest q n) : x.round = .ok n := by
  obtain ⟨m, e, rfl, rfl⟩ := hx
  have hquotient := shifted_quotient m 1 (-e)
  rw [Int.neg_neg, Nat.one_mul, Nat.cast_one, div_one, zpow_neg, div_inv_eq_mul] at hquotient
  rw [← hquotient] at h
  exact congrArg Except.ok (nearest_eq_of_isNearest (Nat.pow_pos two_pos) h)

theorem natCast_shift (m : ℕ) {e low : ℤ} (h : low ≤ e) :
    ((m * Nat.pow 2 (e - low).toNat : ℕ) : ℚ) = m * 2 ^ e / 2 ^ low := by
  rw [mul_div_assoc, ← zpow_sub₀ two_ne_zero, two_zpow_eq]
  have hnone : (-(e - low)).toNat = 0 := by omega
  rw [hnone, Nat.cast_mul]
  simp

/-- Doubles compare like the numbers that they are. -/
theorem lt_iff (hx : x.IsExactly p) (hy : y.IsExactly q) : x.lt y = true ↔ p < q := by
  obtain ⟨m, e, rfl, rfl⟩ := hx
  obtain ⟨n, f, rfl, rfl⟩ := hy
  have hlow : (0 : ℚ) < 2 ^ min e f := by positivity
  rw [lt, compare?, beq_iff_eq]
  simp only [Bool.false_eq_true, if_false, Int.one_mul, Option.some.injEq]
  rw [Int.compare_eq_lt, Int.ofNat_lt, ← Nat.cast_lt (α := ℚ), natCast_shift m (Int.min_le_left e f),
    natCast_shift n (Int.min_le_right e f), div_lt_div_iff_of_pos_right hlow]

/-- A quotient of doubles is the nearest double of the quotient of their numbers. -/
theorem div_eq (hx : x.IsExactly p) (hy : y.IsExactly q) (hq : 0 < q) {num den : ℕ} (hden : 0 < den)
    (h : p / q = num / den) : x.div y = ofRatio false num den := by
  obtain ⟨m, e, rfl, rfl⟩ := hx
  obtain ⟨n, f, rfl, rfl⟩ := hy
  have hn : n ≠ 0 := by
    rintro rfl
    simp at hq
  have hpos : 0 < n * Nat.pow 2 (f - e).toNat :=
    Nat.mul_pos (Nat.pos_of_ne_zero hn) (Nat.pow_pos two_pos)
  have hquotient := shifted_quotient m n (f - e)
  rw [Int.neg_sub] at hquotient
  rw [div, if_neg hn]
  refine ofRatio_congr hpos hden (hquotient.trans ?_) _
  rw [← h, zpow_sub₀ two_ne_zero]
  field_simp

end IsExactly

/-! ### Quotients that are doubles -/

theorem exponentOf_le_of_eq {num den m : ℕ} {e : ℤ} (hnum : 0 < num) (hden : 0 < den)
    (hm : m < Nat.pow 2 53) (hlow : leastExponent ≤ e) (h : (num : ℚ) / den = m * 2 ^ e) :
    exponentOf num den ≤ e := by
  have hpos : (0 : ℚ) < num / den := div_pos (by exact_mod_cast hnum) (by exact_mod_cast hden)
  have hbits : (m : ℚ) < 2 ^ (53 : ℤ) := by exact_mod_cast hm
  have hless : (num : ℚ) / den < 2 ^ (e + 53) := by
    rw [h, add_comm, zpow_add₀ two_ne_zero]
    exact mul_lt_mul_of_pos_right hbits (by positivity)
  have hlog := (Int.lt_zpow_iff_log_lt one_lt_two hpos).1 hless
  rw [exponentOf_eq_log hnum hden]
  omega

/-- **A quotient that is a double is its own nearest double.** -/
theorem isExactly_ofRatio {num den m : ℕ} {e : ℤ} (hden : 0 < den) (hm : m < Nat.pow 2 53)
    (hlow : leastExponent ≤ e) (hhigh : e < greatestExponent) (h : (num : ℚ) / den = m * 2 ^ e) :
    (ofRatio false num den).IsExactly (num / den) := by
  by_cases hnum : num = 0
  · rw [hnum, ofRatio, if_pos rfl]
    exact ⟨0, leastExponent, rfl, by simp⟩
  have hle := exponentOf_le_of_eq (Nat.pos_of_ne_zero hnum) hden hm hlow h
  rw [ofRatio, if_neg hnum]
  dsimp only
  generalize exponentOf num den = grid at hle ⊢
  -- the grid is no coarser than the double, so rounding to it changes nothing
  have hpoint : ((num * Nat.pow 2 (-grid).toNat : ℕ) : ℚ) / (den * Nat.pow 2 grid.toNat : ℕ)
      = (m * Nat.pow 2 (e - grid).toNat : ℕ) / (1 : ℕ) := by
    rw [shifted_quotient, h, IsExactly.natCast_shift m hle, Nat.cast_one, div_one]
  have hmantissa : nearest (num * Nat.pow 2 (-grid).toNat) (den * Nat.pow 2 grid.toNat)
      = m * Nat.pow 2 (e - grid).toNat :=
    (nearest_congr (Nat.mul_pos hden (Nat.pow_pos two_pos)) one_pos hpoint).trans (nearest_one _)
  have hfinite : ∀ mantissa, (ofRounded false mantissa grid).isFinite = true := fun mantissa => by
    rw [isFinite_ofRounded]
    split <;> omega
  have hexact := isExactly_ofRounded (hfinite (m * Nat.pow 2 (e - grid).toNat))
  rw [hmantissa, h]
  rwa [IsExactly.natCast_shift m hle, div_mul_cancel₀ _ (by positivity)] at hexact

/-- **A product of doubles that is a double is found exactly.** -/
theorem IsExactly.mul {x y : Double} {p q : ℚ} (hx : x.IsExactly p) (hy : y.IsExactly q) {m : ℕ}
    {e : ℤ} (hm : m < Nat.pow 2 53) (hlow : leastExponent ≤ e) (hhigh : e < greatestExponent)
    (h : p * q = m * 2 ^ e) : (x.mul y).IsExactly (p * q) := by
  obtain ⟨a, f, rfl, rfl⟩ := hx
  obtain ⟨b, g, rfl, rfl⟩ := hy
  have hquotient := shifted_quotient (a * b) 1 (-(f + g))
  rw [Int.neg_neg, Nat.one_mul, Nat.cast_one, div_one, zpow_neg, div_inv_eq_mul,
    zpow_add₀ two_ne_zero, Nat.cast_mul a b, mul_mul_mul_comm] at hquotient
  rw [Double.mul, ← hquotient]
  exact isExactly_ofRatio (Nat.pow_pos two_pos) hm hlow hhigh (hquotient.trans h)

/-! ### Rounding a quotient twice -/

/-- A quotient with a small numerator has fine mantissas: a unit has more of them than the denominator
says, or the quotient is as good as zero. -/
theorem exponentOf_small {num den : ℕ} (hnum : 0 < num) (hsmall : num < Nat.pow 2 52)
    (hden : 0 < den) : ∃ k : ℕ, exponentOf num den = -(k : ℤ) ∧ 0 < k ∧
      (den < Nat.pow 2 k ∨ ∃ j, 2 ≤ j ∧ k = j + 52 ∧ num * Nat.pow 2 j ≤ den) := by
  have hden' : (0 : ℚ) < den := by exact_mod_cast hden
  have hpos : (0 : ℚ) < num / den := div_pos (by exact_mod_cast hnum) hden'
  obtain ⟨j, hj, hleast⟩ : ∃ j : ℕ, 2 ≤ j ∧ leastExponent = -(j : ℤ) - 52 :=
    ⟨1022, by omega, rfl⟩
  rw [exponentOf_eq_log hnum hden, hleast]
  by_cases hnormal : -(j : ℤ) ≤ Int.log 2 ((num : ℚ) / den)
  · have hlow := (Int.zpow_le_iff_le_log one_lt_two hpos).2 (le_refl (Int.log 2 ((num : ℚ) / den)))
    generalize Int.log 2 ((num : ℚ) / den) = log at hnormal hlow ⊢
    rw [Nat.cast_ofNat, le_div_iff₀ hden'] at hlow
    have hsmall' : (num : ℚ) < 2 ^ (52 : ℤ) := by exact_mod_cast hsmall
    have hfine : (den : ℚ) < 2 ^ (52 - log) := by
      rw [zpow_sub₀ two_ne_zero, lt_div_iff₀ (by positivity), mul_comm]
      exact lt_of_le_of_lt hlow hsmall'
    have hlog : log < 52 := by
      by_contra hlarge
      have hone : (2 : ℚ) ^ (52 - log) ≤ 1 := zpow_le_one_of_nonpos₀ one_le_two (by omega)
      have hden1 : (1 : ℚ) ≤ den := by exact_mod_cast hden
      linarith
    obtain ⟨k, hk⟩ := Int.eq_ofNat_of_zero_le (show 0 ≤ 52 - log by omega)
    rw [hk, zpow_natCast] at hfine
    exact ⟨k, by omega, by omega, .inl (by exact_mod_cast hfine)⟩
  · have hhigh := (Int.lt_zpow_iff_log_lt one_lt_two hpos).2 (Int.not_le.1 hnormal)
    rw [Nat.cast_ofNat, div_lt_iff₀ hden', zpow_neg, zpow_natCast, inv_mul_eq_div,
      lt_div_iff₀ (by positivity)] at hhigh
    refine ⟨j + 52, by omega, by omega, .inr ⟨j, hj, rfl, Nat.le_of_lt ?_⟩⟩
    exact_mod_cast hhigh

theorem nearest_of_tiny {num den unit bits : ℕ} (hden : 0 < den) (hunit : 2 < unit) (hbits : 0 < bits)
    (htiny : num * unit ≤ den) : nearest (nearest (num * (unit * bits)) den) (unit * bits) = 0 := by
  have hle := nearest_le (num * (unit * bits)) den hden
  generalize nearest (num * (unit * bits)) den = mantissa at hle ⊢
  have hscaled : num * (unit * bits) ≤ den * bits := by
    rw [← Nat.mul_assoc]
    exact Nat.mul_le_mul_right _ htiny
  have hbound : den * (2 * mantissa) ≤ den * (2 * bits + 1) := by
    have hleft : den * (2 * mantissa) = 2 * (den * mantissa) := Nat.mul_left_comm _ _ _
    have hright : den * (2 * bits + 1) = 2 * (den * bits) + den := by
      rw [Nat.mul_succ, Nat.mul_left_comm]
    omega
  have hmantissa := Nat.le_of_mul_le_mul_left hbound hden
  have hgrid : 3 * bits ≤ unit * bits := Nat.mul_le_mul_right _ hunit
  exact nearest_eq_zero (by omega)

theorem nearest_of_exponentOf {num den k : ℕ} (hden : 0 < den) (hpos : 0 < k)
    (hfine : den < Nat.pow 2 k ∨ ∃ j, 2 ≤ j ∧ k = j + 52 ∧ num * Nat.pow 2 j ≤ den) :
    nearest (nearest (num * Nat.pow 2 k) den) (Nat.pow 2 k) = nearest num den := by
  rcases hfine with hfine | ⟨j, hj, rfl, htiny⟩
  · refine nearest_nearest hden hfine ?_
    obtain ⟨i, rfl⟩ := Nat.exists_eq_succ_of_ne_zero hpos.ne'
    exact Nat.mul_mod_left _ _
  · have hpow : Nat.pow 2 (j + 52) = Nat.pow 2 j * Nat.pow 2 52 := Nat.pow_add 2 j 52
    have hfour : 4 ≤ Nat.pow 2 j := Nat.pow_le_pow_right two_pos hj
    have hless : num * 4 ≤ den := Nat.le_trans (Nat.mul_le_mul_left _ hfour) htiny
    rw [hpow, nearest_of_tiny hden (by omega) (by decide) htiny, nearest_eq_zero (by omega)]

theorem ofRatio_of_exponentOf {num den k : ℕ} (hnum : num ≠ 0) (hk : exponentOf num den = -(k : ℤ)) :
    ofRatio false num den = ofRounded false (nearest (num * Nat.pow 2 k) den) (-k) := by
  have hup : (-(k : ℤ)).toNat = 0 := by omega
  have hdown : (-(-(k : ℤ))).toNat = k := by omega
  rw [ofRatio, if_neg hnum, hk]
  simp only [hup, hdown, Nat.pow_eq, Nat.pow_zero, Nat.mul_one]

/-- **A quotient with a small numerator is rounded to the same integer as its double.** -/
theorem round_ofRatio {num den : ℕ} (hsmall : num < Nat.pow 2 52) (hden : 0 < den) :
    (ofRatio false num den).round = .ok (nearest num den) := by
  by_cases hnum : num = 0
  · have hzero : IsNearest 0 (0 : ℕ) := ⟨by simp, by simp⟩
    rw [hnum, nearest_eq_zero (by omega)]
    exact IsExactly.round_eq ⟨0, leastExponent, rfl, by simp⟩ hzero
  obtain ⟨k, hk, hpos, hfine⟩ := exponentOf_small (Nat.pos_of_ne_zero hnum) hsmall hden
  have hunit : 0 < Nat.pow 2 k := Nat.pow_pos two_pos
  have hfinite : (ofRounded false (nearest (num * Nat.pow 2 k) den) (-(k : ℤ))).isFinite = true := by
    have hgreat : greatestExponent = 971 := rfl
    rw [isFinite_ofRounded]
    split <;> omega
  have hnear := isNearest_nearest (nearest (num * Nat.pow 2 k) den) hunit
  have hexact := isExactly_ofRounded hfinite
  rw [nearest_of_exponentOf hden hpos hfine] at hnear
  rw [zpow_neg, zpow_natCast, ← div_eq_mul_inv] at hexact
  rw [ofRatio_of_exponentOf hnum hk]
  refine hexact.round_eq ?_
  simpa using hnear

/-! ### Integers as doubles -/

theorem le_nearest_pow {n c : ℕ} (h : Nat.pow 2 (52 + c) ≤ n) :
    Nat.pow 2 52 ≤ nearest n (Nat.pow 2 c) := by
  have hpow : Nat.pow 2 (52 + c) = Nat.pow 2 c * Nat.pow 2 52 := by
    rw [Nat.mul_comm]
    exact Nat.pow_add 2 52 c
  have hunit : 0 < Nat.pow 2 c := Nat.pow_pos two_pos
  have hle := le_nearest n (Nat.pow 2 c) hunit
  generalize nearest n (Nat.pow 2 c) = mantissa at hle ⊢
  generalize Nat.pow 2 c = unit at h hpow hunit hle
  have hbits : Nat.pow 2 52 = 4503599627370496 := by decide
  rw [hbits] at hpow ⊢
  have hscaled : unit * 9007199254740992 ≤ unit * (2 * mantissa + 1) := by
    have hright : unit * (2 * mantissa + 1) = 2 * (unit * mantissa) + unit := by
      rw [Nat.mul_succ, Nat.mul_left_comm]
    omega
  have := Nat.le_of_mul_le_mul_left hscaled hunit
  omega

section

variable {n : ℕ}

/-- An integer of up to 53 bits is itself as a double. -/
theorem isExactly_ofInt (small : n < Nat.pow 2 53) : (ofInt n).IsExactly n := by
  have hsign : decide ((n : ℤ) < 0) = false := by simp
  have hvalue : (n : ℚ) / (1 : ℕ) = n * 2 ^ (0 : ℤ) := by simp
  have hexact := isExactly_ofRatio one_pos small (by decide) (by decide) hvalue
  rw [ofInt, ofSignedRatio, hsign, Int.natAbs_natCast]
  simpa using hexact

theorem ofInt_eq_of_pos (hn : 0 < n) : ofInt n = ofRounded false
    (nearest (n * Nat.pow 2 (-((n.log2 : ℤ) - 52)).toNat) (Nat.pow 2 ((n.log2 : ℤ) - 52).toNat))
    (n.log2 - 52) := by
  have hsign : decide ((n : ℤ) < 0) = false := by simp
  rw [ofInt_eq_ofRounded (by omega), hsign, Int.natAbs_natCast, Nat.one_mul]

theorem exists_isExactly_ofInt_of_great (hn : 0 < n) (hfinite : (ofInt n).isFinite = true)
    (hgreat : 52 < n.log2) :
    ∃ k : ℕ, (ofInt n).IsExactly k ∧ Nat.pow 2 53 ≤ n ∧ Nat.pow 2 53 ≤ k := by
  have hlow := Nat.log2_self_le hn.ne'
  rw [ofInt_eq_of_pos hn] at hfinite ⊢
  have hexact := isExactly_ofRounded hfinite
  obtain ⟨c, hc⟩ : ∃ c, n.log2 = 52 + c := ⟨n.log2 - 52, by omega⟩
  have hexponent : (n.log2 : ℤ) - 52 = c := by omega
  have hnone : (-(c : ℤ)).toNat = 0 := by omega
  rw [hexponent, hnone, Int.toNat_natCast] at hexact ⊢
  rw [hc] at hlow
  have hgrid : 2 ≤ Nat.pow 2 c := Nat.pow_le_pow_right two_pos (show 1 ≤ c by omega)
  have hlarge : Nat.pow 2 53 ≤ n :=
    Nat.le_trans (Nat.pow_le_pow_right two_pos (show 53 ≤ 52 + c by omega)) hlow
  have hmantissa := le_nearest_pow hlow
  simp only [Nat.pow_eq, Nat.pow_zero, Nat.mul_one] at hexact hgrid hlarge hmantissa ⊢
  have hvalue : 2 ^ 52 * 2 ≤ nearest n (2 ^ c) * 2 ^ c := Nat.mul_le_mul hmantissa hgrid
  refine ⟨nearest n (2 ^ c) * 2 ^ c, ?_, hlarge, by omega⟩
  push_cast
  rwa [zpow_natCast] at hexact

/-- **A positive integer is an integer as a double**: itself below `2 ^ 53`, and no less than that from
there on. -/
theorem exists_isExactly_ofInt (hn : 0 < n) (hfinite : (ofInt n).isFinite = true) :
    ∃ k : ℕ, 0 < k ∧ (ofInt n).IsExactly k ∧ (k = n ∨ Nat.pow 2 53 ≤ n ∧ Nat.pow 2 53 ≤ k) := by
  by_cases small : n < Nat.pow 2 53
  · exact ⟨n, hn, isExactly_ofInt small, .inl rfl⟩
  · have hlog := le_log2 (Nat.not_lt.1 small)
    obtain ⟨k, hexact, hgreat⟩ := exists_isExactly_ofInt_of_great hn hfinite hlog
    exact ⟨k, Nat.lt_of_lt_of_le (Nat.pow_pos two_pos) hgreat.2, hexact, .inr hgreat⟩

end

end Double

end Tunebook
