import Tunebook.Midi.Message
import Tunebook.Proofs.Stage

/-!
# Doubles that stay finite

A double beyond the largest finite one is infinite, and then it cannot be rounded to an integer.  A
quotient with a numerator below `2 ^ 1023`, in lowest terms or not, stays away from there.  So only
numerators have to be bounded here, and nothing is said about how close a rounded quotient is to the
exact one.

* `Double.ofRatio_finite`: **a quotient with a numerator below `2 ^ 1023` is finite.**
* `Double.ofInt_isFinite`: so is an integer below `2 ^ 1023`.
* `tempoOfValue_ok_of_isFinite`: every integer that is finite is a tempo.
-/

namespace Tunebook

namespace Double

/-! ### Quotients and integers -/

theorem exponentOf_le (num den : Nat) :
    exponentOf num den ≤ max ((num.log2 : Int) - 52) leastExponent := by
  rw [exponentOf]
  split <;> omega

theorem le_exponentOf (num den : Nat) : (num.log2 : Int) - den.log2 - 53 ≤ exponentOf num den := by
  rw [exponentOf]
  split <;> omega

theorem ofParts_finite {exponent : Int} (h : exponent ≤ greatestExponent) (negative : Bool)
    (mantissa : Nat) :
    ofParts negative mantissa exponent = finite negative mantissa exponent := by
  rw [ofParts, if_neg (by omega)]

theorem ofRounded_finite {exponent : Int} (h : exponent < greatestExponent) (negative : Bool)
    (mantissa : Nat) : ∃ m e, ofRounded negative mantissa exponent = finite negative m e := by
  rw [ofRounded]
  split
  · exact ⟨_, _, ofParts_finite (by omega) _ _⟩
  · exact ⟨_, _, ofParts_finite (by omega) _ _⟩

theorem log2_lt {n k : Nat} (hk : 0 < k) (h : n < Nat.pow 2 k) : n.log2 < k := by
  by_cases hn : n = 0
  · rw [hn]
    exact hk
  · exact (Nat.log2_lt hn).2 h

theorem exponentOf_lt {num : Nat} (h : num < Nat.pow 2 1023) (den : Nat) :
    exponentOf num den < greatestExponent := by
  have hlog := log2_lt (by decide) h
  have he := exponentOf_le num den
  have hl : leastExponent = -1074 := rfl
  have hg : greatestExponent = 971 := rfl
  omega

/-- **A quotient with a numerator below `2 ^ 1023` is finite.** -/
theorem ofRatio_finite {num : Nat} (h : num < Nat.pow 2 1023) (negative : Bool) (den : Nat) :
    ∃ m e, ofRatio negative num den = finite negative m e := by
  rw [ofRatio]
  split
  · exact ⟨_, _, rfl⟩
  · exact ofRounded_finite (exponentOf_lt h den) _ _

/-- **An integer below `2 ^ 1023` is finite as a double.** -/
theorem ofInt_isFinite {n : Int} (h : n.natAbs < Nat.pow 2 1023) : (ofInt n).isFinite = true := by
  obtain ⟨m, e, hfinite⟩ := ofRatio_finite h (decide (n < 0)) 1
  rw [ofInt, ofSignedRatio, hfinite]
  rfl

theorem le_exponentOf_int (n : Nat) : -53 ≤ exponentOf n 1 := by
  have hlow := le_exponentOf n 1
  have hone : Nat.log2 1 = 0 := by decide
  omega

/-! ### Comparison and rounding -/

theorem lt_zero_mantissa (m : Nat) (e f : Int) (negative : Bool) :
    lt (finite false m e) (finite negative 0 f) = false := by
  rw [lt, compare?]
  have hright : ((if negative = true then -1 else 1 : Int)
      * ((0 * Nat.pow 2 (f - min e f).toNat : Nat) : Int)) = 0 := by
    rw [Nat.zero_mul, Int.natCast_zero, Int.mul_zero]
  rw [hright, if_neg Bool.false_ne_true, Int.one_mul]
  have hcompare (k : Nat) : compare (k : Int) 0 ≠ .lt := by
    rw [compare, instOrdInt]
    dsimp only
    rw [compareOfLessAndEq, if_neg (by omega)]
    split <;> exact nofun
  exact beq_eq_false_iff_ne.2 fun h => hcompare _ (Option.some.inj h)

theorem ofRounded_of_isFinite {negative : Bool} {mantissa : Nat} {exponent : Int}
    (h : (ofRounded negative mantissa exponent).isFinite = true) :
    ∃ m e, ofRounded negative mantissa exponent = finite negative m e ∧ exponent ≤ e := by
  have hparts : ∀ {m : Nat} {e : Int}, (ofParts negative m e).isFinite = true →
      ofParts negative m e = finite negative m e := by
    intro m e hfinite
    rw [ofParts] at hfinite ⊢
    split at hfinite
    · cases hfinite
    · next hgreat => rw [if_neg hgreat]
  rw [ofRounded] at h ⊢
  split at h
  · next hcarry =>
    rw [if_pos hcarry]
    exact ⟨_, _, hparts h, by omega⟩
  · next hno =>
    rw [if_neg hno]
    exact ⟨_, _, hparts h, Int.le_refl _⟩

theorem ofInt_of_isFinite {n : Int} (hn : n ≠ 0) (h : (ofInt n).isFinite = true) :
    ∃ m e, ofInt n = finite (decide (n < 0)) m e ∧ -53 ≤ e := by
  rw [ofInt, ofSignedRatio, ofRatio, if_neg (Int.natAbs_ne_zero.2 hn)] at h ⊢
  obtain ⟨m, e, hfinite, he⟩ := ofRounded_of_isFinite h
  exact ⟨m, e, hfinite, Int.le_trans (le_exponentOf_int n.natAbs) he⟩

theorem round_finite (negative : Bool) (m : Nat) (e : Int) :
    ∃ n, (finite negative m e).round = .ok n := ⟨_, rfl⟩

end Double

theorem toDouble_ok {n : Int} (h : n.natAbs < Nat.pow 2 1023) :
    (Number.int n).toDouble = .ok (.ofInt n) := by
  rw [Number.toDouble]
  exact if_pos (Double.ofInt_isFinite h)

/-! ### Tempos -/

theorem minuteMicros_eq : minuteMicros = .finite false 8053063680000000 (-27) := by
  decide +kernel

theorem lt_bound_of_lt {n : Nat} (h : n < Nat.pow 2 200) : n < Nat.pow 2 1023 := by
  apply Nat.lt_of_lt_of_le h
  apply Nat.pow_le_pow_right
  · decide
  · decide

theorem one_lt_bound : 1 < Nat.pow 2 1023 := lt_bound_of_lt (by decide)

theorem minute_lt_bound {e : Int} (h : -53 ≤ e) :
    8053063680000000 * Nat.pow 2 (-27 - e).toNat < Nat.pow 2 1023 := by
  have hpow : Nat.pow 2 (-27 - e).toNat ≤ Nat.pow 2 26 :=
    Nat.pow_le_pow_right (by decide) (by omega)
  exact lt_bound_of_lt (Nat.lt_of_le_of_lt (Nat.mul_le_mul_left _ hpow) (by decide))

/-- **Every tempo that is finite as a double gives a beat a time**, be it slow, zero or negative. -/
theorem tempoOfValue_ok_of_isFinite {n : Int} (h : (Double.ofInt n).isFinite = true) :
    ∃ beat, tempoOfValue (.int n) = .ok beat := by
  have hreal : realOfValue (.int n) = .ok (.ofInt n) := if_pos h
  rw [tempoOfValue, hreal, ok_bind, beatTimeAt]
  suffices hround : ∃ k, (minuteMicros.div
      (if slowestTempo.lt (.ofInt n) then .ofInt n else slowestTempo)).round = .ok k by
    obtain ⟨k, hk⟩ := hround
    exact ⟨beatTimeOf k, by rw [hk]; rfl⟩
  by_cases hlt : slowestTempo.lt (.ofInt n) = true
  · rw [if_pos hlt]
    have hn : n ≠ 0 := by
      rintro rfl
      exact absurd hlt (by decide +kernel)
    obtain ⟨m, e, hfinite, he⟩ := Double.ofInt_of_isFinite hn h
    have hm : m ≠ 0 := by
      rintro rfl
      obtain ⟨m', e', hslowest⟩ := Double.ofRatio_finite one_lt_bound false 1000000
      rw [slowestTempo, hslowest, hfinite, Double.lt_zero_mantissa] at hlt
      cases hlt
    rw [hfinite, minuteMicros_eq, Double.div, if_neg hm]
    obtain ⟨q, k, hq⟩ := Double.ofRatio_finite (minute_lt_bound he) (false != decide (n < 0))
      (m * Nat.pow 2 (e - -27).toNat)
    rw [hq]
    exact Double.round_finite _ _ _
  · rw [if_neg hlt]
    exact ⟨60000000000000, by decide +kernel⟩

theorem tempoOfValue_ok {n : Int} (h : n.natAbs < Nat.pow 2 1023) :
    ∃ beat, tempoOfValue (.int n) = .ok beat :=
  tempoOfValue_ok_of_isFinite (Double.ofInt_isFinite h)

end Tunebook
