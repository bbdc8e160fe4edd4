import Tunebook.Proofs.Double.Finite

/-!
# Where integers leave the doubles

The greatest double is `2 ^ 1024 - 2 ^ 971`, and the next one would be `2 ^ 1024`.  An integer between
them goes to the nearer one, and the one halfway to the one with the even mantissa, which is the one that
is not there.  So integers are finite as doubles up to that half, and not from there on.

* `nearest_eq_succ_iff`: an integer that is even is rounded to from halfway on.
* `Double.exponentOf_eq`: the exponent of an integer, from the number of its bits.
* `Double.ofInt_isFinite_iff`: **which integers are finite as doubles.**
* `toDouble_int_eq`: all that an integer does where a double is asked for.
-/

namespace Tunebook

def greatestHalf : Nat := Nat.pow 2 970

/-- The integer that is half of that distance beyond the greatest double. -/
def doubleBound : Nat := Nat.pow 2 1024 - greatestHalf

/-- **A quotient is rounded up to an even integer exactly from halfway on.** -/
theorem nearest_eq_succ_iff {num den k : Nat} (odd : k % 2 = 1) (hden : 0 < den)
    (below : num < (k + 1) * den) : nearest num den = k + 1 ↔ (2 * k + 1) * den ≤ 2 * num := by
  have hsucc : (k + 1) * den = k * den + den := Nat.succ_mul k den
  have hhalf : (2 * k + 1) * den = 2 * (k * den) + den := by
    rw [Nat.succ_mul, Nat.mul_assoc]
  rw [hhalf]
  constructor
  · intro h
    have hle := nearest_le num den hden
    rw [h, Nat.mul_comm den, hsucc] at hle
    omega
  · intro h
    have hdiv : num / den = k := by
      refine Nat.div_eq_of_lt_le ?_ below
      omega
    have hsplit := Nat.div_add_mod num den
    rw [hdiv, Nat.mul_comm] at hsplit
    rw [nearest, hdiv, odd]
    split
    · omega
    · split <;> rfl

namespace Double

theorem isFinite_ofParts (negative : Bool) (mantissa : Nat) (exponent : Int) :
    (ofParts negative mantissa exponent).isFinite = true ↔ exponent ≤ greatestExponent := by
  rw [ofParts]
  split
  · next h => exact iff_of_false Bool.false_ne_true (Int.not_le.2 h)
  · next h => exact iff_of_true rfl (Int.not_lt.1 h)

theorem isFinite_ofRounded (negative : Bool) (mantissa : Nat) (exponent : Int) :
    (ofRounded negative mantissa exponent).isFinite = true ↔
      (if mantissa = Nat.pow 2 53 then exponent + 1 else exponent) ≤ greatestExponent := by
  rw [ofRounded]
  split
  · exact isFinite_ofParts ..
  · exact isFinite_ofParts ..

theorem pow_le_of_pow_le {n k : Nat} (h : Nat.pow 2 k ≤ n) (bits : Nat) :
    1 * Nat.pow 2 (k - bits) * Nat.pow 2 bits ≤ n * Nat.pow 2 (bits - k) := by
  have hsum : k - bits + bits = k + (bits - k) := by omega
  calc
    1 * Nat.pow 2 (k - bits) * Nat.pow 2 bits = Nat.pow 2 (k - bits + bits) := by
      rw [Nat.one_mul]
      exact (Nat.pow_add 2 _ _).symm
    _ = Nat.pow 2 k * Nat.pow 2 (bits - k) := by
      rw [hsum]
      exact Nat.pow_add 2 _ _
    _ ≤ n * Nat.pow 2 (bits - k) := Nat.mul_le_mul_right _ h

/-- **The mantissa of an integer has 53 bits, so its exponent is what its other bits are as many as.** -/
theorem exponentOf_eq {n : Nat} (hn : n ≠ 0) : exponentOf n 1 = (n.log2 : Int) - 52 := by
  have hone : Nat.log2 1 = 0 := by decide
  have hleast : leastExponent = -1074 := rfl
  have hlow : Nat.pow 2 n.log2 ≤ n := Nat.log2_self_le hn
  have hup : ((n.log2 : Int) - (0 : Nat) - 52).toNat = n.log2 - 52 := by omega
  have hdown : (-((n.log2 : Int) - (0 : Nat) - 52)).toNat = 52 - n.log2 := by omega
  rw [exponentOf, hone, hup, hdown, if_neg (Nat.not_lt.2 (pow_le_of_pow_le hlow 52)), hleast]
  omega

theorem ofInt_eq_ofRounded {n : Int} (hn : n ≠ 0) : ofInt n = ofRounded (decide (n < 0))
    (nearest (n.natAbs * Nat.pow 2 (-((n.natAbs.log2 : Int) - 52)).toNat)
      (1 * Nat.pow 2 ((n.natAbs.log2 : Int) - 52).toNat)) ((n.natAbs.log2 : Int) - 52) := by
  rw [ofInt, ofSignedRatio, ofRatio, if_neg (Int.natAbs_ne_zero.2 hn),
    exponentOf_eq (Int.natAbs_ne_zero.2 hn)]

theorem carry_le_iff {n unit : Nat} {e : Int} (he : e = greatestExponent) (hunit : 0 < unit)
    (below : n < 18014398509481984 * unit) :
    (if nearest n (2 * unit) = Nat.pow 2 53 then e + 1 else e) ≤ greatestExponent ↔
      n < 18014398509481983 * unit := by
  have hcarry : Nat.pow 2 53 = 9007199254740991 + 1 := by decide
  have hhalf : nearest n (2 * unit) = 9007199254740991 + 1 ↔
      (2 * 9007199254740991 + 1) * (2 * unit) ≤ 2 * n :=
    nearest_eq_succ_iff (by decide) (by omega) (by omega)
  rw [hcarry, he]
  by_cases hup : nearest n (2 * unit) = 9007199254740991 + 1
  · rw [if_pos hup]
    have hle := hhalf.1 hup
    omega
  · rw [if_neg hup]
    have hlt := mt hhalf.2 hup
    omega

theorem mantissa_eq {n k unit : Nat} (hunit : Nat.pow 2 k = unit) (hk : n.log2 = k + 53) :
    nearest (n * Nat.pow 2 (-((n.log2 : Int) - 52)).toNat) (1 * Nat.pow 2 ((n.log2 : Int) - 52).toNat)
      = nearest n (2 * unit) := by
  have hdown : (-((n.log2 : Int) - 52)).toNat = 0 := by omega
  have hup : ((n.log2 : Int) - 52).toNat = k + 1 := by omega
  have hone : n * Nat.pow 2 0 = n := Nat.mul_one n
  have htwice : Nat.pow 2 (k + 1) = 2 * Nat.pow 2 k := Nat.pow_succ'
  rw [hdown, hup, hone, htwice, hunit, Nat.one_mul]

theorem le_log2 {n k : Nat} (h : Nat.pow 2 k ≤ n) : k ≤ n.log2 := by
  have hpos : 0 < Nat.pow 2 k := Nat.pow_pos (by decide)
  exact (Nat.le_log2 (Nat.pos_iff_ne_zero.1 (Nat.lt_of_lt_of_le hpos h))).2 h

/-- **The integers that are finite as doubles** are those below the half behind the greatest one. -/
theorem ofInt_isFinite_iff (n : Int) : (ofInt n).isFinite = true ↔ n.natAbs < doubleBound := by
  have hg : greatestExponent = 971 := rfl
  have htop : Nat.pow 2 1024 = 18014398509481984 * greatestHalf := by decide +kernel
  have hhigh : Nat.pow 2 1023 = 9007199254740992 * greatestHalf := by decide +kernel
  have hpos : 0 < greatestHalf := by decide +kernel
  have hbound : doubleBound = 18014398509481983 * greatestHalf := by decide +kernel
  rw [hbound]
  by_cases hsmall : n.natAbs < Nat.pow 2 1023
  · exact iff_of_true (ofInt_isFinite hsmall) (by omega)
  have hlog := le_log2 (Nat.not_lt.1 hsmall)
  have hn : n ≠ 0 := by
    rintro rfl
    exact hsmall (by decide +kernel)
  rw [ofInt_eq_ofRounded hn, isFinite_ofRounded]
  by_cases hgreat : n.natAbs < Nat.pow 2 1024
  · have hlog' := log2_lt (by decide) hgreat
    have hunit : Nat.pow 2 970 = greatestHalf := by decide +kernel
    rw [mantissa_eq hunit (by omega)]
    exact carry_le_iff (by omega) hpos (by omega)
  · have hlog' := le_log2 (Nat.not_lt.1 hgreat)
    refine iff_of_false ?_ (by omega)
    split <;> omega

end Double

theorem lt_doubleBound {n : Nat} (h : n < Nat.pow 2 200) : n < doubleBound :=
  (Double.ofInt_isFinite_iff n).1 (Double.ofInt_isFinite (lt_bound_of_lt h))

/-- **An integer is its nearest double, unless it is beyond them.** -/
theorem toDouble_int_eq (n : Int) : (Number.int n).toDouble =
    if n.natAbs < doubleBound then .ok (.ofInt n) else .error .integerBeyondDouble := by
  rw [Number.toDouble]
  simp only [Double.ofInt_isFinite_iff]

end Tunebook
