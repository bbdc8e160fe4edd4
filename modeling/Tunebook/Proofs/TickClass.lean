import Tunebook.Proofs.Stage
import Tunebook.TickClass

/-!
# Lengths in ticks are not negative

A note value lasts a positive number of beats and a beat a positive number of ticks.
What is left of this in double precision is the sign: a product takes it from its
factors, and rounding keeps it, even where the product is zero or infinite.

* `ticks_nonneg`: **no note ends before it begins.**
-/

namespace Tunebook

namespace Double

theorem isNegative_ofParts (negative : Bool) (mantissa : Nat) (exponent : Int) :
    (ofParts negative mantissa exponent).isNegative = negative := by
  rw [ofParts]
  split
  · rfl
  · rfl

theorem isNegative_ofRatio (negative : Bool) (num den : Nat) :
    (ofRatio negative num den).isNegative = negative := by
  rw [ofRatio]
  split
  · rfl
  · rw [ofRounded]
    split
    · exact isNegative_ofParts negative _ _
    · exact isNegative_ofParts negative _ _

theorem isNegative_ofInt {n : Int} (h : 0 ≤ n) : (ofInt n).isNegative = false := by
  rw [ofInt, ofSignedRatio, isNegative_ofRatio]
  exact decide_eq_false (by omega)

theorem isNegative_mul {x y : Double} (hx : x.isNegative = false) (hy : y.isNegative = false) :
    (x.mul y).isNegative = false := by
  fun_cases mul x y with
  | case1 => rfl
  | case2 => rfl
  | case3 => rfl
  | case4 s y _ hz =>
    cases hx
    rw [isNegative, hy]
    rfl
  | case5 => rfl
  | case6 x s =>
    cases hy
    rw [isNegative, hx]
    rfl
  | case7 s m e t n f =>
    cases hx
    cases hy
    exact isNegative_ofRatio _ _ _

theorem round_nonneg {x : Double} {n : Int} (hx : x.isNegative = false) (h : x.round = .ok n) :
    0 ≤ n := by
  cases x with
  | nan => cases h
  | infinite s => cases h
  | finite s m e =>
    cases hx
    cases h
    exact Int.natCast_nonneg _

end Double

theorem toDouble_int {n : Int} {x : Double} (h : (Number.int n).toDouble = .ok x) :
    x = .ofInt n := by
  rw [Number.toDouble] at h
  generalize Double.ofInt n = y at h
  split at h
  · cases h
    rfl
  · cases h

theorem beatsToTicks_nonneg {beats : Double} {resolution ticks : Int}
    (hb : beats.isNegative = false)
    (h : beatsToTicks (.double beats) resolution = .ok ticks) : 0 ≤ ticks := by
  have hpos : 0 < if resolution ≤ 0 then usualResolution else resolution := by
    split
    · decide
    · omega
  rw [beatsToTicks] at h
  generalize (if resolution ≤ 0 then usualResolution else resolution) = n at hpos h
  obtain ⟨r, hr, h⟩ := bind_eq_ok.1 h
  have hn := Double.isNegative_ofInt (Int.le_of_lt hpos)
  obtain rfl := toDouble_int hr
  exact Double.round_nonneg (Double.isNegative_mul hb hn) h

/-- **No note ends before it begins.** -/
theorem TickClass.ticks_nonneg {c : TickClass} {resolution ticks : Int}
    (h : c.ticks resolution = .ok ticks) :
    0 ≤ ticks :=
  beatsToTicks_nonneg (Double.isNegative_ofRatio false c.parts 8) h

end Tunebook
