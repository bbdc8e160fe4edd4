import Tunebook.Double.Basic

/-!
# Doubles as decimal text

A double is written with the fewest significant digits that read back to it, the nearest such decimal when
there are several. Between `10 ^ -4` and `10 ^ 16` it is written positionally with at least one digit after
the point, elsewhere with an exponent of at least two digits.

* `Double.ofDecimal` reads a digit string scaled by a power of ten, rounding once.
* `Double.shortest` finds the digits: of the decimals with 1, 2, … 17 digits next to the value, the first
  that reads back.
* `Double.render` lays the digits out.
-/

namespace Tunebook.Double

/-- The double nearest to `digits * 10 ^ scale`. Scales far outside the range of doubles are settled by the
number of digits alone. -/
def ofDecimal (negative : Bool) (digits : Nat) (scale : Int) : Double :=
  let width : Int := (Nat.toDigits 10 digits).length
  if digits = 0 ∨ width + scale < -330 then finite negative 0 leastExponent
  else if 310 < width + scale then infinite negative
  else ofRatio negative (digits * Nat.pow 10 scale.toNat) (Nat.pow 10 (-scale).toNat)

/-- The least `p` with `num / den < 10 ^ p`, for a positive quotient of the size of a double. -/
def decimalExponent (num den : Nat) : Int :=
  ((Nat.toDigits 10 (num * Nat.pow 10 340 / den)).length : Int) - 340

/-- One of the two decimals of `places` significant digits beside `num / den`, if it reads back to `x`: the
nearer one first, of two equally near ones the even one. -/
def neighbour? (x : Double) (num den : Nat) (point : Int) (places : Nat) : Option Nat :=
  let shift : Int := (places : Int) - point
  let n := num * Nat.pow 10 shift.toNat
  let d := den * Nat.pow 10 (-shift).toNat
  let near := nearest n d
  let other := if near * d ≤ n then near + 1 else near - 1
  [near, other].find? fun c => ofDecimal false c (-shift) == x

structure Digits where
  digits : List Char
  point : Int

def dropTrailingZeros (digits : List Char) : List Char :=
  (digits.reverse.dropWhile (· == '0')).reverse

/-- The digits of a decimal that was found with a number of places, the first of them at `point`. -/
def Digits.ofFound (point : Int) : Option (Nat × Nat) → Digits
  | some (c, places) =>
    let digits := Nat.toDigits 10 c
    ⟨dropTrailingZeros digits, point + (digits.length : Int) - places⟩
  | none => ⟨['0'], 1⟩

/-- The shortest digits that read back to the positive double `x = num / den`. -/
def shortest (x : Double) (num den : Nat) : Digits :=
  let point := decimalExponent num den
  .ofFound point ((List.range 17).findSome? fun i =>
    (neighbour? x num den point (i + 1)).map fun c => (c, i + 1))

/-- The layout of digits: positional where the point lies from the fourth place before the digits to the
sixteenth after their start, else with an exponent. -/
def layout (d : Digits) : List Char :=
  let count : Int := d.digits.length
  if -4 < d.point ∧ d.point ≤ 16 then
    if d.point ≤ 0 then '0' :: '.' :: List.replicate (-d.point).toNat '0' ++ d.digits
    else if count ≤ d.point then d.digits ++ List.replicate (d.point - count).toNat '0' ++ ['.', '0']
    else d.digits.take d.point.toNat ++ '.' :: d.digits.drop d.point.toNat
  else
    let mantissa := match d.digits with
      | [] => []
      | [c] => [c]
      | c :: rest => c :: '.' :: rest
    let e := d.point - 1
    let digits := Nat.toDigits 10 e.natAbs
    let padded := if digits.length < 2 then '0' :: digits else digits
    mantissa ++ 'e' :: (if e < 0 then '-' else '+') :: padded

/-- The text of a double: `1.0`, `0.1`, `1e+16`, `-0.0`, `inf`, `nan`. -/
def render : Double → String
  | nan => "nan"
  | infinite s => if s then "-inf" else "inf"
  | finite s m e =>
    let body :=
      if m = 0 then ['0', '.', '0']
      else layout (shortest (finite false m e) (m * Nat.pow 2 e.toNat) (Nat.pow 2 (-e).toNat))
    String.ofList (if s then '-' :: body else body)

end Tunebook.Double
