/-!
# Numbers of double precision, exactly

A double is a sign, a mantissa below `2 ^ 53` and a power of two, or one of the special values. Every
operation takes the exact rational result and rounds it once, to the nearest double with ties to even, so
what an operation yields is determined by exact arithmetic on natural numbers. Their powers are written
`Nat.pow`, so that no other notion of a power can be read into them.

* `nearest` rounds a quotient of natural numbers to an integer, a half to the even neighbour.
* `Double.ofRatio` is the nearest double of a quotient; the arithmetic below is written with it.
* `nearest_le`, `le_nearest`: a rounded quotient is within one half of the exact one.
-/

namespace Tunebook

/-- The integer nearest to `num / den`, where an exact half goes to the even neighbour. -/
def nearest (num den : Nat) : Nat :=
  let below := num / den
  let rest := num % den
  if 2 * rest < den then below
  else if den < 2 * rest then below + 1
  else below + below % 2

/-- The rounded quotient exceeds the exact one by at most one half. -/
theorem nearest_le (num den : Nat) (h : 0 < den) : 2 * (den * nearest num den) ≤ 2 * num + den := by
  have e := Nat.div_add_mod num den
  have l := Nat.mod_lt num h
  unfold nearest
  simp only
  generalize num / den = q at *
  generalize num % den = r at *
  have s : den * (q + 1) = den * q + den := Nat.mul_succ den q
  split
  · omega
  · split
    · omega
    · rcases Nat.mod_two_eq_zero_or_one q with z | o
      · rw [z]
        simp only [Nat.add_zero]
        omega
      · rw [o]
        omega

/-- The exact quotient exceeds the rounded one by at most one half. -/
theorem le_nearest (num den : Nat) (h : 0 < den) : 2 * num ≤ 2 * (den * nearest num den) + den := by
  have e := Nat.div_add_mod num den
  have l := Nat.mod_lt num h
  unfold nearest
  simp only
  generalize num / den = q at *
  generalize num % den = r at *
  have s : den * (q + 1) = den * q + den := Nat.mul_succ den q
  split
  · omega
  · split
    · omega
    · rcases Nat.mod_two_eq_zero_or_one q with z | o
      · rw [z]
        simp only [Nat.add_zero]
        omega
      · rw [o]
        omega

/-- A number of double precision: `finite s m e` is `± m * 2 ^ e`. -/
inductive Double where
  | nan
  | infinite (negative : Bool)
  | finite (negative : Bool) (mantissa : Nat) (exponent : Int)
  deriving DecidableEq, Repr, Inhabited

namespace Double

def leastExponent : Int := -1074

def greatestExponent : Int := 971

/-- The exponent at which `num / den` has a mantissa of 53 bits, or the least exponent for a quotient that
is too small for that. -/
def exponentOf (num den : Nat) : Int :=
  let guess : Int := (num.log2 : Int) - den.log2 - 52
  let exact :=
    if num * Nat.pow 2 (-guess).toNat < den * Nat.pow 2 guess.toNat * Nat.pow 2 52 then guess - 1 else guess
  max exact leastExponent

/-- The double with a mantissa of up to 53 bits; it is infinite beyond the largest finite double. -/
def ofParts (negative : Bool) (mantissa : Nat) (exponent : Int) : Double :=
  if greatestExponent < exponent then infinite negative else finite negative mantissa exponent

/-- The double with a rounded mantissa, which rounding may have carried to the next power of two. -/
def ofRounded (negative : Bool) (mantissa : Nat) (exponent : Int) : Double :=
  if mantissa = Nat.pow 2 53 then ofParts negative (Nat.pow 2 52) (exponent + 1)
  else ofParts negative mantissa exponent

/-- The double nearest to `num / den` with the given sign, ties to the even mantissa; a quotient beyond the
largest finite double becomes infinite. -/
def ofRatio (negative : Bool) (num den : Nat) : Double :=
  if num = 0 then finite negative 0 leastExponent
  else
    let e := exponentOf num den
    ofRounded negative (nearest (num * Nat.pow 2 (-e).toNat) (den * Nat.pow 2 e.toNat)) e

def ofSignedRatio (num : Int) (den : Nat) : Double :=
  ofRatio (num < 0) num.natAbs den

/-- The double nearest to an integer; it is infinite beyond the largest finite double. -/
def ofInt (n : Int) : Double := ofSignedRatio n 1

def zero : Double := ofInt 0

def ratio? : Double → Option (Int × Nat)
  | finite s m e =>
    let magnitude : Nat := m * Nat.pow 2 e.toNat
    some (if s then -(magnitude : Int) else magnitude, Nat.pow 2 (-e).toNat)
  | _ => none

/-- Whether the sign of a double is negative; a negative zero has a negative sign. -/
def isNegative : Double → Bool
  | nan => false
  | infinite s => s
  | finite s _ _ => s

def isZero : Double → Bool
  | finite _ m _ => m == 0
  | _ => false

def isFinite : Double → Bool
  | finite _ _ _ => true
  | _ => false

def neg : Double → Double
  | nan => nan
  | infinite s => infinite (!s)
  | finite s m e => finite (!s) m e

def mul : Double → Double → Double
  | nan, _ => nan
  | _, nan => nan
  | infinite s, y => if y.isZero then nan else infinite (s != y.isNegative)
  | x, infinite s => if x.isZero then nan else infinite (x.isNegative != s)
  | finite s m e, finite t n f =>
    ofRatio (s != t) (m * n * Nat.pow 2 (e + f).toNat) (Nat.pow 2 (-(e + f)).toNat)

/-- The quotient, rounded once; a number over zero is infinite and zero over zero is no number. -/
def div : Double → Double → Double
  | nan, _ => nan
  | _, nan => nan
  | infinite _, infinite _ => nan
  | infinite s, y => infinite (s != y.isNegative)
  | x, infinite s => finite (x.isNegative != s) 0 leastExponent
  | finite s m e, finite t n f =>
    if n = 0 then (if m = 0 then nan else infinite (s != t))
    else ofRatio (s != t) (m * Nat.pow 2 (e - f).toNat) (n * Nat.pow 2 (f - e).toNat)

/-- The sum, rounded once; a sum of zero is negative only where both terms are negative zeros. -/
def add : Double → Double → Double
  | nan, _ => nan
  | _, nan => nan
  | infinite s, infinite t => if s = t then infinite s else nan
  | infinite s, _ => infinite s
  | _, infinite s => infinite s
  | finite s m e, finite t n f =>
    let low := min e f
    let x : Int := (if s then -1 else 1) * (m * Nat.pow 2 (e - low).toNat : Nat)
    let y : Int := (if t then -1 else 1) * (n * Nat.pow 2 (f - low).toNat : Nat)
    if x + y = 0 then finite (s && t && x == 0) 0 leastExponent
    else ofSignedRatio ((x + y) * (Nat.pow 2 low.toNat : Nat)) (Nat.pow 2 (-low).toNat)

def sub (x y : Double) : Double := add x y.neg

/-- How two doubles compare as numbers; nothing compares with `nan`. -/
def compare? : Double → Double → Option Ordering
  | nan, _ => none
  | _, nan => none
  | infinite s, infinite t => some (if s = t then .eq else if s then .lt else .gt)
  | infinite s, _ => some (if s then .lt else .gt)
  | _, infinite s => some (if s then .gt else .lt)
  | finite s m e, finite t n f =>
    let low := min e f
    let x : Int := (if s then -1 else 1) * (m * Nat.pow 2 (e - low).toNat : Nat)
    let y : Int := (if t then -1 else 1) * (n * Nat.pow 2 (f - low).toNat : Nat)
    some (Ord.compare x y)

/-- Whether `x` is less than `y`; never so beside `nan`. -/
def lt (x y : Double) : Bool := compare? x y == some .lt

/-- Equality as numbers: the two zeros are equal and `nan` is equal to nothing. -/
def numEq (x y : Double) : Bool := compare? x y == some .eq

def eqInt (x : Double) (n : Int) : Bool :=
  match x.ratio? with
  | some (num, den) => num == n * (den : Int)
  | none => false

def truncate? : Double → Option Int
  | finite s m e =>
    let magnitude : Nat := m * Nat.pow 2 e.toNat / Nat.pow 2 (-e).toNat
    some (if s then -(magnitude : Int) else magnitude)
  | _ => none

def nearest? : Double → Option Int
  | finite s m e =>
    let magnitude : Nat := nearest (m * Nat.pow 2 e.toNat) (Nat.pow 2 (-e).toNat)
    some (if s then -(magnitude : Int) else magnitude)
  | _ => none

end Double

end Tunebook
