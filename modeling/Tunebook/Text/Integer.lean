import Tunebook.Fault
import Tunebook.Text.Blank
import Tunebook.Text.DecimalDigit
import Tunebook.Text.Quoted

/-!
# Integers as text

An integer is written in decimal digits of any script with an optional sign, blanks around it and single
underscores between digits. At most 4300 digits are read or written.

* `readInteger` reads a whole text as an integer in some base.
* `decimalValue` is the value of a list of digits.
* `writeInteger` writes an integer in decimal digits.
-/

namespace Tunebook

def digitLimit : Nat := 4300

/-- Whether a character may stand around a number: a blank that is no information separator. -/
def isMargin (c : Char) : Bool := isBlank c && !(0x1c ≤ c.toNat && c.toNat ≤ 0x1f)

def withoutMargins (cs : List Char) : List Char :=
  ((cs.dropWhile isMargin).reverse.dropWhile isMargin).reverse

def positionalValue (base : Nat) (digits : List Nat) : Nat :=
  digits.foldl (fun total d => base * total + d) 0

/-- The number that a run of decimal digits stands for; other characters do not count. -/
def decimalValue (digits : List Char) : Nat := positionalValue 10 (digits.filterMap digitValue?)

def readDigits (digits : List Char) : Except Fault Nat :=
  if digitLimit < digits.length then .error (.tooManyDigits digits.length) else .ok (decimalValue digits)

def digitIn? (base : Nat) (c : Char) : Option Nat :=
  let value? : Option Nat := match digitValue? c with
    | some d => some d
    | none =>
      if 'a' ≤ c ∧ c ≤ 'z' then some (c.toNat - 'a'.toNat + 10)
      else if 'A' ≤ c ∧ c ≤ 'Z' then some (c.toNat - 'A'.toNat + 10)
      else none
  value?.filter (· < base)

/-- The digits of a number with single underscores between them, or `none` if the text is not of that form. -/
def separatedDigits? (base : Nat) : List Char → Option (List Nat)
  | [] => none
  | [c] => (digitIn? base c).map fun d => [d]
  | c :: '_' :: rest => do
    let d ← digitIn? base c
    let more ← separatedDigits? base rest
    some (d :: more)
  | c :: next :: rest => do
    let d ← digitIn? base c
    let more ← separatedDigits? base (next :: rest)
    some (d :: more)

def leadingRun (base : Nat) (cs : List Char) : List Char :=
  cs.takeWhile fun c => c == '_' || (digitIn? base c).isSome

def baseLetter? : Nat → Option Char
  | 2 => some 'b'
  | 8 => some 'o'
  | 16 => some 'x'
  | _ => none

/-- The text after the announcement of its base, where one stands; an underscore may follow it. -/
def dropBaseMark (base : Nat) : List Char → List Char
  | '0' :: c :: rest =>
    if (baseLetter? base).any (fun l => c == l || c == l.toUpper) then
      match rest with
      | '_' :: more => more
      | _ => rest
    else '0' :: c :: rest
  | cs => cs

/-- How much of a text that is no integer its fault shows, the quotation marks included. -/
def shownLimit : Nat := 200

def shortened (s : String) : String := String.ofList (s.toList.take shownLimit)

/-- Reads a whole text as an integer. Only in bases that are no powers of two is the number of digits
limited, and the limit is noticed before anything wrong behind the digits. -/
def readInteger (base : Nat) (text : List Char) : Except Fault Int :=
  let body := withoutMargins text
  let (negative, unsigned) := match body with
    | '-' :: rest => (true, rest)
    | '+' :: rest => (false, rest)
    | rest => (false, rest)
  let unsigned := dropBaseMark base unsigned
  let run := leadingRun base unsigned
  let wrong : Except Fault Int := .error (.notInteger base (shortened (quoted (String.ofList text))))
  match separatedDigits? base run with
  | none => wrong
  | some digits =>
    if (baseLetter? base).isNone ∧ digitLimit < digits.length then .error (.tooManyDigits digits.length)
    else if run.length = unsigned.length then
      let n := positionalValue base digits
      .ok (if negative then -(n : Int) else n)
    else wrong

/-- The decimal digits of an integer, unless there are too many to be written. -/
def writeInteger (n : Int) : Except Fault String :=
  let digits := Nat.toDigits 10 n.natAbs
  if digitLimit < digits.length then .error .tooLongToWrite
  else .ok (String.ofList (if n < 0 then '-' :: digits else digits))

end Tunebook
