import Tunebook.Double.Text
import Tunebook.Text.Integer

/-!
# Doubles read from text

A double is written as decimal digits of any script with an optional sign, point and power of ten, with blanks
around it and single underscores between digits, or by the words for the infinities and for no number.

* `readReal` reads a whole text as a double, rounding once.
-/

namespace Tunebook

def dropSeparators? : Option Char → List Char → Option (List Char)
  | _, [] => some []
  | before, '_' :: rest =>
    let between := before.any isDecimalDigit && rest.head?.any isDecimalDigit
    if between then dropSeparators? none rest else none
  | _, c :: rest => (dropSeparators? (some c) rest).map (c :: ·)

/-- The power of ten behind the digits of a number, if the rest of the text is one or is empty. -/
def readPower? : List Char → Option Int
  | [] => some 0
  | e :: rest =>
    if e = 'e' ∨ e = 'E' then
      let (negative, digits) := match rest with
        | '-' :: more => (true, more)
        | '+' :: more => (false, more)
        | more => (false, more)
      if digits.isEmpty || !digits.all isDecimalDigit then none
      else
        let n := decimalValue digits
        some (if negative then -(n : Int) else n)
    else none

/-- A number without a sign: digits, a point with more digits, a power of ten; at least one digit is there. -/
def readUnsigned? (negative : Bool) (cs : List Char) : Option Double :=
  let whole := cs.takeWhile isDecimalDigit
  let (fraction, rest) := match cs.dropWhile isDecimalDigit with
    | '.' :: more => (more.takeWhile isDecimalDigit, more.dropWhile isDecimalDigit)
    | more => ([], more)
  if whole.isEmpty && fraction.isEmpty then none
  else (readPower? rest).map fun power =>
    .ofDecimal negative (decimalValue (whole ++ fraction)) (power - fraction.length)

def readWord? (negative : Bool) (cs : List Char) : Option Double :=
  let word := String.ofList (cs.map Char.toLower)
  if word = "inf" ∨ word = "infinity" then some (.infinite negative)
  else if word = "nan" then some .nan
  else none

def readPlainReal? (cs : List Char) : Option Double :=
  let (negative, body) := match cs with
    | '-' :: rest => (true, rest)
    | '+' :: rest => (false, rest)
    | rest => (false, rest)
  (readWord? negative body).or (readUnsigned? negative body)

def readReal (text : List Char) : Except Fault Double :=
  match (dropSeparators? none (withoutMargins text)).bind readPlainReal? with
  | some x => .ok x
  | none => .error (.notNumber (quoted (String.ofList text)))

end Tunebook
