import Tunebook.Text.Base64
import Tunebook.Text.Lines
import Tunebook.Text.Real
import Tunebook.Value
import Tunebook.Yaml.Tag

/-!
# Values of YAML scalars

The value of a scalar follows from its tag and its content, which may be torn. A scalar may have a tag that its
content does not fit: then the text is malformed, or the value fails for a cause of its own.

* `intValue`, `floatValue`, `boolValue`, `binaryValue`, `stampValue` are the values of the kinds of scalars.
* `scalarValue` is the value of any scalar.
-/

namespace Tunebook.Yaml

def lift {α : Type} : Except Fault α → Reading α
  | .ok x => .ok x
  | .error f => .error (.fault f)

/-! ## Numbers -/

/-- What stands for a surrogate in a number: a character that is no digit either. -/
def standIn : CodePoint → Char
  | .char c => c
  | .half _ => '\ufffd'

/-- Reads code points as an integer. A surrogate ends the digits in front of it. -/
def integerOfPoints (base : Nat) (points : List CodePoint) : Except Fault Int :=
  match Wording.ofPoints points with
  | .whole s => readInteger base s.toList
  | .torn t =>
    match readInteger base (points.map standIn) with
    | .error (.tooManyDigits count) => .error (.tooManyDigits count)
    | _ => .error (.notInteger base (shortened t.quoted))

def realOfPoints (points : List CodePoint) : Except Fault Double :=
  match Wording.ofPoints points with
  | .whole s => readReal s.toList
  | .torn t => .error (.notNumber t.quoted)

def withoutSeparators (points : List CodePoint) : List CodePoint := points.filter (· != .char '_')

def splitSign (points : List CodePoint) : Reading (Bool × List CodePoint) :=
  match points with
  | .char '-' :: rest => .ok (true, rest)
  | .char '+' :: rest => .ok (false, rest)
  | [] => .error (.fault .emptyNumber)
  | ps => .ok (false, ps)

def sixtieths (parts : List Int) : Int := parts.foldl (fun n d => n * 60 + d) 0

def unsignedInt (ps : List CodePoint) : Reading Int :=
  match ps with
  | [] => .error (.fault .emptyNumber)
  | [.char '0'] => .ok 0
  | .char '0' :: .char 'b' :: rest => lift (integerOfPoints 2 rest)
  | .char '0' :: .char 'x' :: rest => lift (integerOfPoints 16 rest)
  | .char '0' :: _ => lift (integerOfPoints 8 ps)
  | _ =>
    if ps.contains (.char ':') then do
      let parts ← lift ((pieces (.char ':') ps).mapM (integerOfPoints 10))
      .ok (sixtieths parts)
    else lift (integerOfPoints 10 ps)

def intValue (content : Wording) : Reading Value := do
  let (negative, ps) ← splitSign (withoutSeparators content.points)
  let n ← unsignedInt ps
  .ok (.int (if negative then -n else n))

def sixtiethSum : Double → Int → List Double → Reading Double
  | sum, _, [] => .ok sum
  | sum, weight, part :: rest => do
    let w ← lift (Number.int weight).toDouble
    sixtiethSum (sum.add (part.mul w)) (weight * 60) rest

def unsignedFloat (ps : List CodePoint) : Reading Double :=
  if ps = (Wording.whole ".inf").points then .ok (.infinite false)
  else if ps.contains (.char ':') then do
    let parts ← lift ((pieces (.char ':') ps).mapM realOfPoints)
    sixtiethSum .zero 1 parts.reverse
  else lift (realOfPoints ps)

def notANumberPoints : List CodePoint := (Wording.whole ".nan").points

def floatValue (content : Wording) : Reading Value := do
  let (negative, ps) ← splitSign (lowerPoints (withoutSeparators content.points))
  if ps = notANumberPoints then .ok (.double .nan)
  else
    let x ← unsignedFloat ps
    .ok (.double (if negative then x.neg else x))

/-! ## Other scalars -/

def boolValue (content : Wording) : Reading Value :=
  match Wording.ofPoints (lowerPoints content.points) with
  | .whole word =>
    match boolWords.lookup word with
    | some b => .ok (.flag b)
    | none => .error (.fault (.unknownKey (quoted word)))
  | .torn t => .error (.fault (.unknownKey t.quoted))

def microseconds (fraction : List Char) : Nat :=
  let digits := fraction.take 6
  decimalValue (digits ++ List.replicate (6 - digits.length) '0')

def offsetMinutes (negative : Bool) (hours minutes : List Char) : Reading Int :=
  let n : Int := decimalValue hours * 60 + decimalValue minutes
  let n := if negative then -n else n
  if n ≤ -1440 ∨ 1440 ≤ n then .error (.fault (.offsetOutOfRange (spanText n))) else .ok n

/-- The value of octets in base 64, whose characters are ASCII. -/
def binaryValue : Wording → Reading Value
  | .whole s =>
    if s.toList.all (·.toNat < 0x80) then
      match readBase64? s.toList with
      | some bytes => .ok (.octets bytes)
      | none => malformed
    else malformed
  | .torn _ => malformed

/-- The value of a date or of a date with a time; a line feed at its end does not count. -/
def stampValue (content : Wording) : Reading Value :=
  match (chars? content.points).bind fun cs => stampFields? (withoutLastBreak cs) with
  | none => .error (.fault .noTimestamp)
  | some f =>
    let date := lift (Date.make (decimalValue f.year) (decimalValue f.month) (decimalValue f.day))
    match f.time with
    | none => date.map .date
    | some (hour, minute, second, fraction) => do
      let offset : Option Int ← match f.offset with
        | none => .ok none
        | some none => .ok (some 0)
        | some (some (negative, hours, minutes)) => (offsetMinutes negative hours minutes).map some
      let date ← date
      let m ← lift (Moment.make date (decimalValue hour) (decimalValue minute) (decimalValue second)
        (microseconds fraction) offset)
      .ok (.moment m)

def scalarValue (tag : Tag) (content : Wording) : Reading Value :=
  match tag with
  | .null => .ok .null
  | .bool => boolValue content
  | .int => intValue content
  | .float => floatValue content
  | .binary => binaryValue content
  | .timestamp => stampValue content
  | .str => .ok (.ofWording content)
  | _ => malformed

/-- Whether a scalar is one of the words for what is no number, which all stand for the same value. -/
def isNotANumberWord (content : Wording) : Bool :=
  match splitSign (lowerPoints (withoutSeparators content.points)) with
  | .ok (_, ps) => ps == notANumberPoints
  | .error _ => false

end Tunebook.Yaml
