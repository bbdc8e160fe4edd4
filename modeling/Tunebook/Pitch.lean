import Tunebook.Value

/-!
# Names of pitches

A pitch is named by a degree of the twelve-tone scale and an octave; the octave of the middle C, number 60,
is 4, and octaves go below zero.

* `pitchName` is the name of a note number, `pitchOfName` the number of a name; `pitchNameOfValue` and
  `pitchOfValue` take any value.
* `degreeIndex?_degreeName`: a degree's name leads back to it.
-/

namespace Tunebook

def degreeNames : List String := ["C", "C#", "D", "D#", "E", "F", "F#", "G", "G#", "A", "A#", "B"]

def degreeName (degree : Nat) : String := degreeNames.getD degree ""

def degreeIndex? (name : String) : Option Nat := degreeNames.findIdx? (· == name)

/-- A degree's name leads back to it. -/
theorem degreeIndex?_degreeName (degree : Fin 12) : degreeIndex? (degreeName degree) = some degree.val := by
  revert degree
  decide

def pitchName (pitch : Int) : Except Fault String := do
  let octave ← writeInteger (pitch.fdiv 12 - 1)
  .ok (degreeName (pitch.fmod 12).toNat ++ octave)

/-- The name of a note number that is a dynamic value. A double names no degree, even if it is an integer. -/
def pitchNameOfValue (v : Value) : Except Fault String :=
  match v with
  | .double _ => .error (.notPlace "tuple" v.kind)
  | _ =>
    match v.asInt? with
    | some n => pitchName n
    | none => .error (.notOperable "//" v.kind (Value.int 12).kind)

/-- The letter and sharp, the sign and the digits of a pitch name; a line feed may follow. -/
def splitPitchName? (cs : List Char) : Option (String × Bool × List Char) :=
  match cs with
  | letter :: rest =>
    if 'A' ≤ letter ∧ letter ≤ 'G' then
      let (name, rest) := match rest with
        | '#' :: more => ([letter, '#'], more)
        | more => ([letter], more)
      let (negative, rest) := match rest with
        | '-' :: more => (true, more)
        | more => (false, more)
      let digits := rest.takeWhile isDecimalDigit
      let behind := rest.dropWhile isDecimalDigit
      if digits.isEmpty then none
      else if behind = [] ∨ behind = ['\n'] then some (String.ofList name, negative, digits)
      else none
    else none
  | [] => none

def pitchOfName (text : String) : Except Fault Int :=
  match splitPitchName? text.toList with
  | none => .error (.notPitch (quoted text))
  | some (name, negative, digits) => do
    let n ← readDigits digits
    let octave : Int := if negative then -(n : Int) else n
    match degreeIndex? name with
    | none => .error .noSuchDegree
    | some degree => .ok ((octave + 1) * 12 + degree)

/-- The note number of a value, which has to be a pitch name. No pitch name is torn. -/
def pitchOfValue : Value → Except Fault Int
  | .text name => pitchOfName name
  | .torn t => .error (.notPitch t.quoted)
  | v => .error (.notMatchable v.kind)

end Tunebook
