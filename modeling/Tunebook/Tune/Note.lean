import Tunebook.Tune.Header
import Tunebook.Value

/-!
# The notes of a tune

A note is written as a letter, accidentals before it, accidentals and octave marks in any order behind it, and
the digits of its length. Everything between notes is passed over.

* `NoteText.scan` cuts a text into the texts of its notes.
* `NoteText.note` is the note that such a text stands for, `Note.tone` what sounds of it.
* `readNotes` reads the notes of the lines after a header.
-/

namespace Tunebook

def isNoteLetter (c : Char) : Bool := ('A' ≤ c && c ≤ 'G') || ('a' ≤ c && c ≤ 'g')

/-- Whether a character is an accidental: sharp, flat or natural. -/
def isAccidental (c : Char) : Bool := c == '^' || c == '_' || c == '='

def isMark (c : Char) : Bool := isAccidental c || c == '\'' || c == ','

/-- The number of the note that a letter alone stands for; capitals lie in the octave of the middle C. -/
def letterPitch : Char → Int
  | 'C' => 60
  | 'D' => 62
  | 'E' => 64
  | 'F' => 65
  | 'G' => 67
  | 'A' => 69
  | 'B' => 71
  | 'c' => 72
  | 'd' => 74
  | 'e' => 76
  | 'f' => 77
  | 'g' => 79
  | 'a' => 81
  | 'b' => 83
  | _ => 60

/-- How many semitones the accidentals shift a note; a natural outweighs sharps and flats. -/
def accidentalOffset (marks : List Char) : Int :=
  if marks.contains '=' then 0
  else (if marks.contains '^' then 1 else 0) - (if marks.contains '_' then 1 else 0)

def octaveShift (marks : List Char) : Int := (marks.count '\'' : Int) - marks.count ','

def middleOctave : Int := 4

/-- A note of a tune: its letter as written, its number, its length in unit lengths, its marks and octave. -/
structure Note where
  letter : String
  pitch : Int
  length : Nat
  marks : String
  octave : Int
  deriving DecidableEq, Repr, Inhabited

/-- What sounds of a note: its number and its length in unit lengths. A caller may hand in any values as these. -/
structure Tone where
  pitch : Value
  length : Value
  deriving Repr, Inhabited

def Note.tone (n : Note) : Tone := ⟨.int n.pitch, .int n.length⟩

/-- The text of one note: the accidentals before the letter, the letter, the marks and the digits behind it. -/
structure NoteText where
  lead : List Char
  letter : Char
  marks : List Char
  digits : List Char
  deriving DecidableEq, Repr

namespace NoteText

def scanFrom (lead : List Char) : List Char → List NoteText
  | [] => []
  | c :: rest =>
    if isAccidental c then scanFrom (lead ++ [c]) rest
    else if isNoteLetter c then
      let behind := rest.dropWhile isMark
      ⟨lead, c, rest.takeWhile isMark, behind.takeWhile isDecimalDigit⟩
        :: scanFrom [] (behind.dropWhile isDecimalDigit)
    else scanFrom [] rest
termination_by cs => cs.length
decreasing_by
  · simp
  · have h := (List.dropWhile_sublist isDecimalDigit (l := rest.dropWhile isMark)).length_le
    have g := (List.dropWhile_sublist isMark (l := rest)).length_le
    simp only [List.length_cons]
    omega
  · simp

def scan (cs : List Char) : List NoteText := scanFrom [] cs

/-- The note that a text stands for; a note without digits has the unit length. -/
def note (t : NoteText) : Except Fault Note := do
  let length : Nat ← if t.digits.isEmpty then .ok 1 else readDigits t.digits
  let marks := t.lead ++ t.marks
  let shift := octaveShift t.marks
  .ok {
    letter := String.ofList [t.letter]
    pitch := letterPitch t.letter + accidentalOffset marks + shift * 12
    length := length
    marks := String.ofList marks
    octave := middleOctave + shift }

end NoteText

/-- The notes of lines of music; a line's end separates like a blank. -/
def readNotes (ls : List (List Char)) : Except Fault (List Note) :=
  (NoteText.scan (joined [' '] ls)).mapM NoteText.note

end Tunebook
