import Tunebook.Text.Integer
import Tunebook.Text.Lines

/-!
# The header of a tune

A header field is a line that begins, after blanks, with a tag: one of nine letters and a colon. The header
reaches from the top of a tune to the first line that is neither blank nor a field; of two fields with one
tag the later one counts.

* `Line.classify` tells blank lines, fields and music apart.
* `Header.read` is the header of a list of lines and the number of lines that belong to it.
* `tempoOf` reads a tempo field: `1/4=120`, `90`, or the tempo of a tune that states none.
-/

namespace Tunebook

/-- The header fields. -/
inductive Field where
  | number
  | title
  | composer
  | meter
  | noteLength
  | key
  | tempo
  | voice
  | instruction
  deriving DecidableEq, Repr, Inhabited

def Field.letter : Field → Char
  | number => 'X'
  | title => 'T'
  | composer => 'C'
  | meter => 'M'
  | noteLength => 'L'
  | key => 'K'
  | tempo => 'Q'
  | voice => 'V'
  | instruction => 'I'

def Field.ofLetter? : Char → Option Field
  | 'X' => some number
  | 'T' => some title
  | 'C' => some composer
  | 'M' => some meter
  | 'L' => some noteLength
  | 'K' => some key
  | 'Q' => some tempo
  | 'V' => some voice
  | 'I' => some instruction
  | _ => none

theorem Field.ofLetter?_letter (f : Field) : ofLetter? f.letter = some f := by
  cases f <;> rfl

def Field.split? : List Char → Option (Field × List Char)
  | c :: ':' :: rest => (ofLetter? c).map fun f => (f, rest)
  | _ => none

/-- The kinds of lines at the top of a tune. -/
inductive Line where
  | blank
  | field (f : Field) (value : List Char)
  | music
  deriving DecidableEq, Repr

/-- The kind of a line, blanks at its ends aside; so are they at the ends of a field's value. -/
def Line.classify (line : List Char) : Line :=
  match strip line with
  | [] => .blank
  | c :: rest =>
    match Field.split? (c :: rest) with
    | some (f, value) => .field f (strip value)
    | none => .music

/-! ## Numbers in fields -/

/-- The run of decimal digits that a text begins with, if there is one, and the text behind it. -/
def takeDigits? (cs : List Char) : Option (List Char × List Char) :=
  match cs.takeWhile isDecimalDigit with
  | [] => none
  | d :: ds => some (d :: ds, cs.dropWhile isDecimalDigit)

/-- The integer that a text begins with, after blanks; what follows it does not matter. -/
def leadingInteger (cs : List Char) : Except Fault (Option Int) :=
  let (negative, body) := match cs.dropWhile isBlank with
    | '-' :: rest => (true, rest)
    | '+' :: rest => (false, rest)
    | rest => (false, rest)
  match takeDigits? body with
  | none => .ok none
  | some (digits, _) => do
    let n ← readDigits digits
    .ok (some (if negative then -(n : Int) else n))

def fractionAt? (cs : List Char) : Option (List Char) :=
  match takeDigits? cs with
  | some (_, '/' :: rest) =>
    match takeDigits? rest with
    | some (_, '=' :: rest) => (takeDigits? rest).map fun p => p.1
    | _ => none
  | _ => none

def fractionTempo? : List Char → Option (List Char)
  | [] => none
  | c :: rest =>
    match fractionAt? (c :: rest) with
    | some digits => some digits
    | none => fractionTempo? rest

def usualTempo : Int := 120

/-- The tempo that a tempo field states: the number after a fraction and an equals sign, else the number that
the field begins with, else the usual one. -/
def tempoOf (value : List Char) : Except Fault Int :=
  match fractionTempo? value with
  | some digits => do
    let n ← readDigits digits
    .ok n
  | none => do
    let n ← leadingInteger value
    .ok (n.getD usualTempo)

/-! ## The header -/

/-- What the fields of a tune say, with what holds where a field is missing. -/
structure Header where
  title : String := "Untitled"
  key : String := "C"
  meter : String := "4/4"
  tempo : Int := usualTempo
  number : Option Int := none
  noteLength : Option String := none
  composer : Option String := none
  deriving DecidableEq, Repr, Inhabited

namespace Header

/-- The header after one more field. Voices and instructions are passed over. -/
def set (h : Header) (f : Field) (value : List Char) : Except Fault Header :=
  match f with
  | .number => do
    let n ← leadingInteger value
    .ok { h with number := n }
  | .tempo => do
    let n ← tempoOf value
    .ok { h with tempo := n }
  | .title => .ok { h with title := String.ofList value }
  | .composer => .ok { h with composer := some (String.ofList value) }
  | .meter => .ok { h with meter := String.ofList value }
  | .noteLength => .ok { h with noteLength := some (String.ofList value) }
  | .key => .ok { h with key := String.ofList value }
  | .voice => .ok h
  | .instruction => .ok h

/-- Reads on from a header: the header at the first line of music, and how many lines stand before it. -/
def readFrom (h : Header) : List (List Char) → Except Fault (Header × Nat)
  | [] => .ok (h, 0)
  | line :: rest =>
    match Line.classify line with
    | .blank => do
      let (h, n) ← readFrom h rest
      .ok (h, n + 1)
    | .field f value => do
      let h ← h.set f value
      let (h, n) ← readFrom h rest
      .ok (h, n + 1)
    | .music => .ok (h, 0)

/-- The header of a tune and the number of lines that belong to it. -/
def read (ls : List (List Char)) : Except Fault (Header × Nat) := readFrom {} ls

end Header

end Tunebook
