import Tunebook.Report
import Tunebook.Tune.Basic

/-!
# Checking a tune

Advice on the text of a tune and on its tones. Neither check stops a tune from being read.

* `checkText` reports missing fields and characters that no music holds.
* `checkTones` reports tones outside the range of note numbers and lengths that are not positive.
* `checkInput` and `checkStructure` are the two gates of a conversion, written with them.
-/

namespace Tunebook

def isMusicChar (c : Char) : Bool :=
  isNoteLetter c || isBlank c || isDecimalDigit c || ",.'^_=|[](){}".toList.contains c

/-- Whether a line is checked as music: it holds more than blanks and no tag begins it. -/
def isMusicLine (line : List Char) : Bool := (Field.split? line).isNone && !allBlank line

def musicText (text : List Char) : List Char := joined [' '] ((lines text).filter isMusicLine)

def distinct (cs : List Char) : List Char :=
  cs.foldl (fun seen c => if seen.contains c then seen else seen ++ [c]) []

/-- The characters that no music holds, each once, in the order in which they first came. -/
def strangers (text : List Char) : List Char :=
  distinct ((musicText text).filter fun c => !isMusicChar c)

def containsPair (a b : Char) : List Char → Bool
  | [] => false
  | [_] => false
  | c :: d :: rest => (c == a && d == b) || containsPair a b (d :: rest)

def strangersText (cs : List Char) : String :=
  "Invalid characters in notes: " ++ String.ofList (joined [',', ' '] (cs.map fun c => [c]))

def checkText (text : String) : Report :=
  let cs := text.toList
  if allBlank cs then ⟨["ABC notation must not be empty"]⟩
  else
    let found := strangers cs
    ⟨(if cs.any isNoteLetter then [] else ["No valid notes found (A-G, a-g)"])
      ++ (if containsPair 'K' ':' cs then [] else ["Missing key/clef field (K:)"])
      ++ (if containsPair 'M' ':' cs then [] else ["Missing meter field (M:)"])
      ++ (if found.isEmpty then [] else [strangersText found])⟩

/-- What is to be said about a value as the text of a tune: a value that is not given counts as an empty
text. -/
def checkSource : Source → Except Fault Report
  | .text s => .ok (checkText s)
  | .other v _ => if v.isGiven then .error (.noMember v.kind "strip") else .ok (checkText "")

def checkInput : Source → Report
  | .text s => if allBlank s.toList then ⟨["Input must not be empty"]⟩ else checkText s
  | .other _ _ => ⟨["Input must be a text string"]⟩

/-! ## Tones -/

def greatestPitch : Int := 127

def pitchComplaints (place : Nat) (v : Value) : Except Fault (List String) := do
  let pitch ← Number.comparable v "<"
  if pitch.isBelow 0 || pitch.isAbove greatestPitch then do
    let shown ← v.shown
    .ok ["Note " ++ toString place ++ ": MIDI note " ++ shown ++ " out of range (0-127)"]
  else .ok []

def lengthComplaints (place : Nat) (v : Value) : Except Fault (List String) := do
  let length ← Number.comparable v "<="
  if length.isNotPositive then do
    let shown ← v.shown
    .ok ["Note " ++ toString place ++ ": invalid duration " ++ shown]
  else .ok []

def tonesComplaints (place : Nat) : List Tone → Except Fault (List String)
  | [] => .ok []
  | t :: rest => do
    let outside ← pitchComplaints place t.pitch
    let short ← lengthComplaints place t.length
    let more ← tonesComplaints (place + 1) rest
    .ok (outside ++ short ++ more)

def checkTones (tones : List Tone) : Except Fault Report := do
  let errors ← tonesComplaints 1 tones
  .ok ⟨errors⟩

def checkStructure (tones : List Tone) : Except Fault Report :=
  if tones.isEmpty then .ok ⟨["No notes found in the music"]⟩ else checkTones tones

end Tunebook
