import Tunebook.Midi.Generate
import Tunebook.Tune.Check

/-!
# Conversions

A conversion leads from the text of a tune to a file through two gates, and never fails: what goes wrong is
in its result. A result says whether it succeeded, what went wrong and why, what is known about the tune, how
long it took and when it was made.

* `convert` is the conversion with both gates, `convertMultiTrack` and `convertWithEffects` have none.
* `Clock` holds the readings that a conversion takes.
-/

namespace Tunebook

/-- The outcome of a conversion. -/
structure Result where
  success : Bool
  midi : Option (List UInt8) := none
  error : Option String := none
  details : List String := []
  metadata : List (Value × Value) := []
  timestamp : String
  deriving Repr, Inhabited

def Result.midiSize (r : Result) : Nat :=
  match r.midi with
  | some bytes => bytes.length
  | none => 0

/-- The readings that a conversion takes: seconds at its start and at its end, and the time of day as
microseconds since the start of 1970. -/
structure Clock where
  started : Double := .zero
  finished : Double := .zero
  now : Int := 0
  deriving Repr, Inhabited

def Clock.timestamp (c : Clock) : String := (Moment.ofMicroseconds c.now).text

def Clock.elapsed (c : Clock) : Double := (c.finished.sub c.started).mul (.ofInt 1000)

def invalidInput : String := "Invalid input"

def invalidStructure : String := "Invalid musical structure"

def conversionFailed : String := "Conversion failed"

def Result.failure (c : Clock) (error : String) (details : List String) : Result :=
  ⟨false, none, some error, details, [], c.timestamp⟩

def Tune.metadata (t : Tune) : Mapping :=
  [(.text "title", .text t.header.title), (.text "key", .text t.header.key),
    (.text "tempo", .int t.header.tempo), (.text "meter", .text t.header.meter),
    (.text "note_count", .int t.notes.length)]

def Result.timed (r : Result) (c : Clock) : Result :=
  match Mapping.field? "duration_ms" r.metadata with
  | some _ => r
  | none => { r with metadata := Mapping.insert (.text "duration_ms") (.double c.elapsed) r.metadata }

inductive Passage where
  | refused (complaints : List String)
  | passed (tune : Tune) (midi : List UInt8)

/-- The stages behind the first gate: reading, the second gate, and writing in the given way. -/
def passage (text : Source) (written : Score → Except Fault (List UInt8)) : Except Fault Passage := do
  let tune ← Tune.ofSource text
  let structureReport ← checkStructure tune.score.tones
  if structureReport.isValid then
    let midi ← written tune.score
    .ok (.passed tune midi)
  else .ok (.refused structureReport.errors)

def plainFile (optimize : Bool) (settings : Value) (s : Score) : Except Fault (List UInt8) := do
  let midi ← generate s settings
  .ok (if optimize then optimized midi else midi)

def convertUntimed (c : Clock) (text : Source) (optimize settings : Value) : Result :=
  let report := checkInput text
  if report.isValid then
    match passage text (plainFile optimize.isGiven settings) with
    | .ok (.passed tune midi) => ⟨true, some midi, none, [], tune.metadata, c.timestamp⟩
    | .ok (.refused complaints) => .failure c invalidStructure complaints
    | .error f => .failure c conversionFailed [f.message]
  else .failure c invalidInput report.errors

/-- Converts a text: checks it, reads it, checks the notes, and writes the file. -/
def convert (c : Clock) (text : Source) (optimize settings : Value) : Result :=
  (convertUntimed c text optimize settings).timed c

def Result.ofOutcome (c : Clock) : Except Fault (List UInt8 × Mapping) → Result
  | .ok (midi, metadata) => ⟨true, some midi, none, [], metadata, c.timestamp⟩
  | .error f => .failure c conversionFailed [f.message]

/-- Converts a text to a file with one track for each instrument. Only instruments that cannot be enumerated
make it fail outright. -/
def convertMultiTrack (c : Clock) (text : Source) (instruments settings : Value) : Except Fault Result := do
  let names ← instrumentNames instruments
  .ok (.ofOutcome c (do
    let tune ← Tune.ofSource text
    let midi ← generateMultiTrack tune.score (.list names) settings
    .ok (midi, tune.metadata ++
      [(.text "instruments", .list names), (.text "track_count", .int names.length)])))

def convertWithEffects (c : Clock) (text : Source) (sustain vibrato settings : Value) : Result :=
  .ofOutcome c (do
    let tune ← Tune.ofSource text
    let midi ← generateWithEffects tune.score sustain vibrato settings
    .ok (midi, tune.metadata ++
      [(.text "effects", .map [(.text "sustain", sustain), (.text "vibrato", vibrato)])]))

end Tunebook
