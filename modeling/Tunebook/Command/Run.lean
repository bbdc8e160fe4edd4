import Tunebook.Command.Options
import Tunebook.Conversion.Files
import Tunebook.Settings.Load

/-!
# Runs of the command

A run reads a tune from one file and saves what is played of it in another. It is a function of where it runs and
of its arguments: its outcome is the files afterwards, the lines that it printed, and how it ended. Printing itself
does not fail: whatever takes in the lines, such as the closing ones of `deliver` with the title of the tune,
has a form for each of their characters.

* `Options.written` is the way of writing a file that the options ask for.
* `run` is a whole run, `perform` one whose arguments are understood.
-/

namespace Tunebook.Command

/-- How a run ends: with a status, or with a fault that nothing in it catches. -/
inductive Ending where
  | status (code : Nat)
  | fault (f : Fault)
  deriving DecidableEq, Repr, Inhabited

/-- What a run leads to. -/
structure Outcome where
  files : FileTree
  output : List String := []
  errors : List String := []
  ending : Ending
  deriving DecidableEq, Repr, Inhabited

def Outcome.behind (output errors : List String) (r : Outcome) : Outcome :=
  { r with output := output ++ r.output, errors := errors ++ r.errors }

def commandName : String := "abc2midi"

def helpLines : List String :=
  ["usage: abc2midi [-h] --in INFILE [--out OUTFILE] [--config CONFIG]",
    "                [--instruments INSTRUMENTS] [--sustain] [--vibrato]",
    "                [--title TITLE] [--composer COMPOSER] [--optimize]",
    "                [--validate-only]",
    "",
    "ABC notation -> MIDI",
    "",
    "options:",
    "  -h, --help            show this help message and exit",
    "  --in INFILE           Input ABC file (.abc/.txt)",
    "  --out OUTFILE         Output MIDI file (.mid)",
    "  --config CONFIG       YAML config (defaults applied if omitted)",
    "  --instruments INSTRUMENTS",
    "                        Comma separated instrument names, one track each",
    "                        (piano, violin, flute, guitar, bass)",
    "  --sustain             Add sustain pedal controller",
    "  --vibrato             Add modulation wheel controller",
    "  --title TITLE         Title text event",
    "  --composer COMPOSER   Composer text event",
    "  --optimize            Run the MIDI optimization pass",
    "  --validate-only       Only validate the input"]

/-! ## Lines -/

def remark (s : String) : String := "[cli] " ++ s

def warning (s : String) : String := remark ("WARNING: " ++ s)

def failure (s : String) : String := remark ("ERROR: " ++ s)

def faultLine (f : Fault) : String := f.category.qualifiedName ++ ": " ++ f.message

def summary (t : Tune) : String :=
  remark ("Done. title=" ++ quoted t.header.title ++ " key=" ++ t.header.key ++ " tempo="
    ++ toString t.header.tempo ++ " notes=" ++ toString t.notes.length)

/-! ## Writing -/

namespace Options

def instrumentList (o : Options) : List Value :=
  (((pieces ',' o.instruments.toList).map strip).filter fun name => name ≠ []).map fun name =>
    .text (String.ofList name)

def generated (o : Options) (settings : Value) (s : Score) : Except Fault (List UInt8) :=
  if !o.instruments.isEmpty then generateMultiTrack s (.list o.instrumentList) settings
  else if o.sustain || o.vibrato then generateWithEffects s (.flag o.sustain) (.flag o.vibrato) settings
  else if !(o.title.isEmpty && o.composer.isEmpty) then
    generateWithTexts s (.text o.title) (.text o.composer) settings
  else generate s settings

def written (o : Options) (settings : Value) (s : Score) : Except Fault (List UInt8) := do
  let midi ← o.generated settings s
  .ok (if o.optimize then optimized midi else midi)

/-- Where the file is saved: at the path that is asked for, or beside the input. -/
def target (o : Options) (site : Site) (input : Path) : Except Fault Path :=
  if o.output.isEmpty then .ok (input.withSuffix ".mid") else site.pathOf o.output

theorem written_eq_plainFile {o : Options} (h : o.modes = []) (settings : Value) :
    o.written settings = plainFile o.optimize settings := by
  have hi : o.instruments.isEmpty = true := by
    cases e : o.instruments.isEmpty with
    | true => rfl
    | false => simp [modes, e] at h
  have he : (o.sustain || o.vibrato) = false := by
    cases e : (o.sustain || o.vibrato) with
    | false => rfl
    | true => simp [modes, hi, e] at h
  have ht : (o.title.isEmpty && o.composer.isEmpty) = true := by
    cases e : (o.title.isEmpty && o.composer.isEmpty) with
    | true => rfl
    | false => simp [modes, hi, he, e] at h
  funext s
  simp only [written, plainFile, generated, hi, he, ht, Bool.not_true, Bool.false_eq_true, if_false]

end Options

/-! ## Stages of a run -/

def deliver (site : Site) (o : Options) (input : Path) (t : Tune) (midi : List UInt8) : Outcome :=
  match o.target site input with
  | .error f => ⟨site.files, [], [], .fault f⟩
  | .ok target =>
    match site.saveTune target.text midi with
    | (files, .error f) => ⟨files, [], [], .fault f⟩
    | (files, .ok (.refused details)) =>
      ⟨files, [], [failure (unwritableFile ++ ": " ++ String.intercalate "; " details)], .status 1⟩
    | (files, .ok .written) => ⟨files, [remark ("midi -> " ++ target.text), summary t], [], .status 0⟩

def play (site : Site) (o : Options) (settings : Value) (input : Path) (text : Source) : Outcome :=
  match passage text (o.written settings) with
  | .error f => ⟨site.files, [], [faultLine f], .status 2⟩
  | .ok (.refused complaints) => ⟨site.files, [], complaints.map failure, .status 1⟩
  | .ok (.passed t midi) => deliver site o input t midi

def checked (files : FileTree) (valid : Bool) : Outcome :=
  ⟨files, [remark ("valid = " ++ if valid then "True" else "False")], [], .status (if valid then 0 else 1)⟩

def examine (site : Site) (o : Options) (settings : Value) (input : Path) (text : Source) : Outcome :=
  let report := checkInput text
  Outcome.behind [] (report.errors.map warning)
    (if o.validateOnly then checked site.files report.isValid
    else if !report.isValid then ⟨site.files, [], [failure "invalid input"], .status 1⟩
    else play site o settings input text)

def proceed (site : Site) (o : Options) (settings : Value) (input : Path) : Outcome :=
  Outcome.behind [remark ("infile = " ++ input.text)] []
    (match site.readText input with
    | .error f => ⟨site.files, [], [], .fault f⟩
    | .ok text => examine site o settings input (.text (String.ofList text)))

/-- The path of the input. Where the value stood for no text, there is an empty list in its place. -/
def inputPath (site : Site) (o : Options) : Except Fault Path := do
  let text ← pathText ((o.input.map Source.text).getD (.other (.list []) rfl))
  site.pathOf text

def findInput (site : Site) (o : Options) : Except Fault (Path × Bool) := do
  let input ← inputPath site o
  let found ← site.seek input
  .ok (input, found.isSome)

def perform (site : Site) (o : Options) : Outcome :=
  match findInput site o with
  | .error f => ⟨site.files, [], [], .fault f⟩
  | .ok (input, false) => ⟨site.files, [], [failure ("Input not found: " ++ input.text)], .status 1⟩
  | .ok (input, true) =>
    match site.loadSettings o.config "" with
    | .error f => ⟨site.files, [], [], .fault f⟩
    | .ok settings => proceed site o (.map settings) input

def run (site : Site) (arguments : List String) : Outcome :=
  match Request.read arguments with
  | .error c => ⟨site.files, [], [commandName ++ ": error: " ++ c.message], .status 2⟩
  | .ok .help => ⟨site.files, helpLines, [], .status 0⟩
  | .ok (.perform o) => perform site o

end Tunebook.Command
