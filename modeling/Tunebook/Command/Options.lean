import Tunebook.Text.DecimalDigit
import Tunebook.Text.Lines
import Tunebook.Text.Quoted

/-!
# Options of the command line

The words of a command line are first sorted one by one: a word is an option, by its name or by the beginning of
a single name, an option that is not known, or a plain word. Behind two dashes alone every word is plain. Then
the options take in their values in order. Only options are asked for, so plain words that are no value of
an option are complaints.

The rules are those of the standard reader of options in release 3.11.2. Later releases differ in two places:
two dashes behind an equals sign are a value like any other (`Options.given?`), and help is shown although letters
that are no option follow its own (`Request.ofLetters`).

* `Word.of` sorts a word, `Word.sort` all of them.
* `Request.ofWords` reads what is asked for.
* `Complaint.message` is the wording of a complaint.
-/

namespace Tunebook.Command

/-- What an option is about. -/
inductive Switch where
  | help
  | input
  | output
  | config
  | instruments
  | sustain
  | vibrato
  | title
  | composer
  | optimize
  | validateOnly
  deriving DecidableEq, Repr, Inhabited

namespace Switch

def names : List (String × Switch) :=
  [("-h", help), ("--help", help), ("--in", input), ("--out", output), ("--config", config),
    ("--instruments", instruments), ("--sustain", sustain), ("--vibrato", vibrato), ("--title", title),
    ("--composer", composer), ("--optimize", optimize), ("--validate-only", validateOnly)]

def takesValue : Switch → Bool
  | input | output | config | instruments | title | composer => true
  | help | sustain | vibrato | optimize | validateOnly => false

def label (s : Switch) : String :=
  String.intercalate "/" ((names.filter fun n => n.2 = s).map Prod.fst)

end Switch

/-- What is wrong with a command line. -/
inductive Complaint where
  | ambiguous (word : String) (matching : List String)
  | noValue (s : Switch)
  | needlessValue (s : Switch) (value : String)
  | noInput
  | unrecognized (words : List String)
  | incompatible (modes : List String)
  deriving DecidableEq, Repr, Inhabited

def Complaint.message : Complaint → String
  | ambiguous word matching =>
    "ambiguous option: " ++ word ++ " could match " ++ String.intercalate ", " matching
  | noValue s => "argument " ++ s.label ++ ": expected one argument"
  | needlessValue s value => "argument " ++ s.label ++ ": ignored explicit argument " ++ quoted value
  | noInput => "the following arguments are required: " ++ Switch.input.label
  | unrecognized words => "unrecognized arguments: " ++ String.intercalate " " words
  | incompatible modes => "cannot combine " ++ String.intercalate " and " modes

/-! ## Sorting words -/

/-- What is written in one word with an option: the value behind the equals sign after a long name, or all that
stands behind a single letter. -/
inductive Attachment where
  | value (text : List Char)
  | letters (text : List Char)
  deriving DecidableEq, Repr, Inhabited

/-- A word of the command line. -/
inductive Word where
  | plain (text : String)
  | dashes
  | option (s : Switch) (attached : Option Attachment)
  | stranger (text : String)
  deriving DecidableEq, Repr, Inhabited

namespace Word

def splitValue (word : List Char) : List Char × Option (List Char) :=
  match word.dropWhile (· ≠ '=') with
  | [] => (word, none)
  | _ :: value => (word.takeWhile (· ≠ '='), some value)

def attach (name value : List Char) : Attachment :=
  match name with
  | '-' :: '-' :: _ => .value value
  | _ => .letters value

/-- Whether the characters behind a dash make a number: digits, or digits with a point and digits behind it. A
line feed may follow. -/
def isNumber (cs : List Char) : Bool :=
  let cs := if cs.getLast? = some '\n' then cs.dropLast else cs
  match cs.dropWhile isDecimalDigit with
  | [] => !cs.isEmpty
  | '.' :: fraction => !fraction.isEmpty && fraction.all isDecimalDigit
  | _ => false

/-- The options whose names begin like a word with two dashes, or whose single letter a word with one dash
begins with. -/
def candidates (word : List Char) : List (String × Word) :=
  match word with
  | '-' :: '-' :: _ =>
    let (name, value) := splitValue word
    (Switch.names.filter fun n => name.isPrefixOf n.1.toList).map fun n =>
      (n.1, .option n.2 (value.map .value))
  | _ =>
    (Switch.names.filter fun n => n.1.toList = word.take 2).map fun n =>
      (n.1, .option n.2 (some (.letters (word.drop 2))))

def ofDashed (text : String) : Except Complaint Word :=
  let word := text.toList
  match candidates word with
  | [(_, w)] => .ok w
  | [] => .ok (if isNumber (word.drop 1) || word.contains ' ' then .plain text else .stranger text)
  | several => .error (.ambiguous text (several.map Prod.fst))

/-- Sorts a word. A dash alone is plain. -/
def of (text : String) : Except Complaint Word :=
  match Switch.names.lookup text, text.toList with
  | some s, _ => .ok (.option s none)
  | none, '-' :: _ :: _ =>
    let (name, value) := splitValue text.toList
    match value, Switch.names.lookup (String.ofList name) with
    | some value, some s => .ok (.option s (some (attach name value)))
    | _, _ => ofDashed text
  | none, _ => .ok (.plain text)

def sort : List String → Except Complaint (List Word)
  | [] => .ok []
  | text :: rest =>
    if text = "--" then .ok (dashes :: rest.map plain)
    else do
      let w ← of text
      let more ← sort rest
      .ok (w :: more)

theorem of_name {text : String} {s : Switch} (h : Switch.names.lookup text = some s) :
    of text = .ok (.option s none) := by
  rw [of, h]

end Word

/-! ## Taking in values -/

/-- What is asked for. A text that is empty is not given. -/
structure Options where
  input : Option String := none
  output : String := ""
  config : String := ""
  instruments : String := ""
  sustain : Bool := false
  vibrato : Bool := false
  title : String := ""
  composer : String := ""
  optimize : Bool := false
  validateOnly : Bool := false
  deriving DecidableEq, Repr, Inhabited

namespace Options

/-- The text that a value gives. Two dashes alone stand for no text. -/
def given? (value : String) : Option String := if value = "--" then none else some value

def set (o : Options) (s : Switch) (value : String) : Options :=
  let text := (given? value).getD ""
  match s with
  | .help => o
  | .input => { o with input := given? value }
  | .output => { o with output := text }
  | .config => { o with config := text }
  | .instruments => { o with instruments := text }
  | .sustain => { o with sustain := true }
  | .vibrato => { o with vibrato := true }
  | .title => { o with title := text }
  | .composer => { o with composer := text }
  | .optimize => { o with optimize := true }
  | .validateOnly => { o with validateOnly := true }

def modes (o : Options) : List String :=
  (if o.instruments.isEmpty then [] else ["--instruments"])
    ++ (if o.sustain || o.vibrato then ["--sustain/--vibrato"] else [])
    ++ (if o.title.isEmpty && o.composer.isEmpty then [] else ["--title/--composer"])

end Options

/-- What the words up to some place amount to: the options, whether the input was among them, and the words that
are left over. -/
structure Progress where
  options : Options := {}
  hasInput : Bool := false
  left : List String := []
  deriving DecidableEq, Repr, Inhabited

namespace Progress

def set (p : Progress) (s : Switch) (value : String) : Progress :=
  ⟨p.options.set s value, p.hasInput || s = .input, p.left⟩

def leave (p : Progress) (word : String) : Progress := { p with left := p.left ++ [word] }

end Progress

/-- What a command line asks for. -/
inductive Request where
  | help
  | perform (o : Options)
  deriving DecidableEq, Repr, Inhabited

namespace Request

/-- The request that the letters behind the one for help make: letters for help, or a complaint about the first
other one and what follows it. -/
def ofLetters (text : List Char) : Except Complaint Request :=
  if !text.isEmpty && text.all (· = 'h') then .ok help
  else .error (.needlessValue .help (String.ofList (text.dropWhile (· = 'h'))))

def helpWith : Option Attachment → Except Complaint Request
  | none => .ok help
  | some (.value text) => .error (.needlessValue .help (String.ofList text))
  | some (.letters text) => ofLetters text

def ofProgress (p : Progress) : Except Complaint Request :=
  if !p.hasInput then .error .noInput
  else if !p.left.isEmpty then .error (.unrecognized p.left)
  else if 1 < p.options.modes.length then .error (.incompatible p.options.modes)
  else .ok (perform p.options)

def attachedText : Attachment → String
  | .value text => String.ofList text
  | .letters text => String.ofList text

/-- Takes in words. A request for help ends the command line. -/
def ofWordsFrom (p : Progress) : List Word → Except Complaint Request
  | [] => ofProgress p
  | .plain text :: rest => ofWordsFrom (p.leave text) rest
  | .stranger text :: rest => ofWordsFrom (p.leave text) rest
  | .dashes :: rest => ofWordsFrom (p.leave "--") rest
  | .option .help attached :: _ => helpWith attached
  | .option s (some a) :: rest =>
    if s.takesValue then ofWordsFrom (p.set s (attachedText a)) rest
    else .error (.needlessValue s (attachedText a))
  | .option s none :: .plain value :: rest =>
    if s.takesValue then ofWordsFrom (p.set s value) rest
    else ofWordsFrom (p.set s "") (.plain value :: rest)
  | .option s none :: rest =>
    if s.takesValue then .error (.noValue s) else ofWordsFrom (p.set s "") rest

def ofWords (words : List Word) : Except Complaint Request := ofWordsFrom {} words

def read (arguments : List String) : Except Complaint Request := do
  let words ← Word.sort arguments
  ofWords words

end Request

end Tunebook.Command
