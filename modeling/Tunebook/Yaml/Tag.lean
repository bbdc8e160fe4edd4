import Tunebook.Text.Lines
import Tunebook.Yaml.Cursor

/-!
# Tags of YAML nodes

A tag says what kind of value a node has. A plain scalar without a tag gets one by its form: the words for
truth values and for nothing, integers in several bases or in base sixty, floating-point numbers, dates, the
marks of merging and of a default value; every other scalar is a text.

* `Tag.ofText` is the tag with a full name.
* `Tag.ofPlain` is the tag that the form of a plain scalar asks for.
-/

namespace Tunebook.Yaml

/-- The tags that values are made for; a tag of any other name is `other`. -/
inductive Tag where
  | null
  | bool
  | int
  | float
  | binary
  | timestamp
  | str
  | merge
  | default
  | seq
  | omap
  | pairs
  | set
  | map
  | other
  deriving DecidableEq, Repr, Inhabited

def commonTags : List Char := "tag:yaml.org,2002:".toList

def tagNames : List (String × Tag) :=
  [("null", .null), ("bool", .bool), ("int", .int), ("float", .float), ("binary", .binary),
    ("timestamp", .timestamp), ("str", .str), ("merge", .merge), ("value", .default), ("seq", .seq),
    ("omap", .omap), ("pairs", .pairs), ("set", .set), ("map", .map)]

def Tag.ofText (name : List Char) : Tag :=
  match tagNames.find? fun t => commonTags ++ t.1.toList == name with
  | some t => t.2
  | none => other

/-! ## Words -/

def boolWords : List (String × Bool) :=
  [("yes", true), ("no", false), ("true", true), ("false", false), ("on", true), ("off", false)]

/-- The spellings of a word that are recognised: small, with a capital, and in capitals. -/
def spellings (word : String) : List (List Char) :=
  let cs := word.toList
  [cs, match cs with
    | [] => []
    | c :: rest => c.toUpper :: rest, cs.map Char.toUpper]

def isWord (words : List String) (cs : List Char) : Bool := words.any fun w => (spellings w).contains cs

/-! ## Numbers -/

def dropSign : List Char → List Char
  | '+' :: rest => rest
  | '-' :: rest => rest
  | cs => cs

def isDigitOf (base : Nat) (c : Char) : Bool :=
  c == '_' || (c.isDigit && c.toNat < '0'.toNat + base)
    || (base == 16 && (('a' ≤ c && c ≤ 'f') || ('A' ≤ c && c ≤ 'F')))

/-- Whether a text is a run of digits and separators of a base, with at least one character. -/
def isRun (base : Nat) (cs : List Char) : Bool := !cs.isEmpty && cs.all (isDigitOf base)

/-- Whether a text is the part of a number in base sixty between two colons: one digit, or two below sixty. -/
def isSixtieth : List Char → Bool
  | [c] => c.isDigit
  | [c, d] => '0' ≤ c && c ≤ '5' && d.isDigit
  | _ => false

/-- Whether a text is a digit that is not zero, digits and separators behind it, and parts in base sixty. -/
def isBaseSixty (cs : List Char) : Bool :=
  match pieces ':' cs with
  | first :: part :: parts => isRun 10 first && first.headD '_' != '_' && (part :: parts).all isSixtieth
  | _ => false

def isIntForm (cs : List Char) : Bool :=
  match dropSign cs with
  | '0' :: 'b' :: rest => isRun 2 rest
  | '0' :: 'x' :: rest => isRun 16 rest
  | ['0'] => true
  | '0' :: rest => isRun 8 rest
  | c :: rest => c.isDigit && (rest.all (isDigitOf 10) || isBaseSixty (c :: rest))
  | [] => false

def isPowerForm : List Char → Bool
  | [] => true
  | e :: sign :: rest =>
    (e == 'e' || e == 'E') && (sign == '+' || sign == '-') && !rest.isEmpty && rest.all Char.isDigit
  | _ => false

def isFraction (cs : List Char) : Bool := isPowerForm (cs.dropWhile (isDigitOf 10))

def isSixtyPoint (cs : List Char) : Bool :=
  match pieces '.' cs with
  | [whole, fraction] =>
    (match pieces ':' whole with
      | first :: part :: parts =>
        isRun 10 first && first.headD '_' != '_' && (part :: parts).all isSixtieth
      | _ => false) && fraction.all (isDigitOf 10)
  | _ => false

def isInfinity (cs : List Char) : Bool :=
  match dropSign cs with
  | '.' :: rest => isWord ["inf"] rest
  | _ => false

def notANumberWords : List (List Char) := [".nan".toList, ".NaN".toList, ".NAN".toList]

def isFloatForm (cs : List Char) : Bool :=
  isInfinity cs || notANumberWords.contains cs ||
    match cs with
    | '.' :: c :: rest => c.isDigit && isFraction rest
    | _ =>
      match dropSign cs with
      | c :: rest =>
        c.isDigit && ((match rest.dropWhile (isDigitOf 10) with
          | '.' :: more => isFraction more
          | _ => false) || isSixtyPoint (c :: rest))
      | [] => false

/-! ## Dates -/

/-- The fields of a date with or without a time: the digits of each, and the offset from universal time. -/
structure StampFields where
  year : List Char
  month : List Char
  day : List Char
  time : Option (List Char × List Char × List Char × List Char)
  /-- The sign, hours and minutes of the offset; universal time has none of its own. -/
  offset : Option (Option (Bool × List Char × List Char))
  deriving DecidableEq, Repr

def takeDigits? (least most : Nat) (cs : List Char) : Option (List Char × List Char) :=
  let digits := (cs.take most).takeWhile Char.isDigit
  if least ≤ digits.length then some (digits, cs.drop digits.length) else none

def dropChar? (c : Char) : List Char → Option (List Char)
  | d :: rest => if c = d then some rest else none
  | [] => none

def isInnerBlank (c : Char) : Bool := c == ' ' || c == '\t'

def stampOffset? (cs : List Char) : Option (Option (Option (Bool × List Char × List Char))) :=
  match cs with
  | [] => some none
  | _ =>
    match cs.dropWhile isInnerBlank with
    | ['Z'] => some (some none)
    | sign :: rest =>
      if sign = '+' ∨ sign = '-' then do
        let (hours, rest) ← takeDigits? 1 2 rest
        match rest with
        | [] => some (some (some (sign = '-', hours, [])))
        | _ => do
          let rest ← dropChar? ':' rest
          let (minutes, rest) ← takeDigits? 2 2 rest
          if rest.isEmpty then some (some (some (sign = '-', hours, minutes))) else none
      else none
    | [] => none

def stampTime? (cs : List Char) : Option
    ((List Char × List Char × List Char × List Char) × Option (Option (Bool × List Char × List Char))) := do
  let (hour, rest) ← takeDigits? 1 2 cs
  let rest ← dropChar? ':' rest
  let (minute, rest) ← takeDigits? 2 2 rest
  let rest ← dropChar? ':' rest
  let (second, rest) ← takeDigits? 2 2 rest
  let (fraction, rest) := match rest with
    | '.' :: more => (more.takeWhile Char.isDigit, more.dropWhile Char.isDigit)
    | more => ([], more)
  let offset ← stampOffset? rest
  some ((hour, minute, second, fraction), offset)

/-- The fields of a stamp: a date, or a date and a time behind a `t` or blanks. -/
def stampFields? (cs : List Char) : Option StampFields := do
  let (year, rest) ← takeDigits? 4 4 cs
  let rest ← dropChar? '-' rest
  let (month, rest) ← takeDigits? 1 2 rest
  let rest ← dropChar? '-' rest
  let (day, rest) ← takeDigits? 1 2 rest
  match rest with
  | [] => some ⟨year, month, day, none, none⟩
  | c :: more =>
    if c = 'T' ∨ c = 't' then do
      let (time, offset) ← stampTime? more
      some ⟨year, month, day, some time, offset⟩
    else if isInnerBlank c then do
      let (time, offset) ← stampTime? (more.dropWhile isInnerBlank)
      some ⟨year, month, day, some time, offset⟩
    else none

/-- Whether a scalar has the form of a stamp; without a time, month and day have two digits. -/
def isStampForm (cs : List Char) : Bool :=
  match stampFields? cs with
  | some f => f.time.isSome || (f.month.length == 2 && f.day.length == 2)
  | none => false

def withoutLastBreak (cs : List Char) : List Char := if cs.getLast? = some '\n' then cs.dropLast else cs

/-- The marks that begin aliases, anchors and tags; no scalar of their form has a value. -/
def nodeMarks : List (List Char) := [['!'], ['&'], ['*']]

def Tag.ofForm (cs : List Char) : Tag :=
  if isWord (boolWords.map fun w => w.1) cs then bool
  else if isFloatForm cs then float
  else if isIntForm cs then int
  else if cs = ['<', '<'] then merge
  else if cs.isEmpty || cs = ['~'] || isWord ["null"] cs then null
  else if isStampForm cs then timestamp
  else if cs = ['='] then default
  else if nodeMarks.contains cs then other
  else str

/-- The tag that the form of a plain scalar asks for; a line feed at its end does not count, unless it is all. -/
def Tag.ofPlain (cs : List Char) : Tag := if cs = ['\n'] then str else .ofForm (withoutLastBreak cs)

end Tunebook.Yaml
