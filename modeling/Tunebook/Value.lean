import Tunebook.Calendar
import Tunebook.Double.Text
import Tunebook.Text.CodePoint
import Tunebook.Text.Integer

/-!
# Dynamic values

What a configuration file or a caller may hand in where a number, a name or a mapping is expected. A text may be
torn, as an escape in a configuration file can name a surrogate. Where the text of a tune or of a path is expected,
only whole texts are handed in (`Source`), and what is read from a tune is a `String`.

A mapping is the list of its entries in the order in which their keys first came. A list or a mapping may hold
itself; where it stands inside itself a reference says how many lists and mappings stand between.

* `Value.sameKey` says which keys are one key: numbers by their value, whatever their kind.
* `Value.entries?` are the entries of a mapping, in which the mapping itself stands for the references to it.
* `Mapping.get?`, `Mapping.insert` are look-up and insertion, pinned down by `Mapping.get?_insert_self`.
* `Value.shown` is the written form of a value in reports; `Value.plain` leaves a text as it is.
-/

namespace Tunebook

inductive Holder where
  | list
  | map
  deriving DecidableEq, Repr, Inhabited

/-- A dynamic value. `again` stands for a list or a mapping around it: `level` more of them stand in between. -/
inductive Value where
  | null
  | flag (b : Bool)
  | int (n : Int)
  | double (x : Double)
  | text (s : String)
  | torn (t : TornText)
  | date (d : Date)
  | moment (m : Moment)
  | octets (bytes : List UInt8)
  | list (items : List Value)
  | pair (first second : Value)
  | set (members : List Value)
  | map (entries : List (Value × Value))
  | again (holder : Holder) (level : Nat)
  deriving Repr, Inhabited

abbrev Mapping := List (Value × Value)

namespace Value

def kind : Value → String
  | null => "NoneType"
  | flag _ => "bool"
  | int _ => "int"
  | double _ => "float"
  | text _ => "str"
  | torn _ => "str"
  | date _ => "datetime.date"
  | moment _ => "datetime.datetime"
  | octets _ => "bytes"
  | list _ => "list"
  | pair _ _ => "tuple"
  | set _ => "set"
  | map _ => "dict"
  | again .list _ => "list"
  | again .map _ => "dict"

/-- Whether a value counts as given: empty values, zeros and `null` do not. -/
def isGiven : Value → Bool
  | null => false
  | flag b => b
  | int n => n != 0
  | double x => !x.isZero
  | text s => !s.isEmpty
  | torn _ => true
  | date _ => true
  | moment _ => true
  | octets bytes => !bytes.isEmpty
  | list items => !items.isEmpty
  | pair _ _ => true
  | set members => !members.isEmpty
  | map entries => !entries.isEmpty
  | again _ _ => true

/-- Whether a value cannot be a key: collections that may change cannot. -/
def isUnhashable : Value → Bool
  | list _ | set _ | map _ | again _ _ => true
  | _ => false

def ofWording : Wording → Value
  | .whole s => text s
  | .torn t => torn t

def isText : Value → Bool
  | text _ | torn _ => true
  | _ => false

/-- The members of a value that holds some: those of a list, the characters of a text, the keys of a mapping. -/
def members? : Value → Option (List Value)
  | list items => some items
  | set members => some members
  | pair first second => some [first, second]
  | text s => some (s.toList.map fun c => .text (String.ofList [c]))
  | torn t => some (t.points.map fun p => ofWording (.ofPoints [p]))
  | octets bytes => some (bytes.map fun b => .int b.toNat)
  | map entries => some (entries.map Prod.fst)
  | _ => none

def asInt? : Value → Option Int
  | flag b => some (if b then 1 else 0)
  | int n => some n
  | _ => none

/-- Whether two doubles are one key: equal numbers are, and so is `nan` with itself. -/
def sameDoubleKey (x y : Double) : Bool := x.numEq y || (x == .nan && y == .nan)

/-- Whether two moments are one key: the same fields without offsets, or the same instant. -/
def sameMomentKey (x y : Moment) : Bool :=
  x.offset.isSome == y.offset.isSome && x.toMicroseconds == y.toMicroseconds

/-- Whether two values are the same key of a mapping. Numbers are compared by value, whatever their kind. -/
def sameKey : Value → Value → Bool
  | null, null => true
  | text s, text t => s == t
  | torn s, torn t => s == t
  | date d, date e => d == e
  | moment x, moment y => sameMomentKey x y
  | octets b, octets d => b == d
  | double x, double y => sameDoubleKey x y
  | double x, v => (v.asInt?).any fun n => x.eqInt n
  | v, double y => (v.asInt?).any fun n => y.eqInt n
  | v, w =>
    match v.asInt?, w.asInt? with
    | some n, some m => n == m
    | _, _ => false

theorem sameKey_text (s t : String) : sameKey (text s) (text t) = (s == t) := rfl

mutual

/-- A value inside the given values, of which the innermost comes first, in place of the references to them.
`depth` counts the lists and mappings of the value itself that stand around. -/
def within (around : List Value) (depth : Nat) : Value → Value
  | again holder level =>
    if level < depth then again holder level else (around[level - depth]?).getD (again holder level)
  | list items => list (withinItems around (depth + 1) items)
  | pair first second => pair (within around depth first) (within around depth second)
  | map entries => map (withinEntries around (depth + 1) entries)
  | v => v

def withinItems (around : List Value) (depth : Nat) : List Value → List Value
  | [] => []
  | v :: rest => within around depth v :: withinItems around depth rest

/-- The entries of a mapping inside the given values; no key holds a reference. -/
def withinEntries (around : List Value) (depth : Nat) : List (Value × Value) → List (Value × Value)
  | [] => []
  | (k, v) :: rest => (k, within around depth v) :: withinEntries around depth rest

end

/-- The entries of a mapping, in which it stands itself where it is referred to. -/
def entries? : Value → Option Mapping
  | map entries => some (withinEntries [map entries] 0 entries)
  | _ => none

end Value

namespace Mapping

def get? (key : Value) : Mapping → Option Value
  | [] => none
  | (k, v) :: rest => if k.sameKey key then some v else get? key rest

/-- The mapping with a value under a key: in the place of the key's entry, or at the end. -/
def insert (key value : Value) : Mapping → Mapping
  | [] => [(key, value)]
  | (k, v) :: rest => if k.sameKey key then (k, value) :: rest else (k, v) :: insert key value rest

def field? (name : String) (m : Mapping) : Option Value := get? (.text name) m

/-- What was inserted is found again. -/
theorem get?_insert_self (name : String) (value : Value) (m : Mapping) :
    get? (.text name) (insert (.text name) value m) = some value := by
  induction m with
  | nil => simp [insert, get?, Value.sameKey]
  | cons entry rest ih =>
    obtain ⟨k, v⟩ := entry
    by_cases h : k.sameKey (.text name) = true
    · simp [insert, get?, h]
    · simp only [insert, h, Bool.false_eq_true, if_false, get?]
      exact ih

end Mapping

namespace Value

def offsetShown (minutes : Int) : String :=
  if minutes = 0 then "datetime.timezone.utc" else "datetime.timezone(" ++ spanText minutes ++ ")"

def dateShown (d : Date) : String :=
  "datetime.date(" ++ toString d.year ++ ", " ++ toString d.month ++ ", " ++ toString d.day ++ ")"

/-- The written form of a moment, without the seconds where they and the microseconds are zero. -/
def momentShown (m : Moment) : String :=
  let fine :=
    if m.microsecond ≠ 0 then [m.second, m.microsecond] else if m.second ≠ 0 then [m.second] else []
  let fields := [m.date.year, m.date.month, m.date.day, m.hour, m.minute] ++ fine
  let offset := match m.offset with
    | some minutes => ["tzinfo=" ++ offsetShown minutes]
    | none => []
  "datetime.datetime(" ++ String.intercalate ", " (fields.map toString ++ offset) ++ ")"

/-- The written form of an octet inside the given quotation mark: ASCII characters as in a text, all others by their
number. -/
def octetShown (quote : Char) (b : UInt8) : List Char :=
  if b.toNat < 0x80 then quotedChar quote (Char.ofNat b.toNat) else '\\' :: 'x' :: hexDigits b.toNat 2

/-- The written form of octets: that of a text with a letter in front. -/
def octetsShown (bytes : List UInt8) : String :=
  let quote := if bytes.contains 0x27 && !bytes.contains 0x22 then '"' else '\''
  String.ofList ('b' :: quote :: (bytes.flatMap (octetShown quote) ++ [quote]))

mutual

/-- The written form of a value: texts quoted, lists in square brackets, mappings in braces. -/
def shown : Value → Except Fault String
  | null => .ok "None"
  | flag b => .ok (if b then "True" else "False")
  | int n => writeInteger n
  | double x => .ok x.render
  | text s => .ok (quoted s)
  | torn t => .ok t.quoted
  | date d => .ok (dateShown d)
  | moment m => .ok (momentShown m)
  | octets bytes => .ok (octetsShown bytes)
  | list items => do
    let parts ← shownItems items
    .ok ("[" ++ String.intercalate ", " parts ++ "]")
  | pair first second => do
    let x ← shown first
    let y ← shown second
    .ok ("(" ++ x ++ ", " ++ y ++ ")")
  | set [] => .ok "set()"
  | set members => do
    let parts ← shownItems members
    .ok ("\x7b" ++ String.intercalate ", " parts ++ "\x7d")
  | map entries => do
    let parts ← shownEntries entries
    .ok ("\x7b" ++ String.intercalate ", " parts ++ "\x7d")
  | again .list _ => .ok "[...]"
  | again .map _ => .ok "\x7b...\x7d"

def shownItems : List Value → Except Fault (List String)
  | [] => .ok []
  | v :: rest => do
    let s ← shown v
    let more ← shownItems rest
    .ok (s :: more)

def shownEntries : List (Value × Value) → Except Fault (List String)
  | [] => .ok []
  | (k, v) :: rest => do
    let key ← shown k
    let value ← shown v
    let more ← shownEntries rest
    .ok ((key ++ ": " ++ value) :: more)

end

/-- A text as it is, a date as its text, and any other value in its written form. -/
def plain : Value → Except Fault Wording
  | text s => .ok s
  | torn t => .ok (.torn t)
  | date d => .ok d.text
  | moment m => .ok (m.text.replace "T" " ")
  | v => (shown v).map .whole

end Value

/-- What a caller hands in for the text of a tune or of a path: a whole text, or a value that is no text. Tunes and
paths with surrogates lie outside the model. -/
inductive Source where
  | text (s : String)
  | other (v : Value) (foreign : v.isText = false)
  deriving Repr

instance : Inhabited Source := ⟨.text ""⟩

def Source.ofValue? (v : Value) : Option Source :=
  match v with
  | .text s => some (.text s)
  | v => if foreign : v.isText = false then some (.other v foreign) else none

/-- The text that a pattern is looked for in: only a text holds one. -/
def Source.matchable : Source → Except Fault String
  | .text s => .ok s
  | .other v _ => .error (.notMatchable v.kind)

def Source.isGiven : Source → Bool
  | .text s => !s.isEmpty
  | .other v _ => v.isGiven

/-- A number: an integer, a double, or a flag that counts as zero or one. -/
inductive Number where
  | int (n : Int)
  | double (x : Double)
  | flag (b : Bool)
  deriving DecidableEq, Repr, Inhabited

namespace Number

def toValue : Number → Value
  | int n => .int n
  | double x => .double x
  | flag b => .flag b

def ofValue? : Value → Option Number
  | .int n => some (int n)
  | .double x => some (double x)
  | .flag b => some (flag b)
  | _ => none

theorem ofValue?_toValue (x : Number) : ofValue? x.toValue = some x := by
  cases x <;> rfl

def isBelow (x : Number) (n : Int) : Bool :=
  match x with
  | int m => m < n
  | flag b => (if b then 1 else 0) < n
  | double x => x.lt (.ofInt n)

def isAbove (x : Number) (n : Int) : Bool :=
  match x with
  | int m => n < m
  | flag b => n < (if b then 1 else 0)
  | double x => Double.lt (.ofInt n) x

def isNotPositive : Number → Bool
  | int n => n ≤ 0
  | flag b => !b
  | double x => x.isZero || x.lt .zero

def comparable (v : Value) (sign : String) : Except Fault Number :=
  match ofValue? v with
  | some x => .ok x
  | none => .error (.notComparable sign v.kind "int")

theorem comparable_toValue (x : Number) (sign : String) : comparable x.toValue sign = .ok x := by
  rw [comparable, ofValue?_toValue]

def toDouble : Number → Except Fault Double
  | double x => .ok x
  | flag b => .ok (.ofInt (if b then 1 else 0))
  | int n =>
    let x := Double.ofInt n
    if x.isFinite then .ok x else .error .integerBeyondDouble

end Number

def Double.round : Double → Except Fault Int
  | .nan => .error .nanToInteger
  | .infinite _ => .error .infiniteToInteger
  | x => .ok (x.nearest?.getD 0)

end Tunebook
