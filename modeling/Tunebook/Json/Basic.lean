import Tunebook.Value

/-!
# JSON

A JSON value keeps the order of an object's fields and the text of a number, so that writing a value and
reading it back yields that value.

* `Json.render` writes a value, on one line or indented by two blanks a level; characters beyond the
  printable ASCII ones are escaped by their UTF-16 units, and surrogates are such units.
* `Value.toJson` is a dynamic value as JSON; dates have no JSON form.
-/

namespace Tunebook

/-- A JSON value. -/
inductive Json where
  | null
  | flag (b : Bool)
  | number (literal : String)
  | text (w : Wording)
  | list (items : List Json)
  | object (fields : List (Wording × Json))
  deriving Repr, Inhabited

namespace Json

/-! ## Writing -/

def escapedUnit (unit : Nat) : List Char := '\\' :: 'u' :: hexDigits unit 4

def escapedChar (c : Char) : List Char :=
  if c = '"' ∨ c = '\\' then ['\\', c]
  else if c = '\n' then ['\\', 'n']
  else if c = '\r' then ['\\', 'r']
  else if c = '\t' then ['\\', 't']
  else if c = '\x08' then ['\\', 'b']
  else if c = '\x0c' then ['\\', 'f']
  else if 0x20 ≤ c.toNat ∧ c.toNat < 0x7f then [c]
  else if c.toNat < 0x10000 then escapedUnit c.toNat
  else
    let n := c.toNat - 0x10000
    escapedUnit (0xd800 + n / 0x400) ++ escapedUnit (0xdc00 + n % 0x400)

def escapedPoint : CodePoint → List Char
  | .char c => escapedChar c
  | .half h => escapedUnit (CodePoint.half h).code

def renderText (w : Wording) : List Char := '"' :: (w.points.flatMap escapedPoint ++ ['"'])

/-- Where lines are broken: nowhere, or before every member, at the depth of a level. -/
inductive Layout where
  | oneLine
  | level (n : Nat)
  deriving DecidableEq, Repr

def Layout.deeper : Layout → Layout
  | oneLine => oneLine
  | level n => level (n + 1)

def Layout.lineBreak : Layout → List Char
  | oneLine => []
  | level n => '\n' :: List.replicate (2 * n) ' '

def Layout.colon : Layout → List Char
  | oneLine => [':']
  | level _ => [':', ' ']

mutual

def render (layout : Layout) : Json → List Char
  | null => "null".toList
  | flag b => if b then "true".toList else "false".toList
  | number literal => literal.toList
  | text w => renderText w
  | list [] => ['[', ']']
  | list (item :: rest) =>
    '[' :: layout.deeper.lineBreak ++ render layout.deeper item ++ renderItems layout rest
  | object [] => ['\x7b', '\x7d']
  | object ((name, v) :: rest) =>
    '\x7b' :: layout.deeper.lineBreak ++ renderText name ++ layout.colon ++ render layout.deeper v
      ++ renderFields layout rest

def renderItems (layout : Layout) : List Json → List Char
  | [] => layout.lineBreak ++ [']']
  | item :: rest =>
    ',' :: layout.deeper.lineBreak ++ render layout.deeper item ++ renderItems layout rest

def renderFields (layout : Layout) : List (Wording × Json) → List Char
  | [] => layout.lineBreak ++ ['\x7d']
  | (name, v) :: rest =>
    ',' :: layout.deeper.lineBreak ++ renderText name ++ layout.colon ++ render layout.deeper v
      ++ renderFields layout rest

end

def compact (j : Json) : String := String.ofList (render .oneLine j)

def indented (j : Json) : String := String.ofList (render (.level 0) j)

def ofInt (n : Int) : Json := number (toString n)

end Json

/-! ## Dynamic values as JSON -/

def Double.literal : Double → String
  | .nan => "NaN"
  | .infinite s => if s then "-Infinity" else "Infinity"
  | x => x.render

namespace Value

def shortKind : Value → String
  | date _ => "date"
  | moment _ => "datetime"
  | v => v.kind

/-- The name of a field whose key is a value: texts as they are, plain values as they are written. -/
def fieldName : Value → Except Fault Wording
  | text s => .ok s
  | torn t => .ok (.torn t)
  | null => .ok "null"
  | flag b => .ok (if b then "true" else "false")
  | int n => (writeInteger n).map .whole
  | double x => .ok x.literal
  | v => .error (.keyNotWritable v.shortKind)

mutual

def toJson : Value → Except Fault Json
  | null => .ok .null
  | flag b => .ok (.flag b)
  | int n => do
    let digits ← writeInteger n
    .ok (.number digits)
  | double x => .ok (.number x.literal)
  | text s => .ok (.text s)
  | torn t => .ok (.text (.torn t))
  | date d => .error (.notWritable (date d).shortKind)
  | moment m => .error (.notWritable (moment m).shortKind)
  | octets bytes => .error (.notWritable (octets bytes).kind)
  | set members => .error (.notWritable (set members).kind)
  | again _ _ => .error .circular
  | list items => do
    let members ← toJsonItems items
    .ok (.list members)
  | pair first second => do
    let x ← toJson first
    let y ← toJson second
    .ok (.list [x, y])
  | map entries => do
    let fields ← toJsonEntries entries
    .ok (.object fields)

def toJsonItems : List Value → Except Fault (List Json)
  | [] => .ok []
  | v :: rest => do
    let j ← toJson v
    let more ← toJsonItems rest
    .ok (j :: more)

def toJsonEntries : List (Value × Value) → Except Fault (List (Wording × Json))
  | [] => .ok []
  | (k, v) :: rest => do
    let name ← fieldName k
    let j ← toJson v
    let more ← toJsonEntries rest
    .ok ((name, j) :: more)

end

end Value

end Tunebook
