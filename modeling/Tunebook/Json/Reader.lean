import Tunebook.Json.Basic
import Tunebook.Text.Real

/-!
# Reading JSON

Reads one JSON value from a text, blanks around it aside. The reader takes as many steps as the text has
characters at most, so a budget of that size never runs out.

* `Json.read?` reads a whole text.
* `Json.readString?` reads the rest of a quoted text; escaped units that form a pair are one character, and other
  surrogates among them make the text a torn one.
* `Json.numberValue?` is the dynamic value that a number's text stands for.
-/

namespace Tunebook.Json

def isSpace (c : Char) : Bool := c == ' ' || c == '\n' || c == '\t' || c == '\r'

def hexValue? (c : Char) : Option Nat :=
  if '0' ≤ c ∧ c ≤ '9' then some (c.toNat - '0'.toNat)
  else if 'a' ≤ c ∧ c ≤ 'f' then some (c.toNat - 'a'.toNat + 10)
  else if 'A' ≤ c ∧ c ≤ 'F' then some (c.toNat - 'A'.toNat + 10)
  else none

inductive Piece where
  | char (c : Char)
  | unit (n : Nat)
  deriving DecidableEq, Repr

def escaped? : Char → Option Char
  | '"' => some '"'
  | '\\' => some '\\'
  | '/' => some '/'
  | 'b' => some '\x08'
  | 'f' => some '\x0c'
  | 'n' => some '\n'
  | 'r' => some '\r'
  | 't' => some '\t'
  | _ => none

def unitOf? (a b c d : Char) : Option Nat := do
  let w ← hexValue? a
  let x ← hexValue? b
  let y ← hexValue? c
  let z ← hexValue? d
  some (((w * 16 + x) * 16 + y) * 16 + z)

def readPieces? : List Char → Option (List Piece × List Char)
  | [] => none
  | '"' :: rest => some ([], rest)
  | '\\' :: 'u' :: a :: b :: c :: d :: rest => do
    let n ← unitOf? a b c d
    let (more, behind) ← readPieces? rest
    some (.unit n :: more, behind)
  | '\\' :: e :: rest => do
    let c ← escaped? e
    let (more, behind) ← readPieces? rest
    some (.char c :: more, behind)
  | c :: rest => do
    if c = '\\' ∨ c.toNat < 0x20 then none
    else
      let (more, behind) ← readPieces? rest
      some (.char c :: more, behind)

/-- The code points of pieces: a high unit and a low one behind it form one character. -/
def pointsOf : List Piece → List CodePoint
  | [] => []
  | .char c :: rest => .char c :: pointsOf rest
  | .unit n :: .unit m :: rest =>
    if 0xd800 ≤ n ∧ n < 0xdc00 ∧ 0xdc00 ≤ m ∧ m < 0xe000 then
      .char (Char.ofNat (0x10000 + (n - 0xd800) * 0x400 + (m - 0xdc00))) :: pointsOf rest
    else .ofCode n :: pointsOf (.unit m :: rest)
  | .unit n :: rest => .ofCode n :: pointsOf rest

/-- The text up to the closing quotation mark, and what stands behind it. -/
def readString? (cs : List Char) : Option (Wording × List Char) :=
  (readPieces? cs).map fun p => (.ofPoints (pointsOf p.1), p.2)

def isNumberChar (c : Char) : Bool := c.isDigit || c == '-' || c == '+' || c == '.' || c == 'e' || c == 'E'

def words : List (String × Json) :=
  [("null", null), ("true", flag true), ("false", flag false), ("NaN", number "NaN"),
    ("Infinity", number "Infinity"), ("-Infinity", number "-Infinity")]

def dropWord? : List Char → List Char → Option (List Char)
  | [], rest => some rest
  | _ :: _, [] => none
  | w :: word, c :: rest => if w = c then dropWord? word rest else none

def readPlain? (cs : List Char) : Option (Json × List Char) :=
  match words.findSome? fun w => (dropWord? w.1.toList cs).map fun rest => (w.2, rest) with
  | some found => some found
  | none =>
    match cs.takeWhile isNumberChar with
    | [] => none
    | c :: more => some (number (String.ofList (c :: more)), cs.dropWhile isNumberChar)

mutual

def readValue? : Nat → List Char → Option (Json × List Char)
  | 0, _ => none
  | budget + 1, cs =>
    match cs.dropWhile isSpace with
    | '"' :: rest => (readString? rest).map fun p => (text p.1, p.2)
    | '[' :: rest =>
      match rest.dropWhile isSpace with
      | ']' :: behind => some (list [], behind)
      | _ => (readItems? budget rest).map fun p => (list p.1, p.2)
    | '\x7b' :: rest =>
      match rest.dropWhile isSpace with
      | '\x7d' :: behind => some (object [], behind)
      | _ => (readFields? budget rest).map fun p => (object p.1, p.2)
    | other => readPlain? other

def readItems? : Nat → List Char → Option (List Json × List Char)
  | 0, _ => none
  | budget + 1, cs => do
    let (item, rest) ← readValue? budget cs
    match rest.dropWhile isSpace with
    | ',' :: more => do
      let (items, behind) ← readItems? budget more
      some (item :: items, behind)
    | ']' :: behind => some ([item], behind)
    | _ => none

def readFields? : Nat → List Char → Option (List (Wording × Json) × List Char)
  | 0, _ => none
  | budget + 1, cs =>
    match cs.dropWhile isSpace with
    | '"' :: rest => do
      let (name, rest) ← readString? rest
      match rest.dropWhile isSpace with
      | ':' :: rest => do
        let (v, rest) ← readValue? budget rest
        match rest.dropWhile isSpace with
        | ',' :: more => do
          let (fields, behind) ← readFields? budget more
          some ((name, v) :: fields, behind)
        | '\x7d' :: behind => some ([(name, v)], behind)
        | _ => none
      | _ => none
    | _ => none

end

def read? (s : String) : Option Json :=
  let cs := s.toList
  match readValue? (cs.length + 1) cs with
  | some (j, rest) => if rest.all isSpace then some j else none
  | none => none

/-- The dynamic value of a number's text: a double where it has a point or a power of ten. -/
def numberValue? (literal : String) : Option Value :=
  let cs := literal.toList
  if cs.any fun c => c == '.' || c == 'e' || c == 'E' || c == 'N' || c == 'I' then
    (readReal cs).toOption.map .double
  else
    match cs with
    | '-' :: digits => some (.int (-(decimalValue digits : Int)))
    | digits => some (.int (decimalValue digits))

end Tunebook.Json
