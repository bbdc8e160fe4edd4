import Tunebook.Text.CodePoint
import Tunebook.Yaml.Cursor

/-!
# Scalars as they are written in YAML

A scalar is written plainly, between single or double quotation marks, or as a block of indented lines that
are kept or folded. Only an escape sequence between double quotation marks can name a surrogate. Each reader takes the cursor at the beginning of a scalar and yields its content and the
cursor behind it. Its loops are bounded by the number of characters that are left.

* `quotedScalar`, `blockScalar`, `plainScalar` read scalars.
-/

namespace Tunebook.Yaml

def hexDigit? (c : Char) : Option Nat :=
  if '0' ≤ c ∧ c ≤ '9' then some (c.toNat - '0'.toNat)
  else if 'a' ≤ c ∧ c ≤ 'f' then some (c.toNat - 'a'.toNat + 10)
  else if 'A' ≤ c ∧ c ≤ 'F' then some (c.toNat - 'A'.toNat + 10)
  else none

def hexNumber? (width : Nat) (cs : List Char) : Option Nat :=
  let digits := cs.take width
  if digits.length = width then
    (digits.mapM hexDigit?).map fun ds => ds.foldl (fun n d => n * 16 + d) 0
  else none

/-! ## Quoted scalars -/

def escapedLetter? : Char → Option Char
  | '0' => some '\x00'
  | 'a' => some '\x07'
  | 'b' => some '\x08'
  | 't' => some '\t'
  | '\t' => some '\t'
  | 'n' => some '\n'
  | 'v' => some '\x0b'
  | 'f' => some '\x0c'
  | 'r' => some '\r'
  | 'e' => some '\x1b'
  | ' ' => some ' '
  | '"' => some '"'
  | '\\' => some '\\'
  | '/' => some '/'
  | 'N' => some '\x85'
  | '_' => some '\xa0'
  | 'L' => some '\u2028'
  | 'P' => some '\u2029'
  | _ => none

def escapedWidth? : Char → Option Nat
  | 'x' => some 2
  | 'u' => some 4
  | 'U' => some 8
  | _ => none

/-- The code point that an escape sequence names; it may be a surrogate. -/
def pointOfCode (n : Nat) : Reading CodePoint :=
  if 0x7fffffff < n then .error (.fault .codePointTooLong)
  else if 0x10ffff < n then .error (.fault .noCodePoint)
  else .ok (.ofCode n)

/-- The line breaks inside a quoted scalar and the blanks around them. A document's mark may not stand there. -/
def quotedBreaks : Nat → Cursor → Reading (List Char × Cursor)
  | 0, c => .ok ([], c)
  | budget + 1, c =>
    if c.isDocumentMark then malformed
    else
      let c := c.dropWhile fun ch => ch == ' ' || ch == '\t'
      if isBreak c.head then do
        let (br, c) := c.lineBreak
        let (more, c) ← quotedBreaks budget c
        .ok (br ++ more, c)
      else .ok ([], c)

/-- Line breaks after the first one: alone, a line feed is folded into a blank. -/
def foldBreaks (first more : List Char) : List Char :=
  if first != ['\n'] then first ++ more else if more.isEmpty then [' '] else more

def quotedSpaces (budget : Nat) (c : Cursor) : Reading (List Char × Cursor) :=
  let (spaces, c) := c.takeWhile fun ch => ch == ' ' || ch == '\t'
  if c.head == endMark then malformed
  else if isBreak c.head then do
    let (br, c) := c.lineBreak
    let (more, c) ← quotedBreaks budget c
    .ok (foldBreaks br more, c)
  else .ok (spaces, c)

def escapeSequence (budget : Nat) (c : Cursor) : Reading (List CodePoint × Cursor) :=
  let c := c.step
  match escapedLetter? c.head, escapedWidth? c.head with
  | some ch, _ => .ok ([.char ch], c.step)
  | none, some width =>
    let c := c.step
    match hexNumber? width c.rest with
    | some n => do
      let p ← pointOfCode n
      .ok ([p], c.advance width)
    | none => malformed
  | none, none =>
    if isBreak c.head then do
      let (breaks, c) ← quotedBreaks budget c.lineBreak.2
      .ok (breaks.map .char, c)
    else malformed

def quotedWord (double : Bool) : Nat → Cursor → Reading (List CodePoint × Cursor)
  | 0, c => .ok ([], c)
  | budget + 1, c =>
    let ch := c.head
    if ch == endMark || isGap ch then .ok ([], c)
    else if !double && ch == '\'' && c.peek 1 == '\'' then do
      let (more, c) ← quotedWord double budget (c.advance 2)
      .ok (.char '\'' :: more, c)
    else if double && ch == '\\' then do
      let (chunk, c) ← escapeSequence budget c
      let (more, c) ← quotedWord double budget c
      .ok (chunk ++ more, c)
    else if ch == (if double then '"' else '\'') then .ok ([], c)
    else do
      let (more, c) ← quotedWord double budget c.step
      .ok (.char ch :: more, c)

def quotedContent (double : Bool) : Nat → Cursor → Reading (List CodePoint × Cursor)
  | 0, _ => malformed
  | budget + 1, c => do
    let (word, c) ← quotedWord double (c.rest.length + 1) c
    if c.head == (if double then '"' else '\'') then .ok (word, c.step)
    else
      let (spaces, c) ← quotedSpaces (c.rest.length + 1) c
      let (more, c) ← quotedContent double budget c
      .ok (word ++ spaces.map .char ++ more, c)

def quotedScalar (double : Bool) (c : Cursor) : Reading (Wording × Cursor) := do
  let (points, c) ← quotedContent double (c.rest.length + 1) c.step
  .ok (.ofPoints points, c)

/-! ## Block scalars -/

/-- What becomes of the line breaks at the end of a block scalar. -/
inductive Chomping where
  | clip
  | strip
  | keep
  deriving DecidableEq, Repr

def Chomping.ofSign? : Char → Option Chomping
  | '+' => some keep
  | '-' => some strip
  | _ => none

/-- The extra indentation that a digit asks for; zero is no indentation. -/
def increment? (ch : Char) : Reading (Option Nat) :=
  if ch.isDigit then (if ch == '0' then malformed else .ok (some (ch.toNat - '0'.toNat))) else .ok none

def blockIndicators (c : Cursor) : Reading (Chomping × Option Nat × Cursor) :=
  match Chomping.ofSign? c.head with
  | some chomping => do
    let c := c.step
    let increment ← increment? c.head
    let c := if increment.isSome then c.step else c
    if isSpaceOrEnd c.head then .ok (chomping, increment, c) else malformed
  | none => do
    let increment ← increment? c.head
    let c := if increment.isSome then c.step else c
    let sign := if increment.isSome then Chomping.ofSign? c.head else none
    let c := if sign.isSome then c.step else c
    if isSpaceOrEnd c.head then .ok (sign.getD .clip, increment, c) else malformed

def ignoredLine (c : Cursor) : Reading Cursor :=
  let c := c.dropWhile (· == ' ')
  let c := if c.head == '#' then c.dropWhile fun ch => !isBreak ch else c
  if isBreakOrEnd c.head then .ok c.lineBreak.2 else malformed

def blanksTo (indent : Nat) (c : Cursor) : Cursor :=
  c.advance ((c.rest.takeWhile (· == ' ')).length.min (indent - c.column))

/-- The empty lines in front of the first line of a block scalar, and its greatest column of blanks. -/
def blockIndentation : Nat → Nat → Cursor → List Char × Nat × Cursor
  | 0, widest, c => ([], widest, c)
  | budget + 1, widest, c =>
    if c.head == ' ' then
      let c := c.step
      blockIndentation budget (max widest c.column) c
    else if isBreak c.head then
      let (br, c) := c.lineBreak
      let (more, widest, c) := blockIndentation budget widest c
      (br ++ more, widest, c)
    else ([], widest, c)

def blockBreaks (indent : Nat) : Nat → Cursor → List Char × Cursor
  | 0, c => ([], c)
  | budget + 1, c =>
    let c := blanksTo indent c
    if isBreak c.head then
      let (br, c) := c.lineBreak
      let (more, c) := blockBreaks indent budget c
      (br ++ more, c)
    else ([], c)

def beginsBlank (ch : Char) : Bool := ch == ' ' || ch == '\t'

/-- The lines of a block scalar: the content, the break of the last line and the breaks behind it. -/
def blockLines (folded : Bool) (indent : Nat) : Nat → List Char → Cursor →
    List Char × List Char × List Char × Cursor
  | 0, breaks, c => ([], [], breaks, c)
  | budget + 1, breaks, c =>
    let first := c.head
    let (line, c) := c.takeWhile fun ch => !isBreak ch
    let (br, c) := c.lineBreak
    let (next, c) := blockBreaks indent (c.rest.length + 1) c
    if c.column == indent && c.head != endMark then
      let between :=
        if folded && br == ['\n'] && !beginsBlank first && !beginsBlank c.head then
          (if next.isEmpty then [' '] else [])
        else br
      let (more, last, behind, c) := blockLines folded indent budget next c
      (breaks ++ line ++ between ++ more, last, behind, c)
    else (breaks ++ line, br, next, c)

def blockScalar (folded : Bool) (indent : Int) (c : Cursor) : Reading (List Char × Cursor) := do
  let (chomping, increment, c) ← blockIndicators c.step
  let c ← ignoredLine c
  let least := (max 1 (indent + 1)).toNat
  let (breaks, depth, c) := match increment with
    | none =>
      let (breaks, widest, c) := blockIndentation (c.rest.length + 1) 0 c
      (breaks, max least widest, c)
    | some n =>
      let depth := least + n - 1
      let (breaks, c) := blockBreaks depth (c.rest.length + 1) c
      (breaks, depth, c)
  let (content, last, behind, c) :=
    if c.column == depth && c.head != endMark then blockLines folded depth (c.rest.length + 1) breaks c
    else ([], [], breaks, c)
  let ending := match chomping with
    | .strip => []
    | .clip => last
    | .keep => last ++ behind
  .ok (content ++ ending, c)

/-! ## Plain scalars -/

def plainEnds (inFlow : Bool) (c next : Char) : Bool :=
  isGap c || (c == ':' && (isGap next || (inFlow && ",[]\x7b\x7d".toList.contains next)))
    || (inFlow && ",?[]\x7b\x7d".toList.contains c)

def plainWord (inFlow : Bool) : List Char → List Char
  | [] => []
  | c :: rest => if plainEnds inFlow c (rest.headD endMark) then [] else c :: plainWord inFlow rest

/-- The empty lines inside a plain scalar; none at all if a document's mark stands there. -/
def plainBreaks : Nat → Cursor → Option (List Char) × Cursor
  | 0, c => (some [], c)
  | budget + 1, c =>
    if c.head == ' ' then plainBreaks budget c.step
    else if isBreak c.head then
      let (br, c) := c.lineBreak
      if c.isDocumentMark then (none, c)
      else
        let (more, c) := plainBreaks budget c
        (more.map (br ++ ·), c)
    else (some [], c)

/-- The blanks and line breaks between the words of a plain scalar, and whether a line ended. -/
def plainSpaces (c : Cursor) : List Char × Bool × Cursor :=
  let (spaces, c) := c.takeWhile (· == ' ')
  if isBreak c.head then
    let (br, c) := c.lineBreak
    if c.isDocumentMark then ([], true, c)
    else
      let (breaks, c) := plainBreaks (c.rest.length + 1) c
      match breaks with
      | some more => (foldBreaks br more, true, c)
      | none => ([], true, c)
  else (spaces, false, c)

/-- A plain scalar: its content, whether the last line of it ended, and the cursor behind it and the blanks that
follow. -/
def plainContent (inFlow : Bool) (indent : Int) : Nat → List Char → Bool → Cursor → List Char × Bool × Cursor
  | 0, _, ended, c => ([], ended, c)
  | budget + 1, spaces, ended, c =>
    if c.head == '#' then ([], ended, c)
    else
      match plainWord inFlow c.rest with
      | [] => ([], ended, c)
      | word =>
        let (next, ended, c) := plainSpaces (c.advance word.length)
        if next.isEmpty || c.head == '#' || (!inFlow && (c.column : Int) < indent + 1) then
          (spaces ++ word, ended, c)
        else
          let (more, ended, c) := plainContent inFlow indent budget next ended c
          (spaces ++ word ++ more, ended, c)

def plainScalar (inFlow : Bool) (indent : Int) (c : Cursor) : List Char × Bool × Cursor :=
  plainContent inFlow indent (c.rest.length + 1) [] false c

end Tunebook.Yaml
