import Tunebook.Fault

/-!
# Places in a YAML text

A cursor is what is left of a text, with the place where it begins. Characters are looked at without regard to
the end of the text: behind it stands the character zero, which no YAML text holds.

* `Cursor.peek` looks ahead, `Cursor.advance` moves on.
* `Cursor.takeWhile` takes a run of characters, `Cursor.lineBreak` a line break.
-/

namespace Tunebook.Yaml

/-- Why a text has no value: it is no YAML text, or a part of it has no value for a cause of its own. -/
inductive Failure where
  | malformed
  | fault (f : Fault)
  deriving DecidableEq, Repr, Inhabited

abbrev Reading (α : Type) := Except Failure α

def malformed {α : Type} : Reading α := .error .malformed

def endMark : Char := '\x00'

def isBreak (c : Char) : Bool :=
  c == '\n' || c == '\r' || c == '\x85' || c == '\u2028' || c == '\u2029'

def isBreakOrEnd (c : Char) : Bool := c == endMark || isBreak c

def isSpaceOrEnd (c : Char) : Bool := c == ' ' || isBreakOrEnd c

def isGap (c : Char) : Bool := c == '\t' || isSpaceOrEnd c

def isNameChar (c : Char) : Bool := c.isAlphanum || c == '-' || c == '_'

def isTextChar (c : Char) : Bool :=
  let n := c.toNat
  n == 0x09 || n == 0x0a || n == 0x0d || (0x20 ≤ n && n ≤ 0x7e) || n == 0x85
    || (0xa0 ≤ n && n ≤ 0xd7ff) || (0xe000 ≤ n && n ≤ 0xfffd) || 0x10000 ≤ n

/-- What is left of a text and the place where it begins. -/
structure Cursor where
  rest : List Char
  index : Nat := 0
  line : Nat := 0
  column : Nat := 0
  deriving Repr, Inhabited

namespace Cursor

def peek (c : Cursor) (n : Nat) : Char := c.rest.getD n endMark

def head (c : Cursor) : Char := c.rest.headD endMark

def step (c : Cursor) : Cursor :=
  match c.rest with
  | [] => c
  | ch :: rest =>
    if isBreak ch && !(ch == '\r' && rest.headD endMark == '\n') then ⟨rest, c.index + 1, c.line + 1, 0⟩
    else if ch == '\ufeff' then ⟨rest, c.index + 1, c.line, c.column⟩
    else ⟨rest, c.index + 1, c.line, c.column + 1⟩

def advance (c : Cursor) : Nat → Cursor
  | 0 => c
  | n + 1 => advance c.step n

/-- The run of characters that fulfil a condition, and the cursor behind it. -/
def takeWhile (p : Char → Bool) (c : Cursor) : List Char × Cursor :=
  let run := c.rest.takeWhile p
  (run, c.advance run.length)

def dropWhile (p : Char → Bool) (c : Cursor) : Cursor := (c.takeWhile p).2

/-- Takes a line break, if there is one: all kinds but the line and paragraph separators are a line feed. -/
def lineBreak (c : Cursor) : List Char × Cursor :=
  if c.head == '\r' && c.peek 1 == '\n' then (['\n'], c.advance 2)
  else if c.head == '\u2028' || c.head == '\u2029' then ([c.head], c.step)
  else if isBreak c.head then (['\n'], c.step)
  else ([], c)

def isMark (c : Cursor) (ch : Char) : Bool :=
  c.head == ch && c.peek 1 == ch && c.peek 2 == ch && isGap (c.peek 3)

def isDocumentMark (c : Cursor) : Bool := c.isMark '-' || c.isMark '.'

end Cursor

end Tunebook.Yaml
