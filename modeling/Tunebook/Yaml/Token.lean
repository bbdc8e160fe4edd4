import Tunebook.Text.Integer
import Tunebook.Yaml.Scalar

/-!
# Tokens of a YAML text

A YAML text is a list of tokens. Indentation is told by tokens of its own, and a key that is marked only by the
colon behind it gets its token inserted in front of it afterwards: the scanner remembers where such a key may
have begun.

* `Token.scan` is the list of tokens of a text. Where the text cannot be scanned on, the list ends with the
  failure instead of the end of the text. The tokens from which a key might still begin are left out then:
  whether they are keys is not known.
-/

namespace Tunebook.Yaml

/-- A token of a YAML text. -/
inductive Token where
  | version (major : Nat)
  | tagHandle (handle replacement : List Char)
  | directive
  | documentStart
  | documentEnd
  | blockSequence
  | blockMapping
  | blockEnd
  | flowSequence
  | flowSequenceEnd
  | flowMapping
  | flowMappingEnd
  | entry
  | flowEntry
  | key
  | value
  | alias (name : List Char)
  | anchor (name : List Char)
  | tag (handle : Option (List Char)) (suffix : List Char)
  | scalar (content : Wording) (plain : Bool)
  | textEnd
  | broken (f : Failure)
  deriving DecidableEq, Repr, Inhabited

/-- Where a key may have begun that is marked only by a colon behind it: the number of the token that would come
first, whether the key has to come true, and the place in the text. -/
structure Candidate where
  place : Nat
  required : Bool
  index : Nat
  line : Nat
  column : Nat
  deriving Repr, Inhabited

/-- The state of the scanner: the tokens come latest first, the candidates are those of each flow level. -/
structure Scanner where
  cursor : Cursor
  indent : Int := -1
  indents : List Int := []
  level : Nat := 0
  keyAllowed : Bool := true
  candidates : List (Nat × Candidate) := []
  tokens : List Token := []
  deriving Repr, Inhabited

namespace Scanner

def emit (s : Scanner) (t : Token) : Scanner := { s with tokens := t :: s.tokens }

def insertAt (s : Scanner) (place : Nat) (t : Token) : Scanner :=
  { s with tokens := s.tokens.insertIdx (s.tokens.length - place) t }

def advance (s : Scanner) (n : Nat) : Scanner := { s with cursor := s.cursor.advance n }

def unwindFrom (column : Int) : List Int → Scanner → Scanner
  | [], s => s
  | outer :: more, s =>
    if column < s.indent then unwindFrom column more { s.emit .blockEnd with indent := outer, indents := more }
    else s

/-- Closes the blocks that are indented deeper than a column, outside of flow collections. -/
def unwind (s : Scanner) (column : Int) : Scanner :=
  if s.level = 0 then unwindFrom column s.indents s else s

def openBlock (s : Scanner) (column : Int) : Bool × Scanner :=
  if s.indent < column then (true, { s with indent := column, indents := s.indent :: s.indents })
  else (false, s)

def dropCandidate (s : Scanner) : Reading Scanner :=
  match s.candidates.lookup s.level with
  | none => .ok s
  | some k =>
    if k.required then malformed
    else .ok { s with candidates := s.candidates.filter fun p => p.1 != s.level }

def saveCandidate (s : Scanner) : Reading Scanner :=
  if s.keyAllowed then do
    let required := s.level = 0 ∧ s.indent = s.cursor.column
    let s ← s.dropCandidate
    let k : Candidate := ⟨s.tokens.length, required, s.cursor.index, s.cursor.line, s.cursor.column⟩
    .ok { s with candidates := (s.level, k) :: s.candidates }
  else .ok s

/-- Whether a candidate is out of reach: on another line, or too far behind. -/
def isStale (c : Cursor) (k : Candidate) : Bool := k.line != c.line || 1024 < c.index - k.index

/-- Forgets the candidates that are out of reach, none of which must have been required. -/
def dropStale (s : Scanner) : Reading Scanner :=
  if s.candidates.any fun p => isStale s.cursor p.2 && p.2.required then malformed
  else .ok { s with candidates := s.candidates.filter fun p => !isStale s.cursor p.2 }

/-- Skips blanks, comments and line breaks up to the next token. After a line break a key may begin. -/
def skipTo : Nat → Scanner → Scanner
  | 0, s => s
  | budget + 1, s =>
    let c := s.cursor.dropWhile (· == ' ')
    let c := if c.head == '#' then c.dropWhile fun ch => !isBreak ch else c
    if isBreak c.head then
      skipTo budget { s with cursor := c.lineBreak.2, keyAllowed := s.keyAllowed || s.level = 0 }
    else { s with cursor := c }

/-! ## Directives, anchors and tags -/

def directiveEnd (c : Cursor) : Reading Cursor := ignoredLine c

def versionNumber (c : Cursor) : Reading (Nat × Cursor) :=
  let (digits, c) := c.takeWhile Char.isDigit
  if digits.isEmpty then malformed
  else
    match readDigits digits with
    | .ok n => .ok (n, c)
    | .error f => .error (.fault f)

/-- The handle of a tag: an exclamation mark, or a name between two of them. In a directive the second mark may
only be missing where a blank follows the first. -/
def tagHandle (c : Cursor) : Reading (List Char × Cursor) :=
  if c.head != '!' then malformed
  else if c.peek 1 == ' ' then .ok (['!'], c.step)
  else
    let (name, d) := c.step.takeWhile isNameChar
    if d.head == '!' then .ok ('!' :: name ++ ['!'], d.step) else malformed

def isUriChar (c : Char) : Bool := c.isAlphanum || "-;/?:@&=+$,_.!~*'()[]%".toList.contains c

def uriOctets : Nat → Cursor → Reading (List UInt8 × Cursor)
  | 0, c => .ok ([], c)
  | budget + 1, c =>
    if c.head == '%' then
      match hexNumber? 2 c.step.rest with
      | some n => do
        let (more, c) ← uriOctets budget (c.advance 3)
        .ok (.ofNat n :: more, c)
      | none => malformed
    else .ok ([], c)

def uriChars : Nat → Cursor → Reading (List Char × Cursor)
  | 0, c => .ok ([], c)
  | budget + 1, c =>
    if c.head == '%' then do
      let (octets, c) ← uriOctets (c.rest.length + 1) c
      match decodeText octets with
      | .error _ => malformed
      | .ok cs =>
        let (more, c) ← uriChars budget c
        .ok (cs ++ more, c)
    else if isUriChar c.head then do
      let (more, d) ← uriChars budget c.step
      .ok (c.head :: more, d)
    else .ok ([], c)

def uri (c : Cursor) : Reading (List Char × Cursor) := do
  let first := c.head
  let (cs, d) ← uriChars (c.rest.length + 1) c
  if first == '%' || isUriChar first then .ok (cs, d) else malformed

def directive (c : Cursor) : Reading (Token × Cursor) := do
  let (name, c) := c.step.takeWhile isNameChar
  if name.isEmpty || !isSpaceOrEnd c.head then malformed
  else if name == "YAML".toList then
    let (major, c) ← versionNumber (c.dropWhile (· == ' '))
    if c.head != '.' then malformed
    else
      let (_, c) ← versionNumber c.step
      if isSpaceOrEnd c.head then
        let c ← directiveEnd c
        .ok (.version major, c)
      else malformed
  else if name == "TAG".toList then
    let (handle, c) ← tagHandle (c.dropWhile (· == ' '))
    if c.head != ' ' then malformed
    else
      let (replacement, c) ← uri (c.dropWhile (· == ' '))
      if isSpaceOrEnd c.head then
        let c ← directiveEnd c
        .ok (.tagHandle handle replacement, c)
      else malformed
  else
    let c ← directiveEnd (c.dropWhile fun ch => !isBreak ch)
    .ok (.directive, c)

def anchorName (c : Cursor) : Reading (List Char × Cursor) :=
  let (name, c) := c.step.takeWhile isNameChar
  if name.isEmpty then malformed
  else if isGap c.head || "?:,]\x7d%@`".toList.contains c.head then .ok (name, c)
  else malformed

def hasHandle (c : Cursor) : Bool := (c.step.rest.takeWhile fun ch => !isSpaceOrEnd ch).contains '!'

def tag (c : Cursor) : Reading (Token × Cursor) := do
  let (t, c) ←
    if c.peek 1 == '<' then do
      let (suffix, c) ← uri (c.advance 2)
      if c.head == '>' then .ok (Token.tag none suffix, c.step) else malformed
    else if isGap (c.peek 1) then .ok (Token.tag none ['!'], c.step)
    else if hasHandle c then do
      let (handle, c) ← tagHandle c
      let (suffix, c) ← uri c
      .ok (Token.tag (some handle) suffix, c)
    else do
      let (suffix, c) ← uri c.step
      .ok (Token.tag (some ['!']) suffix, c)
  if isSpaceOrEnd c.head then .ok (t, c) else malformed

/-! ## The next token -/

def gapFollows (s : Scanner) : Bool := isGap (s.cursor.peek 1)

def fetchEnd (s : Scanner) : Reading Scanner := do
  let s ← (s.unwind (-1)).dropCandidate
  .ok ({ s with keyAllowed := false, candidates := [] }.emit .textEnd)

def fetchDirective (s : Scanner) : Reading Scanner := do
  let s ← (s.unwind (-1)).dropCandidate
  let (t, c) ← directive s.cursor
  .ok ({ s with keyAllowed := false, cursor := c }.emit t)

def fetchDocumentMark (s : Scanner) (t : Token) : Reading Scanner := do
  let s ← (s.unwind (-1)).dropCandidate
  .ok (({ s with keyAllowed := false }.advance 3).emit t)

def fetchFlowStart (s : Scanner) (t : Token) : Reading Scanner := do
  let s ← s.saveCandidate
  .ok (({ s with level := s.level + 1, keyAllowed := true }.advance 1).emit t)

def fetchFlowEnd (s : Scanner) (t : Token) : Reading Scanner := do
  let s ← s.dropCandidate
  .ok (({ s with level := s.level - 1, keyAllowed := false }.advance 1).emit t)

def fetchFlowEntry (s : Scanner) : Reading Scanner := do
  let s ← { s with keyAllowed := true }.dropCandidate
  .ok ((s.advance 1).emit .flowEntry)

def openHere (s : Scanner) (t : Token) : Reading Scanner :=
  if s.level = 0 then
    if s.keyAllowed then
      let (opened, s) := s.openBlock s.cursor.column
      .ok (if opened then s.emit t else s)
    else malformed
  else .ok s

def fetchEntry (s : Scanner) : Reading Scanner := do
  let s ← s.openHere .blockSequence
  let s ← { s with keyAllowed := true }.dropCandidate
  .ok ((s.advance 1).emit .entry)

def fetchKey (s : Scanner) : Reading Scanner := do
  let s ← s.openHere .blockMapping
  let s ← { s with keyAllowed := s.level = 0 }.dropCandidate
  .ok ((s.advance 1).emit .key)

/-- The colon of a value: the key in front of it was marked by a question mark or is a candidate. -/
def fetchValue (s : Scanner) : Reading Scanner :=
  match s.candidates.lookup s.level with
  | some k =>
    let s := { s with candidates := s.candidates.filter fun p => p.1 != s.level }
    let s := s.insertAt k.place .key
    let s :=
      if s.level = 0 then
        let (opened, s) := s.openBlock k.column
        if opened then s.insertAt k.place .blockMapping else s
      else s
    .ok (({ s with keyAllowed := false }.advance 1).emit .value)
  | none => do
    let s ← s.openHere .blockMapping
    let s ← { s with keyAllowed := s.level = 0 }.dropCandidate
    .ok ((s.advance 1).emit .value)

def fetchNode (s : Scanner) (read : Cursor → Reading (Token × Cursor)) : Reading Scanner := do
  let s ← s.saveCandidate
  let (t, c) ← read s.cursor
  .ok ({ s with keyAllowed := false, cursor := c }.emit t)

def fetchBlockScalar (s : Scanner) (folded : Bool) : Reading Scanner := do
  let s ← { s with keyAllowed := true }.dropCandidate
  let (content, c) ← blockScalar folded s.indent s.cursor
  .ok ({ s with cursor := c }.emit (.scalar (String.ofList content) false))

/-- A plain scalar; where its last line ended a key may begin. -/
def fetchPlain (s : Scanner) : Reading Scanner := do
  let s ← s.saveCandidate
  let (content, ended, c) := plainScalar (s.level != 0) s.indent s.cursor
  .ok ({ s with keyAllowed := ended, cursor := c }.emit (.scalar (String.ofList content) true))

def beginsPlain (inFlow : Bool) (c next : Char) : Bool :=
  !(isGap c || "-?:,[]\x7b\x7d#&*!|>'\"%@`".toList.contains c)
    || (!isGap next && (c == '-' || (!inFlow && (c == '?' || c == ':'))))

def fetch (s : Scanner) : Reading Scanner :=
  let c := s.cursor
  let inFlow := s.level != 0
  let ch := c.head
  if ch == endMark then s.fetchEnd
  else if ch == '%' && c.column == 0 then s.fetchDirective
  else if c.column == 0 && c.isMark '-' then s.fetchDocumentMark .documentStart
  else if c.column == 0 && c.isMark '.' then s.fetchDocumentMark .documentEnd
  else if ch == '[' then s.fetchFlowStart .flowSequence
  else if ch == '\x7b' then s.fetchFlowStart .flowMapping
  else if ch == ']' then s.fetchFlowEnd .flowSequenceEnd
  else if ch == '\x7d' then s.fetchFlowEnd .flowMappingEnd
  else if ch == ',' then s.fetchFlowEntry
  else if ch == '-' && s.gapFollows then s.fetchEntry
  else if ch == '?' && (inFlow || s.gapFollows) then s.fetchKey
  else if ch == ':' && (inFlow || s.gapFollows) then s.fetchValue
  else if ch == '*' then s.fetchNode fun c => (anchorName c).map fun p => (.alias p.1, p.2)
  else if ch == '&' then s.fetchNode fun c => (anchorName c).map fun p => (.anchor p.1, p.2)
  else if ch == '!' then s.fetchNode tag
  else if ch == '|' && !inFlow then s.fetchBlockScalar false
  else if ch == '>' && !inFlow then s.fetchBlockScalar true
  else if ch == '\'' then s.fetchNode fun c => (quotedScalar false c).map fun p => (.scalar p.1 false, p.2)
  else if ch == '"' then s.fetchNode fun c => (quotedScalar true c).map fun p => (.scalar p.1 false, p.2)
  else if beginsPlain inFlow ch (c.peek 1) then s.fetchPlain
  else malformed

/-- One step of the scanner: on to the next token, closing the blocks that end before it. -/
def next (s : Scanner) : Reading Scanner := do
  let s ← (skipTo (s.cursor.rest.length + 1) s).dropStale
  (s.unwind s.cursor.column).fetch

/-- How many tokens are certain: those in front of the first one from which a key might still begin. -/
def certain (s : Scanner) : Nat :=
  (s.candidates.filter fun p => !isStale s.cursor p.2).foldl (fun n p => min n p.2.place) s.tokens.length

def breakOff (s : Scanner) (f : Failure) : Scanner :=
  { s with tokens := .broken f :: s.tokens.drop (s.tokens.length - s.certain) }

def run : Nat → Scanner → Scanner
  | 0, s => s
  | budget + 1, s =>
    match s.next with
    | .error f => s.breakOff f
    | .ok s =>
      match s.tokens with
      | .textEnd :: _ => s
      | _ => run budget s

end Scanner

/-- The tokens of a text. A byte order mark at its beginning is skipped. -/
def Token.scan (text : List Char) : List Token :=
  if text.all isTextChar then
    let start : Cursor := ⟨text, 0, 0, 0⟩
    let start := if start.head == '\ufeff' then start.step else start
    (Scanner.run (text.length + 1) { cursor := start }).tokens.reverse
  else [.broken .malformed]

end Tunebook.Yaml
