import Mathlib.Data.List.InsertIdx
import Tunebook.Proofs.Yaml.Reading
import Tunebook.Yaml.Token

/-!
# What can go wrong when a text is scanned

A text that cannot be scanned is malformed, but for three faults: an escape sequence may ask for a
character that does not exist, in two ways, and a version may have too many digits.  The scanner ends
its tokens with the failure, so that what is proved of the tokens is that each failure among them is
one of these.

* `ScanFault`: the faults of scanning.
* `meets_quotedScalar`, `meets_blockScalar`, `yields_directive`, `yields_tag`: the readers of the scanner
  one by one.
* `Scanner.IsSound.next`, `Scanner.IsSound.run`: one step of the scanner keeps its tokens sound, and so
  does a run.
* `isSound_of_mem_scan`: **the tokens of a text hold no failure but a malformed text and these faults**.
-/

namespace Tunebook.Yaml

/-- The faults of scanning. -/
inductive ScanFault : Fault → Prop
  | tooManyDigits (count : Nat) : ScanFault (.tooManyDigits count)
  | noCodePoint : ScanFault .noCodePoint
  | codePointTooLong : ScanFault .codePointTooLong

/-! ## Scalars -/

theorem meets_pointOfCode (n : Nat) : Meets ScanFault (pointOfCode n) := by
  rw [pointOfCode]
  refine .ite (fun _ => .fault .codePointTooLong) fun _ => ?_
  exact .ite (fun _ => .fault .noCodePoint) fun _ => .ok trivial

theorem meets_quotedBreaks (budget : Nat) (c : Cursor) : Meets ScanFault (quotedBreaks budget c) := by
  induction budget generalizing c with
  | zero => exact .ok trivial
  | succ budget ih =>
    rw [quotedBreaks]
    refine .ite (fun _ => .malformed) fun _ => ?_
    refine .ite (fun _ => ?_) fun _ => .ok trivial
    exact (ih _).bind fun _ _ => .ok trivial

theorem meets_quotedSpaces (budget : Nat) (c : Cursor) : Meets ScanFault (quotedSpaces budget c) := by
  rw [quotedSpaces]
  refine .ite (fun _ => .malformed) fun _ => ?_
  refine .ite (fun _ => ?_) fun _ => .ok trivial
  exact (meets_quotedBreaks _ _).bind fun _ _ => .ok trivial

theorem meets_escapeSequence (budget : Nat) (c : Cursor) :
    Meets ScanFault (escapeSequence budget c) := by
  rw [escapeSequence]
  split
  · exact .ok trivial
  · dsimp only
    split
    · exact (meets_pointOfCode _).bind fun _ _ => .ok trivial
    · exact .malformed
  · refine .ite (fun _ => ?_) fun _ => .malformed
    exact (meets_quotedBreaks _ _).bind fun _ _ => .ok trivial

theorem meets_quotedWord (double : Bool) (budget : Nat) (c : Cursor) :
    Meets ScanFault (quotedWord double budget c) := by
  induction budget generalizing c with
  | zero => exact .ok trivial
  | succ budget ih =>
    rw [quotedWord]
    refine .ite (fun _ => .ok trivial) fun _ => ?_
    refine .ite (fun _ => (ih _).bind fun _ _ => .ok trivial) fun _ => ?_
    refine .ite (fun _ => ?_) fun _ => ?_
    · exact (meets_escapeSequence _ _).bind fun _ _ => (ih _).bind fun _ _ => .ok trivial
    · refine .ite (fun _ => .ok trivial) fun _ => ?_
      exact (ih _).bind fun _ _ => .ok trivial

theorem meets_quotedContent (double : Bool) (budget : Nat) (c : Cursor) :
    Meets ScanFault (quotedContent double budget c) := by
  induction budget generalizing c with
  | zero => exact .malformed
  | succ budget ih =>
    rw [quotedContent]
    refine (meets_quotedWord _ _ _).bind fun _ _ => ?_
    refine .ite (fun _ => .ok trivial) fun _ => ?_
    refine (meets_quotedSpaces _ _).bind fun _ _ => ?_
    exact (ih _).bind fun _ _ => .ok trivial

theorem meets_quotedScalar (double : Bool) (c : Cursor) : Meets ScanFault (quotedScalar double c) := by
  rw [quotedScalar]
  exact (meets_quotedContent _ _ _).bind fun _ _ => .ok trivial

theorem meets_increment? (ch : Char) : Meets ScanFault (increment? ch) := by
  rw [increment?]
  exact .ite (fun _ => .ite (fun _ => .malformed) fun _ => .ok trivial) fun _ => .ok trivial

theorem meets_blockIndicators (c : Cursor) : Meets ScanFault (blockIndicators c) := by
  rw [blockIndicators]
  split
  · exact (meets_increment? _).bind fun _ _ => .ite (fun _ => .ok trivial) fun _ => .malformed
  · exact (meets_increment? _).bind fun _ _ => .ite (fun _ => .ok trivial) fun _ => .malformed

theorem meets_ignoredLine (c : Cursor) : Meets ScanFault (ignoredLine c) := by
  rw [ignoredLine]
  exact .ite (fun _ => .ok trivial) fun _ => .malformed

theorem meets_blockScalar (folded : Bool) (indent : Int) (c : Cursor) :
    Meets ScanFault (blockScalar folded indent c) := by
  rw [blockScalar]
  refine (meets_blockIndicators _).bind fun _ _ => ?_
  exact (meets_ignoredLine _).bind fun _ _ => .ok trivial

/-! ## Tokens -/

theorem meets_versionNumber (c : Cursor) : Meets ScanFault (Scanner.versionNumber c) := by
  rw [Scanner.versionNumber]
  refine .ite (fun _ => .malformed) fun _ => ?_
  split
  · exact .ok trivial
  · next f hf =>
    rw [readDigits] at hf
    split at hf
    · cases hf
      exact .fault (.tooManyDigits _)
    · cases hf

theorem meets_tagHandle (c : Cursor) : Meets ScanFault (Scanner.tagHandle c) := by
  rw [Scanner.tagHandle]
  refine .ite (fun _ => .malformed) fun _ => ?_
  refine .ite (fun _ => .ok trivial) fun _ => ?_
  exact .ite (fun _ => .ok trivial) fun _ => .malformed

theorem meets_uriOctets (budget : Nat) (c : Cursor) :
    Meets ScanFault (Scanner.uriOctets budget c) := by
  induction budget generalizing c with
  | zero => exact .ok trivial
  | succ budget ih =>
    rw [Scanner.uriOctets]
    refine .ite (fun _ => ?_) fun _ => .ok trivial
    split
    · exact (ih _).bind fun _ _ => .ok trivial
    · exact .malformed

theorem meets_uriChars (budget : Nat) (c : Cursor) :
    Meets ScanFault (Scanner.uriChars budget c) := by
  induction budget generalizing c with
  | zero => exact .ok trivial
  | succ budget ih =>
    rw [Scanner.uriChars]
    refine .ite (fun _ => ?_) fun _ => ?_
    · refine (meets_uriOctets _ _).bind fun _ _ => ?_
      dsimp only
      split
      · exact .malformed
      · exact (ih _).bind fun _ _ => .ok trivial
    · exact .ite (fun _ => (ih _).bind fun _ _ => .ok trivial) fun _ => .ok trivial

theorem meets_uri (c : Cursor) : Meets ScanFault (Scanner.uri c) := by
  rw [Scanner.uri]
  exact (meets_uriChars _ _).bind fun _ _ => .ite (fun _ => .ok trivial) fun _ => .malformed

theorem meets_anchorName (c : Cursor) : Meets ScanFault (Scanner.anchorName c) := by
  rw [Scanner.anchorName]
  exact .ite (fun _ => .malformed) fun _ => .ite (fun _ => .ok trivial) fun _ => .malformed

def Token.IsSound (t : Token) : Prop := ∀ f, t = .broken (.fault f) → ScanFault f

theorem yields_directive (c : Cursor) :
    Yields ScanFault (fun r => r.1.IsSound) (Scanner.directive c) := by
  rw [Scanner.directive]
  dsimp only
  refine .ite (fun _ => .malformed) fun _ => ?_
  refine .ite (fun _ => ?_) fun _ => .ite (fun _ => ?_) fun _ => ?_
  · refine (meets_versionNumber _).bind fun _ _ => ?_
    refine .ite (fun _ => .malformed) fun _ => ?_
    refine (meets_versionNumber _).bind fun _ _ => ?_
    refine .ite (fun _ => ?_) fun _ => .malformed
    exact (meets_ignoredLine _).bind fun _ _ => .ok nofun
  · refine (meets_tagHandle _).bind fun _ _ => ?_
    refine .ite (fun _ => .malformed) fun _ => ?_
    refine (meets_uri _).bind fun _ _ => ?_
    refine .ite (fun _ => ?_) fun _ => .malformed
    exact (meets_ignoredLine _).bind fun _ _ => .ok nofun
  · exact (meets_ignoredLine _).bind fun _ _ => .ok nofun

theorem yields_tag (c : Cursor) : Yields ScanFault (fun r => r.1.IsSound) (Scanner.tag c) := by
  have hend : ∀ (t : Token) (d : Cursor), t.IsSound → Yields ScanFault (fun r => r.1.IsSound)
      (if isSpaceOrEnd d.head then .ok (t, d) else malformed : Reading (Token × Cursor)) :=
    fun t d ht => .ite (fun _ => .ok ht) fun _ => .malformed
  rw [Scanner.tag]
  refine .ite (fun _ => ?_) fun _ => .ite (fun _ => hend _ _ nofun) fun _ => ?_
  · refine (meets_uri _).bind fun _ _ => ?_
    exact .ite (fun _ => hend _ _ nofun) fun _ => .malformed
  · refine .ite (fun _ => ?_) fun _ => (meets_uri _).bind fun _ _ => hend _ _ nofun
    refine (meets_tagHandle _).bind fun _ _ => ?_
    exact (meets_uri _).bind fun _ _ => hend _ _ nofun

/-! ## The scanner -/

namespace Scanner

def IsSound (s : Scanner) : Prop := ∀ t ∈ s.tokens, t.IsSound

variable {s : Scanner}

theorem IsSound.emit (h : s.IsSound) {t : Token} (ht : t.IsSound) : (s.emit t).IsSound := by
  intro t' ht'
  obtain rfl | ht' := List.mem_cons.1 ht'
  · exact ht
  · exact h t' ht'

theorem IsSound.insertAt (h : s.IsSound) (place : Nat) {t : Token} (ht : t.IsSound) :
    (s.insertAt place t).IsSound := by
  intro t' ht'
  obtain rfl | ht' := List.eq_or_mem_of_mem_insertIdx ht'
  · exact ht
  · exact h t' ht'

theorem IsSound.unwindFrom (h : s.IsSound) (column : Int) (indents : List Int) :
    (unwindFrom column indents s).IsSound := by
  induction indents generalizing s with
  | nil => exact h
  | cons outer more ih =>
    rw [Scanner.unwindFrom]
    split
    · exact ih (h.emit nofun)
    · exact h

theorem IsSound.unwind (h : s.IsSound) (column : Int) : (s.unwind column).IsSound := by
  rw [Scanner.unwind]
  split
  · exact h.unwindFrom _ _
  · exact h

theorem IsSound.openBlock (h : s.IsSound) (column : Int) : (s.openBlock column).2.IsSound := by
  rw [Scanner.openBlock]
  split
  · exact h
  · exact h

theorem IsSound.skipTo (h : s.IsSound) (budget : Nat) : (skipTo budget s).IsSound := by
  induction budget generalizing s with
  | zero => exact h
  | succ budget ih =>
    rw [Scanner.skipTo]
    exact iteInduction (motive := IsSound) (fun _ => ih h) fun _ => h

theorem IsSound.dropCandidate (h : s.IsSound) : Yields ScanFault IsSound s.dropCandidate := by
  rw [Scanner.dropCandidate]
  split
  · exact .ok h
  · exact .ite (fun _ => .malformed) fun _ => .ok h

theorem IsSound.saveCandidate (h : s.IsSound) : Yields ScanFault IsSound s.saveCandidate := by
  rw [Scanner.saveCandidate]
  refine .ite (fun _ => ?_) fun _ => .ok h
  exact h.dropCandidate.bind fun s' hs' => .ok hs'

theorem IsSound.dropStale (h : s.IsSound) : Yields ScanFault IsSound s.dropStale := by
  rw [Scanner.dropStale]
  exact .ite (fun _ => .malformed) fun _ => .ok h

theorem IsSound.openHere (h : s.IsSound) {t : Token} (ht : t.IsSound) :
    Yields ScanFault IsSound (s.openHere t) := by
  rw [Scanner.openHere]
  refine .ite (fun _ => ?_) fun _ => .ok h
  refine .ite (fun _ => .ok ?_) fun _ => .malformed
  have hopen := h.openBlock s.cursor.column
  dsimp only
  split
  · exact hopen.emit ht
  · exact hopen

theorem IsSound.fetchNode (h : s.IsSound) {read : Cursor → Reading (Token × Cursor)}
    (hread : ∀ c, Yields ScanFault (fun r => r.1.IsSound) (read c)) :
    Yields ScanFault IsSound (s.fetchNode read) := by
  rw [Scanner.fetchNode]
  refine h.saveCandidate.bind fun s' hs' => ?_
  exact (hread _).bind fun r hr => .ok (IsSound.emit hs' hr)

theorem IsSound.fetchEnd (h : s.IsSound) : Yields ScanFault IsSound s.fetchEnd := by
  rw [Scanner.fetchEnd]
  exact (h.unwind _).dropCandidate.bind fun s' hs' => .ok (hs'.emit nofun)

theorem IsSound.fetchDirective (h : s.IsSound) : Yields ScanFault IsSound s.fetchDirective := by
  rw [Scanner.fetchDirective]
  refine (h.unwind _).dropCandidate.bind fun s' hs' => ?_
  exact (yields_directive _).bind fun r hr => .ok (hs'.emit hr)

theorem IsSound.fetchDocumentMark (h : s.IsSound) {t : Token} (ht : t.IsSound) :
    Yields ScanFault IsSound (s.fetchDocumentMark t) := by
  rw [Scanner.fetchDocumentMark]
  exact (h.unwind _).dropCandidate.bind fun s' hs' => .ok (IsSound.emit hs' ht)

theorem IsSound.fetchFlowStart (h : s.IsSound) {t : Token} (ht : t.IsSound) :
    Yields ScanFault IsSound (s.fetchFlowStart t) := by
  rw [Scanner.fetchFlowStart]
  exact h.saveCandidate.bind fun s' hs' => .ok (IsSound.emit hs' ht)

theorem IsSound.fetchFlowEnd (h : s.IsSound) {t : Token} (ht : t.IsSound) :
    Yields ScanFault IsSound (s.fetchFlowEnd t) := by
  rw [Scanner.fetchFlowEnd]
  exact h.dropCandidate.bind fun s' hs' => .ok (IsSound.emit hs' ht)

theorem IsSound.fetchFlowEntry (h : s.IsSound) : Yields ScanFault IsSound s.fetchFlowEntry := by
  rw [Scanner.fetchFlowEntry]
  refine (IsSound.dropCandidate (s := { s with keyAllowed := true }) h).bind fun s' hs' => ?_
  exact .ok (IsSound.emit hs' nofun)

theorem IsSound.fetchEntry (h : s.IsSound) : Yields ScanFault IsSound s.fetchEntry := by
  rw [Scanner.fetchEntry]
  refine (h.openHere (t := .blockSequence) nofun).bind fun s' hs' => ?_
  refine (IsSound.dropCandidate (s := { s' with keyAllowed := true }) hs').bind fun s'' hs'' => ?_
  exact .ok (IsSound.emit hs'' nofun)

theorem IsSound.fetchMark (h : s.IsSound) {t : Token} (ht : t.IsSound) :
    Yields ScanFault IsSound (do
      let s ← s.openHere .blockMapping
      let s ← { s with keyAllowed := s.level = 0 }.dropCandidate
      .ok ((s.advance 1).emit t)) := by
  refine (h.openHere (t := .blockMapping) nofun).bind fun s' hs' => ?_
  refine (IsSound.dropCandidate (s := { s' with keyAllowed := s'.level = 0 }) hs').bind fun s'' hs'' => ?_
  exact .ok (IsSound.emit hs'' ht)

theorem IsSound.fetchKey (h : s.IsSound) : Yields ScanFault IsSound s.fetchKey := by
  rw [Scanner.fetchKey]
  exact h.fetchMark nofun

theorem IsSound.fetchValue (h : s.IsSound) : Yields ScanFault IsSound s.fetchValue := by
  rw [Scanner.fetchValue]
  split
  · next k _ =>
    have hkey : ({ s with candidates := s.candidates.filter fun p => p.1 != s.level }.insertAt k.place
        .key).IsSound := IsSound.insertAt h k.place nofun
    have hblock := (hkey.openBlock k.column).insertAt k.place (t := .blockMapping) nofun
    refine .ok (IsSound.emit (t := .value) ?_ nofun)
    refine iteInduction (motive := IsSound) (fun _ => ?_) fun _ => hkey
    exact iteInduction (motive := IsSound) (fun _ => hblock) fun _ => hkey.openBlock k.column
  · exact h.fetchMark nofun

theorem IsSound.fetchBlockScalar (h : s.IsSound) (folded : Bool) :
    Yields ScanFault IsSound (s.fetchBlockScalar folded) := by
  rw [Scanner.fetchBlockScalar]
  refine (IsSound.dropCandidate (s := { s with keyAllowed := true }) h).bind fun s' hs' => ?_
  exact (meets_blockScalar _ _ _).bind fun _ _ => .ok (IsSound.emit hs' nofun)

theorem IsSound.fetchPlain (h : s.IsSound) : Yields ScanFault IsSound s.fetchPlain := by
  rw [Scanner.fetchPlain]
  exact h.saveCandidate.bind fun s' hs' => .ok (IsSound.emit hs' nofun)

theorem IsSound.fetch (h : s.IsSound) : Yields ScanFault IsSound s.fetch := by
  have hname : ∀ t : List Char → Token, (∀ name, (t name).IsSound) → ∀ c, Yields ScanFault
      (fun r => r.1.IsSound) ((anchorName c).map fun p => (t p.1, p.2)) :=
    fun t ht c => (meets_anchorName c).map fun p _ => ht p.1
  have hquoted : ∀ double c, Yields ScanFault (fun r => r.1.IsSound)
      ((quotedScalar double c).map fun p => (Token.scalar p.1 false, p.2)) :=
    fun double c => (meets_quotedScalar double c).map fun p _ => nofun
  rw [Scanner.fetch]
  -- one branch for each character that a token begins with, in the order of the definition
  refine .ite (fun _ => h.fetchEnd) fun _ => ?_
  refine .ite (fun _ => h.fetchDirective) fun _ => ?_
  refine .ite (fun _ => h.fetchDocumentMark nofun) fun _ => ?_
  refine .ite (fun _ => h.fetchDocumentMark nofun) fun _ => ?_
  refine .ite (fun _ => h.fetchFlowStart nofun) fun _ => ?_
  refine .ite (fun _ => h.fetchFlowStart nofun) fun _ => ?_
  refine .ite (fun _ => h.fetchFlowEnd nofun) fun _ => ?_
  refine .ite (fun _ => h.fetchFlowEnd nofun) fun _ => ?_
  refine .ite (fun _ => h.fetchFlowEntry) fun _ => ?_
  refine .ite (fun _ => h.fetchEntry) fun _ => ?_
  refine .ite (fun _ => h.fetchKey) fun _ => ?_
  refine .ite (fun _ => h.fetchValue) fun _ => ?_
  refine .ite (fun _ => h.fetchNode (hname .alias nofun)) fun _ => ?_
  refine .ite (fun _ => h.fetchNode (hname .anchor nofun)) fun _ => ?_
  refine .ite (fun _ => h.fetchNode yields_tag) fun _ => ?_
  refine .ite (fun _ => h.fetchBlockScalar false) fun _ => ?_
  refine .ite (fun _ => h.fetchBlockScalar true) fun _ => ?_
  refine .ite (fun _ => h.fetchNode (hquoted false)) fun _ => ?_
  refine .ite (fun _ => h.fetchNode (hquoted true)) fun _ => ?_
  exact .ite (fun _ => h.fetchPlain) fun _ => .malformed

theorem IsSound.next (h : s.IsSound) : Yields ScanFault IsSound s.next := by
  have hskip := h.skipTo (s.cursor.rest.length + 1)
  exact hskip.dropStale.bind fun s' hs' => (hs'.unwind s'.cursor.column).fetch

/-- A run that has a step left makes it.  The equation is stated here, since to find it is to look into
a step. -/
theorem run_succ (budget : Nat) : run (budget + 1) s =
    match s.next with
    | .error f => s.breakOff f
    | .ok s =>
      match s.tokens with
      | .textEnd :: _ => s
      | _ => run budget s := by
  exact rfl

theorem IsSound.breakOff (h : s.IsSound) {f : Failure} (hf : (Token.broken f).IsSound) :
    (s.breakOff f).IsSound := by
  intro t ht
  obtain rfl | ht := List.mem_cons.1 ht
  · exact hf
  · exact h t (List.mem_of_mem_drop ht)

theorem IsSound.run (h : s.IsSound) (budget : Nat) : (run budget s).IsSound := by
  induction budget generalizing s with
  | zero => exact h
  | succ budget ih =>
    have hnext := h.next
    rw [run_succ]
    cases hstep : s.next with
    | error f =>
      refine h.breakOff fun f' hf => hnext.known_of_fault ?_
      rw [hstep, Token.broken.inj hf]
    | ok s' =>
      rw [hstep] at hnext
      obtain ⟨hs'⟩ := hnext
      dsimp only
      split
      · exact hs'
      · exact ih hs'

end Scanner

/-- **The tokens of a text hold no failure but a malformed text and the faults of scanning**. -/
theorem isSound_of_mem_scan {text : List Char} {t : Token} (ht : t ∈ Token.scan text) : t.IsSound := by
  rw [Token.scan] at ht
  split at ht
  · have hstart : ∀ c : Cursor, Scanner.IsSound { cursor := c } := fun c t ht => nomatch ht
    exact (hstart _).run (text.length + 1) t (List.mem_reverse.1 ht)
  · obtain rfl := List.mem_singleton.1 ht
    exact nofun

end Tunebook.Yaml
