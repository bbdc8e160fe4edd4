import Tunebook.Proofs.Tune.Fields
import Tunebook.Proofs.Tune.FirstFraction
import Tunebook.Proofs.Tune.Tones

/-!
# The numerals that are read of a text

A text is no tune only for one reason: a number in it has more digits than can be read.  But not every
run of digits is read as a number.  Those that are stand in four places: at the beginning of a number
field and of a tempo field without a fraction, behind the first fraction of a tempo field, and behind a
letter of the body with its marks.  Digits of titles, of the fractions themselves and between the notes
are never read, however many they are.

* `Field.Reads`, `Tune.Reads`: the digits that are read as a number.
* `Header.set_eq_error_iff`: what a field does with too many of them, whatever the header is; from it
  `Header.short_of_readFrom` and `Header.exists_reads_of_readFrom`, by induction on the lines.
* `Tune.natAbs_of_read`: the tempo of a text is the number of digits that are read.
* `Tune.Reads.runIn`: what is read stands in the text as it is.
* `Tune.read_fails_iff`: **a text is no tune exactly where a numeral that is read is too long.**
-/

namespace Tunebook

/-! ### Too many digits -/

def Exceeds (ds : List Char) (e : Fault) : Prop :=
  digitLimit < ds.length ∧ e = .tooManyDigits ds.length

theorem readDigits_eq_error_iff {ds : List Char} {e : Fault} :
    readDigits ds = .error e ↔ Exceeds ds e := by
  rw [readDigits, Exceeds]
  by_cases hlong : digitLimit < ds.length
  · simp [hlong, eq_comm]
  · simp [hlong]

theorem leadingInteger_eq_error_iff {cs : List Char} {e : Fault} :
    leadingInteger cs = .error e ↔ Exceeds (leadingDigits cs) e := by
  rw [leadingInteger_eq]
  by_cases hnone : leadingDigits cs = []
  · rw [if_pos hnone, hnone]
    constructor
    · intro h
      cases h
    · rintro ⟨hlong, _⟩
      exact absurd hlong (Nat.not_lt_zero _)
  · rw [if_neg hnone, bind_ok_eq_error, readDigits_eq_error_iff]

/-! ### Fields -/

/-- Some digits of a field's value are read as a number: in a number field those with which it begins,
in a tempo field those behind its first fraction, and where it holds none those with which it begins. -/
inductive Field.Reads : Field → List Char → List Char → Prop
  | number (value : List Char) : Field.Reads .number value (leadingDigits value)
  | fraction {value n : List Char} (first : FirstFraction value n) : Field.Reads .tempo value n
  | tempo {value : List Char} (plain : ¬ HoldsFraction value) :
      Field.Reads .tempo value (leadingDigits value)

theorem tempoOf_eq_error_iff {value : List Char} {e : Fault} :
    tempoOf value = .error e ↔ ∃ ds, Field.tempo.Reads value ds ∧ Exceeds ds e := by
  rw [tempoOf]
  cases hsearch : fractionTempo? value with
  | some n =>
    have hfirst := fractionTempo?_eq_some_iff.1 hsearch
    dsimp only
    rw [bind_ok_eq_error, readDigits_eq_error_iff]
    constructor
    · intro h
      exact ⟨n, .fraction hfirst, h⟩
    · rintro ⟨ds, hreads, h⟩
      cases hreads with
      | fraction first =>
        rw [fractionTempo?_eq_some_iff.2 first] at hsearch
        rwa [← Option.some.inj hsearch]
      | tempo plain =>
        rw [fractionTempo?_eq_none_iff.2 plain] at hsearch
        cases hsearch
  | none =>
    have hplain := fractionTempo?_eq_none_iff.1 hsearch
    dsimp only
    rw [bind_ok_eq_error, leadingInteger_eq_error_iff]
    constructor
    · intro h
      exact ⟨_, .tempo hplain, h⟩
    · rintro ⟨ds, hreads, h⟩
      cases hreads with
      | fraction first =>
        rw [fractionTempo?_eq_some_iff.2 first] at hsearch
        cases hsearch
      | tempo => exact h

theorem natAbs_of_tempoOf {value : List Char} {n : Int} (h : tempoOf value = .ok n) :
    n = usualTempo ∨ ∃ ds, Field.tempo.Reads value ds ∧ n.natAbs = decimalValue ds := by
  rw [tempoOf] at h
  cases hsearch : fractionTempo? value with
  | some ds =>
    rw [hsearch] at h
    obtain ⟨k, hk, h⟩ := bind_eq_ok.1 h
    cases h
    exact .inr ⟨ds, .fraction (fractionTempo?_eq_some_iff.1 hsearch), readDigits_eq_ok hk⟩
  | none =>
    rw [hsearch] at h
    obtain ⟨found, hfound, h⟩ := bind_eq_ok.1 h
    cases h
    cases found with
    | none => exact .inl rfl
    | some k =>
      exact .inr ⟨_, .tempo (fractionTempo?_eq_none_iff.1 hsearch), natAbs_of_leadingInteger hfound⟩

namespace Header

/-- **A field is refused exactly where it reads too many digits**, whatever the header is so far. -/
theorem set_eq_error_iff {h : Header} {f : Field} {value : List Char} {e : Fault} :
    h.set f value = .error e ↔ ∃ ds, f.Reads value ds ∧ Exceeds ds e := by
  cases f with
  | number =>
    rw [set, bind_ok_eq_error, leadingInteger_eq_error_iff]
    constructor
    · intro h
      exact ⟨_, .number value, h⟩
    · rintro ⟨ds, hreads, h⟩
      cases hreads
      exact h
  | tempo => rw [set, bind_ok_eq_error, tempoOf_eq_error_iff]
  | _ =>
    constructor
    · intro h
      cases h
    · rintro ⟨ds, hreads, _⟩
      cases hreads

/-! ### The lines of a header -/

/-- Some digits are read on a line: it begins with a tag, and the field reads them of its value. -/
def ReadsOn (line ds : List Char) : Prop :=
  ∃ f value, Field.value? f line = some value ∧ f.Reads value ds

/-- **Where no header is read off some lines, one above the body reads too many digits.** -/
theorem exists_reads_of_readFrom {ls : List (List Char)} {h : Header} {e : Fault}
    (hr : readFrom h ls = .error e) :
    ∃ line ∈ ls.takeWhile fun line => !endsAt line, ∃ ds, ReadsOn line ds ∧ Exceeds ds e := by
  induction ls generalizing h with
  | nil => cases hr
  | cons line rest ih =>
    rw [readFrom] at hr
    cases hk : Line.classify line with
    | blank =>
      rw [hk] at hr
      obtain ⟨below, hbelow, hreads⟩ := ih (bind_ok_eq_error.1 hr)
      rw [List.takeWhile_cons_of_pos (by simp [endsAt, hk])]
      exact ⟨below, List.mem_cons_of_mem _ hbelow, hreads⟩
    | field f value =>
      rw [hk] at hr
      rw [List.takeWhile_cons_of_pos (by simp [endsAt, hk])]
      rcases bind_eq_error.1 hr with hset | ⟨next, _, hmore⟩
      · obtain ⟨ds, hreads, hlong⟩ := set_eq_error_iff.1 hset
        exact ⟨line, List.mem_cons_self, ds, ⟨f, value, classify_eq_field_iff.1 hk, hreads⟩, hlong⟩
      · obtain ⟨below, hbelow, hreads⟩ := ih (bind_ok_eq_error.1 hmore)
        exact ⟨below, List.mem_cons_of_mem _ hbelow, hreads⟩
    | music =>
      rw [hk] at hr
      cases hr

/-- **Where a header is read off some lines, no line above the body reads too many digits.** -/
theorem short_of_readFrom {ls : List (List Char)} {h header : Header} {n : Nat}
    (hr : readFrom h ls = .ok (header, n)) :
    ∀ line ∈ ls.takeWhile fun line => !endsAt line, ∀ ds, ReadsOn line ds →
      ds.length ≤ digitLimit := by
  induction ls generalizing h header n with
  | nil =>
    intro line hline
    cases hline
  | cons first rest ih =>
    rw [readFrom] at hr
    intro line hline ds hreads
    obtain ⟨f, value, hvalue, hreads⟩ := hreads
    cases hk : Line.classify first with
    | blank =>
      rw [hk] at hr
      obtain ⟨⟨header', n'⟩, hmore, _⟩ := bind_eq_ok.1 hr
      rw [List.takeWhile_cons_of_pos (by simp [endsAt, hk])] at hline
      rcases List.mem_cons.1 hline with rfl | hbelow
      · rw [← classify_eq_field_iff, hk] at hvalue
        cases hvalue
      · exact ih hmore line hbelow ds ⟨f, value, hvalue, hreads⟩
    | field g stated =>
      rw [hk] at hr
      obtain ⟨next, hset, hr⟩ := bind_eq_ok.1 hr
      obtain ⟨⟨header', n'⟩, hmore, _⟩ := bind_eq_ok.1 hr
      rw [List.takeWhile_cons_of_pos (by simp [endsAt, hk])] at hline
      rcases List.mem_cons.1 hline with rfl | hbelow
      · rw [← classify_eq_field_iff, hk] at hvalue
        cases hvalue
        by_contra hlong
        have hfails : h.set f value = .error (.tooManyDigits ds.length) :=
          set_eq_error_iff.2 ⟨ds, hreads, Nat.not_le.1 hlong, rfl⟩
        rw [hset] at hfails
        cases hfails
      · exact ih hmore line hbelow ds ⟨f, value, hvalue, hreads⟩
    | music =>
      rw [List.takeWhile_cons_of_neg (by simp [endsAt, hk])] at hline
      cases hline

end Header

/-! ### Texts -/

namespace Tune

def linesAbove (text : String) : List (List Char) :=
  let ls := lines (strip text.toList)
  ls.take (ls.findIdx beginsBody)

def linesBelow (text : String) : List (List Char) :=
  let ls := lines (strip text.toList)
  ls.drop (ls.findIdx beginsBody)

/-- Some digits of a text are read as a number: those that a field above the body reads of its value,
and those behind a letter of the body with its marks. -/
inductive Reads (text : String) : List Char → Prop
  | field {line value ds : List Char} {f : Field} (above : line ∈ linesAbove text)
      (states : f.value? line = some value) (reads : f.Reads value ds) : Reads text ds
  | note {t : NoteText} (below : t ∈ written (joined [' '] (linesBelow text))) :
      Reads text t.digits

theorem mem_linesAbove_iff {text : String} {line : List Char} : line ∈ linesAbove text ↔
    line ∈ (lines (strip text.toList)).takeWhile fun line => !Header.endsAt line := by
  rw [linesAbove, Header.takeWhile_eq_take]

theorem readNotes_linesBelow (text : String) :
    readNotes (linesBelow text) = (written (joined [' '] (linesBelow text))).mapM NoteText.note := by
  rw [readNotes, scan_eq_written]

/-- **Where a text is no tune, it reads too many digits.** -/
theorem exists_reads_of_read {text : String} {e : Fault} (h : Tune.read text = .error e) :
    ∃ ds, Reads text ds ∧ Exceeds ds e := by
  rw [Tune.read] at h
  rcases bind_eq_error.1 h with hheader | ⟨⟨header, n⟩, hheader, h⟩
  · obtain ⟨line, hline, ds, ⟨f, value, hvalue, hreads⟩, hlong⟩ :=
      Header.exists_reads_of_readFrom hheader
    exact ⟨ds, .field (mem_linesAbove_iff.2 hline) hvalue hreads, hlong⟩
  · have hnotes := bind_ok_eq_error.1 h
    rw [Header.read_length hheader, ← linesBelow, readNotes_linesBelow] at hnotes
    obtain ⟨t, ht, hfails⟩ := mapM_eq_error hnotes
    rw [NoteText.note_eq] at hfails
    split at hfails
    · next hlong =>
      cases hfails
      exact ⟨t.digits, .note ht, hlong, rfl⟩
    · cases hfails

/-- **Where a text is a tune, it reads no digits that are too many.** -/
theorem short_of_read {text : String} {tune : Tune} (h : Tune.read text = .ok tune)
    {ds : List Char} (hreads : Reads text ds) : ds.length ≤ digitLimit := by
  rw [Tune.read] at h
  obtain ⟨⟨header, n⟩, hheader, h⟩ := bind_eq_ok.1 h
  obtain ⟨notes, hnotes, _⟩ := bind_eq_ok.1 h
  cases hreads with
  | field above states reads =>
    exact Header.short_of_readFrom hheader _ (mem_linesAbove_iff.1 above) ds ⟨_, _, states, reads⟩
  | note below =>
    rw [Header.read_length hheader, ← linesBelow, readNotes_linesBelow] at hnotes
    exact (NoteText.mapM_note_eq_ok.1 hnotes).1 _ below

/-- The tempo of a text is the number of some digits that are read, with a sign, or the usual one. -/
theorem natAbs_of_read {text : String} {tune : Tune} (h : Tune.read text = .ok tune) :
    tune.header.tempo = usualTempo ∨
      ∃ ds, Reads text ds ∧ tune.header.tempo.natAbs = decimalValue ds := by
  rw [Tune.read] at h
  obtain ⟨⟨header, n⟩, hheader, h⟩ := bind_eq_ok.1 h
  obtain ⟨notes, _, h⟩ := bind_eq_ok.1 h
  cases h
  obtain ⟨hn, hstates, _⟩ := Header.read_states hheader
  have htempo := hstates.tempo
  cases hstated : Field.tempo.stated? ((lines (strip text.toList)).take n) with
  | none =>
    rw [hstated] at htempo
    exact .inl (Except.ok.inj htempo).symm
  | some value =>
    rw [hstated] at htempo
    obtain ⟨line, habove, hvalue⟩ := List.mem_filterMap.1 (List.mem_of_getLast? hstated)
    rw [hn] at habove
    rcases natAbs_of_tempoOf htempo with husual | ⟨ds, hreads, hds⟩
    · exact .inl husual
    · exact .inr ⟨ds, .field habove hvalue hreads, hds⟩

end Tune

/-! ### Where the digits stand -/

def RunIn (ds cs : List Char) : Prop := ds <:+: cs ∧ ∀ d ∈ ds, isDecimalDigit d = true

theorem RunIn.trans {ds cs cs' : List Char} (h : RunIn ds cs) (hcs : cs <:+: cs') : RunIn ds cs' :=
  ⟨h.1.trans hcs, h.2⟩

theorem runIn_takeWhile (cs : List Char) : RunIn (cs.takeWhile isDecimalDigit) cs :=
  ⟨(List.takeWhile_prefix _).isInfix, fun _ hd => List.mem_takeWhile_imp hd⟩

theorem unsigned_suffix (cs : List Char) : unsigned cs <:+ cs := by
  cases cs with
  | nil => exact List.suffix_rfl
  | cons c rest =>
    rw [unsigned]
    split
    · exact List.suffix_cons c rest
    · exact List.suffix_rfl

theorem runIn_leadingDigits (cs : List Char) : RunIn (leadingDigits cs) cs := by
  have hbody : unsigned (cs.dropWhile isBlank) <:+ cs :=
    (unsigned_suffix _).trans (List.dropWhile_suffix isBlank)
  exact (runIn_takeWhile _).trans hbody.isInfix

theorem FirstFraction.runIn {value n : List Char} (h : FirstFraction value n) : RunIn n value := by
  obtain ⟨pre, ⟨a, b, post, _, _, hn, _, rfl⟩, _⟩ := h
  refine ⟨⟨pre ++ (a ++ '/' :: (b ++ ['='])), post, ?_⟩, hn.2⟩
  simp only [List.append_assoc, List.cons_append, List.nil_append]

theorem Field.Reads.runIn {f : Field} {value ds : List Char} (h : f.Reads value ds) :
    RunIn ds value := by
  cases h with
  | number => exact runIn_leadingDigits value
  | fraction first => exact first.runIn
  | tempo => exact runIn_leadingDigits value

theorem Field.infix_of_value? {f : Field} {line value : List Char} (h : f.value? line = some value) :
    value <:+: line := by
  rw [value?, Option.ite_none_right_eq_some, Option.some.injEq] at h
  obtain ⟨_, rfl⟩ := h
  exact (strip_isInfix _).trans ((List.drop_suffix 2 _).isInfix.trans (strip_isInfix line))

theorem runIn_of_mem_writtenFrom {before cs : List Char} {t : NoteText}
    (h : t ∈ writtenFrom before cs) : RunIn t.digits cs := by
  induction cs generalizing before with
  | nil => cases h
  | cons c rest ih =>
    have hrest : rest <:+: c :: rest := (List.suffix_cons c rest).isInfix
    rw [writtenFrom] at h
    split at h
    · rcases List.mem_cons.1 h with rfl | h
      · exact (runIn_takeWhile _).trans ((List.dropWhile_suffix isMark).isInfix.trans hrest)
      · exact (ih h).trans hrest
    · exact (ih h).trans hrest

/-- **What is read of a text stands in it as it is.** -/
theorem Tune.Reads.runIn {text : String} {ds : List Char} (h : Reads text ds) :
    RunIn ds text.toList := by
  have hline : ∀ line ∈ lines (strip text.toList), line <:+: text.toList := by
    intro line hline
    exact (infix_of_mem_lines hline).trans (strip_isInfix _)
  cases h with
  | field above states reads =>
    have hvalue := (Field.infix_of_value? states).trans (hline _ (List.mem_of_mem_take above))
    exact reads.runIn.trans hvalue
  | note below =>
    rw [← scan_eq_written, NoteText.scan_joined] at below
    obtain ⟨line, hmem, hnote⟩ := List.mem_flatMap.1 below
    rw [scan_eq_written] at hnote
    exact (runIn_of_mem_writtenFrom hnote).trans (hline line (List.mem_of_mem_drop hmem))

/-- **When a text is no tune is known exactly**: where a numeral that is read has too many digits, and
the fault then names one such number of digits.  So a text without such a run of digits is a tune. -/
theorem Tune.read_fails_iff (text : String) :
    ((∃ f, Tune.read text = .error f) ↔ ∃ ds, Reads text ds ∧ digitLimit < ds.length) ∧
    (∀ f, Tune.read text = .error f → f.category = .value ∧
      ∃ ds, Reads text ds ∧ digitLimit < ds.length ∧ f = .tooManyDigits ds.length) ∧
    ((∀ run, run <:+: text.toList → (∀ d ∈ run, isDecimalDigit d = true) →
      run.length ≤ digitLimit) → ∃ tune, Tune.read text = .ok tune) := by
  have hfails : ∀ f, Tune.read text = .error f →
      ∃ ds, Reads text ds ∧ digitLimit < ds.length ∧ f = .tooManyDigits ds.length := by
    intro f h
    obtain ⟨ds, hreads, hlong⟩ := exists_reads_of_read h
    exact ⟨ds, hreads, hlong⟩
  refine ⟨⟨?_, ?_⟩, ?_, ?_⟩
  · rintro ⟨f, h⟩
    obtain ⟨ds, hreads, hlong, _⟩ := hfails f h
    exact ⟨ds, hreads, hlong⟩
  · rintro ⟨ds, hreads, hlong⟩
    cases h : Tune.read text with
    | error f => exact ⟨f, rfl⟩
    | ok tune => exact absurd hlong (Nat.not_lt.2 (short_of_read h hreads))
  · intro f h
    obtain ⟨ds, hreads, hlong, rfl⟩ := hfails f h
    exact ⟨rfl, ds, hreads, hlong, rfl⟩
  · intro hshort
    cases h : Tune.read text with
    | ok tune => exact ⟨tune, rfl⟩
    | error f =>
      obtain ⟨ds, hreads, hlong, _⟩ := hfails f h
      obtain ⟨hstands, hdigits⟩ := hreads.runIn
      exact absurd hlong (Nat.not_lt.2 (hshort ds hstands hdigits))

end Tunebook
