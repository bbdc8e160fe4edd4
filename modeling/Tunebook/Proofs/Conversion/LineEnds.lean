import Tunebook.Conversion.Files
import Tunebook.Proofs.Text.LineEnds
import Tunebook.Proofs.Text.Utf8
import Tunebook.Proofs.Tune.Comments
import Tunebook.Proofs.Tune.Strangers

/-!
# The kind of the line ends

A tune may come from a system that ends its lines in another way.  Every use of a line
leaves out blanks at its end: the tags and values of fields, the blank lines, the scan for
notes, the comments, and the check, for which a blank is a character of music.  So a
carriage return before each line feed changes neither the tune nor the report, and with
them no conversion.

* `containsPair_withReturns`, `strangers_withReturns`: the parts of the check.
* `Tune.read_withReturns`, `checkText_withReturns`: the two readings of a text.
* `Site.convertFile_of_read`: a file is converted like its text.
* `lineEnds_change_nothing`: **the line ends of a tune do not matter**, in a text and in
  a file.
-/

namespace Tunebook

/-! ### Reading -/

theorem map_strip_withReturns (cs : List Char) :
    (lines (withLineEnds .returnFeed cs)).map strip = (lines cs).map strip :=
  map_lines_withReturns (fun line => strip_concat (by decide) line) cs

theorem comment?_concat_return (line : List Char) : comment? (line ++ ['\r']) = comment? line := by
  induction line with
  | nil => rfl
  | cons c rest ih =>
    rw [List.cons_append]
    by_cases hc : c = '%'
    · subst hc
      rw [comment?_percent, comment?_percent, strip_concat (by decide)]
    · rw [comment?_cons hc, comment?_cons hc, ih]

theorem Remarks.of_withReturns (cs : List Char) :
    Remarks.of (withLineEnds .returnFeed cs) = Remarks.of cs := by
  have hcomments := map_lines_withReturns comment?_concat_return cs
  have hbars := count_withReturns (a := '|') (by decide) cs
  have hfilter : ∀ ls : List (List Char), ls.filterMap comment? = (ls.map comment?).filterMap id := by
    intro ls
    rw [List.filterMap_map]
    rfl
  rw [Remarks.of, Remarks.of, hfilter, hcomments, ← hfilter, hbars]

/-- **A tune is read alike with carriage returns before its line feeds.** -/
theorem Tune.read_withReturns (text : String) :
    Tune.read (LineEnd.returnFeed.apply text) = Tune.read text := by
  have hparts := Header.parts_of_map_strip (map_strip_withReturns text.toList) {}
  rw [Tune.read_eq, Tune.read_eq, LineEnd.toList_apply, hparts, Remarks.of_withReturns]

/-! ### Checking -/

theorem head?_withReturns {b : Char} (hn : b ≠ '\n') (hr : b ≠ '\r') (cs : List Char) :
    ((withLineEnds .returnFeed cs).head? == some b) = (cs.head? == some b) := by
  cases cs with
  | nil => rfl
  | cons c rest =>
    by_cases hc : c = '\n'
    · subst hc
      simp [withLineEnds_lineFeed, LineEnd.chars, Ne.symm hn, Ne.symm hr]
    · simp [withLineEnds_cons _ hc]

theorem containsPair_withReturns {a b : Char} (ha : a ≠ '\n') (ha' : a ≠ '\r') (hb : b ≠ '\n')
    (hb' : b ≠ '\r') (cs : List Char) :
    containsPair a b (withLineEnds .returnFeed cs) = containsPair a b cs := by
  induction cs with
  | nil => rfl
  | cons c rest ih =>
    by_cases hc : c = '\n'
    · subst hc
      rw [withLineEnds_lineFeed]
      show containsPair a b ('\r' :: '\n' :: withLineEnds .returnFeed rest) = _
      have hn : ('\n' == a) = false := beq_false_of_ne (Ne.symm ha)
      have hr : ('\r' == a) = false := beq_false_of_ne (Ne.symm ha')
      simp only [containsPair_cons, hn, hr, Bool.false_and, Bool.false_or, ih]
    · rw [withLineEnds_cons _ hc, containsPair_cons, containsPair_cons, ih, head?_withReturns hb hb']

theorem isMusicLine_concat_return (line : List Char) :
    isMusicLine (line ++ ['\r']) = isMusicLine line := by
  have htag : (Field.split? (line ++ ['\r'])).isNone = (Field.split? line).isNone := by
    rcases line with _ | ⟨c, _ | ⟨d, rest⟩⟩
    · rfl
    · rfl
    · rw [List.cons_append, List.cons_append, isNone_split?_cons, isNone_split?_cons]
      rfl
  have hblank : isBlank '\r' = true := by decide
  simp [isMusicLine, htag, allBlank, hblank]

theorem lineStrangers_concat_return (line : List Char) :
    lineStrangers (line ++ ['\r']) = lineStrangers line := by
  have hmusic : isMusicChar '\r' = true := by decide
  simp [lineStrangers, isMusicLine_concat_return, hmusic]

theorem strangers_withReturns (cs : List Char) :
    strangers (withLineEnds .returnFeed cs) = strangers cs := by
  rw [strangers_eq, strangers_eq, List.flatMap_def, List.flatMap_def,
    map_lines_withReturns lineStrangers_concat_return]

theorem allBlank_withReturns (cs : List Char) :
    allBlank (withLineEnds .returnFeed cs) = allBlank cs := all_withReturns (by decide) cs

/-- **A text is checked alike with carriage returns before its line feeds.** -/
theorem checkText_withReturns (text : String) :
    checkText (LineEnd.returnFeed.apply text) = checkText text := by
  have hletters := any_withReturns (p := isNoteLetter) (by decide) text.toList
  have hkey := containsPair_withReturns (a := 'K') (b := ':') (by decide) (by decide) (by decide)
    (by decide) text.toList
  have hmeter := containsPair_withReturns (a := 'M') (b := ':') (by decide) (by decide) (by decide)
    (by decide) text.toList
  simp only [checkText, LineEnd.toList_apply, allBlank_withReturns, hletters, hkey, hmeter,
    strangers_withReturns]

/-! ### Converting -/

theorem convert_withReturns (c : Clock) (text : String) (optimize settings : Value) :
    convert c (.text (LineEnd.returnFeed.apply text)) optimize settings
      = convert c (.text text) optimize settings := by
  have hcheck : checkInput (.text (LineEnd.returnFeed.apply text)) = checkInput (.text text) := by
    simp only [checkInput, LineEnd.toList_apply, allBlank_withReturns, checkText_withReturns]
  have hread : Tune.ofSource (.text (LineEnd.returnFeed.apply text)) = Tune.ofSource (.text text) :=
    Tune.read_withReturns text
  simp only [convert, convertUntimed, hcheck, passage, hread]

theorem Site.readText_of_read {s : Site} {p : Path} {e : LineEnd} {text : String}
    (plain : '\r' ∉ text.toList) (content : s.read p = .ok (encodeText (e.apply text).toList)) :
    s.readText p = .ok text.toList := by
  rw [Site.readText, content]
  show (decodeText _ >>= fun cs => .ok (withLineFeeds cs)) = _
  rw [decodeText_encodeText, LineEnd.toList_apply]
  exact congrArg Except.ok (withLineFeeds_withLineEnds e plain)

theorem Site.convertFile_of_read {s : Site} {path text : String} {e : LineEnd}
    (plain : '\r' ∉ text.toList)
    (content : s.read (.ofText path) = .ok (encodeText (e.apply text).toList)) (h : History)
    (c : Clock) (settings : Value) :
    s.convertFile h c path settings = .ok (h.convert c (.text text) (.flag false) settings) := by
  rw [Site.convertFile, Site.readText_of_read plain content]
  show Except.ok (h.convert c (.text (String.ofList text.toList)) _ _) = _
  rw [String.ofList_toList]

/-- **The line ends of a tune do not matter.**  A carriage return before each line feed changes
neither what a text is read as, or the fault of reading it, nor what is said about it, nor any
conversion.  A text without carriage returns that is written to a file with line ends of any kind
is converted from there as from itself. -/
theorem lineEnds_change_nothing (text : String) :
    Tune.read (LineEnd.returnFeed.apply text) = Tune.read text ∧
      checkText (LineEnd.returnFeed.apply text) = checkText text ∧
      (∀ (c : Clock) (optimize settings : Value),
        convert c (.text (LineEnd.returnFeed.apply text)) optimize settings
          = convert c (.text text) optimize settings) ∧
      ∀ (e : LineEnd) (s : Site) (path : String), '\r' ∉ text.toList →
        s.read (.ofText path) = .ok (encodeText (e.apply text).toList) →
        ∀ (h : History) (c : Clock) (settings : Value),
          s.convertFile h c path settings
            = .ok (h.convert c (.text text) (.flag false) settings) := by
  refine ⟨Tune.read_withReturns text, checkText_withReturns text, ?_, ?_⟩
  · intro c optimize settings
    exact convert_withReturns c text optimize settings
  · intro e s path plain content h c settings
    exact Site.convertFile_of_read plain content h c settings

/-- A file whose lines end in carriage returns. -/
theorem lineEnds_change_nothing_returns :
    let content := encodeText "M:4/4\rK:C\rC2".toList
    let site : Site := { files := ⟨[(["a.abc"], .file content)]⟩ }
    site.convertFile {} {} "a.abc" .null
      = .ok (History.convert {} {} (.text "M:4/4\nK:C\nC2") (.flag false) .null) := by
  intro content site
  have plain : '\r' ∉ "M:4/4\nK:C\nC2".toList := by decide
  have written : site.read (.ofText "a.abc")
      = .ok (encodeText (LineEnd.carriageReturn.apply "M:4/4\nK:C\nC2").toList) := by
    decide +kernel
  exact (lineEnds_change_nothing "M:4/4\nK:C\nC2").2.2.2 .carriageReturn site "a.abc" plain written
    {} {} .null

end Tunebook
