import Tunebook.Proofs.Tune.Append
import Tunebook.Proofs.Tune.Sections

/-!
# Comments

A comment reaches from the first percent sign of a line to its end.  The remarks of a tune
record it, and nothing else looks for it: the header is read up to the first line that is
neither blank nor a field, which may be a comment, and from there on every letter of a note
sounds, also in a comment.

So a text loses notes when its comments are deleted, and it may gain header: where the body
begins with comments, the fields below them stand above the body then.  Both are told here
exactly, letter by letter and line by line.

* `beforeComment`, `commentOf`: the two parts of a line; `withoutComments`: a text of the
  first ones.
* `scan_beforeComment_append`: a line sounds like its two parts, one after the other.
* `Header.endsAt_beforeComment`: a line of music stays one unless all of it is a comment.
* `Header.parts_eq`: the parts of a tune, read off the line where its header ends.
* `Tune.read_withoutComments`: **what a tune is without its comments.**
* `comments_sound`: a comment that is played, and one that hides the fields below it.
-/

namespace Tunebook

/-- The part of a line that stands before its comment. -/
def beforeComment (line : List Char) : List Char := line.takeWhile (· != '%')

/-- The comment of a line, with its percent sign. -/
def commentOf (line : List Char) : List Char := line.dropWhile (· != '%')

/-- Whether a line holds a comment and, but for blanks, nothing else. -/
def isCommentLine (line : List Char) : Bool := (line.dropWhile isBlank).head? == some '%'

/-- A text without its comments. -/
def withoutComments (text : String) : String :=
  String.ofList (joined ['\n'] ((lines text.toList).map beforeComment))

/-! ### The two parts of a line -/

@[simp] theorem beforeComment_append_commentOf (line : List Char) :
    beforeComment line ++ commentOf line = line := List.takeWhile_append_dropWhile

@[simp] theorem beforeComment_percent (rest : List Char) : beforeComment ('%' :: rest) = [] := by
  simp [beforeComment]

theorem beforeComment_cons {c : Char} (hc : c ≠ '%') (rest : List Char) :
    beforeComment (c :: rest) = c :: beforeComment rest := by
  simp [beforeComment, hc]

theorem beforeComment_eq_self {line : List Char} (h : '%' ∉ line) : beforeComment line = line := by
  induction line with
  | nil => rfl
  | cons c rest ih =>
    rw [List.mem_cons, not_or] at h
    rw [beforeComment_cons (Ne.symm h.1), ih h.2]

theorem beforeComment_sublist (line : List Char) : (beforeComment line).Sublist line :=
  List.takeWhile_sublist _

theorem percent_not_mem_beforeComment (line : List Char) : '%' ∉ beforeComment line := by
  intro h
  have hp := List.mem_takeWhile_imp h
  simp at hp

theorem commentOf_eq_nil_or (line : List Char) :
    commentOf line = [] ∨ ∃ rest, commentOf line = '%' :: rest := by
  have h := head?_dropWhile_any (· != '%') line
  cases hc : commentOf line with
  | nil => exact .inl rfl
  | cons c rest =>
    rw [commentOf] at hc
    rw [hc] at h
    right
    exact ⟨rest, by simpa using h⟩

@[simp] theorem comment?_percent (rest : List Char) :
    comment? ('%' :: rest) = some (String.ofList (strip rest)) := by
  simp [comment?]

theorem comment?_cons {c : Char} (hc : c ≠ '%') (rest : List Char) :
    comment? (c :: rest) = comment? rest := by
  simp [comment?, hc]

theorem comment?_of_not_mem {line : List Char} (h : '%' ∉ line) : comment? line = none := by
  induction line with
  | nil => rfl
  | cons c rest ih =>
    rw [List.mem_cons, not_or] at h
    rw [comment?_cons (Ne.symm h.1), ih h.2]

/-- **A line sounds like its two parts, one after the other.** -/
theorem scan_beforeComment_append (line : List Char) :
    NoteText.scan line = NoteText.scan (beforeComment line) ++ NoteText.scan (commentOf line) := by
  have hline := beforeComment_append_commentOf line
  rcases commentOf_eq_nil_or line with h | ⟨rest, h⟩
  · rw [h, List.append_nil] at hline
    rw [h, hline, NoteText.scan_nil, List.append_nil]
  · have hgap : isGap '%' = true := by decide
    have hrest : NoteText.scan ('%' :: rest) = NoteText.scan rest :=
      NoteText.scanFrom_gap hgap [] rest
    rw [h] at hline
    rw [h, hrest, ← NoteText.scan_append hgap, hline]

/-! ### Lines of a text without comments -/

theorem lines_withoutComments (text : String) :
    lines (withoutComments text).toList = (lines text.toList).map beforeComment := by
  rw [withoutComments, String.toList_ofList]
  refine lines_joined (by simpa using lines_ne_nil text.toList) ?_
  intro line hl
  obtain ⟨whole, hw, rfl⟩ := List.mem_map.1 hl
  intro hn
  exact separator_not_mem_pieces hw ((beforeComment_sublist whole).subset hn)

theorem comments_withoutComments (text : String) :
    (Remarks.of (withoutComments text).toList).comments = [] := by
  rw [Remarks.of, lines_withoutComments, List.filterMap_map, List.filterMap_eq_nil_iff]
  intro line _
  exact comment?_of_not_mem (percent_not_mem_beforeComment line)

theorem head?_stripEnd {c : Char} (hc : isBlank c = false) (cs : List Char) :
    ((stripEnd cs).head? == some c) = (cs.head? == some c) := by
  cases cs with
  | nil => rfl
  | cons d rest =>
    by_cases hd : isBlank d = true
    · have hne : d ≠ c := by
        rintro rfl
        rw [hc] at hd
        cases hd
      have hbegins : stripEnd (d :: rest) <+: d :: rest := by
        rw [stripEnd, ← List.reverse_suffix, List.reverse_reverse]
        exact List.dropWhile_suffix isBlank
      cases hs : stripEnd (d :: rest) with
      | nil => simp [hne]
      | cons e more =>
        rw [hs, List.cons_prefix_cons] at hbegins
        simp [hbegins.1]
    · rw [stripEnd_cons_of_not_isBlank (by simpa using hd)]
      rfl

theorem isNone_split?_cons (c : Char) (rest : List Char) :
    (Field.split? (c :: rest)).isNone
      = !(rest.head? == some ':' && (Field.ofLetter? c).isSome) := by
  cases rest with
  | nil => rfl
  | cons d more =>
    by_cases hd : d = ':'
    · subst hd
      simp [Field.split?]
    · simp [Field.split?, hd]

namespace Header

theorem endsAt_cons_blank {c : Char} (hc : isBlank c = true) (rest : List Char) :
    endsAt (c :: rest) = endsAt rest := endsAt_congr (strip_cons hc rest)

theorem endsAt_cons {c : Char} (hc : isBlank c = false) (rest : List Char) :
    endsAt (c :: rest) = !(rest.head? == some ':' && (Field.ofLetter? c).isSome) := by
  have htag := isNone_split?_cons c (stripEnd rest)
  rw [head?_stripEnd (by decide)] at htag
  rw [← htag, endsAt, Line.classify, strip_cons_of_not_isBlank hc]
  cases hr : Field.split? (c :: stripEnd rest) with
  | none => simp [hr]
  | some r => simp [hr]

/-- **A line of music stays one without its comment, unless all of it is a comment.** -/
theorem endsAt_beforeComment (line : List Char) :
    endsAt (beforeComment line) = (endsAt line && !isCommentLine line) := by
  induction line with
  | nil => rfl
  | cons c rest ih =>
    by_cases hb : isBlank c = true
    · have hc : c ≠ '%' := by
        rintro rfl
        exact absurd hb (by decide)
      rw [beforeComment_cons hc, endsAt_cons_blank hb, endsAt_cons_blank hb, ih]
      simp [isCommentLine, hb]
    · rw [Bool.not_eq_true] at hb
      by_cases hc : c = '%'
      · subst hc
        have hcomment : isCommentLine ('%' :: rest) = true := by simp [isCommentLine, hb]
        rw [beforeComment_percent, hcomment, Bool.not_true, Bool.and_false]
        rfl
      · have hcomment : isCommentLine (c :: rest) = false := by simp [isCommentLine, hb, hc]
        have hhead : ((beforeComment rest).head? == some ':') = (rest.head? == some ':') := by
          cases rest with
          | nil => rfl
          | cons d more =>
            by_cases hd : d = '%'
            · simp [hd]
            · simp [beforeComment_cons hd]
        rw [beforeComment_cons hc, endsAt_cons hb, endsAt_cons hb, hhead, hcomment]
        simp

theorem endsAt_beforeComment_eq_false {line : List Char} (h : endsAt line = false) :
    endsAt (beforeComment line) = false := by
  rw [endsAt_beforeComment, h, Bool.false_and]

/-! ### The parts of a tune -/

/-- **The parts of a tune, read off the line where its header ends.** -/
theorem parts_eq (h : Header) (ls : List (List Char)) :
    parts h ls = (do
      let (header, _) ← readFrom h (ls.takeWhile fun line => !endsAt line)
      .ok (header, (ls.dropWhile fun line => !endsAt line).flatMap NoteText.scan)) := by
  rw [readFrom_takeWhile, parts]
  refine bind_congr_of_ok ?_
  rintro ⟨header, n⟩ hr
  simp only [readFrom_length hr, drop_length_takeWhile]

end Header

/-- What stands above and below the line where the header ends, without comments: blank lines and
fields that stood below comments go up. -/
theorem takeWhile_dropWhile_beforeComment (ls : List (List Char)) :
    let above := ls.takeWhile fun line => !Header.endsAt line
    let below := (ls.dropWhile fun line => !Header.endsAt line).map beforeComment
    (ls.map beforeComment).takeWhile (fun line => !Header.endsAt line)
        = above.map beforeComment ++ below.takeWhile (fun line => !Header.endsAt line) ∧
      (ls.map beforeComment).dropWhile (fun line => !Header.endsAt line)
        = below.dropWhile fun line => !Header.endsAt line := by
  intro above below
  have hls : ls.map beforeComment = above.map beforeComment ++ below := by
    rw [← List.map_append, List.takeWhile_append_dropWhile]
  have habove : ∀ line ∈ above.map beforeComment, (!Header.endsAt line) = true := by
    intro line hl
    obtain ⟨whole, hw, rfl⟩ := List.mem_map.1 hl
    have hend := List.mem_takeWhile_imp hw
    simp only [Bool.not_eq_true'] at hend ⊢
    exact Header.endsAt_beforeComment_eq_false hend
  rw [hls, List.takeWhile_append_of_pos habove, List.dropWhile_append_of_pos habove]
  exact ⟨rfl, rfl⟩

/-! ### Fewer notes -/

theorem mapM_sublist {ε α β : Type} {f : α → Except ε β} {l l' : List α} {r : List β}
    (h : l.mapM f = .ok r) (hl : l'.Sublist l) : ∃ r', l'.mapM f = .ok r' ∧ r'.Sublist r := by
  induction hl generalizing r with
  | slnil => exact ⟨r, h, List.Sublist.refl r⟩
  | cons a _ ih =>
    rw [List.mapM_cons] at h
    obtain ⟨b, _, h⟩ := bind_eq_ok.1 h
    obtain ⟨more, hm, h⟩ := bind_eq_ok.1 h
    cases h
    obtain ⟨r', hr', hs⟩ := ih hm
    exact ⟨r', hr', hs.cons b⟩
  | cons_cons a _ ih =>
    rw [List.mapM_cons] at h
    obtain ⟨b, hb, h⟩ := bind_eq_ok.1 h
    obtain ⟨more, hm, h⟩ := bind_eq_ok.1 h
    cases h
    obtain ⟨r', hr', hs⟩ := ih hm
    refine ⟨b :: r', ?_, hs.cons_cons b⟩
    rw [List.mapM_cons, hb, ok_bind, hr', ok_bind]
    rfl

theorem flatMap_scan_beforeComment_sublist (ls : List (List Char)) :
    ((ls.map beforeComment).flatMap NoteText.scan).Sublist (ls.flatMap NoteText.scan) := by
  induction ls with
  | nil => exact List.Sublist.refl _
  | cons line rest ih =>
    rw [List.map_cons, List.flatMap_cons, List.flatMap_cons, scan_beforeComment_append line]
    exact (List.sublist_append_left _ _).append ih

theorem flatMap_scan_dropWhile_sublist (below : List (List Char)) (p : List Char → Bool) :
    (((below.map beforeComment).dropWhile p).flatMap NoteText.scan).Sublist
      (below.flatMap NoteText.scan) := by
  refine List.Sublist.trans ?_ (flatMap_scan_beforeComment_sublist below)
  rw [← List.takeWhile_append_dropWhile (p := p) (l := below.map beforeComment),
    List.flatMap_append, List.takeWhile_append_dropWhile]
  exact List.sublist_append_right _ _

theorem eq_append_iff_of_sublist {α : Type} {part front whole : List α}
    (h : part.Sublist whole) : part = front ++ whole ↔ front = [] ∧ part = whole := by
  constructor
  · intro e
    have hle := h.length_le
    have hlen := congrArg List.length e
    rw [List.length_append] at hlen
    have hnil : front = [] := List.eq_nil_of_length_eq_zero (by omega)
    rw [hnil, List.nil_append] at e
    exact ⟨hnil, e⟩
  · rintro ⟨rfl, rfl⟩
    rfl

theorem flatMap_scan_beforeComment_eq_iff (ls : List (List Char)) :
    (ls.map beforeComment).flatMap NoteText.scan = ls.flatMap NoteText.scan ↔
      ∀ line ∈ ls, ∀ c ∈ commentOf line, isNoteLetter c = false := by
  induction ls with
  | nil => simp
  | cons line rest ih =>
    rw [List.forall_mem_cons, ← ih, ← scan_eq_nil_iff, List.map_cons, List.flatMap_cons,
      List.flatMap_cons, scan_beforeComment_append line, List.append_assoc,
      List.append_cancel_left_eq]
    exact eq_append_iff_of_sublist (flatMap_scan_beforeComment_sublist rest)

theorem flatMap_scan_dropWhile_eq_iff (below : List (List Char)) (p : List Char → Bool) :
    ((below.map beforeComment).dropWhile p).flatMap NoteText.scan = below.flatMap NoteText.scan ↔
      (∀ line ∈ below, ∀ c ∈ commentOf line, isNoteLetter c = false) ∧
        ∀ line ∈ (below.map beforeComment).takeWhile p, ∀ c ∈ line, isNoteLetter c = false := by
  have hsplit := List.takeWhile_append_dropWhile (p := p) (l := below.map beforeComment)
  have hall := congrArg (List.flatMap NoteText.scan) hsplit
  rw [List.flatMap_append] at hall
  have hup : (∀ line ∈ (below.map beforeComment).takeWhile p, ∀ c ∈ line, isNoteLetter c = false) ↔
      ((below.map beforeComment).takeWhile p).flatMap NoteText.scan = [] := by
    simp only [List.flatMap_eq_nil_iff, scan_eq_nil_iff]
  rw [← flatMap_scan_beforeComment_eq_iff, hup]
  constructor
  · intro e
    rw [e] at hall
    obtain ⟨hnil, hsame⟩ :=
      (eq_append_iff_of_sublist (flatMap_scan_beforeComment_sublist below)).1 hall.symm
    exact ⟨hsame, hnil⟩
  · rintro ⟨e, hnil⟩
    rw [hnil, List.nil_append, e] at hall
    exact hall

/-! ### A tune without its comments -/

theorem takeWhile_beforeComment_eq_nil {ls : List (List Char)}
    (h : (ls.dropWhile fun line => !Header.endsAt line).head?.any isCommentLine = false) :
    ((ls.dropWhile fun line => !Header.endsAt line).map beforeComment).takeWhile
      (fun line => !Header.endsAt line) = [] := by
  have hmusic := head?_dropWhile_any (fun line => !Header.endsAt line) ls
  cases hb : ls.dropWhile fun line => !Header.endsAt line with
  | nil => rfl
  | cons first rest =>
    rw [hb] at h hmusic
    have hends : Header.endsAt (beforeComment first) = true := by
      rw [Header.endsAt_beforeComment]
      simpa using And.intro hmusic h
    rw [List.map_cons, List.takeWhile_cons_of_neg (by simp [hends])]

theorem Tune.read_withoutComments_eq {text : String} {above below : List (List Char)}
    {kept : List Note}
    (habove : (lines text.toList).takeWhile (fun line => !Header.endsAt line) = above)
    (hbelow : (lines text.toList).dropWhile (fun line => !Header.endsAt line) = below)
    (hkept : (((below.map beforeComment).dropWhile fun line => !Header.endsAt line).flatMap
      NoteText.scan).mapM NoteText.note = .ok kept) :
    Tune.read (withoutComments text) = (do
      let (header, _) ← Header.read (above.map beforeComment
        ++ (below.map beforeComment).takeWhile fun line => !Header.endsAt line)
      .ok ⟨header, kept, ⟨[], (withoutComments text).toList.count '|'⟩⟩) := by
  obtain ⟨hup, hdown⟩ := takeWhile_dropWhile_beforeComment (lines text.toList)
  rw [habove, hbelow] at hup
  rw [hbelow] at hdown
  have hremarks : Remarks.of (withoutComments text).toList
      = ⟨[], (withoutComments text).toList.count '|'⟩ := by
    rw [← comments_withoutComments text]
    rfl
  rw [Tune.read_eq, lines_withoutComments, Header.parts_eq, hup, hdown, bind_assoc, hremarks]
  refine bind_congr ?_
  rintro ⟨header, _⟩
  simp only [ok_bind, hkept]

/-- **What a tune is without its comments.**  The header is read from the lines that it was read
from, without their comments, and from those that stood right below with nothing but comments
between them and the header.  Of the notes some are kept, and all of them exactly where no comment
in the body holds the letter of a note, and no line that goes up to the header does.  Where the
header holds no percent sign and the body does not begin with a comment, the header stays. -/
theorem Tune.read_withoutComments {text : String} {tune : Tune}
    (parsed : Tune.read text = .ok tune) :
    let above := (lines text.toList).takeWhile fun line => !Header.endsAt line
    let below := (lines text.toList).dropWhile fun line => !Header.endsAt line
    let uncovered := (below.map beforeComment).takeWhile fun line => !Header.endsAt line
    let bars := (withoutComments text).toList.count '|'
    ∃ kept : List Note, kept.Sublist tune.notes ∧
      (kept = tune.notes ↔
        (∀ line ∈ below, ∀ c ∈ commentOf line, isNoteLetter c = false) ∧
          ∀ line ∈ uncovered, ∀ c ∈ line, isNoteLetter c = false) ∧
      Tune.read (withoutComments text) = (do
        let (header, _) ← Header.read (above.map beforeComment ++ uncovered)
        .ok ⟨header, kept, ⟨[], bars⟩⟩) ∧
      ((∀ line ∈ above, '%' ∉ line) → below.head?.any isCommentLine = false →
        Tune.read (withoutComments text) = .ok ⟨tune.header, kept, ⟨[], bars⟩⟩) := by
  intro above below uncovered bars
  obtain ⟨hheader, hnotes⟩ := Tune.read_eq_ok parsed
  rw [readNotes_eq] at hnotes
  have hsub := flatMap_scan_dropWhile_sublist below fun line => !Header.endsAt line
  obtain ⟨kept, hkept, hnotesub⟩ := mapM_sublist hnotes hsub
  have hread := Tune.read_withoutComments_eq rfl rfl hkept
  refine ⟨kept, hnotesub, ?_, hread, ?_⟩
  · rw [← flatMap_scan_dropWhile_eq_iff]
    constructor
    · intro e
      refine hsub.eq_of_length ?_
      rw [(mapM_eq_ok.1 hkept).length_eq, e, (mapM_eq_ok.1 hnotes).length_eq]
    · intro e
      rw [e, hnotes] at hkept
      cases hkept
      rfl
  · intro hplain hbegins
    have habove : above.map beforeComment = above := by
      rw [List.map_congr_left fun line hl => beforeComment_eq_self (hplain line hl), List.map_id']
    rw [hread, habove, takeWhile_beforeComment_eq_nil hbegins, List.append_nil, hheader]
    rfl

/-- A comment behind the notes of a line, and none of its letters is that of a note. -/
theorem Tune.read_withoutComments_joy :
    Tune.read "T:Song\nK:D\nC2|%joy\nE" = .ok
        { header := { title := "Song", key := "D" }
          notes := [⟨"C", 60, 2, "", 4⟩, ⟨"E", 64, 1, "", 4⟩]
          remarks := { comments := ["joy"], bars := 1 } } ∧
      Tune.read (withoutComments "T:Song\nK:D\nC2|%joy\nE") = .ok
        { header := { title := "Song", key := "D" }
          notes := [⟨"C", 60, 2, "", 4⟩, ⟨"E", 64, 1, "", 4⟩]
          remarks := { comments := [], bars := 1 } } := by
  have parsed : Tune.read "T:Song\nK:D\nC2|%joy\nE" = .ok
      { header := { title := "Song", key := "D" }
        notes := [⟨"C", 60, 2, "", 4⟩, ⟨"E", 64, 1, "", 4⟩]
        remarks := { comments := ["joy"], bars := 1 } } := by
    decide +kernel
  have plain : ((lines "T:Song\nK:D\nC2|%joy\nE".toList).takeWhile fun line =>
      !Header.endsAt line).all (fun line => line.all (· != '%')) = true := by
    decide +kernel
  have silent : ((lines "T:Song\nK:D\nC2|%joy\nE".toList).dropWhile fun line =>
      !Header.endsAt line).all (fun line => (commentOf line).all (!isNoteLetter ·)) = true := by
    decide +kernel
  have covered : (((lines "T:Song\nK:D\nC2|%joy\nE".toList).dropWhile fun line =>
      !Header.endsAt line).map beforeComment).takeWhile (fun line => !Header.endsAt line) = [] := by
    decide +kernel
  have begins : (((lines "T:Song\nK:D\nC2|%joy\nE".toList).dropWhile fun line =>
      !Header.endsAt line).head?.any isCommentLine) = false := by
    decide +kernel
  obtain ⟨kept, _, hall, _, hstays⟩ := Tune.read_withoutComments parsed
  have hkept := hall.2 ⟨fun line hl c hc => by
      simpa using List.all_eq_true.1 (List.all_eq_true.1 silent line hl) c hc,
    fun line hl => absurd (covered ▸ hl) List.not_mem_nil⟩
  have hread := hstays (by
    intro line hl hp
    have hline := List.all_eq_true.1 (List.all_eq_true.1 plain line hl) '%' hp
    exact absurd hline (by decide)) begins
  rw [hkept] at hread
  exact ⟨parsed, hread⟩

/-- A comment that is played, and a comment that hides the fields below it. -/
theorem comments_sound :
    (¬ ∀ (text : String) (tune : Tune), Tune.read text = .ok tune →
      ∃ tune', Tune.read (withoutComments text) = .ok tune' ∧ tune'.notes = tune.notes) ∧
    ¬ ∀ (text : String) (tune : Tune), Tune.read text = .ok tune →
      (∀ line ∈ lines text.toList, (Field.split? (strip line)).isSome → '%' ∉ line) →
      ∃ tune', Tune.read (withoutComments text) = .ok tune' ∧ tune'.header = tune.header := by
  constructor
  · intro h
    have parsed : Tune.read "K:C\nC%A" = .ok
        ⟨{}, [⟨"C", 60, 1, "", 4⟩, ⟨"A", 69, 1, "", 4⟩], ⟨["A"], 0⟩⟩ := by
      decide +kernel
    have without : Tune.read (withoutComments "K:C\nC%A")
        = .ok ⟨{}, [⟨"C", 60, 1, "", 4⟩], ⟨[], 0⟩⟩ := by
      decide +kernel
    obtain ⟨tune', hread, hnotes⟩ := h _ _ parsed
    rw [without] at hread
    cases hread
    exact absurd hnotes (by decide)
  · intro h
    have parsed : Tune.read "%x\nT:Song\nK:D\nC" = .ok
        ⟨{}, [⟨"g", 79, 1, "", 4⟩, ⟨"D", 62, 1, "", 4⟩, ⟨"C", 60, 1, "", 4⟩], ⟨["x"], 0⟩⟩ := by
      decide +kernel
    have without : Tune.read (withoutComments "%x\nT:Song\nK:D\nC") = .ok
        ⟨{ title := "Song", key := "D" }, [⟨"C", 60, 1, "", 4⟩], ⟨[], 0⟩⟩ := by
      decide +kernel
    obtain ⟨tune', hread, hheader⟩ := h _ _ parsed (by decide +kernel)
    rw [without] at hread
    cases hread
    exact absurd hheader (by decide)

end Tunebook
