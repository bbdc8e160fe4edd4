import Tunebook.Proofs.Stage
import Tunebook.Proofs.Text.Lines
import Tunebook.Proofs.Tune.Scan
import Tunebook.Tune.Basic

/-!
# The parts of a tune

`Tune.read` strips a text, cuts it into lines, reads the header off the first ones and
the notes off the others.  `Header.parts` does the last two on any lines, with one
equation for each kind of line, and sees a line only through its stripped form
(`parts_of_map_strip`).  So stripping the text first changes nothing
(`parts_lines_strip`), and a tune is read off the lines of the text as it stands
(`Tune.read_eq`).

* `Header.readFrom_length`: the header ends at the first line of music.
* `Header.readFrom_takeWhile`: the lines from there on do not matter to it.
* `readNotes_eq`: the notes of lines are those of each line, one after another.
-/

namespace Tunebook

theorem readNotes_eq (ls : List (List Char)) :
    readNotes ls = (ls.flatMap NoteText.scan).mapM NoteText.note := by
  rw [readNotes, NoteText.scan_joined]

theorem classify_congr {line line' : List Char} (h : strip line = strip line') :
    Line.classify line = Line.classify line' := by
  rw [Line.classify, Line.classify, h]

namespace Header

/-! ### The end of the header -/

/-- Whether a line is music, as the header is read. -/
def endsAt (line : List Char) : Bool := Line.classify line = .music

/-- **The header ends at the first line of music.** -/
theorem readFrom_length {ls : List (List Char)} {h header : Header} {n : Nat}
    (hr : readFrom h ls = .ok (header, n)) :
    n = (ls.takeWhile fun line => !endsAt line).length := by
  induction ls generalizing h header n with
  | nil =>
    cases hr
    rfl
  | cons line rest ih =>
    rw [readFrom] at hr
    cases hk : Line.classify line with
    | blank =>
      rw [hk] at hr
      obtain ⟨⟨h', k⟩, hk', hr⟩ := bind_eq_ok.1 hr
      cases hr
      rw [List.takeWhile_cons_of_pos (by simp [endsAt, hk]), List.length_cons, ← ih hk']
    | field f value =>
      rw [hk] at hr
      obtain ⟨h₁, _, hr⟩ := bind_eq_ok.1 hr
      obtain ⟨⟨h', k⟩, hk', hr⟩ := bind_eq_ok.1 hr
      cases hr
      rw [List.takeWhile_cons_of_pos (by simp [endsAt, hk]), List.length_cons, ← ih hk']
    | music =>
      rw [hk] at hr
      cases hr
      rw [List.takeWhile_cons_of_neg (by simp [endsAt, hk]), List.length_nil]

/-- The lines from the first line of music on do not matter to the header. -/
theorem readFrom_takeWhile (h : Header) (ls : List (List Char)) :
    readFrom h (ls.takeWhile fun line => !endsAt line) = readFrom h ls := by
  induction ls generalizing h with
  | nil => rfl
  | cons line rest ih =>
    cases hk : Line.classify line with
    | blank =>
      rw [List.takeWhile_cons_of_pos (by simp [endsAt, hk]), readFrom, readFrom, hk]
      simp only [ih]
    | field f value =>
      rw [List.takeWhile_cons_of_pos (by simp [endsAt, hk]), readFrom, readFrom, hk]
      simp only [ih]
    | music =>
      rw [List.takeWhile_cons_of_neg (by simp [endsAt, hk]), readFrom, readFrom, hk]

/-! ### Header and note texts together -/

/-- The header of lines, read on from a header, and the note texts of the lines below it. -/
def parts (h : Header) (ls : List (List Char)) : Except Fault (Header × List NoteText) := do
  let (header, n) ← readFrom h ls
  .ok (header, (ls.drop n).flatMap NoteText.scan)

theorem parts_nil (h : Header) : parts h [] = .ok (h, []) := rfl

theorem parts_blank {line : List Char} (hl : Line.classify line = .blank) (h : Header)
    (rest : List (List Char)) : parts h (line :: rest) = parts h rest := by
  rw [parts, parts, readFrom, hl]
  cases readFrom h rest <;> rfl

theorem parts_field {line value : List Char} {f : Field} (hl : Line.classify line = .field f value)
    (h : Header) (rest : List (List Char)) :
    parts h (line :: rest) = (h.set f value >>= fun h => parts h rest) := by
  rw [parts, readFrom, hl]
  simp only [bind, Except.bind]
  cases h.set f value with
  | error e => rfl
  | ok h₁ =>
    simp only [parts, bind, Except.bind]
    cases readFrom h₁ rest <;> rfl

theorem parts_music {line : List Char} (hl : Line.classify line = .music) (h : Header)
    (rest : List (List Char)) :
    parts h (line :: rest) = .ok (h, (line :: rest).flatMap NoteText.scan) := by
  rw [parts, readFrom, hl]
  rfl

theorem flatMap_scan_map_strip (ls : List (List Char)) :
    (ls.map strip).flatMap NoteText.scan = ls.flatMap NoteText.scan := by
  rw [List.flatMap_map]
  congr 1
  funext line
  exact NoteText.scan_strip line

theorem parts_map_strip (h : Header) (ls : List (List Char)) :
    parts h (ls.map strip) = parts h ls := by
  induction ls generalizing h with
  | nil => rfl
  | cons line rest ih =>
    have hs : Line.classify (strip line) = Line.classify line := classify_congr (strip_strip line)
    rw [List.map_cons]
    cases hk : Line.classify line with
    | blank => rw [parts_blank (hs.trans hk), parts_blank hk, ih]
    | field f value => simp only [parts_field (hs.trans hk), parts_field hk, ih]
    | music =>
      rw [parts_music (hs.trans hk), parts_music hk, ← List.map_cons, flatMap_scan_map_strip]

/-- A line is seen only through its stripped form. -/
theorem parts_of_map_strip {ls ls' : List (List Char)} (e : ls.map strip = ls'.map strip)
    (h : Header) : parts h ls = parts h ls' := by
  rw [← parts_map_strip h ls, e, parts_map_strip]

theorem classify_blank {line : List Char} (hl : allBlank line = true) :
    Line.classify line = .blank := by
  rw [Line.classify, (strip_eq_nil_iff line).2 hl]

theorem scan_blank {line : List Char} (hl : allBlank line = true) : NoteText.scan line = [] := by
  rw [← NoteText.scan_strip, (strip_eq_nil_iff line).2 hl, NoteText.scan_nil]

theorem parts_concat_blank {line : List Char} (hl : allBlank line = true) (h : Header)
    (ls : List (List Char)) : parts h (ls ++ [line]) = parts h ls := by
  induction ls generalizing h with
  | nil => rw [List.nil_append, parts_blank (classify_blank hl), parts_nil]
  | cons first rest ih =>
    rw [List.cons_append]
    cases hk : Line.classify first with
    | blank => rw [parts_blank hk, parts_blank hk, ih]
    | field f value => simp only [parts_field hk, ih]
    | music =>
      rw [parts_music hk, parts_music hk, ← List.cons_append, List.flatMap_append,
        List.flatMap_singleton, scan_blank hl, List.append_nil]

/-- **Stripping a text does not change the parts of its lines.** -/
theorem parts_lines_strip (h : Header) (cs : List Char) :
    parts h (lines (strip cs)) = parts h (lines cs) := by
  refine lines_strip_invariant (parts h) ?_ ?_ ?_ cs
  · intro ls ls' e
    exact parts_of_map_strip e h
  · intro ls
    exact parts_blank rfl h ls
  · intro ls
    exact parts_concat_blank rfl h ls

end Header

/-- **A tune is read off the lines of its text as it stands.** -/
theorem Tune.read_eq (text : String) : Tune.read text = (do
    let (header, texts) ← Header.parts {} (lines text.toList)
    let notes ← texts.mapM NoteText.note
    .ok ⟨header, notes, .of text.toList⟩) := by
  rw [← Header.parts_lines_strip, Tune.read, Header.parts, Header.read]
  cases Header.readFrom {} (lines (strip text.toList)) with
  | error f => rfl
  | ok r => simp only [bind, Except.bind, readNotes_eq]

theorem Tune.read_eq_ok {text : String} {tune : Tune} (h : Tune.read text = .ok tune) :
    let above := (lines text.toList).takeWhile fun line => !Header.endsAt line
    Header.read above = .ok (tune.header, above.length) ∧
      readNotes ((lines text.toList).dropWhile fun line => !Header.endsAt line)
        = .ok tune.notes := by
  intro above
  rw [Tune.read_eq] at h
  obtain ⟨⟨header, texts⟩, hp, h⟩ := bind_eq_ok.1 h
  obtain ⟨notes, hn, h⟩ := bind_eq_ok.1 h
  obtain ⟨⟨header', n⟩, hr, hp⟩ := bind_eq_ok.1 hp
  cases h
  cases hp
  have hlen := Header.readFrom_length hr
  constructor
  · rw [Header.read, Header.readFrom_takeWhile, hr, hlen]
  · rw [readNotes_eq, ← drop_length_takeWhile, ← hlen]
    exact hn

end Tunebook
