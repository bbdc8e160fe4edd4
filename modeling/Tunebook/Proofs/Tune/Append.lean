import Tunebook.Proofs.Tune.Parts

/-!
# Writing on in a tune

Once the body of a tune has begun, more lines below it only add to it.  The header stays
as it is, since it ends at the first line of music and that line stands where it stood;
a field among the new lines is part of the body like any other line.  Nothing of a note,
of a comment or of a bar line reaches across the line feed before the new lines.

* `Header.parts_append`: below a line of music, lines add their note texts.
* `Remarks.of_append`: the remarks of two texts with a line feed between them.
* `Tune.read_append`: **a tune is written on line by line.**
-/

namespace Tunebook

namespace Header

theorem endsAt_congr {line line' : List Char} (h : strip line = strip line') :
    endsAt line = endsAt line' := by
  rw [endsAt, endsAt, classify_congr h]

theorem any_endsAt_map_strip (ls : List (List Char)) :
    (ls.map strip).any endsAt = ls.any endsAt := by
  rw [List.any_map]
  congr 1
  funext line
  exact endsAt_congr (strip_strip line)

theorem any_endsAt_lines_strip (cs : List Char) :
    (lines (strip cs)).any endsAt = (lines cs).any endsAt := by
  refine lines_strip_invariant (fun ls => ls.any endsAt) ?_ ?_ ?_ cs
  · intro ls ls' e
    rw [← any_endsAt_map_strip ls, e, any_endsAt_map_strip]
  · intro ls
    have hblank : endsAt [] = false := rfl
    rw [List.any_cons, hblank, Bool.false_or]
  · intro ls
    have hblank : endsAt [] = false := rfl
    rw [List.any_append, List.any_cons, hblank, Bool.false_or, List.any_nil, Bool.or_false]

theorem any_endsAt_of_read {ls : List (List Char)} {header : Header} {boundary : Nat}
    (h : read ls = .ok (header, boundary)) (hb : boundary < ls.length) :
    ls.any endsAt = true := by
  cases hany : ls.any endsAt with
  | true => rfl
  | false =>
    have hnone : ∀ line ∈ ls, (!endsAt line) = true := by
      intro line hl
      rw [List.any_eq_false] at hany
      rw [Bool.eq_false_iff.2 (hany line hl), Bool.not_false]
    have hlen := readFrom_length h
    rw [List.takeWhile_eq_self_iff.2 hnone] at hlen
    omega

/-- **Below a line of music, lines add their note texts and nothing else.** -/
theorem parts_append {ls : List (List Char)} (hbody : ls.any endsAt = true) (h : Header)
    (more : List (List Char)) :
    parts h (ls ++ more)
      = (parts h ls >>= fun p => .ok (p.1, p.2 ++ more.flatMap NoteText.scan)) := by
  induction ls generalizing h with
  | nil => cases hbody
  | cons line rest ih =>
    rw [List.any_cons] at hbody
    rw [List.cons_append]
    cases hk : Line.classify line with
    | blank =>
      have hrest : rest.any endsAt = true := by simpa [endsAt, hk] using hbody
      rw [parts_blank hk, parts_blank hk, ih hrest]
    | field f value =>
      have hrest : rest.any endsAt = true := by simpa [endsAt, hk] using hbody
      rw [parts_field hk, parts_field hk, bind_assoc]
      refine bind_congr fun h₁ => ?_
      exact ih hrest h₁
    | music =>
      rw [parts_music hk, parts_music hk, ← List.cons_append, List.flatMap_append]
      rfl

end Header

theorem Remarks.of_append (cs more : List Char) :
    Remarks.of (cs ++ '\n' :: more)
      = ⟨(Remarks.of cs).comments ++ (Remarks.of more).comments,
        (Remarks.of cs).bars + (Remarks.of more).bars⟩ := by
  have hbar : ('\n' :: more).count '|' = more.count '|' := List.count_cons_of_ne (by decide)
  rw [Remarks.of, Remarks.of, Remarks.of, lines_append, List.filterMap_append, List.count_append,
    hbar]

theorem toList_append_lineFeed (before after : String) :
    (before ++ "\n" ++ after).toList = before.toList ++ '\n' :: after.toList := by
  rw [String.toList_append, String.toList_append, List.append_assoc]
  rfl

/-- **A tune is written on line by line.**  Where a text has a body and is read as a tune, and the
notes of another text can be read, both with a line feed between them are read as a tune: with the
header of the first, with the notes and the comments of the first and then those of the second, and
with the bar lines of both. -/
theorem Tune.read_append {before after : String} {header : Header} {boundary : Nat} {tune : Tune}
    {more : List Note}
    (headed : Header.read (lines (strip before.toList)) = .ok (header, boundary))
    (begun : boundary < (lines (strip before.toList)).length)
    (parsed : Tune.read before = .ok tune)
    (added : readNotes (lines after.toList) = .ok more) :
    Tune.read (before ++ "\n" ++ after) = .ok
      { header := tune.header
        notes := tune.notes ++ more
        remarks :=
          { comments := tune.remarks.comments ++ (Remarks.of after.toList).comments
            bars := tune.remarks.bars + (Remarks.of after.toList).bars } } := by
  have hbody := Header.any_endsAt_of_read headed begun
  rw [Header.any_endsAt_lines_strip] at hbody
  rw [Tune.read_eq] at parsed
  obtain ⟨⟨first, texts⟩, hparts, parsed⟩ := bind_eq_ok.1 parsed
  obtain ⟨notes, hnotes, parsed⟩ := bind_eq_ok.1 parsed
  cases parsed
  rw [readNotes_eq] at added
  have hall := mapM_eq_ok.2 (List.rel_append (mapM_eq_ok.1 hnotes) (mapM_eq_ok.1 added))
  rw [Tune.read_eq, toList_append_lineFeed, lines_append, Header.parts_append hbody, hparts,
    Remarks.of_append]
  simp only [bind, Except.bind, hall]

/-- A mark and a digit below the seam do not join the note above it, and a field is a line of the
body there. -/
theorem Tune.read_append_field :
    Header.read (lines (strip "K:D\nC2|%up\nG".toList)) = .ok ({ key := "D" }, 1) ∧
      1 < (lines (strip "K:D\nC2|%up\nG".toList)).length ∧
      Tune.read ("K:D\nC2|%up\nG" ++ "\n" ++ "'4\nK:e|%low") = .ok
        { header := { key := "D" }
          notes := [⟨"C", 60, 2, "", 4⟩, ⟨"G", 67, 1, "", 4⟩, ⟨"e", 76, 1, "", 4⟩]
          remarks := { comments := ["up", "low"], bars := 2 } } := by
  have headed : Header.read (lines (strip "K:D\nC2|%up\nG".toList)) = .ok ({ key := "D" }, 1) := by
    decide +kernel
  have begun : 1 < (lines (strip "K:D\nC2|%up\nG".toList)).length := by decide +kernel
  have parsed : Tune.read "K:D\nC2|%up\nG" = .ok
      { header := { key := "D" }
        notes := [⟨"C", 60, 2, "", 4⟩, ⟨"G", 67, 1, "", 4⟩]
        remarks := { comments := ["up"], bars := 1 } } := by
    decide +kernel
  have added : readNotes (lines "'4\nK:e|%low".toList) = .ok [⟨"e", 76, 1, "", 4⟩] := by
    decide +kernel
  exact ⟨headed, begun, Tune.read_append headed begun parsed added⟩

end Tunebook
