import Tunebook.Proofs.Text.Blank
import Tunebook.Text.Lines

/-!
# Where lines end

A line feed ends a line and any other character belongs to one, at the front of a text
and at its end.

* `lines_append`: two texts with a line feed between them have the lines of both.
* `lines_cons`, `lines_concat`: another character joins the first or the last line.
* `lines_strip_invariant`: what sees neither blanks around a line nor blank lines at the
  ends does not see whether the text was stripped.
* `separator_not_mem_pieces`, `mem_pieces_of_mem`, `lines_joined`: cutting a text and putting its
  lines together.
* `infix_joined`: a piece stands in the pieces put together as it is.
-/

namespace Tunebook

theorem lines_nil : lines [] = [[]] := rfl

theorem lines_ne_nil (cs : List Char) : lines cs ≠ [] := pieces_ne_nil '\n' cs

theorem lines_lineFeed (cs : List Char) : lines ('\n' :: cs) = [] :: lines cs := by
  rw [lines, pieces, if_pos rfl, lines]

theorem lines_cons {c : Char} (hc : c ≠ '\n') {cs : List Char} {line : List Char}
    {more : List (List Char)}
    (h : lines cs = line :: more) : lines (c :: cs) = (c :: line) :: more := by
  rw [lines] at h ⊢
  rw [pieces, if_neg hc, h]

/-- **A line feed between two texts separates their lines.** -/
theorem lines_append (cs more : List Char) :
    lines (cs ++ '\n' :: more) = lines cs ++ lines more := by
  induction cs with
  | nil => exact lines_lineFeed more
  | cons c rest ih =>
    by_cases hc : c = '\n'
    · rw [hc, List.cons_append, lines_lineFeed, lines_lineFeed, ih, List.cons_append]
    · obtain ⟨line, others, h⟩ := List.exists_cons_of_ne_nil (lines_ne_nil rest)
      rw [h, List.cons_append] at ih
      rw [List.cons_append, lines_cons hc ih, lines_cons hc h, List.cons_append]

theorem lines_concat {c : Char} (hc : c ≠ '\n') (cs : List Char) :
    ∃ others line, lines cs = others ++ [line] ∧ lines (cs ++ [c]) = others ++ [line ++ [c]] := by
  induction cs with
  | nil => exact ⟨[], [], rfl, lines_cons hc lines_nil⟩
  | cons d rest ih =>
    obtain ⟨others, line, h, g⟩ := ih
    by_cases hd : d = '\n'
    · refine ⟨[] :: others, line, ?_, ?_⟩
      · rw [hd, lines_lineFeed, h, List.cons_append]
      · rw [hd, List.cons_append, lines_lineFeed, g, List.cons_append]
    · cases others with
      | nil => exact ⟨[], d :: line, lines_cons hd h, lines_cons hd g⟩
      | cons first more => exact ⟨(d :: first) :: more, line, lines_cons hd h, lines_cons hd g⟩

/-- **What sees a line only through its stripped form, and no blank line at an end, does not see
whether the text was stripped before it was cut into lines.** -/
theorem lines_strip_invariant {β : Type} (f : List (List Char) → β)
    (same : ∀ ls ls' : List (List Char), ls.map strip = ls'.map strip → f ls = f ls')
    (front : ∀ ls : List (List Char), f ([] :: ls) = f ls)
    (back : ∀ ls : List (List Char), f (ls ++ [[]]) = f ls) (cs : List Char) :
    f (lines (strip cs)) = f (lines cs) := by
  refine strip_invariant (fun cs => f (lines cs)) ?_ ?_ cs
  · intro c cs hc
    by_cases hn : c = '\n'
    · simp only [hn, lines_lineFeed]
      exact front _
    · obtain ⟨line, more, hl⟩ := List.exists_cons_of_ne_nil (lines_ne_nil cs)
      simp only [lines_cons hn hl, hl]
      refine same _ _ ?_
      rw [List.map_cons, List.map_cons, strip_cons hc]
  · intro c cs hc
    by_cases hn : c = '\n'
    · simp only [hn, lines_append, lines_nil]
      exact back _
    · obtain ⟨others, line, hl, hl'⟩ := lines_concat hn cs
      simp only [hl, hl']
      refine same _ _ ?_
      rw [List.map_append, List.map_append, List.map_singleton, List.map_singleton, strip_concat hc]

/-! ### Lines as pieces -/

theorem separator_not_mem_pieces {separator : Char} {cs piece : List Char}
    (h : piece ∈ pieces separator cs) : separator ∉ piece := by
  induction cs generalizing piece with
  | nil =>
    obtain rfl := List.mem_singleton.1 h
    exact List.not_mem_nil
  | cons c rest ih =>
    obtain ⟨first, more, hpieces⟩ := List.exists_cons_of_ne_nil (pieces_ne_nil separator rest)
    rw [pieces] at h
    split at h
    · rcases List.mem_cons.1 h with rfl | h
      · exact List.not_mem_nil
      · exact ih h
    · next hc =>
      rw [hpieces] at h ih
      dsimp only at h
      rcases List.mem_cons.1 h with rfl | h
      · rw [List.mem_cons, not_or]
        exact ⟨Ne.symm hc, ih List.mem_cons_self⟩
      · exact ih (List.mem_cons_of_mem _ h)

theorem mem_pieces_of_mem {separator c : Char} {cs : List Char} (hc : c ≠ separator) (h : c ∈ cs) :
    ∃ piece ∈ pieces separator cs, c ∈ piece := by
  induction cs with
  | nil => cases h
  | cons d rest ih =>
    obtain ⟨first, more, hpieces⟩ := List.exists_cons_of_ne_nil (pieces_ne_nil separator rest)
    rw [pieces, hpieces]
    rw [hpieces] at ih
    rcases List.mem_cons.1 h with rfl | h
    · rw [if_neg hc]
      exact ⟨c :: first, List.mem_cons_self, List.mem_cons_self⟩
    · obtain ⟨piece, hmem, hin⟩ := ih h
      split
      · exact ⟨piece, List.mem_cons_of_mem _ hmem, hin⟩
      · rcases List.mem_cons.1 hmem with rfl | hmem
        · exact ⟨d :: piece, List.mem_cons_self, List.mem_cons_of_mem _ hin⟩
        · exact ⟨piece, List.mem_cons_of_mem _ hmem, hin⟩

theorem lines_of_no_lineFeed {line : List Char} (h : '\n' ∉ line) : lines line = [line] := by
  induction line with
  | nil => rfl
  | cons c rest ih =>
    rw [List.mem_cons, not_or] at h
    exact lines_cons (Ne.symm h.1) (ih h.2)

/-- **Lines that are put together are the lines of the text.** -/
theorem lines_joined {ls : List (List Char)} (hne : ls ≠ []) (h : ∀ line ∈ ls, '\n' ∉ line) :
    lines (joined ['\n'] ls) = ls := by
  induction ls with
  | nil => exact absurd rfl hne
  | cons line rest ih =>
    have hline := lines_of_no_lineFeed (h line List.mem_cons_self)
    cases rest with
    | nil => exact hline
    | cons next more =>
      have hrest := ih (by simp) fun l hl => h l (List.mem_cons_of_mem _ hl)
      rw [joined, List.append_assoc, List.singleton_append, lines_append, hline, hrest]
      rfl

/-- **A piece stands in the pieces put together as it is.** -/
theorem infix_joined {separator line : List Char} {ls : List (List Char)} (hl : line ∈ ls) :
    line <:+: joined separator ls := by
  induction ls with
  | nil => cases hl
  | cons first rest ih =>
    cases rest with
    | nil =>
      obtain rfl := List.mem_singleton.1 hl
      exact List.infix_rfl
    | cons next more =>
      rw [joined]
      rcases List.mem_cons.1 hl with rfl | h
      · rw [List.append_assoc]
        exact (List.prefix_append _ _).isInfix
      · exact (ih h).trans (List.suffix_append _ _).isInfix

theorem sublist_joined {separator line : List Char} {ls : List (List Char)} (hl : line ∈ ls) :
    line.Sublist (joined separator ls) := (infix_joined hl).sublist

theorem infix_of_mem_lines {cs line : List Char} (h : line ∈ lines cs) : line <:+: cs := by
  have hjoined := @infix_joined ['\n'] line (lines cs) h
  rwa [joined_lines] at hjoined

theorem length_le_of_mem_lines {cs line : List Char} (h : line ∈ lines cs) :
    line.length ≤ cs.length := (infix_of_mem_lines h).length_le

end Tunebook
