/-!
# Pieces and lines

A text is cut into pieces at a separator; its lines are the pieces between its line feeds.

* `pieces` cuts a text, `joined` puts pieces together with a separator between them.
* `joined_pieces`: a text is its pieces joined by the separator; `joined_lines` says so of lines.
* `withLineFeeds` makes every line end a line feed; `withLineFeeds_eq_self` says that a text without carriage
  returns stays as it is.
-/

namespace Tunebook

/-- The pieces of a text between the characters that are a separator; the empty text is one empty piece. -/
def pieces {α : Type} [DecidableEq α] (separator : α) : List α → List (List α)
  | [] => [[]]
  | c :: rest =>
    if c = separator then [] :: pieces separator rest
    else match pieces separator rest with
      | [] => [[c]]
      | piece :: more => (c :: piece) :: more

/-- Pieces of text put together with a separator between them. -/
def joined (separator : List Char) : List (List Char) → List Char
  | [] => []
  | [piece] => piece
  | piece :: next :: more => piece ++ separator ++ joined separator (next :: more)

theorem pieces_ne_nil (separator : Char) (cs : List Char) : pieces separator cs ≠ [] := by
  cases cs with
  | nil => simp [pieces]
  | cons c rest =>
    unfold pieces
    split
    · simp
    · split <;> simp

theorem joined_cons_head (separator : List Char) (c : Char) (piece : List Char) (more : List (List Char)) :
    joined separator ((c :: piece) :: more) = c :: joined separator (piece :: more) := by
  cases more <;> simp [joined]

/-- A text is its pieces joined by the separator. -/
theorem joined_pieces (separator : Char) (cs : List Char) :
    joined [separator] (pieces separator cs) = cs := by
  induction cs with
  | nil => rfl
  | cons c rest ih =>
    obtain ⟨piece, more, h⟩ := List.exists_cons_of_ne_nil (pieces_ne_nil separator rest)
    rw [h] at ih
    by_cases e : c = separator
    · subst e
      simp [pieces, h, joined, ih]
    · simp [pieces, e, h, joined_cons_head, ih]

/-! ## Lines -/

/-- The lines of a text; the empty text is one empty line. -/
def lines (cs : List Char) : List (List Char) := pieces '\n' cs

/-- A text is its lines joined by line feeds. -/
theorem joined_lines (cs : List Char) : joined ['\n'] (lines cs) = cs := joined_pieces '\n' cs

/-- A text with every line end made a line feed: a carriage return with a line feed behind it, and a carriage
return alone. -/
def withLineFeeds : List Char → List Char
  | [] => []
  | '\r' :: '\n' :: rest => '\n' :: withLineFeeds rest
  | c :: rest => (if c = '\r' then '\n' else c) :: withLineFeeds rest

/-- A text without carriage returns stays as it is. -/
theorem withLineFeeds_eq_self {cs : List Char} (h : '\r' ∉ cs) : withLineFeeds cs = cs := by
  fun_induction withLineFeeds cs with
  | case1 => rfl
  | case2 rest ih => exact absurd (List.mem_cons_self ..) h
  | case3 c rest _ ih =>
    rw [List.mem_cons, not_or] at h
    rw [if_neg (Ne.symm h.1), ih h.2]

end Tunebook
