import Mathlib.Data.List.Forall2
import Tunebook.Proofs.Text.Lines

/-!
# Line ends of other systems

A line may end in a line feed, in a carriage return, or in both.  A carriage return before
a line feed is one more blank at the end of a line, and nothing else of the text changes
(`lines_withReturns`).  So what does not see such a blank does not see the kind of the line
ends (`map_lines_withReturns`).

* `LineEnd.apply`: a text with the line ends of a kind.
* `withLineFeeds_withLineEnds`: **line ends of any kind are read as line feeds.**
* `count_withReturns`, `all_withReturns`, `any_withReturns`: what looks at one character
  at a time.
-/

namespace Tunebook

/-- The ways to end a line. -/
inductive LineEnd where
  | feed
  | returnFeed
  | carriageReturn
  deriving DecidableEq, Repr

def LineEnd.chars : LineEnd → List Char
  | feed => ['\n']
  | returnFeed => ['\r', '\n']
  | carriageReturn => ['\r']

def withLineEnds (e : LineEnd) (cs : List Char) : List Char :=
  cs.flatMap fun c => if c = '\n' then e.chars else [c]

/-- A text with the line ends of a kind for its line feeds. -/
def LineEnd.apply (e : LineEnd) (text : String) : String :=
  String.ofList (withLineEnds e text.toList)

theorem LineEnd.toList_apply (e : LineEnd) (text : String) :
    (e.apply text).toList = withLineEnds e text.toList := String.toList_ofList

@[simp] theorem withLineEnds_nil (e : LineEnd) : withLineEnds e [] = [] := rfl

theorem withLineEnds_lineFeed (e : LineEnd) (cs : List Char) :
    withLineEnds e ('\n' :: cs) = e.chars ++ withLineEnds e cs := by
  simp [withLineEnds]

theorem withLineEnds_cons (e : LineEnd) {c : Char} (hc : c ≠ '\n') (cs : List Char) :
    withLineEnds e (c :: cs) = c :: withLineEnds e cs := by
  simp [withLineEnds, hc]

/-! ### Reading line ends -/

theorem withLineFeeds_cons {c : Char} (hc : c ≠ '\r') (cs : List Char) :
    withLineFeeds (c :: cs) = c :: withLineFeeds cs := by
  rw [withLineFeeds]
  · rw [if_neg hc]
  · intro _ e
    exact absurd e hc

theorem withLineFeeds_return {cs : List Char} (h : cs.head? ≠ some '\n') :
    withLineFeeds ('\r' :: cs) = '\n' :: withLineFeeds cs := by
  cases cs with
  | nil => rfl
  | cons c rest =>
    rw [withLineFeeds]
    · rw [if_pos rfl]
    · rintro _ _ ⟨rfl, _⟩
      exact h rfl

theorem head?_withCarriageReturns (cs : List Char) :
    (withLineEnds .carriageReturn cs).head? ≠ some '\n' := by
  cases cs with
  | nil => simp
  | cons c rest =>
    by_cases hc : c = '\n'
    · subst hc
      simp [withLineEnds_lineFeed, LineEnd.chars]
    · simp [withLineEnds_cons _ hc, hc]

/-- **Line ends of any kind are read as line feeds.** -/
theorem withLineFeeds_withLineEnds (e : LineEnd) {cs : List Char} (h : '\r' ∉ cs) :
    withLineFeeds (withLineEnds e cs) = cs := by
  induction cs with
  | nil => rfl
  | cons c rest ih =>
    rw [List.mem_cons, not_or] at h
    have hrest := ih h.2
    by_cases hc : c = '\n'
    · subst hc
      rw [withLineEnds_lineFeed]
      cases e with
      | feed =>
        show withLineFeeds ('\n' :: withLineEnds .feed rest) = _
        rw [withLineFeeds_cons (by decide), hrest]
      | returnFeed =>
        show withLineFeeds ('\r' :: '\n' :: withLineEnds .returnFeed rest) = _
        rw [withLineFeeds, hrest]
      | carriageReturn =>
        show withLineFeeds ('\r' :: withLineEnds .carriageReturn rest) = _
        rw [withLineFeeds_return (head?_withCarriageReturns rest), hrest]
    · rw [withLineEnds_cons e hc, withLineFeeds_cons (Ne.symm h.1), hrest]

/-! ### Lines with a carriage return at their end -/

/-- **Before a line feed, a carriage return joins the line that ends there.** -/
theorem lines_withReturns (cs : List Char) :
    List.Forall₂ (fun line' line => line' = line ∨ line' = line ++ ['\r'])
      (lines (withLineEnds .returnFeed cs)) (lines cs) := by
  induction cs with
  | nil => exact List.Forall₂.cons (.inl rfl) .nil
  | cons c rest ih =>
    by_cases hc : c = '\n'
    · subst hc
      have hlines : lines ('\r' :: '\n' :: withLineEnds .returnFeed rest)
          = ['\r'] :: lines (withLineEnds .returnFeed rest) := lines_append ['\r'] _
      rw [withLineEnds_lineFeed, lines_lineFeed]
      show List.Forall₂ _ (lines ('\r' :: '\n' :: withLineEnds .returnFeed rest)) _
      rw [hlines]
      exact List.Forall₂.cons (.inr rfl) ih
    · obtain ⟨line, more, hl⟩ := List.exists_cons_of_ne_nil (lines_ne_nil rest)
      rw [hl] at ih
      obtain ⟨line', more', hline, hmore, hl'⟩ := List.forall₂_cons_right_iff.1 ih
      rw [withLineEnds_cons _ hc, lines_cons hc hl, lines_cons hc hl']
      refine List.Forall₂.cons ?_ hmore
      rcases hline with rfl | rfl
      · exact .inl rfl
      · exact .inr rfl

/-- What does not see a carriage return at the end of a line does not see how the lines end. -/
theorem map_lines_withReturns {β : Type} {f : List Char → β}
    (same : ∀ line, f (line ++ ['\r']) = f line) (cs : List Char) :
    (lines (withLineEnds .returnFeed cs)).map f = (lines cs).map f := by
  have h := lines_withReturns cs
  generalize lines (withLineEnds .returnFeed cs) = ls', lines cs = ls at h ⊢
  induction h with
  | nil => rfl
  | cons hline _ ih =>
    rw [List.map_cons, List.map_cons, ih]
    rcases hline with rfl | rfl
    · rfl
    · rw [same]

/-! ### Characters one by one -/

theorem count_withReturns {a : Char} (ha : a ≠ '\r') (cs : List Char) :
    (withLineEnds .returnFeed cs).count a = cs.count a := by
  induction cs with
  | nil => rfl
  | cons c rest ih =>
    by_cases hc : c = '\n'
    · subst hc
      simp [withLineEnds_lineFeed, LineEnd.chars, List.count_cons, ih, Ne.symm ha]
    · simp [withLineEnds_cons _ hc, List.count_cons, ih]

theorem all_withReturns {p : Char → Bool} (hp : p '\r' = p '\n') (cs : List Char) :
    (withLineEnds .returnFeed cs).all p = cs.all p := by
  induction cs with
  | nil => rfl
  | cons c rest ih =>
    by_cases hc : c = '\n'
    · subst hc
      simp [withLineEnds_lineFeed, LineEnd.chars, ih, hp]
    · simp [withLineEnds_cons _ hc, ih]

theorem any_withReturns {p : Char → Bool} (hp : p '\r' = p '\n') (cs : List Char) :
    (withLineEnds .returnFeed cs).any p = cs.any p := by
  have h := all_withReturns (p := fun c => !p c) (by simp [hp]) cs
  rw [List.all_eq_not_any_not, List.all_eq_not_any_not] at h
  simpa using h

end Tunebook
