import Mathlib.Data.List.Induction
import Tunebook.Proofs.Runs
import Tunebook.Text.Blank

/-!
# What does not see blanks at the ends

What is the same with one blank more at either end is the same of a text and of the
stripped text (`strip_invariant`).  Stripping itself is of this kind.

* `strip_cons`, `strip_concat`: a blank more at an end is stripped.
* `strip_strip`: what is stripped stays as it is.
* `strip_cons_of_not_isBlank`: a text that begins with no blank keeps its beginning.
* `strip_isInfix`: stripping adds nothing.
-/

namespace Tunebook

/-- **What does not see one blank at an end does not see all of them.** -/
theorem strip_invariant {β : Type} (f : List Char → β)
    (front : ∀ (c : Char) (cs : List Char), isBlank c = true → f (c :: cs) = f cs)
    (back : ∀ (c : Char) (cs : List Char), isBlank c = true → f (cs ++ [c]) = f cs)
    (cs : List Char) : f (strip cs) = f cs := by
  have ends : ∀ r : List Char, f (r.dropWhile isBlank).reverse = f r.reverse := by
    intro r
    induction r with
    | nil => rfl
    | cons c rest ih =>
      by_cases h : isBlank c = true
      · rw [List.dropWhile_cons_of_pos h, ih, List.reverse_cons, back c _ h]
      · rw [List.dropWhile_cons_of_neg h]
  have begins : ∀ l : List Char, f (l.dropWhile isBlank) = f l := by
    intro l
    induction l with
    | nil => rfl
    | cons c rest ih =>
      by_cases h : isBlank c = true
      · rw [List.dropWhile_cons_of_pos h, ih, front c _ h]
      · rw [List.dropWhile_cons_of_neg h]
  rw [strip, stripEnd, ends, List.reverse_reverse, begins]

theorem strip_eq_trimmed (cs : List Char) : strip cs = trimmed isBlank cs := rfl

theorem strip_cons {c : Char} (h : isBlank c = true) (cs : List Char) :
    strip (c :: cs) = strip cs := by
  rw [strip_eq_trimmed, strip_eq_trimmed, trimmed_cons h]

theorem stripEnd_concat {c : Char} (h : isBlank c = true) (cs : List Char) :
    stripEnd (cs ++ [c]) = stripEnd cs := by
  rw [stripEnd, stripEnd, List.reverse_append, List.reverse_singleton, List.singleton_append,
    List.dropWhile_cons_of_pos h]

theorem strip_concat {c : Char} (h : isBlank c = true) (cs : List Char) :
    strip (cs ++ [c]) = strip cs := by
  rw [strip_eq_trimmed, strip_eq_trimmed, trimmed_concat h]

theorem strip_strip (cs : List Char) : strip (strip cs) = strip cs :=
  strip_invariant strip (fun _ cs h => strip_cons h cs) (fun _ cs h => strip_concat h cs) cs

theorem stripEnd_cons_of_not_isBlank {c : Char} (h : isBlank c = false) (cs : List Char) :
    stripEnd (c :: cs) = c :: stripEnd cs := by
  rw [stripEnd, stripEnd, List.reverse_cons, dropWhile_append_stop h, List.reverse_append]
  rfl

theorem strip_cons_of_not_isBlank {c : Char} (h : isBlank c = false) (cs : List Char) :
    strip (c :: cs) = c :: stripEnd cs := by
  rw [strip, List.dropWhile_cons_of_neg (by rw [h]; exact Bool.false_ne_true),
    stripEnd_cons_of_not_isBlank h]

theorem strip_stripEnd (cs : List Char) : strip (stripEnd cs) = strip cs := by
  induction cs using List.reverseRecOn with
  | nil => rfl
  | append_singleton rest c ih =>
    by_cases h : isBlank c = true
    · rw [stripEnd_concat h, strip_concat h, ih]
    · rw [stripEnd, List.reverse_append, List.reverse_singleton, List.singleton_append,
        List.dropWhile_cons_of_neg h, List.reverse_cons, List.reverse_reverse]

theorem strip_append {indent : List Char} (h : allBlank indent = true) (cs : List Char) :
    strip (indent ++ cs) = strip cs := by
  rw [strip, strip, List.dropWhile_append_of_pos (List.all_eq_true.1 h)]

/-- **A stripped text stands in the text as it is.** -/
theorem strip_isInfix (cs : List Char) : strip cs <:+: cs := by
  have hfront : cs.dropWhile isBlank <:+ cs := List.dropWhile_suffix isBlank
  have hback : strip cs <+: cs.dropWhile isBlank := by
    have h := List.dropWhile_suffix isBlank (l := (cs.dropWhile isBlank).reverse)
    rw [strip, stripEnd, ← List.reverse_suffix, List.reverse_reverse]
    exact h
  exact hback.isInfix.trans hfront.isInfix

theorem strip_sublist (cs : List Char) : (strip cs).Sublist cs := (strip_isInfix cs).sublist

end Tunebook
