import Mathlib.Data.List.DropRight
import Mathlib.Data.List.TakeWhile

/-!
# Runs at the ends of a list

A list begins with the longest run of members of a kind, and what stands behind that run
is the rest.

* `takeWhile_append_stop`, `dropWhile_append_stop`: a member of another kind ends the run,
  whatever stands behind it.
* `takeWhile_dropWhile_run`: a run with such a member behind it, or none, is what is taken.
* `drop_length_takeWhile`: the rest stands behind as many members as the run has.
* `head?_dropWhile_any`: the rest does not begin with a member of the kind.
* `filter_dropWhile`: a run of others holds no member of the kind.
* `trimmed`: a list without the runs at both its ends.
-/

namespace Tunebook

section

variable {α : Type} {p q : α → Bool}

theorem takeWhile_append_stop {s : α} (h : p s = false) (l behind : List α) :
    (l ++ s :: behind).takeWhile p = l.takeWhile p := by
  induction l with
  | nil => rw [List.nil_append, List.takeWhile_cons_of_neg (by rw [h]; exact Bool.false_ne_true),
      List.takeWhile_nil]
  | cons a rest ih =>
    by_cases ha : p a = true
    · rw [List.cons_append, List.takeWhile_cons_of_pos ha, List.takeWhile_cons_of_pos ha, ih]
    · rw [List.cons_append, List.takeWhile_cons_of_neg ha, List.takeWhile_cons_of_neg ha]

theorem dropWhile_append_stop {s : α} (h : p s = false) (l behind : List α) :
    (l ++ s :: behind).dropWhile p = l.dropWhile p ++ s :: behind := by
  induction l with
  | nil => exact List.dropWhile_cons_of_neg (by rw [h]; exact Bool.false_ne_true)
  | cons a rest ih =>
    by_cases ha : p a = true
    · rw [List.cons_append, List.dropWhile_cons_of_pos ha, List.dropWhile_cons_of_pos ha, ih]
    · rw [List.cons_append, List.dropWhile_cons_of_neg ha, List.dropWhile_cons_of_neg ha]
      rfl

/-- A run is all that is taken, where no member of the kind stands behind it. -/
theorem takeWhile_dropWhile_run {run behind : List α} (hrun : ∀ a ∈ run, p a = true)
    (hbehind : ∀ a ∈ behind.head?, p a = false) :
    (run ++ behind).takeWhile p = run ∧ (run ++ behind).dropWhile p = behind := by
  rw [List.takeWhile_append_of_pos hrun, List.dropWhile_append_of_pos hrun]
  cases behind with
  | nil => simp
  | cons b rest => simp [hbehind b rfl]

theorem head?_dropWhile_any (p : α → Bool) (l : List α) : (l.dropWhile p).head?.any p = false := by
  induction l with
  | nil => rfl
  | cons a rest ih =>
    by_cases h : p a = true
    · rw [List.dropWhile_cons_of_pos h, ih]
    · rw [List.dropWhile_cons_of_neg h, List.head?_cons, Option.any_some]
      exact Bool.eq_false_iff.2 h

theorem drop_length_takeWhile (p : α → Bool) (l : List α) :
    l.drop (l.takeWhile p).length = l.dropWhile p := by
  induction l with
  | nil => rfl
  | cons a rest ih =>
    by_cases h : p a = true
    · rw [List.takeWhile_cons_of_pos h, List.dropWhile_cons_of_pos h, List.length_cons,
        List.drop_succ_cons, ih]
    · rw [List.takeWhile_cons_of_neg h, List.dropWhile_cons_of_neg h]
      rfl

theorem takeWhile_dropWhile_congr {l : List α} (h : ∀ a ∈ l, p a = q a) :
    l.takeWhile p = l.takeWhile q ∧ l.dropWhile p = l.dropWhile q := by
  induction l with
  | nil => exact ⟨rfl, rfl⟩
  | cons a rest ih =>
    obtain ⟨ht, hd⟩ := ih fun b hb => h b (List.mem_cons_of_mem _ hb)
    simp only [List.takeWhile_cons, List.dropWhile_cons, h a List.mem_cons_self, ht, hd, and_self]

theorem filter_dropWhile (p : α → Bool) (l : List α) :
    (l.dropWhile fun a => !p a).filter p = l.filter p := by
  induction l with
  | nil => rfl
  | cons a rest ih =>
    cases h : p a with
    | true => rw [List.dropWhile_cons_of_neg (by simp [h])]
    | false =>
      rw [List.dropWhile_cons_of_pos (by simp [h]), ih,
        List.filter_cons_of_neg (by rw [h]; exact Bool.false_ne_true)]

/-! ### Both ends -/

def trimmed (p : α → Bool) (l : List α) : List α := (l.dropWhile p).rdropWhile p

theorem trimmed_cons {a : α} (h : p a = true) (l : List α) :
    trimmed p (a :: l) = trimmed p l := by
  rw [trimmed, trimmed, List.dropWhile_cons_of_pos h]

theorem trimmed_concat {a : α} (h : p a = true) (l : List α) :
    trimmed p (l ++ [a]) = trimmed p l := by
  rw [trimmed, trimmed, List.dropWhile_append]
  split
  · next hnone =>
    rw [List.isEmpty_iff.1 hnone, List.dropWhile_cons_of_pos h, List.dropWhile_nil]
  · exact List.rdropWhile_concat_pos p _ _ h

theorem trimmed_of_ends {l : List α} (hhead : ∀ a ∈ l.head?, p a = false)
    (hlast : ∀ a ∈ l.getLast?, p a = false) : trimmed p l = l := by
  have hfront : l.dropWhile p = l := by
    cases l with
    | nil => rfl
    | cons a rest => exact List.dropWhile_cons_of_neg (by simp [hhead a rfl])
  rw [trimmed, hfront, List.rdropWhile_eq_self_iff]
  intro hne
  rw [hlast _ (List.getLast?_eq_some_getLast hne)]
  exact Bool.false_ne_true

theorem head?_trimmed (p : α → Bool) (l : List α) : ∀ a ∈ (trimmed p l).head?, p a = false := by
  intro a ha
  obtain ⟨behind, h⟩ := List.rdropWhile_prefix p (l := l.dropWhile p)
  have hhead := head?_dropWhile_any p l
  rw [← h, ← trimmed, List.head?_append, Option.mem_def.1 ha] at hhead
  exact hhead

theorem getLast?_trimmed (p : α → Bool) (l : List α) :
    ∀ a ∈ (trimmed p l).getLast?, p a = false := by
  intro a ha
  have hlast := head?_dropWhile_any p (l.dropWhile p).reverse
  rw [trimmed, List.rdropWhile, List.getLast?_reverse] at ha
  rw [Option.mem_def.1 ha] at hlast
  exact hlast

end

end Tunebook
