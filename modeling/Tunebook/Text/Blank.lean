/-!
# Blank characters and stripping

Blank are the space and control characters that separate words: the tabs and line ends, the information
separators, the no-break spaces and the space separators of Unicode.

* `strip` drops blanks at both ends.
* `strip_eq_nil_iff`: a text strips to nothing exactly where all of it is blank.
-/

namespace Tunebook

def isBlank (c : Char) : Bool :=
  let n := c.toNat
  (0x09 ≤ n && n ≤ 0x0d) || (0x1c ≤ n && n ≤ 0x20) || n == 0x85 || n == 0xa0 || n == 0x1680
    || (0x2000 ≤ n && n ≤ 0x200a) || n == 0x2028 || n == 0x2029 || n == 0x202f || n == 0x205f || n == 0x3000

def stripEnd (cs : List Char) : List Char := (cs.reverse.dropWhile isBlank).reverse

def strip (cs : List Char) : List Char := stripEnd (cs.dropWhile isBlank)

def allBlank (cs : List Char) : Bool := cs.all isBlank

theorem dropWhile_isBlank_eq_nil_iff (cs : List Char) : cs.dropWhile isBlank = [] ↔ allBlank cs = true := by
  induction cs with
  | nil => simp [allBlank]
  | cons c rest ih =>
    by_cases b : isBlank c = true
    · rw [List.dropWhile_cons_of_pos b, ih]
      simp [allBlank, b]
    · rw [List.dropWhile_cons_of_neg b]
      simp [allBlank, b]

/-- A text of blanks strips to nothing, and only such a text does. -/
theorem strip_eq_nil_iff (cs : List Char) : strip cs = [] ↔ allBlank cs = true := by
  have r : ∀ l : List Char, allBlank l.reverse = allBlank l := fun l => by simp [allBlank]
  unfold strip stripEnd
  rw [List.reverse_eq_nil_iff, dropWhile_isBlank_eq_nil_iff, r]
  constructor
  · intro h
    rw [allBlank, ← List.takeWhile_append_dropWhile (p := isBlank) (l := cs), List.all_append]
    unfold allBlank at h
    rw [h, Bool.and_true]
    exact List.all_takeWhile
  · intro h
    rw [(dropWhile_isBlank_eq_nil_iff cs).2 h]
    rfl

end Tunebook
