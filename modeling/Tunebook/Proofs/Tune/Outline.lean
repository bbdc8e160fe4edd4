import Tunebook.Proofs.Tune.Parts

/-!
# The outline of a tune

The outline of a text says of each line whether it is blank, music, or a field, and of which
tag, but not what the field says.  It settles where the header ends, since that is the first line
of music.

A tune is read from the stripped text, and its header is counted in the lines that are left.
Stripping takes the blank lines off both ends of an outline, and nothing else; a text of
blanks keeps one line (`outline_strip`).  So texts with one outline keep one outline when
they are stripped, and their headers end at one line (`boundary_congr`).
-/

namespace Tunebook

/-! ### Outlines -/

def Line.bare : Line → Line
  | blank => blank
  | field f _ => field f []
  | music => music

def outline (cs : List Char) : List Line := (lines cs).map fun line => (Line.classify line).bare

def Line.isBlankLine (l : Line) : Bool := l = .blank

theorem isBlankLine_classify (line : List Char) :
    (Line.classify line).bare.isBlankLine = allBlank line := by
  cases hb : allBlank line with
  | true =>
    rw [Header.classify_blank hb]
    rfl
  | false =>
    have hne : strip line ≠ [] := by
      intro hnil
      rw [(strip_eq_nil_iff line).1 hnil] at hb
      cases hb
    rw [Line.classify]
    split
    · next hnil => exact absurd hnil hne
    · split <;> rfl

theorem endsAt_eq_bare (line : List Char) :
    Header.endsAt line = decide ((Line.classify line).bare = .music) := by
  rw [Header.endsAt]
  cases Line.classify line <;> rfl

/-- **The header ends at the first line of music in the outline.** -/
theorem boundary_of_outline {cs : List Char} {header : Header} {n : Nat}
    (h : Header.read (lines cs) = .ok (header, n)) :
    n = ((outline cs).takeWhile fun l => !decide (l = .music)).length := by
  rw [Header.readFrom_length h, outline, List.takeWhile_map, List.length_map]
  simp only [endsAt_eq_bare, Function.comp_def]

/-! ### Outlines of stripped texts -/

theorem trimmed_outline_strip (cs : List Char) :
    trimmed Line.isBlankLine (outline (strip cs)) = trimmed Line.isBlankLine (outline cs) := by
  refine lines_strip_invariant (fun ls =>
    trimmed Line.isBlankLine (ls.map fun line => (Line.classify line).bare)) ?_ ?_ ?_ cs
  · intro ls ls' e
    have hstripped : ∀ ls : List (List Char), (ls.map fun line => (Line.classify line).bare)
        = (ls.map strip).map fun line => (Line.classify line).bare := by
      intro ls
      rw [List.map_map]
      refine List.map_congr_left fun line _ => ?_
      rw [Function.comp, classify_congr (strip_strip line)]
    rw [hstripped ls, hstripped ls', e]
  · intro ls
    exact trimmed_cons rfl _
  · intro ls
    rw [List.map_append]
    exact trimmed_concat rfl _

theorem trimmed_outline {cs : List Char} (hne : cs ≠ [])
    (hhead : ∀ c ∈ cs.head?, isBlank c = false) (hlast : ∀ c ∈ cs.getLast?, isBlank c = false) :
    trimmed Line.isBlankLine (outline cs) = outline cs := by
  have hfeed : ∀ {c : Char}, isBlank c = false → c ≠ '\n' := by
    rintro c hc rfl
    cases hc
  have hline : ∀ {line : List Char}, (∃ c ∈ line, isBlank c = false) →
      (Line.classify line).bare.isBlankLine = false := by
    rintro line ⟨c, hmem, hc⟩
    rw [isBlankLine_classify, allBlank, List.all_eq_false]
    exact ⟨c, hmem, by rw [hc]; exact Bool.false_ne_true⟩
  apply trimmed_of_ends
  · cases cs with
    | nil => exact absurd rfl hne
    | cons c rest =>
      have hc := hhead c rfl
      obtain ⟨line, more, hl⟩ := List.exists_cons_of_ne_nil (lines_ne_nil rest)
      rw [outline, lines_cons (hfeed hc) hl]
      intro l hl
      cases hl
      exact hline ⟨c, List.mem_cons_self, hc⟩
  · rcases List.eq_nil_or_concat' cs with rfl | ⟨init, c, rfl⟩
    · exact absurd rfl hne
    · have hc := hlast c List.getLast?_concat
      obtain ⟨others, line, _, hl⟩ := lines_concat (hfeed hc) init
      rw [outline, hl, List.map_append, List.map_singleton, List.getLast?_concat]
      intro l hl
      cases hl
      exact hline ⟨c, List.mem_append_right _ List.mem_cons_self, hc⟩

/-- **Stripping takes the blank lines off both ends of an outline**, and leaves one where all lines
are blank. -/
theorem outline_strip (cs : List Char) :
    outline (strip cs) = if trimmed Line.isBlankLine (outline cs) = [] then [.blank]
      else trimmed Line.isBlankLine (outline cs) := by
  have htrimmed := trimmed_outline_strip cs
  by_cases hnil : strip cs = []
  · have hempty : trimmed Line.isBlankLine (outline []) = [] := rfl
    rw [hnil] at htrimmed ⊢
    rw [← htrimmed, hempty, if_pos rfl]
    rfl
  · have hends := trimmed_outline hnil (head?_trimmed isBlank cs) (getLast?_trimmed isBlank cs)
    have hne : outline (strip cs) ≠ [] := by
      rw [outline, Ne, List.map_eq_nil_iff]
      exact lines_ne_nil _
    rw [← htrimmed, hends, if_neg hne]

/-- **The outline of a text settles where its header ends**, in the lines of the stripped text. -/
theorem boundary_congr {cs cs' : List Char} (e : outline cs = outline cs') {header header' : Header}
    {n n' : Nat} (h : Header.read (lines (strip cs)) = .ok (header, n))
    (h' : Header.read (lines (strip cs')) = .ok (header', n')) : n = n' := by
  rw [boundary_of_outline h, boundary_of_outline h', outline_strip, outline_strip, e]

end Tunebook
