import Tunebook.Proofs.Tune.Parts
import Tunebook.Tune.Check

/-!
# Which lines are music

Two readings of a text tell music from header fields.  The check takes a line as music
where no tag begins it and something stands on it, wherever it stands in the text.  The
reader takes the header up to its first line of music, blanks at a line's ends aside,
and plays all that stands below.

On a text that the check accepts they agree line by line (`endsAt_of_valid`): the colon
of an indented tag is no character of music.  So they agree on where the header ends,
and what is left is the fields below it, which the check passes over and the reader
plays.

* `notes_of_valid`: **what sounds of an accepted text**, and exactly when that is the
  lines that were checked.
* `notes_below_checked_lines`: a field below the music that sounds.
-/

namespace Tunebook

/-! ### What the check promises -/

theorem foldl_distinct_ne_nil (cs : List Char) {seen : List Char} (h : seen ≠ []) :
    cs.foldl (fun seen c => if seen.contains c then seen else seen ++ [c]) seen ≠ [] := by
  induction cs generalizing seen with
  | nil => exact h
  | cons c rest ih =>
    rw [List.foldl_cons]
    split
    · exact ih h
    · exact ih (by simp)

theorem distinct_eq_nil {cs : List Char} (h : distinct cs = []) : cs = [] := by
  cases cs with
  | nil => rfl
  | cons c rest => exact absurd h (foldl_distinct_ne_nil rest (by simp))

theorem strangers_of_valid {text : String} (h : (checkText text).isValid = true) :
    strangers text.toList = [] := by
  rw [checkText] at h
  split at h
  · cases h
  · simp only [Report.isValid, List.isEmpty_iff, List.append_eq_nil_iff] at h
    by_cases hs : strangers text.toList = []
    · exact hs
    · have hd := h.2
      rw [if_neg hs] at hd
      cases hd

/-- **An accepted text holds only characters of music on the lines of music.** -/
theorem isMusicChar_of_valid {text : String} (h : (checkText text).isValid = true)
    {line : List Char} (hl : line ∈ lines text.toList) (hm : isMusicLine line = true) :
    ∀ c ∈ line, isMusicChar c = true := by
  have hs := distinct_eq_nil (strangers_of_valid h)
  rw [List.filter_eq_nil_iff] at hs
  intro c hc
  have hj : c ∈ musicText text.toList := (sublist_joined (List.mem_filter.2 ⟨hl, hm⟩)).subset hc
  have hn := hs c hj
  cases hc' : isMusicChar c with
  | true => rfl
  | false =>
    rw [hc'] at hn
    exact absurd rfl hn

/-! ### Tags -/

theorem tag_of_split? {line value : List Char} {f : Field}
    (h : Field.split? line = some (f, value)) :
    ∃ c, Field.ofLetter? c = some f ∧ line = c :: ':' :: value := by
  rw [Field.split?.eq_def] at h
  split at h
  · next c rest =>
    obtain ⟨f', hf, e⟩ := Option.map_eq_some_iff.1 h
    cases e
    exact ⟨c, hf, rfl⟩
  · cases h

theorem not_isBlank_of_ofLetter? {c : Char} {f : Field} (h : Field.ofLetter? c = some f) :
    isBlank c = false := by
  rw [Field.ofLetter?.eq_def] at h
  split at h <;> first | rfl | cases h

theorem split?_tag {c : Char} {f : Field} {value : List Char} (h : Field.ofLetter? c = some f) :
    Field.split? (c :: ':' :: value) = some (f, value) := by
  rw [Field.split?, h]
  rfl

theorem classify_of_split? {line value : List Char} {f : Field}
    (h : Field.split? line = some (f, value)) : Line.classify line = .field f (strip value) := by
  obtain ⟨c, hc, rfl⟩ := tag_of_split? h
  rw [Line.classify, strip_cons_of_not_isBlank (not_isBlank_of_ofLetter? hc),
    stripEnd_cons_of_not_isBlank rfl]
  simp only [split?_tag hc, strip_stripEnd]

theorem isMusicChar_colon : isMusicChar ':' = false := by decide

theorem classify_of_isMusicLine {line : List Char} (hm : isMusicLine line = true)
    (hc : ∀ c ∈ line, isMusicChar c = true) : Line.classify line = .music := by
  rw [isMusicLine, Bool.and_eq_true, Bool.not_eq_true'] at hm
  rw [Line.classify]
  split
  · next hnil =>
    rw [(strip_eq_nil_iff line).1 hnil] at hm
    cases hm.2
  · next c rest hstrip =>
    cases hs : Field.split? (c :: rest) with
    | none => rfl
    | some r =>
      obtain ⟨f, value⟩ := r
      obtain ⟨d, _, e⟩ := tag_of_split? hs
      have hmem : ':' ∈ strip line := by
        rw [hstrip, e]
        exact List.mem_cons_of_mem _ List.mem_cons_self
      have hcolon := hc ':' ((strip_sublist line).subset hmem)
      rw [isMusicChar_colon] at hcolon
      cases hcolon

theorem endsAt_of_not_isMusicLine {line : List Char} (hm : isMusicLine line = false) :
    Header.endsAt line = false := by
  rw [isMusicLine, Bool.and_eq_false_iff, Bool.not_eq_false'] at hm
  rcases hm with hs | hb
  · cases hf : Field.split? line with
    | none =>
      rw [hf] at hs
      cases hs
    | some r =>
      obtain ⟨f, value⟩ := r
      simp [Header.endsAt, classify_of_split? hf]
  · simp [Header.endsAt, Header.classify_blank hb]

/-- **On an accepted text the check and the reader agree on every line.** -/
theorem endsAt_of_valid {text : String} (h : (checkText text).isValid = true) {line : List Char}
    (hl : line ∈ lines text.toList) : Header.endsAt line = isMusicLine line := by
  cases hm : isMusicLine line with
  | false => exact endsAt_of_not_isMusicLine hm
  | true => simp [Header.endsAt, classify_of_isMusicLine hm (isMusicChar_of_valid h hl hm)]

/-! ### What sounds -/

theorem scan_eq_nil_iff (line : List Char) :
    NoteText.scan line = [] ↔ ∀ c ∈ line, isNoteLetter c = false := by
  rw [scan_eq_written, ← List.map_eq_nil_iff (f := NoteText.letter), written_letters,
    List.filter_eq_nil_iff]
  simp only [Bool.not_eq_true]

theorem length_flatMap_filter_le {α β : Type} (p : α → Bool) (f : α → List β) (l : List α) :
    ((l.filter p).flatMap f).length ≤ (l.flatMap f).length := by
  induction l with
  | nil => exact Nat.le_refl _
  | cons a rest ih =>
    by_cases h : p a = true
    · rw [List.filter_cons_of_pos h, List.flatMap_cons, List.flatMap_cons, List.length_append,
        List.length_append]
      omega
    · rw [List.filter_cons_of_neg h, List.flatMap_cons, List.length_append]
      omega

theorem eq_nil_of_length_flatMap_filter {α β : Type} {p : α → Bool} {f : α → List β} {l : List α}
    (e : ((l.filter p).flatMap f).length = (l.flatMap f).length) : ∀ a ∈ l, p a = false →
    f a = [] := by
  induction l with
  | nil =>
    intro a ha
    cases ha
  | cons b rest ih =>
    have hle := length_flatMap_filter_le p f rest
    intro a ha hp
    by_cases h : p b = true
    · rw [List.filter_cons_of_pos h, List.flatMap_cons, List.flatMap_cons, List.length_append,
        List.length_append] at e
      rcases List.mem_cons.1 ha with rfl | ha
      · rw [hp] at h
        cases h
      · exact ih (by omega) a ha hp
    · rw [List.filter_cons_of_neg h, List.flatMap_cons, List.length_append] at e
      rcases List.mem_cons.1 ha with rfl | ha
      · exact List.eq_nil_of_length_eq_zero (by omega)
      · exact ih (by omega) a ha hp

theorem flatMap_filter_of_eq_nil {α β : Type} {p : α → Bool} {f : α → List β} {l : List α}
    (h : ∀ a ∈ l, p a = false → f a = []) : (l.filter p).flatMap f = l.flatMap f := by
  induction l with
  | nil => rfl
  | cons a rest ih =>
    have hrest := ih fun b hb => h b (List.mem_cons_of_mem _ hb)
    cases hp : p a with
    | true => rw [List.filter_cons_of_pos hp, List.flatMap_cons, List.flatMap_cons, hrest]
    | false =>
      rw [List.filter_cons_of_neg (by rw [hp]; exact Bool.false_ne_true), List.flatMap_cons,
        h a List.mem_cons_self hp, List.nil_append, hrest]

theorem readNotes_filter_iff {p : List Char → Bool} {ls : List (List Char)} {notes : List Note}
    (h : readNotes ls = .ok notes) :
    readNotes (ls.filter p) = .ok notes ↔
      ∀ line ∈ ls, p line = false → ∀ c ∈ line, isNoteLetter c = false := by
  rw [readNotes_eq] at h ⊢
  constructor
  · intro hf line hl hp
    have e := (mapM_eq_ok.1 hf).length_eq.trans (mapM_eq_ok.1 h).length_eq.symm
    exact (scan_eq_nil_iff line).1 (eq_nil_of_length_flatMap_filter e line hl hp)
  · intro hno
    rw [flatMap_filter_of_eq_nil fun line hl hp => (scan_eq_nil_iff line).2 (hno line hl hp)]
    exact h

/-- **What sounds of an accepted text.**  The lines above the first checked one are the header, and
no checked line is among them.  All lines from there on sound; those that were checked are all that
sounds exactly where no line between them holds the letter of a note. -/
theorem notes_of_valid {text : String} {tune : Tune} (accepted : (checkText text).isValid = true)
    (parsed : Tune.read text = .ok tune) :
    let above := (lines text.toList).takeWhile fun line => !isMusicLine line
    let below := (lines text.toList).dropWhile fun line => !isMusicLine line
    Header.read above = .ok (tune.header, above.length) ∧
      readNotes below = .ok tune.notes ∧
      (readNotes ((lines text.toList).filter isMusicLine) = .ok tune.notes ↔
        ∀ line ∈ below, isMusicLine line = false → ∀ c ∈ line, isNoteLetter c = false) := by
  intro above below
  obtain ⟨hheader, hnotes⟩ := Tune.read_eq_ok parsed
  have hsame : ∀ line ∈ lines text.toList, (!Header.endsAt line) = !isMusicLine line := by
    intro line hl
    rw [endsAt_of_valid accepted hl]
  obtain ⟨habove, hbelow⟩ := takeWhile_dropWhile_congr hsame
  rw [habove] at hheader
  rw [hbelow] at hnotes
  refine ⟨hheader, hnotes, ?_⟩
  rw [← filter_dropWhile]
  exact readNotes_filter_iff hnotes

/-- A voice field between two lines of music does not sound. -/
theorem notes_of_valid_voices :
    (checkText "M:4/4\nK:C\nC2\nV:1\ne").isValid = true ∧
      Tune.read "M:4/4\nK:C\nC2\nV:1\ne"
        = .ok ⟨{}, [⟨"C", 60, 2, "", 4⟩, ⟨"e", 76, 1, "", 4⟩],
          .of "M:4/4\nK:C\nC2\nV:1\ne".toList⟩ ∧
      readNotes ((lines "M:4/4\nK:C\nC2\nV:1\ne".toList).filter isMusicLine)
        = .ok [⟨"C", 60, 2, "", 4⟩, ⟨"e", 76, 1, "", 4⟩] := by
  have accepted : (checkText "M:4/4\nK:C\nC2\nV:1\ne").isValid = true := by decide +kernel
  have parsed : Tune.read "M:4/4\nK:C\nC2\nV:1\ne"
      = .ok ⟨{}, [⟨"C", 60, 2, "", 4⟩, ⟨"e", 76, 1, "", 4⟩],
        .of "M:4/4\nK:C\nC2\nV:1\ne".toList⟩ := by
    decide +kernel
  have silent :
    ((lines "M:4/4\nK:C\nC2\nV:1\ne".toList).dropWhile fun line => !isMusicLine line).all
      (fun line => isMusicLine line || line.all fun c => !isNoteLetter c) = true := by
    decide +kernel
  refine ⟨accepted, parsed, (notes_of_valid accepted parsed).2.2.2 ?_⟩
  intro line hl hm c hc
  have hline := List.all_eq_true.1 silent line hl
  rw [hm, Bool.false_or] at hline
  exact Bool.not_eq_eq_eq_not.1 (List.all_eq_true.1 hline c hc)

theorem notes_below_checked_lines :
    ¬ ∀ (text : String) (tune : Tune), (checkText text).isValid = true → Tune.read text = .ok tune →
      readNotes ((lines text.toList).filter isMusicLine) = .ok tune.notes := by
  intro h
  have accepted : (checkText "M:4/4\nK:C\nC\nT:A").isValid = true := by decide +kernel
  have parsed : Tune.read "M:4/4\nK:C\nC\nT:A"
      = .ok ⟨{}, [⟨"C", 60, 1, "", 4⟩, ⟨"A", 69, 1, "", 4⟩], .of "M:4/4\nK:C\nC\nT:A".toList⟩ := by
    decide +kernel
  have checked : readNotes ((lines "M:4/4\nK:C\nC\nT:A".toList).filter isMusicLine)
      = .ok [⟨"C", 60, 1, "", 4⟩] := by
    decide +kernel
  have same := h _ _ accepted parsed
  rw [checked] at same
  exact absurd same (by decide)

end Tunebook
