import Mathlib.Data.List.Basic
import Tunebook.Proofs.Text.Blank
import Tunebook.Tune.Note

/-!
# Where the notes of a text stand

`NoteText.scan` cuts a text into the texts of its notes by one pass that carries the
accidentals just read.  This file says what it finds without following the pass:

* `scanFrom_append`: nothing reaches across a character that belongs to no note, so
  `scan_joined` and `scan_lines` read lines one by one, and blanks around a line do not
  matter (`scan_strip`).
* `written`: the note texts read off the positions of the letters.  The marks and digits
  of a letter stand behind it; the accidentals right before it are its own, unless they
  stand behind an earlier letter and are marks of that one.
* `scan_eq_written`: **the pass finds exactly these**, one for each letter and in order.
-/

namespace Tunebook

/-! ### Kinds of characters -/

theorem isNoteLetter_toNat {c : Char} (h : isNoteLetter c = true) :
    65 ≤ c.toNat ∧ c.toNat ≤ 103 := by
  simp only [isNoteLetter, Bool.or_eq_true, Bool.and_eq_true, decide_eq_true_eq, Char.le_def,
    UInt32.le_iff_toNat_le] at h
  have hc : c.val.toNat = c.toNat := rfl
  have hA : 'A'.val.toNat = 65 := rfl
  have hG : 'G'.val.toNat = 71 := rfl
  have ha : 'a'.val.toNat = 97 := rfl
  have hg : 'g'.val.toNat = 103 := rfl
  omega

theorem isMark_cases {c : Char} (h : isMark c = true) :
    c = '^' ∨ c = '_' ∨ c = '=' ∨ c = '\'' ∨ c = ',' := by
  simp only [isMark, isAccidental, Bool.or_eq_true, beq_iff_eq] at h
  rcases h with (((h | h) | h) | h) | h
  · exact .inl h
  · exact .inr (.inl h)
  · exact .inr (.inr (.inl h))
  · exact .inr (.inr (.inr (.inl h)))
  · exact .inr (.inr (.inr (.inr h)))

theorem isMark_of_isAccidental {c : Char} (h : isAccidental c = true) : isMark c = true := by
  simp only [isMark, h, Bool.true_or]

theorem isNoteLetter_of_isMark {c : Char} (h : isMark c = true) : isNoteLetter c = false := by
  rcases isMark_cases h with rfl | rfl | rfl | rfl | rfl <;> decide

theorem isMark_of_isNoteLetter {c : Char} (h : isNoteLetter c = true) : isMark c = false := by
  cases hm : isMark c with
  | false => rfl
  | true =>
    rw [isNoteLetter_of_isMark hm] at h
    cases h

theorem isMark_of_isDecimalDigit {c : Char} (h : isDecimalDigit c = true) : isMark c = false := by
  cases hm : isMark c with
  | false => rfl
  | true => rcases isMark_cases hm with rfl | rfl | rfl | rfl | rfl <;> exact absurd h (by decide)

theorem isNoteLetter_of_isDecimalDigit {c : Char} (h : isDecimalDigit c = true) :
    isNoteLetter c = false := by
  cases hl : isNoteLetter c with
  | false => rfl
  | true =>
    have hn := isNoteLetter_toNat hl
    rw [isDecimalDigit, digitValue?, if_pos (by omega), if_neg (by omega)] at h
    cases h

theorem isDecimalDigit_of_isMark {c : Char} (h : isMark c = true) : isDecimalDigit c = false := by
  cases hd : isDecimalDigit c with
  | false => rfl
  | true =>
    rw [isMark_of_isDecimalDigit hd] at h
    cases h

theorem isDecimalDigit_of_isNoteLetter {c : Char} (h : isNoteLetter c = true) :
    isDecimalDigit c = false := by
  cases hd : isDecimalDigit c with
  | false => rfl
  | true =>
    rw [isNoteLetter_of_isDecimalDigit hd] at h
    cases h

/-- Whether a character belongs to no note. -/
def isGap (c : Char) : Bool := !isNoteLetter c && !isMark c && !isDecimalDigit c

theorem isGap_iff {c : Char} :
    isGap c = true ↔ isNoteLetter c = false ∧ isMark c = false ∧ isDecimalDigit c = false := by
  simp only [isGap, Bool.and_eq_true, Bool.not_eq_true', and_assoc]

theorem digitZeros_blank : ∀ z ∈ digitZeros, z = 0x30 ∨
    (0xa0 < z ∧ (z + 9 < 0x1680 ∨ 0x1680 < z) ∧ (z + 9 < 0x2000 ∨ 0x3000 < z)) := by
  decide

theorem isDecimalDigit_of_isBlank {c : Char} (h : isBlank c = true) : isDecimalDigit c = false := by
  simp only [isBlank, Bool.or_eq_true, Bool.and_eq_true, decide_eq_true_eq, beq_iff_eq] at h
  rw [isDecimalDigit, digitValue?]
  split
  · rw [if_neg (by omega)]
    rfl
  · cases hf : digitZeros.find? fun z => z ≤ c.toNat && c.toNat < z + 10 with
    | none => rfl
    | some z =>
      have hz := List.find?_some hf
      have hd := digitZeros_blank z (List.mem_of_find?_eq_some hf)
      simp only [Bool.and_eq_true, decide_eq_true_eq] at hz
      omega

theorem isGap_of_isBlank {c : Char} (h : isBlank c = true) : isGap c = true := by
  refine isGap_iff.2 ⟨?_, ?_, isDecimalDigit_of_isBlank h⟩
  · cases hl : isNoteLetter c with
    | false => rfl
    | true =>
      have hn := isNoteLetter_toNat hl
      simp only [isBlank, Bool.or_eq_true, Bool.and_eq_true, decide_eq_true_eq, beq_iff_eq] at h
      omega
  · cases hm : isMark c with
    | false => rfl
    | true => rcases isMark_cases hm with rfl | rfl | rfl | rfl | rfl <;> exact absurd h (by decide)

/-! ### One step of the pass -/

namespace NoteText

theorem scanFrom_nil (lead : List Char) : scanFrom lead [] = [] := by
  rw [scanFrom]

theorem scanFrom_accidental {c : Char} (h : isAccidental c = true) (lead rest : List Char) :
    scanFrom lead (c :: rest) = scanFrom (lead ++ [c]) rest := by
  rw [scanFrom, if_pos h]

theorem scanFrom_letter {c : Char} (h : isNoteLetter c = true) (lead rest : List Char) :
    scanFrom lead (c :: rest)
      = ⟨lead, c, rest.takeWhile isMark, (rest.dropWhile isMark).takeWhile isDecimalDigit⟩
        :: scan ((rest.dropWhile isMark).dropWhile isDecimalDigit) := by
  have ha : ¬ isAccidental c = true := fun ha => by
    rw [isNoteLetter_of_isMark (isMark_of_isAccidental ha)] at h
    cases h
  rw [scanFrom, if_neg ha, if_pos h]
  rfl

theorem scanFrom_other {c : Char} (ha : isAccidental c = false) (hl : isNoteLetter c = false)
    (lead rest : List Char) : scanFrom lead (c :: rest) = scan rest := by
  rw [scanFrom, if_neg (by rw [ha]; exact Bool.false_ne_true),
    if_neg (by rw [hl]; exact Bool.false_ne_true)]
  rfl

theorem scanFrom_gap {c : Char} (h : isGap c = true) (lead rest : List Char) :
    scanFrom lead (c :: rest) = scan rest := by
  obtain ⟨hl, hm, _⟩ := isGap_iff.1 h
  refine scanFrom_other ?_ hl lead rest
  cases ha : isAccidental c with
  | false => rfl
  | true =>
    rw [isMark_of_isAccidental ha] at hm
    cases hm

end NoteText

/-! ### Gaps -/

namespace NoteText

/-- **Nothing reaches across a character that belongs to no note.** -/
theorem scanFrom_append {s : Char} (hs : isGap s = true) (cs behind : List Char)
    (lead : List Char) :
    scanFrom lead (cs ++ s :: behind) = scanFrom lead cs ++ scan behind := by
  obtain ⟨_, hm, hd⟩ := isGap_iff.1 hs
  fun_induction scanFrom lead cs with
  | case1 lead => rw [List.nil_append, scanFrom_gap hs, List.nil_append]
  | case2 lead c rest ha ih => rw [List.cons_append, scanFrom_accidental ha, ih]
  | case3 lead c rest ha hl _ ih =>
    rw [List.cons_append, scanFrom_letter hl, takeWhile_append_stop hm, dropWhile_append_stop hm,
      takeWhile_append_stop hd, dropWhile_append_stop hd, List.cons_append, ← ih]
    rfl
  | case4 lead c rest ha hl ih =>
    rw [Bool.not_eq_true] at ha hl
    rw [List.cons_append, scanFrom_other ha hl]
    exact ih

theorem scan_append {s : Char} (hs : isGap s = true) (cs behind : List Char) :
    scan (cs ++ s :: behind) = scan cs ++ scan behind := scanFrom_append hs cs behind []

theorem scan_nil : scan [] = [] := scanFrom_nil []

theorem scan_joined_of_isGap {s : Char} (hs : isGap s = true) (ls : List (List Char)) :
    scan (joined [s] ls) = ls.flatMap scan := by
  induction ls with
  | nil => exact scan_nil
  | cons line rest ih =>
    cases rest with
    | nil => rw [joined, List.flatMap_cons, List.flatMap_nil, List.append_nil]
    | cons next more =>
      rw [joined, List.append_assoc, List.singleton_append, scan_append hs,
        List.flatMap_cons, ← ih]

/-- Lines are read one by one. -/
theorem scan_joined (ls : List (List Char)) : scan (joined [' '] ls) = ls.flatMap scan :=
  scan_joined_of_isGap (by decide) ls

/-- A text is read line by line. -/
theorem scan_lines (cs : List Char) : (lines cs).flatMap scan = scan cs := by
  have hfeed : isGap '\n' = true := by decide
  rw [← scan_joined_of_isGap hfeed, joined_lines]

/-- Blanks around a line do not matter. -/
theorem scan_strip (line : List Char) : scan (strip line) = scan line := by
  refine strip_invariant scan ?_ ?_ line
  · intro c cs h
    exact scanFrom_gap (isGap_of_isBlank h) [] cs
  · intro c cs h
    rw [scan_append (isGap_of_isBlank h), scan_nil, List.append_nil]

end NoteText

/-! ### The letters and their marks -/

/-- The accidentals that a letter behind a text owns; the text is given from its end.  Accidentals
that stand among the marks of an earlier letter are that letter's. -/
def leadOf (before : List Char) : List Char :=
  if (before.dropWhile isMark).head?.any isNoteLetter then [] else
    (before.takeWhile isAccidental).reverse

/-- The note texts of a text that stands behind another one, which is given from its end: one for
each letter, with its accidentals, the marks right behind it and the digits behind these. -/
def writtenFrom (before : List Char) : List Char → List NoteText
  | [] => []
  | c :: rest =>
    if isNoteLetter c then
      ⟨leadOf before, c, rest.takeWhile isMark, (rest.dropWhile isMark).takeWhile isDecimalDigit⟩
        :: writtenFrom (c :: before) rest
    else writtenFrom (c :: before) rest

/-- The note texts of a text, read off the positions of its letters. -/
def written (cs : List Char) : List NoteText := writtenFrom [] cs

theorem writtenFrom_letters (before cs : List Char) :
    (writtenFrom before cs).map NoteText.letter = cs.filter isNoteLetter := by
  induction cs generalizing before with
  | nil => rfl
  | cons c rest ih =>
    rw [writtenFrom]
    by_cases h : isNoteLetter c = true
    · rw [if_pos h, List.map_cons, ih, List.filter_cons_of_pos h]
    · rw [if_neg h, ih, List.filter_cons_of_neg h]

theorem written_letters (cs : List Char) :
    (written cs).map NoteText.letter = cs.filter isNoteLetter :=
  writtenFrom_letters [] cs

theorem writtenFrom_append_of_no_letter {run : List Char} (h : ∀ c ∈ run, isNoteLetter c = false)
    (before rest : List Char) :
    writtenFrom before (run ++ rest) = writtenFrom (run.reverse ++ before) rest := by
  induction run generalizing before with
  | nil => rfl
  | cons c more ih =>
    rw [List.cons_append, writtenFrom,
      if_neg (by rw [h c List.mem_cons_self]; exact Bool.false_ne_true),
      ih (fun d hd => h d (List.mem_cons_of_mem _ hd)), List.reverse_cons, List.append_assoc]
    rfl

/-! ### Where the pass stands -/

/-- Whether the pass may stand between two texts, the first given from its end: among the marks of a
letter it does not stop. -/
def AtRest (before cs : List Char) : Prop :=
  (before.dropWhile isMark).head?.any isNoteLetter = true → cs.head?.any isMark = false

theorem leadOf_cons_accidental {c : Char} {before : List Char} (ha : isAccidental c = true)
    (h : (before.dropWhile isMark).head?.any isNoteLetter = false) :
    leadOf (c :: before) = leadOf before ++ [c] := by
  rw [leadOf, leadOf, List.dropWhile_cons_of_pos (isMark_of_isAccidental ha), h]
  rw [if_neg Bool.false_ne_true, if_neg Bool.false_ne_true, List.takeWhile_cons_of_pos ha,
    List.reverse_cons]

theorem leadOf_cons_other {c : Char} {before : List Char} (ha : isAccidental c = false) :
    leadOf (c :: before) = [] := by
  rw [leadOf, List.takeWhile_cons_of_neg (by rw [ha]; exact Bool.false_ne_true)]
  split <;> rfl

theorem atRest_of_head {c : Char} {before : List Char} (hm : isMark c = false)
    (hl : isNoteLetter c = false) (cs : List Char) : AtRest (c :: before) cs := by
  intro h
  rw [List.dropWhile_cons_of_neg (by rw [hm]; exact Bool.false_ne_true), List.head?_cons,
    Option.any_some, hl] at h
  cases h

theorem atRest_after_note {c : Char} {marks digits : List Char} (before tail : List Char)
    (hc : isNoteLetter c = true) (hm : ∀ x ∈ marks, isMark x = true)
    (hd : ∀ x ∈ digits, isDecimalDigit x = true)
    (ht : digits = [] → tail.head?.any isMark = false) :
    leadOf ((marks ++ digits).reverse ++ c :: before) = [] ∧
      AtRest ((marks ++ digits).reverse ++ c :: before) tail := by
  rcases List.eq_nil_or_concat' digits with rfl | ⟨more, last, rfl⟩
  · have hdrop : (marks.reverse ++ c :: before).dropWhile isMark = c :: before := by
      rw [dropWhile_append_stop (isMark_of_isNoteLetter hc), List.dropWhile_eq_nil_iff.2,
        List.nil_append]
      intro x hx
      exact hm x (List.mem_reverse.1 hx)
    rw [List.append_nil]
    refine ⟨?_, fun _ => ht rfl⟩
    rw [leadOf, hdrop, List.head?_cons, Option.any_some, hc, if_pos rfl]
  · have hlast := hd last (List.mem_append_right _ List.mem_cons_self)
    have hmark := isMark_of_isDecimalDigit hlast
    have ha : isAccidental last = false := by
      cases ha : isAccidental last with
      | false => rfl
      | true =>
        rw [isMark_of_isAccidental ha] at hmark
        cases hmark
    rw [← List.append_assoc, List.reverse_append, List.reverse_singleton, List.append_assoc,
      List.singleton_append]
    exact ⟨leadOf_cons_other ha, atRest_of_head hmark (isNoteLetter_of_isDecimalDigit hlast) tail⟩

theorem atRest_cons_accidental {c : Char} {before rest : List Char} (ha : isAccidental c = true)
    (h : AtRest before (c :: rest)) :
    (before.dropWhile isMark).head?.any isNoteLetter = false ∧ AtRest (c :: before) rest := by
  have hm := isMark_of_isAccidental ha
  have hbefore : (before.dropWhile isMark).head?.any isNoteLetter = false := by
    refine Bool.eq_false_iff.2 fun hl => ?_
    have hno := h hl
    rw [List.head?_cons, Option.any_some, hm] at hno
    cases hno
  refine ⟨hbefore, fun hl => ?_⟩
  rw [List.dropWhile_cons_of_pos hm, hbefore] at hl
  cases hl

theorem atRest_cons_other {c : Char} {before rest : List Char} (hl : isNoteLetter c = false)
    (h : AtRest before (c :: rest)) : AtRest (c :: before) rest := by
  cases hm : isMark c with
  | false => exact atRest_of_head hm hl rest
  | true =>
    intro hbefore
    rw [List.dropWhile_cons_of_pos hm] at hbefore
    have hno := h hbefore
    rw [List.head?_cons, Option.any_some, hm] at hno
    cases hno

theorem not_isNoteLetter_of_mem_runs {rest : List Char} {x : Char}
    (h : x ∈ rest.takeWhile isMark ++ (rest.dropWhile isMark).takeWhile isDecimalDigit) :
    isNoteLetter x = false := by
  rcases List.mem_append.1 h with h | h
  · exact isNoteLetter_of_isMark (List.mem_takeWhile_imp h)
  · exact isNoteLetter_of_isDecimalDigit (List.mem_takeWhile_imp h)

theorem head?_any_isMark_of_no_digit {rest : List Char}
    (h : (rest.dropWhile isMark).takeWhile isDecimalDigit = []) :
    ((rest.dropWhile isMark).dropWhile isDecimalDigit).head?.any isMark = false := by
  have hsame := List.takeWhile_append_dropWhile (p := isDecimalDigit) (l := rest.dropWhile isMark)
  rw [h, List.nil_append] at hsame
  rw [hsame, head?_dropWhile_any]

/-- **The pass finds the note texts that the positions of the letters give**, from wherever it is at
rest. -/
theorem scanFrom_eq_writtenFrom {lead cs : List Char} (before : List Char)
    (hlead : lead = leadOf before) (h : AtRest before cs) :
    NoteText.scanFrom lead cs = writtenFrom before cs := by
  fun_induction NoteText.scanFrom lead cs generalizing before with
  | case1 lead => rfl
  | case2 lead c rest ha ih =>
    obtain ⟨hbefore, hrest⟩ := atRest_cons_accidental ha h
    have hl := isNoteLetter_of_isMark (isMark_of_isAccidental ha)
    rw [ih (c :: before) (by rw [hlead, leadOf_cons_accidental ha hbefore]) hrest, writtenFrom,
      if_neg (by rw [hl]; exact Bool.false_ne_true)]
  | case3 lead c rest ha hl behind ih =>
    -- the pass jumps over the marks and digits, where no letter stands
    obtain ⟨hnone, hrest⟩ := atRest_after_note before (behind.dropWhile isDecimalDigit) hl
      (fun x hx => List.mem_takeWhile_imp hx) (fun x hx => List.mem_takeWhile_imp hx)
      head?_any_isMark_of_no_digit
    rw [ih _ hnone.symm hrest, hlead, writtenFrom, if_pos hl,
      ← writtenFrom_append_of_no_letter fun x hx => not_isNoteLetter_of_mem_runs hx,
      List.append_assoc, List.takeWhile_append_dropWhile, List.takeWhile_append_dropWhile]
  | case4 lead c rest ha hl ih =>
    rw [Bool.not_eq_true] at ha hl
    rw [ih (c :: before) (leadOf_cons_other ha).symm (atRest_cons_other hl h), writtenFrom,
      if_neg (by rw [hl]; exact Bool.false_ne_true)]

/-- **The note texts found are those written**, one for each letter of the text and in order. -/
theorem scan_eq_written (cs : List Char) : NoteText.scan cs = written cs :=
  scanFrom_eq_writtenFrom [] rfl (fun h => by cases h)

end Tunebook
