import Mathlib.Data.List.Chain
import Tunebook.Proofs.Tune.Tones

/-!
# Notes as they are spelled

A note text is spelled by writing down its accidentals, its letter, its marks and its digits.
A scan takes as many marks and digits behind a letter as there are, so two notes that are
spelled one after the other run together in one case alone: where accidentals follow at once
on a note without digits.  Apart from that, anything that belongs to no note may stand between
notes, or nothing.

A scan finds well-formed note texts only, whatever text it is given, and one for each letter.
So each note that is read keeps to what its own marks say.

* `NoteText.scan_spelled_append`: a spelled note text is scanned whole.
* `readNotes_spelling`: **notes that are spelled are read back.**
* `NoteText.wellFormed_of_mem_scan`: what a scan finds is well formed.
* `readNotes_letters`: **no letter is lost**, and every note agrees with its marks.
-/

namespace Tunebook

namespace NoteText

/-! ### Well-formed note texts -/

/-- The parts of a note text hold what may stand in them. -/
structure WellFormed (t : NoteText) : Prop where
  lead : ∀ c ∈ t.lead, isAccidental c = true
  letter : isNoteLetter t.letter = true
  marks : ∀ c ∈ t.marks, isMark c = true
  digits : ∀ c ∈ t.digits, isDecimalDigit c = true

theorem wellFormed_iff {t : NoteText} : t.WellFormed ↔ t.lead.all isAccidental = true ∧
    isNoteLetter t.letter = true ∧ t.marks.all isMark = true ∧
    t.digits.all isDecimalDigit = true := by
  simp only [List.all_eq_true]
  constructor
  · intro h
    exact ⟨h.lead, h.letter, h.marks, h.digits⟩
  · rintro ⟨hlead, hletter, hmarks, hdigits⟩
    exact ⟨hlead, hletter, hmarks, hdigits⟩

instance (t : NoteText) : Decidable t.WellFormed := decidable_of_iff _ wellFormed_iff.symm

def spelled (t : NoteText) : List Char := t.lead ++ t.letter :: (t.marks ++ t.digits)

def Stops (t : NoteText) (behind : List Char) : Prop :=
  ∀ c ∈ behind.head?, isDecimalDigit c = false ∧ (t.digits = [] → isMark c = false)

theorem scanFrom_accidentals {run : List Char} (h : ∀ c ∈ run, isAccidental c = true)
    (lead rest : List Char) : scanFrom lead (run ++ rest) = scanFrom (lead ++ run) rest := by
  induction run generalizing lead with
  | nil => rw [List.nil_append, List.append_nil]
  | cons c more ih =>
    rw [List.cons_append, scanFrom_accidental (h c List.mem_cons_self),
      ih fun d hd => h d (List.mem_cons_of_mem c hd), List.append_assoc]
    rfl

theorem scan_gap_append {gap : List Char} (h : ∀ c ∈ gap, isGap c = true) (rest : List Char) :
    scan (gap ++ rest) = scan rest := by
  induction gap with
  | nil => rfl
  | cons c more ih =>
    rw [List.cons_append, scan, scanFrom_gap (h c List.mem_cons_self)]
    exact ih fun d hd => h d (List.mem_cons_of_mem c hd)

/-- **A spelled note text is scanned whole**: all its marks and digits, and no others. -/
theorem scan_spelled_append {t : NoteText} (h : t.WellFormed) {behind : List Char}
    (hstops : t.Stops behind) : scan (t.spelled ++ behind) = t :: scan behind := by
  have hmarks : ∀ c ∈ (t.digits ++ behind).head?, isMark c = false := by
    intro c hc
    cases hd : t.digits with
    | nil =>
      rw [hd, List.nil_append] at hc
      exact (hstops c hc).2 hd
    | cons d more =>
      rw [hd] at hc
      cases hc
      exact isMark_of_isDecimalDigit (h.digits _ (hd ▸ List.mem_cons_self))
  have hdigits : ∀ c ∈ behind.head?, isDecimalDigit c = false := fun c hc => (hstops c hc).1
  obtain ⟨htake, hdrop⟩ := takeWhile_dropWhile_run h.marks hmarks
  obtain ⟨htake', hdrop'⟩ := takeWhile_dropWhile_run h.digits hdigits
  rw [spelled, List.append_assoc, scan, scanFrom_accidentals h.lead, List.nil_append,
    List.cons_append, List.append_assoc, scanFrom_letter h.letter, htake, hdrop, htake', hdrop']

end NoteText

/-! ### Notes one after the other -/

/-- Note texts spelled one after the other, each behind what separates it from the one before. -/
def spelling (last : List Char) : List (List Char × NoteText) → List Char
  | [] => last
  | (gap, t) :: rest => gap ++ (t.spelled ++ spelling last rest)

section

variable {last : List Char} {parts : List (List Char × NoteText)}

theorem stops_spelling {t : NoteText} (ends : ∀ c ∈ last, isGap c = true)
    (gaps : ∀ p ∈ parts, ∀ c ∈ p.1, isGap c = true) (formed : ∀ p ∈ parts, p.2.WellFormed)
    (apart : ∀ p ∈ parts.head?, p.1 = [] → p.2.lead ≠ [] → t.digits ≠ []) :
    t.Stops (spelling last parts) := by
  have ofGap : ∀ c, isGap c = true →
      isDecimalDigit c = false ∧ (t.digits = [] → isMark c = false) := by
    intro c hc
    obtain ⟨_, hm, hd⟩ := isGap_iff.1 hc
    exact ⟨hd, fun _ => hm⟩
  intro c hc
  cases parts with
  | nil => exact ofGap c (ends c (List.mem_of_mem_head? hc))
  | cons p rest =>
    obtain ⟨gap, u⟩ := p
    have hu := formed (gap, u) List.mem_cons_self
    rw [spelling] at hc
    -- the first character is that of the gap, of the accidentals, or the letter
    cases gap with
    | cons g more =>
      cases hc
      exact ofGap _ (gaps _ List.mem_cons_self _ List.mem_cons_self)
    | nil =>
      rw [List.nil_append, NoteText.spelled] at hc
      cases hlead : u.lead with
      | cons a more =>
        rw [hlead] at hc
        cases hc
        have hmark := isMark_of_isAccidental (hu.lead _ (hlead ▸ List.mem_cons_self))
        have hdigits := apart ([], u) rfl rfl (by rw [hlead]; exact List.cons_ne_nil _ more)
        exact ⟨isDecimalDigit_of_isMark hmark, fun hnone => absurd hnone hdigits⟩
      | nil =>
        rw [hlead] at hc
        cases hc
        exact ⟨isDecimalDigit_of_isNoteLetter hu.letter,
          fun _ => isMark_of_isNoteLetter hu.letter⟩

theorem scan_spelling (gaps : ∀ p ∈ parts, ∀ c ∈ p.1, isGap c = true)
    (ends : ∀ c ∈ last, isGap c = true) (formed : ∀ p ∈ parts, p.2.WellFormed)
    (apart : parts.IsChain fun p q => q.1 = [] → q.2.lead ≠ [] → p.2.digits ≠ []) :
    NoteText.scan (spelling last parts) = parts.map Prod.snd := by
  induction parts with
  | nil =>
    have hlast := NoteText.scan_gap_append ends []
    rw [List.append_nil, NoteText.scan_nil] at hlast
    exact hlast
  | cons p rest ih =>
    obtain ⟨gap, t⟩ := p
    obtain ⟨hfirst, hrest⟩ := List.isChain_cons.1 apart
    have gaps' := fun q hq => gaps q (List.mem_cons_of_mem _ hq)
    have formed' := fun q hq => formed q (List.mem_cons_of_mem _ hq)
    have hstops : t.Stops (spelling last rest) := stops_spelling ends gaps' formed' hfirst
    rw [spelling, NoteText.scan_gap_append (gaps (gap, t) List.mem_cons_self),
      NoteText.scan_spelled_append (formed (gap, t) List.mem_cons_self) hstops,
      ih gaps' formed' hrest, List.map_cons]

/-- **Notes that are spelled are read back.**  Well-formed note texts with at most 4300 digits each
may stand behind one another with anything between them that belongs to no note; only accidentals
may not follow at once on a note without digits.  They are read as one note each, in order, whether
the text is taken as one line or cut into its lines. -/
theorem readNotes_spelling (gaps : ∀ p ∈ parts, ∀ c ∈ p.1, isGap c = true)
    (ends : ∀ c ∈ last, isGap c = true) (formed : ∀ p ∈ parts, p.2.WellFormed)
    (short : ∀ p ∈ parts, p.2.digits.length ≤ digitLimit)
    (apart : parts.IsChain fun p q => q.1 = [] → q.2.lead ≠ [] → p.2.digits ≠ []) :
    readNotes [spelling last parts] = .ok (parts.map fun p => p.2.asNote) ∧
      readNotes (lines (spelling last parts)) = .ok (parts.map fun p => p.2.asNote) := by
  have hnotes : (parts.map Prod.snd).mapM NoteText.note
      = .ok (parts.map fun p => p.2.asNote) := by
    refine NoteText.mapM_note_eq_ok.2 ⟨?_, List.map_map⟩
    intro t ht
    obtain ⟨p, hp, rfl⟩ := List.mem_map.1 ht
    exact short p hp
  have hscan := scan_spelling gaps ends formed apart
  rw [readNotes_eq, readNotes_eq, NoteText.scan_lines, List.flatMap_singleton, hscan]
  exact ⟨hnotes, hnotes⟩

end

/-- Notes may abut, be cut by a line's end and have digits of any script. -/
theorem readNotes_spelling_abutting :
    readNotes (lines "|^C'=1٢_d,A x\n==g0%]".toList)
      = .ok [⟨"C", 72, 12, "^'=", 5⟩, ⟨"d", 61, 1, "_,", 3⟩, ⟨"A", 69, 1, "", 4⟩,
        ⟨"g", 79, 0, "==", 4⟩] := by
  have gaps : [("|".toList, (⟨['^'], 'C', "'=".toList, "1٢".toList⟩ : NoteText)),
      ([], ⟨['_'], 'd', [','], []⟩), ([], ⟨[], 'A', [], []⟩),
      (" x\n".toList, ⟨"==".toList, 'g', [], "0".toList⟩)].all (fun p => p.1.all isGap) = true := by
    decide
  have ends : "%]".toList.all isGap = true := by decide
  simp only [List.all_eq_true] at gaps ends
  exact (readNotes_spelling gaps ends (by decide) (by decide) (by decide)).2

/-! ### Every letter -/

namespace NoteText

/-- **What a scan finds is well formed**, whatever it reads. -/
theorem wellFormed_of_mem_scanFrom {lead cs : List Char} {t : NoteText}
    (hlead : ∀ c ∈ lead, isAccidental c = true) (h : t ∈ scanFrom lead cs) : t.WellFormed := by
  have hnil : ∀ c ∈ ([] : List Char), isAccidental c = true := fun c hc => by cases hc
  fun_induction scanFrom lead cs with
  | case1 lead => cases h
  | case2 lead c rest ha ih =>
    refine ih ?_ h
    intro d hd
    rcases List.mem_append.1 hd with hd | hd
    · exact hlead d hd
    · obtain rfl := List.mem_singleton.1 hd
      exact ha
  | case3 lead c rest ha hl behind ih =>
    rcases List.mem_cons.1 h with rfl | h
    · exact ⟨hlead, hl, fun d hd => List.mem_takeWhile_imp hd,
        fun d hd => List.mem_takeWhile_imp hd⟩
    · exact ih hnil h
  | case4 lead c rest ha hl ih => exact ih hnil h

theorem wellFormed_of_mem_scan {cs : List Char} {t : NoteText} (h : t ∈ scan cs) : t.WellFormed :=
  wellFormed_of_mem_scanFrom (fun c hc => by cases hc) h

theorem octaveShift_lead_append {t : NoteText} (h : t.WellFormed) :
    octaveShift (t.lead ++ t.marks) = octaveShift t.marks := by
  have hnone : ∀ c, isAccidental c = false → t.lead.count c = 0 := by
    intro c hc
    refine List.count_eq_zero.2 fun hmem => ?_
    rw [h.lead c hmem] at hc
    cases hc
  rw [octaveShift, octaveShift, List.count_append, List.count_append, hnone '\'' (by decide),
    hnone ',' (by decide), Nat.zero_add, Nat.zero_add]

end NoteText

/-- A note agrees with its letter and its marks: its octave is that of its octave marks, its number
that of its letter, accidentals and octave, and its length that of decimal digits or the unit. -/
structure Note.Agrees (n : Note) : Prop where
  octave : n.octave = 4 + octaveShift n.marks.toList
  pitch : ∃ c, isNoteLetter c = true ∧ n.letter = String.ofList [c] ∧
    n.pitch = letterPitch c + accidentalOffset n.marks.toList + 12 * (n.octave - 4)
  length : ∃ digits, (∀ c ∈ digits, isDecimalDigit c = true) ∧ digits.length ≤ digitLimit ∧
    n.length = if digits = [] then 1 else decimalValue digits
  marks : ∀ c ∈ n.marks.toList, c ∈ ['^', '_', '=', '\'', ',']

theorem NoteText.asNote_agrees {t : NoteText} (h : t.WellFormed)
    (short : t.digits.length ≤ digitLimit) : t.asNote.Agrees := by
  have hmarks : t.asNote.marks.toList = t.lead ++ t.marks := String.toList_ofList
  have hshift := octaveShift_lead_append h
  constructor
  case octave => rw [hmarks, hshift, asNote_octave, middleOctave]
  case pitch =>
    refine ⟨t.letter, h.letter, rfl, ?_⟩
    have hback : 4 + octaveShift t.marks - 4 = octaveShift t.marks := by omega
    rw [hmarks, asNote_pitch, pitch, asNote_octave, middleOctave, hback]
  case length => exact ⟨t.digits, h.digits, short, rfl⟩
  case marks =>
    intro c hc
    rw [hmarks, List.mem_append] at hc
    have hmark : isMark c = true := hc.elim (fun hl => isMark_of_isAccidental (h.lead c hl))
      (h.marks c)
    rcases isMark_cases hmark with rfl | rfl | rfl | rfl | rfl <;> decide

/-- **No letter is lost.**  Lines that are read as notes give one note for each letter that stands
on them, in order, and every note agrees with its letter and its marks. -/
theorem readNotes_letters {ls : List (List Char)} {notes : List Note}
    (h : readNotes ls = .ok notes) :
    notes.map Note.letter
        = ((joined [' '] ls).filter isNoteLetter).map (fun c => String.ofList [c]) ∧
      ∀ n ∈ notes, n.Agrees := by
  obtain ⟨hshort, rfl⟩ := NoteText.mapM_note_eq_ok.1 h
  constructor
  · rw [List.map_map, ← written_letters, ← scan_eq_written, List.map_map]
    rfl
  · intro n hn
    obtain ⟨t, ht, rfl⟩ := List.mem_map.1 hn
    exact NoteText.asNote_agrees (NoteText.wellFormed_of_mem_scan ht) (hshort t ht)

/-- Marks before what is no letter, digits without a letter and a mark behind digits belong to no
note, and no letter is lost to them. -/
theorem readNotes_letters_malformed :
    let ls := ["=^C'2x,^_e,,".toList, "12^".toList, "B3''h_".toList]
    let notes := [⟨"C", 72, 2, "=^'", 5⟩, ⟨"e", 52, 1, "^_,,", 2⟩, ⟨"B", 71, 3, "", 4⟩]
    readNotes ls = .ok notes ∧
      notes.map Note.letter
        = ((joined [' '] ls).filter isNoteLetter).map (fun c => String.ofList [c]) ∧
      ∀ n ∈ notes, n.Agrees := by
  have h : readNotes ["=^C'2x,^_e,,".toList, "12^".toList, "B3''h_".toList]
      = .ok [⟨"C", 72, 2, "=^'", 5⟩, ⟨"e", 52, 1, "^_,,", 2⟩, ⟨"B", 71, 3, "", 4⟩] := by
    decide +kernel
  exact ⟨h, readNotes_letters h⟩

end Tunebook
