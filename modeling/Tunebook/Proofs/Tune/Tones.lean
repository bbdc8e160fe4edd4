import Tunebook.Event
import Tunebook.Proofs.Text.Digits
import Tunebook.Proofs.Tune.Parts
import Tunebook.Tune.Check

/-!
# Tones of notes

A note text is the note of its letter, its marks and its digits, unless it has too many digits
(`NoteText.note_eq`).

The check of a tune's tones writes each number that it complains about, and a number can
be too long to be written.  A length of zero is not, so only a pitch can make the check
fail, and only one with more than 4300 digits (`checkStructure_eq_error`).

A pitch is shifted by its octave marks alone, an octave for each of them
(`NoteText.natAbs_pitch_le`).  So such a tune has more marks than any memory holds
(`length_of_checkStructure_eq_error`): the failure is in the code, but no tune meets it.
-/

namespace Tunebook

/-! ### Complaints that cannot be written -/

theorem pitchComplaints_eq_error {place : Nat} {pitch : Int} {f : Fault}
    (h : pitchComplaints place (.int pitch) = .error f) : Nat.pow 10 digitLimit ≤ pitch.natAbs := by
  rcases bind_eq_error.1 h with h | ⟨x, hx, h⟩
  · cases h
  · split at h
    · rcases bind_eq_error.1 h with h | ⟨shown, _, h⟩
      · exact writeInteger_eq_error h
      · cases h
    · cases h

theorem lengthComplaints_ok (place length : Nat) :
    ∃ complaints, lengthComplaints place (.int length) = .ok complaints := by
  cases length with
  | zero => exact ⟨_, rfl⟩
  | succ n =>
    refine ⟨[], ?_⟩
    rw [lengthComplaints]
    have hpos : (Number.int ((n + 1 : Nat) : Int)).isNotPositive = false := by
      rw [Number.isNotPositive]
      exact decide_eq_false (by omega)
    have hx : Number.comparable (.int ((n + 1 : Nat) : Int)) "<="
      = .ok (.int ((n + 1 : Nat) : Int)) := rfl
    rw [hx]
    simp only [bind, Except.bind, hpos, Bool.false_eq_true, if_false]

theorem tonesComplaints_eq_error {notes : List Note} {place : Nat} {f : Fault}
    (h : tonesComplaints place (notes.map Note.tone) = .error f) :
    ∃ n ∈ notes, Nat.pow 10 digitLimit ≤ n.pitch.natAbs := by
  induction notes generalizing place with
  | nil => cases h
  | cons n rest ih =>
    rcases bind_eq_error.1 h with h | ⟨_, _, h⟩
    · exact ⟨n, List.mem_cons_self, pitchComplaints_eq_error h⟩
    · rcases bind_eq_error.1 h with h | ⟨_, _, h⟩
      · obtain ⟨_, hok⟩ := lengthComplaints_ok place n.length
        rw [Note.tone, hok] at h
        cases h
      · rcases bind_eq_error.1 h with h | ⟨_, _, h⟩
        · obtain ⟨m, hm, hp⟩ := ih h
          exact ⟨m, List.mem_cons_of_mem _ hm, hp⟩
        · cases h

/-- **The check of a tune's tones fails only at a pitch with more than 4300 digits.** -/
theorem checkStructure_eq_error {notes : List Note} {f : Fault}
    (h : checkStructure (notes.map Note.tone) = .error f) :
    ∃ n ∈ notes, Nat.pow 10 digitLimit ≤ n.pitch.natAbs := by
  rw [checkStructure] at h
  split at h
  · cases h
  · rcases bind_eq_error.1 h with h | ⟨_, _, h⟩
    · exact tonesComplaints_eq_error h
    · cases h

/-! ### The note of a note text -/

namespace NoteText

/-- The note number of a note text, from its letter and its own marks. -/
def pitch (t : NoteText) : Int :=
  letterPitch t.letter + accidentalOffset (t.lead ++ t.marks) + 12 * octaveShift t.marks

/-- The length of a note text in unit lengths, from its own digits. -/
def length (t : NoteText) : Nat := if t.digits = [] then 1 else decimalValue t.digits

/-- The note that a text stands for: its letter, the sharps, flats and naturals before and behind
it, the octave marks behind it, and the digits of its length. -/
def asNote (t : NoteText) : Note where
  letter := String.ofList [t.letter]
  pitch := letterPitch t.letter
    + (if '=' ∈ t.lead ++ t.marks then 0
      else (if '^' ∈ t.lead ++ t.marks then 1 else 0) - (if '_' ∈ t.lead ++ t.marks then 1 else 0))
    + 12 * ((t.marks.count '\'' : Int) - t.marks.count ',')
  length := if t.digits = [] then 1 else decimalValue t.digits
  marks := String.ofList (t.lead ++ t.marks)
  octave := 4 + ((t.marks.count '\'' : Int) - t.marks.count ',')

theorem asNote_pitch (t : NoteText) : t.asNote.pitch = t.pitch := by
  simp only [asNote, pitch, accidentalOffset, octaveShift, List.contains_iff_mem]

theorem asNote_octave (t : NoteText) : t.asNote.octave = middleOctave + octaveShift t.marks := rfl

theorem note_of_digits {t : NoteText} {length : Except Fault Nat}
    (h : (if t.digits.isEmpty then .ok 1 else readDigits t.digits) = length) :
    t.note = length >>= fun n => .ok { t.asNote with length := n } := by
  have hpitch := t.asNote_pitch
  rw [pitch, Int.mul_comm 12] at hpitch
  have hmade : ∀ n, ({ t.asNote with length := n } : Note) = {
      letter := String.ofList [t.letter]
      pitch := letterPitch t.letter + accidentalOffset (t.lead ++ t.marks)
        + octaveShift t.marks * 12
      length := n
      marks := String.ofList (t.lead ++ t.marks)
      octave := middleOctave + octaveShift t.marks } := fun n => by
    rw [← hpitch]
    rfl
  subst h
  rw [note]
  simp only [hmade]
  split <;> rfl

/-- **A note text is a note unless it has too many digits.** -/
theorem note_eq (t : NoteText) : t.note =
    if digitLimit < t.digits.length then .error (.tooManyDigits t.digits.length)
    else .ok t.asNote := by
  by_cases hd : t.digits = []
  · have hlength : t.asNote.length = 1 := if_pos hd
    have hshort : ¬ digitLimit < t.digits.length := by rw [hd]; exact Nat.not_lt_zero _
    rw [note_of_digits (if_pos (List.isEmpty_iff.2 hd)), if_neg hshort, ok_bind, ← hlength]
  · have hlength : t.asNote.length = decimalValue t.digits := if_neg hd
    rw [note_of_digits (if_neg fun e => hd (List.isEmpty_iff.1 e)), readDigits]
    by_cases hlong : digitLimit < t.digits.length
    · rw [if_pos hlong, if_pos hlong]
      rfl
    · rw [if_neg hlong, if_neg hlong, ok_bind, ← hlength]

theorem note_eq_ok_iff {t : NoteText} {n : Note} :
    t.note = .ok n ↔ t.digits.length ≤ digitLimit ∧ t.asNote = n := by
  rw [note_eq]
  by_cases hlong : digitLimit < t.digits.length
  · rw [if_pos hlong]
    constructor
    · intro h
      cases h
    · rintro ⟨hshort, _⟩
      exact absurd hlong (Nat.not_lt.2 hshort)
  · rw [if_neg hlong, Except.ok.injEq]
    exact ⟨fun h => ⟨Nat.not_lt.1 hlong, h⟩, fun h => h.2⟩

theorem mapM_note_eq_ok {ts : List NoteText} {notes : List Note} :
    ts.mapM note = .ok notes ↔
      (∀ t ∈ ts, t.digits.length ≤ digitLimit) ∧ ts.map asNote = notes := by
  rw [mapM_eq_ok]
  simp only [note_eq_ok_iff, List.forall₂_and_left]
  rw [← List.forall₂_map_left_iff (f := asNote), List.forall₂_eq_eq_eq]

theorem note_eq_ok {t : NoteText} {n : Note} (h : t.note = .ok n) :
    n.pitch = t.pitch ∧ n.length = t.length := by
  obtain ⟨_, rfl⟩ := note_eq_ok_iff.1 h
  exact ⟨t.asNote_pitch, rfl⟩

end NoteText

/-! ### How far a pitch can be shifted -/

theorem letterPitch_bounds (c : Char) : 60 ≤ letterPitch c ∧ letterPitch c ≤ 83 := by
  rw [letterPitch.eq_def]
  split <;> decide

theorem accidentalOffset_bounds (marks : List Char) :
    -1 ≤ accidentalOffset marks ∧ accidentalOffset marks ≤ 1 := by
  rw [accidentalOffset]
  split
  · decide
  · split <;> split <;> decide

theorem octaveShift_bounds (marks : List Char) :
    -(marks.length : Int) ≤ octaveShift marks ∧ octaveShift marks ≤ marks.length := by
  have hup : marks.count '\'' ≤ marks.length := List.count_le_length
  have hdown : marks.count ',' ≤ marks.length := List.count_le_length
  rw [octaveShift]
  omega

namespace NoteText

theorem natAbs_pitch_le (t : NoteText) : t.pitch.natAbs ≤ 84 + 12 * t.marks.length := by
  have hl := letterPitch_bounds t.letter
  have ha := accidentalOffset_bounds (t.lead ++ t.marks)
  have hs := octaveShift_bounds t.marks
  rw [pitch]
  omega

theorem marks_length_le {lead cs : List Char} {t : NoteText} (h : t ∈ scanFrom lead cs) :
    t.marks.length ≤ cs.length := by
  fun_induction scanFrom lead cs with
  | case1 => cases h
  | case2 lead c rest ha ih =>
    have hr := ih h
    rw [List.length_cons]
    omega
  | case3 lead c rest ha hl behind ih =>
    have hm := (List.takeWhile_sublist isMark (l := rest)).length_le
    have hb : behind.length ≤ rest.length := (List.dropWhile_sublist isMark).length_le
    have hd := (List.dropWhile_sublist isDecimalDigit (l := behind)).length_le
    rw [List.length_cons]
    rcases List.mem_cons.1 h with rfl | h
    · dsimp only
      omega
    · have hr := ih h
      omega
  | case4 lead c rest ha hl ih =>
    have hr := ih h
    rw [List.length_cons]
    omega

end NoteText

/-- **A pitch is shifted by at most an octave for each character of its text.** -/
theorem Tune.natAbs_pitch_le {text : String} {tune : Tune} (h : Tune.read text = .ok tune)
    {n : Note} (hn : n ∈ tune.notes) : n.pitch.natAbs ≤ 84 + 12 * text.toList.length := by
  obtain ⟨_, hnotes⟩ := Tune.read_eq_ok h
  rw [readNotes_eq] at hnotes
  obtain ⟨t, ht, hnote⟩ := mem_of_forall₂ (mapM_eq_ok.1 hnotes) hn
  obtain ⟨line, hline, ht⟩ := List.mem_flatMap.1 ht
  have hmarks := NoteText.marks_length_le ht
  have hlen := length_le_of_mem_lines ((List.dropWhile_sublist _).subset hline)
  have hpitch := t.natAbs_pitch_le
  rw [(NoteText.note_eq_ok hnote).1]
  omega

theorem pow_le_of_shift {k shifted length : Nat} (h : Nat.pow 10 (k + 2) ≤ shifted)
    (hle : shifted ≤ 84 + 12 * length) : Nat.pow 10 k ≤ length := by
  have hpos : 0 < Nat.pow 10 k := Nat.pow_pos (by decide)
  have hsplit : Nat.pow 10 (k + 2) = Nat.pow 10 k * 100 := Nat.pow_add 10 k 2
  omega

/-- **Only a text of more than any memory's characters makes the check of its tones fail.** -/
theorem length_of_checkStructure_eq_error {text : String} {tune : Tune} {f : Fault}
    (h : Tune.read text = .ok tune) (hf : checkStructure tune.score.tones = .error f) :
    Nat.pow 10 (digitLimit - 2) ≤ text.toList.length := by
  obtain ⟨n, hn, hp⟩ := checkStructure_eq_error hf
  have hlimit : digitLimit = digitLimit - 2 + 2 := by decide
  rw [hlimit] at hp
  exact pow_le_of_shift hp (Tune.natAbs_pitch_le h hn)

end Tunebook
