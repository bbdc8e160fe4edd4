import Tunebook.Proofs.Conversion.Gate
import Tunebook.Proofs.Midi.ReadBack

/-!
# What is written is what is played

A conversion that succeeds leads from a text to a file over five steps: the letters of
the body are found, their marks become a note number, the number a name and a number
again, the length a note value and its ticks, and the messages bytes.  A reader of the
file finds the letters of the body again, one tone for each and in order.

* `convert_eq_ok`: the stages of a conversion that succeeds.
* `sounds_of_notes`: the tones of a body are those of its note texts.
* `readFile?_convert`: **what is written is what is played.**
-/

namespace Tunebook

/-- Whether a message begins a note. -/
def Message.isNoteOn : Message → Bool
  | noteOn _ _ _ => true
  | _ => false

/-! ### The stages -/

/-- The stages of a conversion that succeeds. -/
theorem convert_eq_ok {c : Clock} {text : Source} {optimize settings : Value}
    (h : (convert c text optimize settings).success = true) :
    ∃ tune midi, Tune.ofSource text = .ok tune ∧
      (∃ report, checkStructure tune.score.tones = .ok report ∧ report.isValid = true) ∧
      generate tune.score settings = .ok midi ∧
      convert c text optimize settings
        = Result.timed ⟨true, some midi, none, [], tune.metadata, c.timestamp⟩ c := by
  rw [convert, Result.timed_eq] at h
  rcases convertUntimed_cases c text optimize settings with
    ⟨_, hr⟩ | ⟨_, ⟨tune, midi, hp, hr⟩ | ⟨complaints, _, hr⟩ | ⟨f, _, hr⟩⟩
  · rw [hr] at h
    cases h
  · obtain ⟨ht, hs, hw⟩ := passage_eq_passed_iff.1 hp
    obtain ⟨file, hg, hw⟩ := bind_eq_ok.1 hw
    refine ⟨tune, midi, ht, hs, ?_, by rw [convert, hr]⟩
    -- optimizing leaves a file as it is
    rw [hg, ← hw]
    split
    · rfl
    · rfl
  · rw [hr] at h
    cases h
  · rw [hr] at h
    cases h

theorem notes_ne_nil {tune : Tune} {report : Report}
    (h : checkStructure tune.score.tones = .ok report)
    (hv : report.isValid = true) : tune.notes ≠ [] := by
  intro e
  rw [Tune.score, e] at h
  cases h
  cases hv

/-! ### The tones of a body -/

theorem sounds_of_notes {m : Manner} {texts : List NoteText} {notes : List Note}
    {parts : List Track}
    (hn : List.Forall₂ (fun t n => t.note = .ok n) texts notes)
    (hp : List.Forall₂ (fun n part => m.Sounds n.pitch n.length part) notes parts) :
    List.Forall₂ (fun t part => m.Sounds t.pitch t.length part) texts parts := by
  induction hn generalizing parts with
  | nil =>
    cases hp
    exact .nil
  | cons ht _ ih =>
    obtain ⟨part, more, hpart, hmore, rfl⟩ := List.forall₂_cons_left_iff.1 hp
    obtain ⟨hpitch, hlength⟩ := NoteText.note_eq_ok ht
    rw [hpitch, hlength] at hpart
    exact .cons hpart (ih hmore)

theorem countP_isNoteOn {m : Manner} {texts : List NoteText} {parts : List Track}
    (h : List.Forall₂ (fun t part => m.Sounds t.pitch t.length part) texts parts) :
    parts.flatten.countP (fun t => t.message.isNoteOn) = texts.length := by
  induction h with
  | nil => rfl
  | cons hpart _ ih =>
    obtain ⟨key, ticks, _, _, rfl⟩ := hpart
    rw [List.flatten_cons, List.countP_append, ih, List.length_cons, Nat.add_comm]
    rfl

theorem field?_noteCount (tune : Tune) (midi : List UInt8) (c : Clock) :
    Mapping.field? "note_count"
        (Result.timed ⟨true, some midi, none, [], tune.metadata, c.timestamp⟩ c).metadata
      = some (.int tune.notes.length) := rfl

theorem Tune.read_eq_written {text : String} {tune : Tune} (h : Tune.read text = .ok tune) :
    ∃ boundary, Header.read (lines (strip text.toList)) = .ok (tune.header, boundary) ∧
      List.Forall₂ (fun t n => t.note = .ok n)
        (written (joined [' '] ((lines (strip text.toList)).drop boundary))) tune.notes := by
  obtain ⟨⟨header, boundary⟩, hh, h⟩ := bind_eq_ok.1 h
  obtain ⟨notes, hn, h⟩ := bind_eq_ok.1 h
  cases h
  refine ⟨boundary, hh, ?_⟩
  rw [← scan_eq_written]
  exact mapM_eq_ok.1 hn

/-- **What is written is what is played.**  Where a conversion succeeds, a reader of its file finds
one track in the resolution of the settings: the tempo, the instrument, and for each letter of the
body in order one tone, which begins at once, has the number that the letter and its own marks give,
and ends after the note value of its own digits.  There is nothing else, and the result counts these
tones. -/
theorem readFile?_convert (c : Clock) (text : String) (optimize settings : Value)
    (success : (convert c (.text text) optimize settings).success = true) :
    ∃ header boundary, Header.read (lines (strip text.toList)) = .ok (header, boundary) ∧
      let body := joined [' '] ((lines (strip text.toList)).drop boundary)
      (written body).map NoteText.letter = body.filter isNoteLetter ∧
      ∃ m : Manner, m.IsOf settings header.tempo ∧ ∃ notes,
        List.Forall₂ (fun t part => m.Sounds t.pitch t.length part) (written body) notes ∧
        ∃ bytes, (convert c (.text text) optimize settings).midi = some bytes ∧
          readFile? bytes = some
            { format := 0, resolution := m.resolution,
              tracks := [{ messages := m.opening ++ notes.flatten, last := 0 }] } ∧
          Mapping.field? "note_count" (convert c (.text text) optimize settings).metadata
            = some (.int ((m.opening ++ notes.flatten).countP fun t => t.message.isNoteOn)) := by
  obtain ⟨tune, midi, ht, ⟨report, hs, hv⟩, hg, hc⟩ := convert_eq_ok success
  obtain ⟨boundary, hh, htexts⟩ := Tune.read_eq_written ht
  obtain ⟨m, hm, parts, hparts, hfile⟩ := Tune.generate_eq_ok (notes_ne_nil hs hv) hg
  have hsounds := sounds_of_notes htexts hparts
  have hback := readFile?_of_fileBytes (Int.natCast_nonneg m.resolution) hfile
  refine ⟨tune.header, boundary, hh, written_letters _, m, hm, parts, hsounds, midi, ?_, hback, ?_⟩
  · rw [hc, Result.timed_eq]
  · have hcount : (m.opening ++ parts.flatten).countP (fun t => t.message.isNoteOn)
        = tune.notes.length := by
      rw [List.countP_append, countP_isNoteOn hsounds, htexts.length_eq, Manner.opening]
      exact Nat.zero_add _
    rw [hc, field?_noteCount, hcount]

/-- Two notes on one line: the sharp between them is a mark of the letter before it. -/
theorem readFile?_convert_two :
    (convert {} (.text "M:4/4\nK:C\nd,^C2") .null .null).success = true ∧
      ∃ (m : Manner) (first second : Track) (bytes : List UInt8),
        m.Sounds 63 1 first ∧ m.Sounds 60 2 second ∧
        (convert {} (.text "M:4/4\nK:C\nd,^C2") .null .null).midi = some bytes ∧
        readFile? bytes = some
          { format := 0, resolution := m.resolution,
            tracks := [{ messages := m.opening ++ (first ++ second), last := 0 }] } := by
  have success : (convert {} (.text "M:4/4\nK:C\nd,^C2") .null .null).success = true := by
    decide +kernel
  have hread : Header.read (lines (strip "M:4/4\nK:C\nd,^C2".toList)) = .ok ({}, 2) := by
    decide +kernel
  have hwritten : written (joined [' '] ((lines (strip "M:4/4\nK:C\nd,^C2".toList)).drop 2))
      = [⟨[], 'd', [',', '^'], []⟩, ⟨[], 'C', [], ['2']⟩] := by
    decide +kernel
  obtain ⟨header, boundary, hh, _, m, _, notes, hnotes, bytes, hmidi, hfile, _⟩ :=
    readFile?_convert {} "M:4/4\nK:C\nd,^C2" .null .null success
  cases hread.symm.trans hh
  rw [hwritten] at hnotes
  obtain ⟨first, _, hfirst, hrest, rfl⟩ := List.forall₂_cons_left_iff.1 hnotes
  obtain ⟨second, _, hsecond, hnil, rfl⟩ := List.forall₂_cons_left_iff.1 hrest
  cases hnil
  refine ⟨success, m, first, second, bytes, hfirst, hsecond, hmidi, ?_⟩
  rw [hfile, List.flatten_cons, List.flatten_cons, List.flatten_nil, List.append_nil]

end Tunebook
