import Tunebook.Proofs.Conversion.Playback
import Tunebook.Proofs.Midi.Soundings

/-!
# Whether notes last

A conversion that succeeds has a resolution between one and what the header of a file can hold, and
its notes have whole lengths above zero.  A length of two, four or eight units is at least one beat,
and every other one is played as an eighth, which is half a beat: at one tick a beat this half goes to
its even neighbour, which is zero.  Nothing else is rounded to zero, so it depends on the resolution
and on the written lengths alone whether a note takes time.

* `resolution_of_fileBytes`: the resolution of a file that was written.
* `soundings_takeTime_iff`: **which notes of a conversion take time**, and when all begin one after
  another.
* `eighths_vanish`: at one tick a beat two eighths begin at the same time and end there.
-/

namespace Tunebook

theorem resolution_of_fileBytes {format : FileFormat} {resolution : ℕ} {tracks : List Track}
    {bytes : List UInt8} (h : fileBytes format resolution tracks = .ok bytes) :
    resolution < 65536 := by
  obtain ⟨_, _, _, _, _, _, _, hdivision, _⟩ := fileBytes_eq_ok h
  exact (headerField_eq_ok hdivision (Int.natCast_nonneg _)).1

theorem forall₂_dropLast {α β : Type} {R : α → β → Prop} {l : List α} {r : List β}
    (h : List.Forall₂ R l r) : List.Forall₂ R l.dropLast r.dropLast := by
  rw [List.dropLast_eq_take, List.dropLast_eq_take, h.length_eq]
  exact List.forall₂_take _ h

/-- **Which notes of a conversion take time.**  Where a conversion succeeds, a listener of its file hears
one note for each letter of the body, in order and each when the one before it is over, with the number
that the letter and its marks give and as hard as the settings say.  A note ends at least one tick after
it begins, unless a beat has only one tick and the written length is none of two, four and eight.  So at
every other resolution all notes take time and begin one after another.  At this one all of them take
time exactly if all lengths are two, four or eight, and they begin one after another exactly if all
lengths but the last one are. -/
theorem soundings_takeTime_iff (c : Clock) (text : String) (optimize settings : Value)
    (success : (convert c (.text text) optimize settings).success = true) :
    ∃ header boundary, Header.read (lines (strip text.toList)) = .ok (header, boundary) ∧
      let body := joined [' '] ((lines (strip text.toList)).drop boundary)
      let texts := written body
      texts.map NoteText.letter = body.filter isNoteLetter ∧
      ∃ m : Manner, m.IsOf settings header.tempo ∧ ∃ bytes track,
        (convert c (.text text) optimize settings).midi = some bytes ∧
        readFile? bytes = some
          { format := 0, resolution := m.resolution,
            tracks := [{ messages := track, last := 0 }] } ∧
        let heard := Track.soundings track
        Successive 0 heard ∧
        List.Forall₂ (fun t s => m.Plays t.pitch t.length s ∧
          (s.TakesTime ↔ ¬Vanishes m.resolution t.length)) texts heard ∧
        ((∀ s ∈ heard, s.TakesTime) ↔ ∀ t ∈ texts, ¬Vanishes m.resolution t.length) ∧
        ((heard.map Sounding.start).Pairwise (· < ·) ↔
          ∀ t ∈ texts.dropLast, ¬Vanishes m.resolution t.length) ∧
        (m.resolution ≠ 1 →
          (∀ s ∈ heard, s.TakesTime) ∧ (heard.map Sounding.start).Pairwise (· < ·)) := by
  obtain ⟨tune, midi, ht, ⟨report, hs, hv⟩, hg, hc⟩ := convert_eq_ok success
  obtain ⟨boundary, hh, htexts⟩ := Tune.read_eq_written ht
  obtain ⟨m, hm, parts, hparts, hfile⟩ := Tune.generate_eq_ok (notes_ne_nil hs hv) hg
  have hback := readFile?_of_fileBytes (Int.natCast_nonneg m.resolution) hfile
  have pos : 0 < m.resolution := by exact_mod_cast resolutionOf_pos hm.resolution
  have small : m.resolution < Nat.pow 2 53 :=
    Nat.lt_trans (resolution_of_fileBytes hfile) (by decide)
  obtain ⟨hsuccessive, hplays⟩ := Manner.soundings_of_sounds (sounds_of_notes htexts hparts) 0
  rw [← m.soundingsFrom_opening] at hsuccessive hplays
  have htime := hplays.imp fun t s h => And.intro h (h.takesTime_iff pos small)
  have hall := forall_mem_iff_of_forall₂ htime fun _ _ h => h.2
  have hstarts := hsuccessive.pairwise_lt_iff.trans
    (forall_mem_iff_of_forall₂ (forall₂_dropLast htime) fun _ _ h => h.2)
  refine ⟨tune.header, boundary, hh, written_letters _, m, hm, midi, m.opening ++ parts.flatten, ?_,
    hback, hsuccessive, htime, hall, hstarts, ?_⟩
  · rw [hc, Result.timed_eq]
  · intro hfine
    exact ⟨hall.2 fun _ _ h => hfine h.1, hstarts.2 fun _ _ h => hfine h.1⟩

/-- At one tick a beat a quarter takes time, and the eighth behind it begins later but takes none. -/
theorem soundings_takeTime_iff_quarter :
    (convert {} (.text "M:4/4\nK:C\nC2D") .null
        (.map [(.text "ticks_per_beat", .int 1)])).success = true ∧
      ∃ bytes track quarter eighth,
        (convert {} (.text "M:4/4\nK:C\nC2D") .null
          (.map [(.text "ticks_per_beat", .int 1)])).midi = some bytes ∧
        readFile? bytes = some
          { format := 0, resolution := 1, tracks := [{ messages := track, last := 0 }] } ∧
        Track.soundings track = [quarter, eighth] ∧ quarter.TakesTime ∧ ¬eighth.TakesTime ∧
        quarter.start < eighth.start := by
  have success : (convert {} (.text "M:4/4\nK:C\nC2D") .null
      (.map [(.text "ticks_per_beat", .int 1)])).success = true := by
    decide +kernel
  have hread : Header.read (lines (strip "M:4/4\nK:C\nC2D".toList)) = .ok ({}, 2) := by
    decide +kernel
  have hwritten : written (joined [' '] ((lines (strip "M:4/4\nK:C\nC2D".toList)).drop 2))
      = [⟨[], 'C', [], ['2']⟩, ⟨[], 'D', [], []⟩] := by
    decide +kernel
  obtain ⟨header, boundary, hh, _, m, hm, bytes, track, hmidi, hfile, _, hheard, _, hstarts, _⟩ :=
    soundings_takeTime_iff {} "M:4/4\nK:C\nC2D" .null (.map [(.text "ticks_per_beat", .int 1)]) success
  cases hread.symm.trans hh
  have hresolution : m.resolution = 1 := Int.ofNat.inj (Except.ok.inj hm.resolution.symm)
  rw [hresolution] at hfile hheard hstarts
  rw [hwritten] at hheard hstarts
  obtain ⟨quarter, _, ⟨_, hquarter⟩, hrest, htrack⟩ := List.forall₂_cons_left_iff.1 hheard
  obtain ⟨eighth, _, ⟨_, heighth⟩, hnil, rfl⟩ := List.forall₂_cons_left_iff.1 hrest
  cases hnil
  rw [htrack] at hstarts
  have hless : quarter.start < eighth.start := by
    have hpairs := hstarts.2 (by decide)
    exact (List.pairwise_cons.1 hpairs).1 _ List.mem_cons_self
  exact ⟨success, bytes, track, quarter, eighth, hmidi, hfile, htrack, hquarter.2 (by decide),
    fun h => heighth.1 h (by decide), hless⟩

theorem eighths_vanish :
    let converted := convert {} (.text "M:4/4\nK:C\nCD") .null
      (.map [(.text "ticks_per_beat", .int 1)])
    ∃ track, converted.success = true ∧
      converted.midi.bind readFile? = some
        { format := 0, resolution := 1, tracks := [{ messages := track, last := 0 }] } ∧
      (¬∀ s ∈ Track.soundings track, s.TakesTime) ∧
      ¬((Track.soundings track).map Sounding.start).Pairwise (· < ·) := by
  intro converted
  refine ⟨[⟨0, .tempo 500000⟩, ⟨0, .program 0 0⟩, ⟨0, .noteOn 0 60 100⟩, ⟨0, .noteOff 0 60 0⟩,
    ⟨0, .noteOn 0 62 100⟩, ⟨0, .noteOff 0 62 0⟩], by decide +kernel, by decide +kernel, ?_, by decide⟩
  intro htime
  obtain ⟨ticks, hticks, hpos⟩ := htime ⟨0, 0, 60, 100, some 0⟩ (by decide)
  cases hticks
  exact absurd hpos (by decide)

end Tunebook
