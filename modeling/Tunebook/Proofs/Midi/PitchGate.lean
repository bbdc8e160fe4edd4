import Tunebook.Proofs.Double.Finite
import Tunebook.Proofs.Midi.Performance
import Tunebook.Proofs.TickLengths
import Tunebook.Proofs.Tune.Range

/-!
# The encoder's gate on pitches

The check of tones looks at a note's number.  The encoder sees it only behind its name, and looks at
much else on the way.  This file says that with settings in range nothing else can go wrong, so that
both judge by the same range.

* `part_ofNumbers`: a note asks for its pitch once more, and for its ticks.
* `performance_ofNumbers`: **all that can fail in a performance is its notes.**
* `parts_ok`, `inRange_of_parts`, `category_of_parts`: notes are written where they are in range,
  and else refused for a value.
* `encodes_iff_inRange`: **the check of tones is the encoder's gate on pitches.**
-/

namespace Tunebook

/-! ### Notes -/

theorem pitchName_ok {pitch : Int} (h : 0 ≤ pitch ∧ pitch ≤ 127) :
    ∃ name, pitchName pitch = .ok name := by
  have hoctave : (pitch.fdiv 12 - 1).natAbs < 128 := by
    rw [Int.fdiv_eq_ediv_of_nonneg pitch (by decide)]
    omega
  obtain ⟨octave, ho⟩ := writeInteger_ok hoctave
  rw [pitchName, ho]
  exact ⟨_, rfl⟩

theorem category_of_pitchName {pitch : Int} {f : Fault} (h : pitchName pitch = .error f) :
    f.category = .value := by
  obtain ⟨_, rfl⟩ := pitchName_eq_error_iff.1 h
  rfl

theorem category_of_dataByteOf {n : Int} {f : Fault} (h : dataByteOf (.int n) = .error f) :
    f.category = .value := by
  rw [dataByteOf] at h
  dsimp only [Value.asInt?] at h
  split at h
  · cases h
  · cases h
    rfl

theorem dataByteOf_ok {n : Int} (h : 0 ≤ n ∧ n ≤ 127) : ∃ key, dataByteOf (.int n) = .ok key := by
  rw [dataByteOf]
  exact ⟨_, dif_pos h⟩

/-- With a velocity and a channel in range a note asks for its pitch and its ticks alone. -/
theorem part_ofNumbers {velocity : DataByte} {channel : Channel} {n : Int × Number} {e : Event}
    (h : noteEvent velocity.val channel.val (.ofNumbers n) = .ok e) (resolution : Int) :
    e.part resolution = (do
      let key ← dataByteOf (.int n.1)
      let ticks ← (TickClass.ofLength n.2).ticks resolution
      .ok [⟨0, .noteOn channel key velocity⟩,
        ⟨ticks.toNat, .noteOff channel key releaseVelocity⟩]) := by
  rw [part_of_noteEvent h, channelOf_val, ok_bind]
  refine bind_congr fun key => ?_
  rw [dataByteOf_val, ok_bind]

/-! ### Settings -/

/-- Settings with which whatever is in range can be written. -/
structure Playable (settings : Value) : Prop where
  velocity : ∃ v : DataByte, Settings.integer settings "velocity" usualVelocity = .ok v.val
  channel : ∃ c : Channel, Settings.integer settings "channel" usualChannel = .ok c.val
  tempo : ∃ t, Settings.integer settings "default_tempo" usualTempo = .ok t ∧
    t.natAbs < Nat.pow 2 1023
  resolution : ∃ r, resolutionOf settings = .ok r ∧ r ≤ 32767
  instrument : NamesInstrument settings

/-- A score whose tempo and pitches are integers and whose lengths are numbers. -/
def Score.ofNumbers (tempo : Int) (notes : List (Int × Number)) : Score :=
  ⟨.int tempo, notes.map .ofNumbers⟩

section

variable {settings : Value} {tempo : Int} {notes : List (Int × Number)}

theorem bpm_ok (playable : Playable settings) (slow : tempo.natAbs < Nat.pow 2 1023) :
    ∃ t : Int, (Score.ofNumbers tempo notes).bpm settings = .ok (.int t) ∧
      t.natAbs < Nat.pow 2 1023 := by
  obtain ⟨t, ht, hbound⟩ := playable.tempo
  rw [Score.bpm, ht, ok_bind]
  split
  · exact ⟨tempo, rfl, slow⟩
  · exact ⟨t, rfl, hbound⟩

/-- **All that can fail in a performance is its notes.** -/
theorem performance_ofNumbers (playable : Playable settings)
    (slow : tempo.natAbs < Nat.pow 2 1023) (resolution : Int) :
    ∃ (beat : BeatTime) (channel : Channel) (program velocity : DataByte),
      (Score.ofNumbers tempo notes).performance settings .null resolution = (do
        let events ← (notes.map Tone.ofNumbers).mapM (noteEvent velocity.val channel.val)
        let parts ← events.mapM (Event.part resolution)
        .ok ⟨beat, channel, program, parts.flatten⟩) := by
  obtain ⟨v, hv⟩ := playable.velocity
  obtain ⟨c, hc⟩ := playable.channel
  obtain ⟨r, hr, _⟩ := playable.resolution
  obtain ⟨t, ht, hbound⟩ := @bpm_ok settings tempo notes playable slow
  obtain ⟨beat, hbeat⟩ := tempoOfValue_ok hbound
  obtain ⟨name, hname⟩ := exists_chosenProgram_eq playable.instrument hr
  refine ⟨beat, c, programByte name, v, ?_⟩
  rw [Score.performance, ht, hname, chosenProgram_ofWording, hc, noteEvents, hv, hc]
  simp only [ok_bind, hbeat, channelOf_val, dataByteOf_programNamed]
  rfl

section

variable {channel : Channel} {velocity : DataByte} {resolution : Int}

/-- Notes that are in range have events, and these have messages. -/
theorem parts_ok (hr : 0 < resolution) (hr' : resolution ≤ 32767)
    (inRange : ∀ n ∈ notes, 0 ≤ n.1 ∧ n.1 ≤ 127) :
    ∃ events parts,
      (notes.map Tone.ofNumbers).mapM (noteEvent velocity.val channel.val) = .ok events ∧
      events.mapM (Event.part resolution) = .ok parts := by
  have named : ∀ t ∈ notes.map Tone.ofNumbers,
      ∃ e, noteEvent velocity.val channel.val t = .ok e := by
    intro t ht
    obtain ⟨n, hn, rfl⟩ := List.mem_map.1 ht
    obtain ⟨name, hname⟩ := pitchName_ok (inRange n hn)
    rw [Tone.ofNumbers, noteEvent_numbers, hname]
    exact ⟨_, rfl⟩
  obtain ⟨events, he⟩ := mapM_ok named
  have made : ∀ e ∈ events, ∃ part, e.part resolution = .ok part := by
    intro e hmem
    obtain ⟨t, ht, hnote⟩ := mem_of_forall₂ (mapM_eq_ok.1 he) hmem
    obtain ⟨n, hn, rfl⟩ := List.mem_map.1 ht
    obtain ⟨key, hkey⟩ := dataByteOf_ok (inRange n hn)
    obtain ⟨ticks, hticks⟩ := (TickClass.ofLength n.2).ticks_ok hr hr'
    rw [part_ofNumbers hnote, hkey, ok_bind, hticks]
    exact ⟨_, rfl⟩
  obtain ⟨parts, hparts⟩ := mapM_ok made
  exact ⟨events, parts, he, hparts⟩

/-- Notes whose events have messages are in range. -/
theorem inRange_of_parts {events : List Event} {parts : List Track}
    (he : (notes.map Tone.ofNumbers).mapM (noteEvent velocity.val channel.val) = .ok events)
    (hparts : events.mapM (Event.part resolution) = .ok parts) :
    ∀ n ∈ notes, 0 ≤ n.1 ∧ n.1 ≤ 127 := by
  intro n hn
  obtain ⟨e, hmem, hnote⟩ :=
    mem_of_forall₂ (mapM_eq_ok.1 he).flip (List.mem_map_of_mem (f := Tone.ofNumbers) hn)
  obtain ⟨part, _, hpart⟩ := mem_of_forall₂ (mapM_eq_ok.1 hparts).flip hmem
  rw [part_ofNumbers hnote] at hpart
  obtain ⟨key, hkey, _⟩ := bind_eq_ok.1 hpart
  have hval := dataByteOf_int hkey
  have hlt := key.isLt
  omega

/-- What keeps a note from being written is its pitch alone: it has no name, or it is no data
byte. -/
theorem category_of_parts {f : Fault} (hr : 0 < resolution) (hr' : resolution ≤ 32767)
    (h : ((notes.map Tone.ofNumbers).mapM (noteEvent velocity.val channel.val) >>= fun events =>
      events.mapM (Event.part resolution)) = .error f) : f.category = .value := by
  -- all notes are named before any message is made, so there are two ways to fail
  rcases bind_eq_error.1 h with h | ⟨events, he, h⟩
  · obtain ⟨t, ht, h⟩ := mapM_eq_error h
    obtain ⟨n, _, rfl⟩ := List.mem_map.1 ht
    rw [Tone.ofNumbers, noteEvent_numbers] at h
    rcases bind_eq_error.1 h with h | ⟨name, _, h⟩
    · exact category_of_pitchName h
    · cases h
  · obtain ⟨e, hmem, h⟩ := mapM_eq_error h
    obtain ⟨t, ht, hnote⟩ := mem_of_forall₂ (mapM_eq_ok.1 he) hmem
    obtain ⟨n, _, rfl⟩ := List.mem_map.1 ht
    rw [part_ofNumbers hnote] at h
    rcases bind_eq_error.1 h with h | ⟨key, _, h⟩
    · exact category_of_dataByteOf h
    · obtain ⟨ticks, hticks⟩ := (TickClass.ofLength n.2).ticks_ok hr hr'
      rw [hticks, ok_bind] at h
      cases h

end

/-! ### Files -/

/-- The track of a score is not too long for its chunk. -/
def Score.Fits (s : Score) (settings : Value) : Prop :=
  ∀ resolution p, resolutionOf settings = .ok resolution →
    s.performance settings .null resolution = .ok p →
      ∀ content, trackBytes p.track = .ok content → content.length < 4294967296

theorem generate_ofNumbers (playable : Playable settings) (slow : tempo.natAbs < Nat.pow 2 1023)
    (fits : (Score.ofNumbers tempo notes).Fits settings) :
    ((∃ bytes, generate (.ofNumbers tempo notes) settings = .ok bytes) ↔
      ∀ n ∈ notes, 0 ≤ n.1 ∧ n.1 ≤ 127) ∧
    ∀ f, generate (.ofNumbers tempo notes) settings = .error f → f.category = .value := by
  obtain ⟨resolution, hr, hr'⟩ := playable.resolution
  have hpos := resolutionOf_pos hr
  obtain ⟨beat, channel, program, velocity, hp⟩ :=
    @performance_ofNumbers settings tempo notes playable slow resolution
  -- behind a performance only a track that is too long could stop the file
  have file_ok : ∀ p, (Score.ofNumbers tempo notes).performance settings .null resolution = .ok p →
      ∃ bytes, fileBytes .single resolution [p.track] = .ok bytes := by
    intro p h
    have one : [p.track].length ≤ 32767 := by
      rw [List.length_singleton]
      omega
    refine fileBytes_ok .single one (Int.le_of_lt hpos) hr' (fun t ht w hw => ?_) fun t ht => ?_
    · obtain rfl := List.mem_singleton.1 ht
      rw [wordings_track h] at hw
      cases hw
    · obtain rfl := List.mem_singleton.1 ht
      exact fits resolution p hr h
  rw [generate_eq, Score.file, hr, ok_bind]
  refine ⟨⟨?_, ?_⟩, ?_⟩
  · rintro ⟨bytes, h⟩
    obtain ⟨p, h, _⟩ := bind_eq_ok.1 h
    rw [hp] at h
    obtain ⟨events, he, h⟩ := bind_eq_ok.1 h
    obtain ⟨parts, hparts, _⟩ := bind_eq_ok.1 h
    exact inRange_of_parts he hparts
  · intro inRange
    obtain ⟨events, parts, he, hparts⟩ := @parts_ok _ channel velocity _ hpos hr' inRange
    rw [he, ok_bind, hparts, ok_bind] at hp
    obtain ⟨bytes, h⟩ := file_ok _ hp
    exact ⟨bytes, bind_eq_ok.2 ⟨_, hp, h⟩⟩
  · intro f h
    rcases bind_eq_error.1 h with h | ⟨p, h', h⟩
    · rw [hp, ← bind_assoc] at h
      rcases bind_eq_error.1 h with h | ⟨parts, _, h⟩
      · exact category_of_parts hpos hr' h
      · cases h
    · obtain ⟨bytes, hok⟩ := file_ok p h'
      rw [hok] at h
      cases h

/-- **The check of tones is the encoder's gate on pitches.**  A score of numbers is written exactly
if all its pitches are in range, and else it is refused for a value.  So whatever the check accepts
is written, and the check complains about a range exactly where the encoder refuses. -/
theorem encodes_iff_inRange (playable : Playable settings) (slow : tempo.natAbs < Nat.pow 2 1023)
    (fits : (Score.ofNumbers tempo notes).Fits settings) :
    let score := Score.ofNumbers tempo notes
    let refused := ∃ f, generate score settings = .error f ∧ f.category = .value
    ((∃ bytes, generate score settings = .ok bytes) ↔ ∀ n ∈ notes, 0 ≤ n.1 ∧ n.1 ≤ 127) ∧
    (refused ↔ ∃ n ∈ notes, n.1 < 0 ∨ 127 < n.1) ∧
    (∀ report, checkStructure score.tones = .ok report → report.isValid = true →
      ∃ bytes, generate score settings = .ok bytes) ∧
    ∀ report, checkTones score.tones = .ok report →
      ((∃ place shown, rangeComplaint place shown ∈ report.errors) ↔ refused) := by
  intro score refused
  obtain ⟨written, category⟩ := generate_ofNumbers playable slow fits
  have outside : refused ↔ ∃ n ∈ notes, n.1 < 0 ∨ 127 < n.1 := by
    constructor
    · rintro ⟨f, h, _⟩
      by_contra hnone
      have inRange : ∀ n ∈ notes, 0 ≤ n.1 ∧ n.1 ≤ 127 := by
        intro n hn
        have hin : ¬(n.1 < 0 ∨ 127 < n.1) := fun hout => hnone ⟨n, hn, hout⟩
        omega
      obtain ⟨bytes, hok⟩ := written.2 inRange
      cases hok.symm.trans h
    · rintro ⟨n, hn, hout⟩
      cases h : generate score settings with
      | ok bytes =>
        have inRange := written.1 ⟨bytes, h⟩ n hn
        omega
      | error f => exact ⟨f, h, category f h⟩
  have gate : ∀ report, checkTones score.tones = .ok report →
      ((∃ place shown, rangeComplaint place shown ∈ report.errors) ↔ refused) := by
    intro report h
    obtain ⟨errors, he, h⟩ := bind_eq_ok.1 h
    cases h
    rw [outside]
    exact exists_rangeComplaint_iff he
  refine ⟨written, outside, ?_, gate⟩
  intro report h valid
  have hempty : report.errors = [] := List.isEmpty_iff.1 valid
  rw [checkStructure] at h
  split at h
  · cases h
    cases valid
  · cases hfile : generate score settings with
    | ok bytes => exact ⟨bytes, rfl⟩
    | error f =>
      obtain ⟨place, shown, hmem⟩ := (gate report h).2 ⟨f, hfile, category f hfile⟩
      rw [hempty] at hmem
      cases hmem

/-- The lowest and the highest note, at the finest resolution and at a tempo below zero. -/
theorem encodes_iff_inRange_ends :
    let settings : Value := .map [(.text "velocity", .int 1), (.text "ticks_per_beat", .int 32767)]
    let score := Score.ofNumbers (-90) [(0, .double (.ofRatio false 1 3)), (127, .int 4)]
    checkStructure score.tones = .ok ⟨[]⟩ ∧ ∃ bytes, generate score settings = .ok bytes := by
  intro settings score
  have playable : Playable settings :=
    { velocity := ⟨1, rfl⟩
      channel := ⟨0, rfl⟩
      tempo := ⟨usualTempo, rfl, by decide +kernel⟩
      resolution := ⟨32767, rfl, Int.le_refl _⟩
      instrument := fun v hv => by cases hv }
  have fits : score.Fits settings := by
    intro resolution p hr hp
    have h : ∀ p, (resolutionOf settings >>= score.performance settings .null) = .ok p →
        ∀ content, trackBytes p.track = .ok content → content.length < 4294967296 := by decide +kernel
    exact h p (bind_eq_ok.2 ⟨resolution, hr, hp⟩)
  have accepted : checkStructure score.tones = .ok ⟨[]⟩ := by decide +kernel
  exact ⟨accepted,
    (encodes_iff_inRange playable (by decide +kernel) fits).2.2.1 ⟨[]⟩ accepted rfl⟩

end

end Tunebook
