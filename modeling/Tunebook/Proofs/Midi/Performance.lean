import Tunebook.Proofs.Midi.Effects
import Tunebook.Proofs.Midi.ReadBack

/-!
# What a score plays

The four kinds of files assemble their tracks in different ways: one filters the tempo out, one
cuts the notes off and takes the channel from the last event in front of them, one puts texts in
front.  All of them come from one `Performance`, which is found without regard to the kind of file,
and differ only in how it is laid out on tracks.  Each kind is therefore one equation, which holds
for failures as well, and says all that the rest has to know of it.

* `Score.performance`: what a score plays, with every stage that may fail.
* `Score.file`: a file is a performance, laid out on tracks.
* `generateWithTexts_eq`, `generate_eq`, `generateWithEffects_eq`, `generateMultiTrack_eq`: **each
  kind of file is a layout of the performance**.
* `Score.file_eq_error_iff`: **of the layout only a torn text has a part in the failure**, as long as no
  track is too long.
* `Score.file_eq_ok`: what is read back of a file.
-/

namespace Tunebook

/-! ### The head of a track -/

def headEvents (bpm : Value) (program channel : Int) : List Event :=
  [.tempo bpm, .program (.int program) (.int channel)]

theorem mapM_part_head (bpm : Value) (program channel resolution : Int) :
    (headEvents bpm program channel).mapM (Event.part resolution) = (do
      let beat ← tempoOfValue bpm
      let c ← channelOf (.int channel)
      let p ← dataByteOf (.int program)
      .ok [[⟨0, .tempo beat⟩], [⟨0, .program c p⟩]]) := by
  have htempo : (Event.tempo bpm).part resolution = _ := part_of_single rfl
  have hprogram : (Event.program (.int program) (.int channel)).part resolution = _ :=
    part_of_single rfl
  rw [headEvents, List.mapM_cons, List.mapM_cons, List.mapM_nil, htempo, hprogram]
  simp only [bind_assoc, ok_bind, pure_bind]
  rfl

/-! ### What a score plays -/

/-- What a score plays: the time of a beat, an instrument on a channel, and the messages of its
notes. -/
structure Performance where
  beat : BeatTime
  channel : Channel
  program : DataByte
  notes : Track

namespace Performance

/-- What stands before the notes. -/
def head (p : Performance) : Track := [⟨0, .tempo p.beat⟩, ⟨0, .program p.channel p.program⟩]

/-- The messages of a performance on one track. -/
def track (p : Performance) : Track := p.head ++ p.notes

end Performance

namespace Score

/-- The tempo at which a score is played: its own where it has one, else the configured one. -/
def bpm (s : Score) (settings : Value) : Except Fault Value := do
  let configured ← Settings.integer settings "default_tempo" usualTempo
  .ok (if s.tempo.isGiven then s.tempo else .int configured)

end Score

def chosenProgram (settings : Value) : Value → Except Fault Int
  | .null => do
    let configured ← Settings.get? settings "instrument"
    programOfValue (configured.getD (.text usualInstrument))
  | v => programOfValue v

theorem programEvent_eq (settings instrument : Value) :
    programEvent settings instrument = (do
      let program ← chosenProgram settings instrument
      let channel ← Settings.integer settings "channel" usualChannel
      .ok (.program (.int program) (.int channel))) := by
  cases instrument with
  | null =>
    rw [programEvent, chosenProgram, bind_assoc]
    rfl
  | _ => simp only [programEvent, chosenProgram, ok_bind]

/-- The program of the instrument that a text names. No torn text names one. -/
def programNamed : Wording → Int
  | .whole name => instrumentProgram name
  | .torn _ => instrumentProgram ""

theorem chosenProgram_ofWording (settings : Value) (name : Wording) :
    chosenProgram settings (.ofWording name) = .ok (programNamed name) := by
  cases name with
  | whole s => rfl
  | torn t => rfl

namespace Score

/-- What a score plays in settings, on the instrument that is asked for. -/
def performance (s : Score) (settings instrument : Value) (resolution : Int) :
    Except Fault Performance := do
  let bpm ← s.bpm settings
  let program ← chosenProgram settings instrument
  let channel ← Settings.integer settings "channel" usualChannel
  let events ← noteEvents s.tones settings
  let beat ← tempoOfValue bpm
  let c ← channelOf (.int channel)
  let p ← dataByteOf (.int program)
  let parts ← events.mapM (Event.part resolution)
  .ok ⟨beat, c, p, parts.flatten⟩

theorem events_eq (s : Score) (settings instrument title composer : Value) :
    s.events settings instrument title composer = (do
      let bpm ← s.bpm settings
      let program ← chosenProgram settings instrument
      let channel ← Settings.integer settings "channel" usualChannel
      let events ← noteEvents s.tones settings
      .ok (textEvents title ++ (textEvents composer
        ++ (headEvents bpm program channel ++ events)))) := by
  rw [events, tempoEvent, bpm, programEvent_eq]
  simp only [bind_assoc, ok_bind, List.append_assoc]
  rfl

end Score

theorem add_head (track : Track) (resolution : Int) (bpm : Value) (program channel : Int)
    (events : List Event) :
    Track.add track resolution (headEvents bpm program channel ++ events) = (do
      let beat ← tempoOfValue bpm
      let c ← channelOf (.int channel)
      let p ← dataByteOf (.int program)
      let parts ← events.mapM (Event.part resolution)
      .ok (track ++ (⟨beat, c, p, parts.flatten⟩ : Performance).track)) := by
  rw [Track.add_eq, List.mapM_append, mapM_part_head]
  simp only [bind_assoc, ok_bind, pure_bind, List.flatten_append]
  rfl

theorem Score.performance_eq_ok {s : Score} {settings instrument : Value} {resolution : Int}
    {p : Performance} (h : s.performance settings instrument resolution = .ok p) :
    ∃ bpm program channel events parts, s.bpm settings = .ok bpm ∧
      chosenProgram settings instrument = .ok program ∧
      Settings.integer settings "channel" usualChannel = .ok channel ∧
      noteEvents s.tones settings = .ok events ∧ tempoOfValue bpm = .ok p.beat ∧
      channelOf (.int channel) = .ok p.channel ∧ dataByteOf (.int program) = .ok p.program ∧
      events.mapM (Event.part resolution) = .ok parts ∧ p.notes = parts.flatten := by
  obtain ⟨bpm, hbpm, h⟩ := bind_eq_ok.1 h
  obtain ⟨program, hprogram, h⟩ := bind_eq_ok.1 h
  obtain ⟨channel, hchannel, h⟩ := bind_eq_ok.1 h
  obtain ⟨events, hevents, h⟩ := bind_eq_ok.1 h
  obtain ⟨beat, hbeat, h⟩ := bind_eq_ok.1 h
  obtain ⟨c, hc, h⟩ := bind_eq_ok.1 h
  obtain ⟨number, hnumber, h⟩ := bind_eq_ok.1 h
  obtain ⟨parts, hparts, h⟩ := bind_eq_ok.1 h
  cases h
  exact ⟨bpm, program, channel, events, parts, hbpm, hprogram, hchannel, hevents, hbeat, hc,
    hnumber, hparts, rfl⟩

theorem isNote_of_mem_noteEvents {tones : List Tone} {settings : Value} {events : List Event}
    (h : noteEvents tones settings = .ok events) : ∀ e ∈ events, e.isNote = true := by
  obtain ⟨velocity, _, h⟩ := bind_eq_ok.1 h
  obtain ⟨channel, _, h⟩ := bind_eq_ok.1 h
  intro e he
  obtain ⟨t, _, ht⟩ := mem_of_forall₂ (mapM_eq_ok.1 h) he
  obtain ⟨name, _, ht⟩ := bind_eq_ok.1 ht
  obtain ⟨c, _, ht⟩ := bind_eq_ok.1 ht
  cases ht
  rfl

theorem isOfNote_of_performance {s : Score} {settings instrument : Value} {resolution : Int}
    {p : Performance} (h : s.performance settings instrument resolution = .ok p) :
    ∀ t ∈ p.notes, t.message.isOfNote = true := by
  obtain ⟨_, _, _, events, parts, _, _, _, hevents, _, _, _, hparts, hnotes⟩ :=
    Score.performance_eq_ok h
  intro t ht
  rw [hnotes] at ht
  obtain ⟨part, hpart, ht⟩ := List.mem_flatten.1 ht
  obtain ⟨e, he, hmade⟩ := mem_of_forall₂ (mapM_eq_ok.1 hparts) hpart
  exact isOfNote_of_part (isNote_of_mem_noteEvents hevents e he) hmade t ht

theorem wordings_of_isOfNote {m : Message} (h : m.isOfNote = true) : m.wordings = [] := by
  cases m with
  | text w => cases h
  | trackName w => cases h
  | _ => rfl

theorem wordings_of_performance {s : Score} {settings instrument : Value} {resolution : Int}
    {p : Performance} (h : s.performance settings instrument resolution = .ok p) :
    p.notes.wordings = [] := by
  rw [Track.wordings, List.flatMap_eq_nil_iff]
  exact fun t ht => wordings_of_isOfNote (isOfNote_of_performance h t ht)

theorem wordings_track {s : Score} {settings instrument : Value} {resolution : Int} {p : Performance}
    (h : s.performance settings instrument resolution = .ok p) : Track.wordings p.track = [] := by
  rw [Performance.track, Track.wordings_append, wordings_of_performance h]
  rfl

/-! ### Files with one track -/

/-- The file of a score whose performance is laid out on tracks. -/
def Score.file (s : Score) (settings : Value) (format : FileFormat)
    (layout : Performance → List Track) : Except Fault (List UInt8) := do
  let resolution ← resolutionOf settings
  let p ← s.performance settings .null resolution
  fileBytes format resolution (layout p)

theorem add_if {e : Event} {made : Track} {resolution : Int} (h : e.part resolution = .ok made)
    (asked : Bool) (track : Track) (rest : List Event) :
    Track.add track resolution ((if asked then [e] else []) ++ rest)
      = Track.add (track ++ if asked then made else []) resolution rest := by
  cases asked with
  | false => exact congrArg (fun t => Track.add t resolution rest) (List.append_nil track).symm
  | true => rw [if_pos rfl, if_pos rfl, List.singleton_append, Track.add_cons, h, ok_bind]

theorem part_text (w : Wording) (resolution : Int) :
    (Event.text (.ofWording w)).part resolution = .ok [⟨0, .text w⟩] := by
  cases w with
  | whole s => rfl
  | torn t => rfl

/-- A text that may be missing. -/
def optionalText : Option Wording → Value
  | none => .null
  | some w => .ofWording w

/-- The message of a text that may be missing; an empty text is none. -/
def textMessages : Option Wording → Track
  | none => []
  | some w => if w = "" then [] else [⟨0, .text w⟩]

theorem isGiven_ofWording (w : Wording) : (Value.ofWording w).isGiven = !decide (w = "") := by
  cases w with
  | whole s =>
    have hempty : s.isEmpty = decide (s = "") := Bool.eq_iff_iff.2 (by simp)
    simp [Value.ofWording, Value.isGiven, hempty]
  | torn t => rfl

theorem add_textEvents (track : Track) (resolution : Int) (content : Option Wording)
    (rest : List Event) :
    Track.add track resolution (textEvents (optionalText content) ++ rest)
      = Track.add (track ++ textMessages content) resolution rest := by
  cases content with
  | none => exact congrArg (fun t => Track.add t resolution rest) (List.append_nil track).symm
  | some w =>
    have h := add_if (part_text w resolution) (!decide (w = "")) track rest
    rw [optionalText, textEvents, isGiven_ofWording, textMessages, h]
    by_cases he : w = "" <;> simp [he]

/-- A file with texts is the performance with their messages in front. -/
theorem generateWithTexts_eq (s : Score) (settings : Value) (title composer : Option Wording) :
    generateWithTexts s (optionalText title) (optionalText composer) settings
      = s.file settings .single fun p =>
        [textMessages title ++ textMessages composer ++ p.track] := by
  simp only [generateWithTexts, singleTrack, Score.events_eq, Score.file, Score.performance,
    bind_assoc, ok_bind, add_textEvents, add_head, List.nil_append]

/-- The plain file is the performance and nothing else. -/
theorem generate_eq (s : Score) (settings : Value) :
    generate s settings = s.file settings .single fun p => [p.track] :=
  generateWithTexts_eq s settings none none

/-! ### Effects -/

theorem add_effectEvents (track : Track) (resolution : Int) (c : Channel) (sustain vibrato : Bool) :
    Track.add track resolution (effectEvents (.flag sustain) (.flag vibrato) (.int c.val))
      = .ok (track ++ controllers c sustain vibrato) := by
  rw [Track.add, effectEvents_eq, Track.append_controllers, channelOf_val]
  exact congrArg (fun made => Except.ok (track ++ made)) (controllerMessages_asked c sustain vibrato)

theorem filter_isNote {events : List Event} (h : ∀ e ∈ events, e.isNote = true)
    (bpm : Value) (program channel : Int) :
    (headEvents bpm program channel ++ events).filter (fun e => !e.isNote)
        = headEvents bpm program channel ∧
      (headEvents bpm program channel ++ events).filter Event.isNote = events := by
  have hnone : events.filter (fun e => !e.isNote) = [] := by
    rw [List.filter_eq_nil_iff]
    intro e he
    rw [h e he]
    exact Bool.false_ne_true
  constructor
  · rw [List.filter_append, hnone]
    rfl
  · rw [List.filter_append, List.filter_eq_self.2 h]
    rfl

theorem generateWithEffects_eq (s : Score) (settings : Value) (sustain vibrato : Bool) :
    generateWithEffects s (.flag sustain) (.flag vibrato) settings
      = s.file settings .single fun p =>
        [p.head ++ controllers p.channel sustain vibrato ++ p.notes] := by
  rw [generateWithEffects, Score.file]
  refine bind_congr fun resolution => ?_
  -- the stages are the same and in the same order, although the head is laid out before the notes
  rw [Score.events_eq, Score.performance]
  simp only [bind_assoc, ok_bind]
  refine bind_congr fun bpm => ?_
  refine bind_congr fun program => ?_
  refine bind_congr fun channel => ?_
  refine bind_congr_of_ok fun events hevents => ?_
  obtain ⟨hhead, hnotes⟩ := filter_isNote (isNote_of_mem_noteEvents hevents) bpm program channel
  -- the head alone is a score's opening without notes
  have hopening := add_head [] resolution bpm program channel []
  simp only [List.append_nil, List.mapM_nil, pure_bind, List.flatten_nil, List.nil_append]
    at hopening
  simp only [textEvents, Value.isGiven, Bool.false_eq_true, if_false, List.nil_append]
  rw [hhead, hnotes, hopening]
  simp only [bind_assoc, ok_bind]
  refine bind_congr fun beat => ?_
  refine bind_congr_of_ok fun c hc => ?_
  obtain rfl := channelOf_int hc
  refine bind_congr fun p => ?_
  have hlast : lastChannel (headEvents bpm program c.val) = .int c.val := rfl
  rw [hlast, add_effectEvents, ok_bind, Track.add_eq, bind_assoc]
  refine bind_congr fun parts => ?_
  rw [ok_bind, Performance.track, List.append_nil]
  rfl

/-! ### Several instruments -/

theorem instrumentProgram_bounds (name : String) :
    0 ≤ instrumentProgram name ∧ instrumentProgram name ≤ 127 := by
  have hall : ∀ e ∈ instrumentPrograms, 0 ≤ e.2 ∧ e.2 ≤ 127 := by decide
  rw [instrumentProgram]
  generalize String.ofList ((strip name.toList).map Char.toLower) = plain
  cases hl : instrumentPrograms.lookup plain with
  | none => decide
  | some program =>
    obtain ⟨before, behind, e, _⟩ := List.lookup_eq_some_iff.1 hl
    exact hall (plain, program) (by rw [e]; exact List.mem_append_right _ List.mem_cons_self)

theorem programNamed_bounds (name : Wording) : 0 ≤ programNamed name ∧ programNamed name ≤ 127 := by
  cases name with
  | whole s => exact instrumentProgram_bounds s
  | torn t => exact instrumentProgram_bounds ""

def programByte (name : Wording) : DataByte :=
  ⟨(programNamed name).toNat, by have h := programNamed_bounds name; omega⟩

theorem programByte_val (name : Wording) : ((programByte name).val : Int) = programNamed name := by
  dsimp only [programByte]
  rw [Int.toNat_of_nonneg (programNamed_bounds name).1]

theorem dataByteOf_programNamed (name : Wording) :
    dataByteOf (.int (programNamed name)) = .ok (programByte name) := by
  rw [← programByte_val, dataByteOf_val]

/-- Settings that name an instrument name it by a text, or leave it open. -/
def NamesInstrument (settings : Value) : Prop :=
  ∀ v, Settings.get? settings "instrument" = .ok (some v) → v = .null ∨ ∃ name, v = .ofWording name

theorem get?_of_resolutionOf {settings : Value} {resolution : Int}
    (h : resolutionOf settings = .ok resolution) (name : String) :
    ∃ v, Settings.get? settings name = .ok v := by
  rw [Settings.get?.eq_def]
  split
  · exact ⟨_, rfl⟩
  · next hmap =>
    split
    · next hgiven =>
      rw [resolutionOf, if_pos hgiven, configuredResolution.eq_def] at h
      split at h
      · next entries => exact absurd rfl (hmap entries)
      · cases h
    · exact ⟨none, rfl⟩

theorem exists_chosenProgram_eq {settings : Value} {resolution : Int}
    (named : NamesInstrument settings) (h : resolutionOf settings = .ok resolution) :
    ∃ name, chosenProgram settings .null = chosenProgram settings (.ofWording name) := by
  obtain ⟨v, hv⟩ := get?_of_resolutionOf h "instrument"
  rw [chosenProgram, hv, ok_bind]
  cases v with
  | none => exact ⟨usualInstrument, rfl⟩
  | some v =>
    rcases named v hv with rfl | ⟨name, rfl⟩
    · exact ⟨"", rfl⟩
    · exact ⟨name, by cases name <;> rfl⟩

namespace Performance

def on (p : Performance) (name : Wording) : Performance := { p with program := programByte name }

/-- The first of several tracks: the name of its instrument and the performance on it. -/
def leading (p : Performance) (name : Wording) : Track := ⟨0, .trackName name⟩ :: (p.on name).track

/-- Another one of several tracks: the tempo is set by the first one. -/
def following (p : Performance) (name : Wording) : Track :=
  ⟨0, .trackName name⟩ :: ⟨0, .program p.channel (programByte name)⟩ :: p.notes

theorem following_on (p : Performance) (name other : Wording) :
    (p.on name).following other = p.following other := by
  rw [on, following, following]

/-- One track for each instrument. -/
def ensemble (p : Performance) : List Wording → List Track
  | [] => []
  | first :: rest => p.leading first :: rest.map p.following

end Performance

theorem Value.plain_ofWording (w : Wording) : (Value.ofWording w).plain = .ok w := by
  cases w with
  | whole s => rfl
  | torn t => rfl

section

variable (s : Score) (settings : Value) (resolution : Int)

theorem performance_ofWording (name other : Wording) :
    s.performance settings (.ofWording other) resolution
      = (s.performance settings (.ofWording name) resolution >>= fun p => .ok (p.on other)) := by
  simp only [Score.performance, chosenProgram_ofWording, ok_bind, bind_assoc,
    dataByteOf_programNamed]
  rfl

theorem instrumentTrack_first (name : Wording) :
    instrumentTrack s settings resolution true (.ofWording name)
      = (s.performance settings (.ofWording name) resolution >>= fun p =>
        .ok (⟨0, .trackName name⟩ :: p.track)) := by
  simp only [instrumentTrack, Score.events_eq, Score.performance, Value.plain_ofWording, ok_bind, bind_assoc,
    textEvents, Value.isGiven, Bool.false_eq_true, if_false, List.nil_append, if_true, add_head]
  rfl

variable {s settings resolution}

theorem filter_isTempo {events : List Event} (h : ∀ e ∈ events, e.isNote = true)
    (bpm : Value) (program channel : Int) :
    (headEvents bpm program channel ++ events).filter (fun e => !e.isTempo)
      = .program (.int program) (.int channel) :: events := by
  have hall : events.filter (fun e => !e.isTempo) = events := by
    refine List.filter_eq_self.2 fun e he => ?_
    have hnote := h e he
    cases e with
    | note pitch length velocity channel => rfl
    | _ => cases hnote
  rw [List.filter_append, hall]
  rfl

theorem instrumentTrack_other {name : Wording} {p : Performance}
    (h : s.performance settings (.ofWording name) resolution = .ok p) :
    instrumentTrack s settings resolution false (.ofWording name) = .ok (p.following name) := by
  obtain ⟨bpm, program, channel, events, parts, hbpm, hprogram, hchannel, hevents, _, hc, hp,
    hparts, hnotes⟩ := Score.performance_eq_ok h
  obtain rfl := Except.ok.inj ((chosenProgram_ofWording settings name).symm.trans hprogram)
  have hname := hp.symm.trans (dataByteOf_programNamed name)
  have hpart : (Event.program (.int (programNamed name)) (.int channel)).part resolution
      = .ok [⟨0, .program p.channel p.program⟩] := by
    rw [part_of_single rfl, hc, hp]
    rfl
  simp only [instrumentTrack, Score.events_eq, hbpm, hchannel, hevents, Value.plain_ofWording, chosenProgram_ofWording,
    ok_bind, textEvents, Value.isGiven, Bool.false_eq_true, if_false, List.nil_append,
    filter_isTempo (isNote_of_mem_noteEvents hevents)]
  rw [Track.add_cons, hpart, ok_bind, Track.add_eq, hparts, ok_bind, Except.ok.inj hname,
    Performance.following, hnotes]
  rfl

theorem instrumentTracks_others {name : Wording} {p : Performance}
    (h : s.performance settings (.ofWording name) resolution = .ok p) (names : List Wording) :
    instrumentTracks s settings resolution false (names.map .ofWording)
      = .ok (names.map p.following) := by
  induction names with
  | nil => rfl
  | cons other rest ih =>
    have hother := performance_ofWording s settings resolution name other
    rw [h, ok_bind] at hother
    rw [List.map_cons, instrumentTracks, instrumentTrack_other hother, ih, ok_bind, ok_bind,
      List.map_cons, p.following_on]

end

/-- The instruments that are asked for; one piano where there is none. -/
def orUsual (names : List Wording) : List Wording :=
  if names = [] then [usualInstrument] else names

theorem instrumentNames_texts (names : List Wording) :
    instrumentNames (.list (names.map .ofWording)) = .ok ((orUsual names).map .ofWording) := by
  cases names with
  | nil => rfl
  | cons name rest => rfl

theorem generateMultiTrack_eq (s : Score) {settings : Value} (named : NamesInstrument settings)
    (names : List Wording) :
    generateMultiTrack s (.list (names.map .ofWording)) settings
      = s.file settings .several fun p => p.ensemble (orUsual names) := by
  rw [generateMultiTrack, Score.file]
  refine bind_congr_of_ok fun resolution hr => ?_
  obtain ⟨name, hname⟩ := exists_chosenProgram_eq named hr
  have hp : s.performance settings .null resolution
      = s.performance settings (.ofWording name) resolution := by
    rw [Score.performance, Score.performance, hname]
  obtain ⟨first, rest, hnames⟩ : ∃ first rest, orUsual names = first :: rest := by
    cases names with
    | nil => exact ⟨_, _, rfl⟩
    | cons first rest => exact ⟨first, rest, rfl⟩
  rw [instrumentNames_texts, ok_bind, hnames, hp, List.map_cons, instrumentTracks,
    instrumentTrack_first, performance_ofWording s settings resolution name first]
  simp only [bind_assoc, ok_bind]
  refine bind_congr_of_ok fun p hp' => ?_
  rw [instrumentTracks_others hp', ok_bind]
  rfl

/-! ### How a file ends -/

namespace Score

variable {s : Score} {settings : Value} {format : FileFormat} {layout : Performance → List Track}
  {made : Except Fault (List UInt8)}

theorem fileBytes_track_eq_error {resolution : Int} {p : Performance}
    (hp : s.performance settings .null resolution = .ok p)
    (short : fileBytes .single resolution [p.track] ≠ .error .chunkTooLong) (f : Fault) :
    fileBytes .single resolution [p.track] = .error f ↔ headerField resolution = .error f := by
  have one : [p.track].length ≤ 32767 := by
    rw [List.length_singleton]
    omega
  have none_torn : tornFault? ([p.track].flatMap Track.wordings) = none := by
    rw [List.flatMap_singleton, wordings_track hp]
    rfl
  rw [fileBytes_eq_error one short, none_torn]
  exact or_iff_left nofun

/-- **A file of a score fails where the plain one does, or at the first torn text of its layout.** -/
theorem file_eq_error_iff {torn : Option Fault} (hmade : made = s.file settings format layout)
    (few : ∀ p, (layout p).length ≤ 32767) (short : made ≠ .error .chunkTooLong)
    (shortPlain : generate s settings ≠ .error .chunkTooLong)
    (htorn : ∀ resolution p, s.performance settings .null resolution = .ok p →
      tornFault? ((layout p).flatMap Track.wordings) = torn) (f : Fault) :
    made = .error f ↔ generate s settings = .error f ∨
      (∃ bytes, generate s settings = .ok bytes) ∧ torn = some f := by
  rw [generate_eq] at shortPlain ⊢
  rw [hmade] at short ⊢
  refine bind_eq_error_iff_of_ok fun resolution hr => bind_eq_error_iff_of_ok fun p hp => ?_
  have late {format layout} (h : fileBytes format resolution (layout p) = .error .chunkTooLong) :
      s.file settings format layout = .error .chunkTooLong :=
    bind_eq_error.2 (.inr ⟨resolution, hr, bind_eq_error.2 (.inr ⟨p, hp, h⟩)⟩)
  have hplain := fileBytes_track_eq_error hp fun h => shortPlain (late h)
  rw [fileBytes_eq_error (few p) fun h => short (late h), htorn resolution p hp, hplain,
    exists_eq_ok_congr hplain]

/-- A file that was written holds the performance in its layout. -/
theorem file_eq_ok {bytes : List UInt8} (h : s.file settings format layout = .ok bytes) :
    ∃ (resolution : Nat) (p : Performance), resolutionOf settings = .ok resolution ∧
      s.performance settings .null resolution = .ok p ∧
      readFile? bytes = some (format.held resolution (layout p)) := by
  obtain ⟨resolution, hr, h⟩ := bind_eq_ok.1 h
  obtain ⟨p, hp, h⟩ := bind_eq_ok.1 h
  have hpos := Int.le_of_lt (resolutionOf_pos hr)
  have hback := readFile?_of_fileBytes hpos h
  obtain ⟨n, rfl⟩ := Int.eq_ofNat_of_zero_le hpos
  exact ⟨n, p, hr, hp, hback⟩

theorem file_of_performance {resolution : Nat} {p : Performance}
    (hmade : made = s.file settings format layout) (hr : resolutionOf settings = .ok resolution)
    (hp : s.performance settings .null resolution = .ok p) (h : ∀ f, made ≠ .error f) :
    ∃ bytes, made = .ok bytes ∧ readFile? bytes = some (format.held resolution (layout p)) := by
  cases made with
  | error f => exact absurd rfl (h f)
  | ok bytes =>
    obtain ⟨n, q, hn, hq, hback⟩ := file_eq_ok hmade.symm
    obtain rfl : n = resolution := Int.ofNat.inj (Except.ok.inj (hn.symm.trans hr))
    cases hq.symm.trans hp
    exact ⟨bytes, rfl, hback⟩

end Score

end Tunebook
