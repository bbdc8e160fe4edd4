import Tunebook.Proofs.Midi.Performance

/-!
# What a tune becomes

A tune is played in the manner that the settings and its tempo give: the tempo, the instrument, and
two messages for each note.

* `Manner`: what the settings say of how a track is played.  `Manner.Sounds` are the
  messages of one tone.
* `Tune.generate_eq_ok`: **the file of a tune holds what sounds of its notes**, in order
  and with nothing between them.
-/

namespace Tunebook

/-! ### How a track is played -/

/-- How a track is played: its ticks of a beat, the time of a beat, the instrument, the channel and
how hard notes are struck. -/
structure Manner where
  resolution : Nat
  beat : BeatTime
  program : DataByte
  channel : Channel
  velocity : DataByte

namespace Manner

/-- What settings say of how a tune with a tempo is played. -/
structure IsOf (m : Manner) (settings : Value) (tempo : Int) : Prop where
  resolution : resolutionOf settings = .ok m.resolution
  beat : ∃ configured, Settings.integer settings "default_tempo" usualTempo = .ok configured ∧
    tempoOfValue (.int (if tempo = 0 then configured else tempo)) = .ok m.beat
  program : programEvent settings .null = .ok (.program (.int m.program.val) (.int m.channel.val))
  channel : Settings.integer settings "channel" usualChannel = .ok m.channel.val
  velocity : Settings.integer settings "velocity" usualVelocity = .ok m.velocity.val

/-- What stands before the notes. -/
def opening (m : Manner) : Track := [⟨0, .tempo m.beat⟩, ⟨0, .program m.channel m.program⟩]

/-- The messages of a tone: it begins at once, and it ends when the note value of its length is
over. -/
def Sounds (m : Manner) (pitch : Int) (length : Nat) (part : Track) : Prop :=
  ∃ (key : DataByte) (ticks : Nat), key.val = pitch ∧
    (TickClass.ofLength (.int length)).ticks m.resolution = .ok ticks ∧
    part = [⟨0, .noteOn m.channel key m.velocity⟩, ⟨ticks, .noteOff m.channel key releaseVelocity⟩]

end Manner

theorem sounds_of_part {m : Manner} {velocity channel : Int} {n : Note} {e : Event} {part : Track}
    (hc : channel = m.channel.val) (hv : velocity = m.velocity.val)
    (he : noteEvent velocity channel n.tone = .ok e) (hp : e.part m.resolution = .ok part) :
    m.Sounds n.pitch n.length part := by
  rw [part_of_noteEvent (x := .int n.length) he] at hp
  obtain ⟨ch, hch, hp⟩ := bind_eq_ok.1 hp
  obtain ⟨key, hkey, hp⟩ := bind_eq_ok.1 hp
  obtain ⟨v, hvel, hp⟩ := bind_eq_ok.1 hp
  obtain ⟨ticks, hticks, hp⟩ := bind_eq_ok.1 hp
  cases hp
  have hchannel := channelOf_int hch
  have hvelocity := dataByteOf_int hvel
  have hch' : ch = m.channel := Fin.ext (by omega)
  have hvel' : v = m.velocity := Fin.ext (by omega)
  rw [hch', hvel']
  refine ⟨key, ticks.toNat, (dataByteOf_int hkey).symm, ?_, rfl⟩
  rw [Int.toNat_of_nonneg (TickClass.ticks_nonneg hticks)]
  exact hticks

theorem sounds_of_parts {m : Manner} {velocity channel : Int} (hc : channel = m.channel.val)
    (hv : velocity = m.velocity.val) {notes : List Note} {events : List Event} {parts : List Track}
    (he : List.Forall₂ (fun t e => noteEvent velocity channel t = .ok e)
      (notes.map Note.tone) events)
    (hp : List.Forall₂ (fun e part => e.part m.resolution = .ok part) events parts) :
    List.Forall₂ (fun n part => m.Sounds n.pitch n.length part) notes parts := by
  induction notes generalizing events parts with
  | nil =>
    cases he
    cases hp
    exact .nil
  | cons n rest ih =>
    obtain ⟨e, more, hn, hmore, rfl⟩ := List.forall₂_cons_left_iff.1 he
    obtain ⟨part, others, hpart, hothers, rfl⟩ := List.forall₂_cons_left_iff.1 hp
    exact .cons (sounds_of_part hc hv hn hpart) (ih hmore hothers)

theorem velocity_of_parts {resolution velocity channel : Int} {notes : List Note}
    (hne : notes ≠ []) {events : List Event} {parts : List Track}
    (he : List.Forall₂ (fun t e => noteEvent velocity channel t = .ok e)
      (notes.map Note.tone) events)
    (hp : List.Forall₂ (fun e part => e.part resolution = .ok part) events parts) :
    ∃ v : DataByte, velocity = v.val := by
  obtain ⟨n, rest, rfl⟩ := List.exists_cons_of_ne_nil hne
  obtain ⟨e, more, hn, _, rfl⟩ := List.forall₂_cons_left_iff.1 he
  obtain ⟨part, _, hpart, _, _⟩ := List.forall₂_cons_left_iff.1 hp
  rw [part_of_noteEvent (x := .int n.length) hn] at hpart
  obtain ⟨_, _, hpart⟩ := bind_eq_ok.1 hpart
  obtain ⟨_, _, hpart⟩ := bind_eq_ok.1 hpart
  obtain ⟨v, hv, _⟩ := bind_eq_ok.1 hpart
  exact ⟨v, dataByteOf_int hv⟩

/-! ### The file of a tune -/

theorem Tune.bpm_eq_ok {tune : Tune} {settings bpm : Value}
    (h : tune.score.bpm settings = .ok bpm) :
    ∃ configured, Settings.integer settings "default_tempo" usualTempo = .ok configured ∧
      bpm = .int (if tune.header.tempo = 0 then configured else tune.header.tempo) := by
  obtain ⟨configured, hc, h⟩ := bind_eq_ok.1 h
  cases h
  refine ⟨configured, hc, ?_⟩
  have hgiven : tune.score.tempo.isGiven = (tune.header.tempo != 0) := rfl
  rw [hgiven]
  by_cases h0 : tune.header.tempo = 0
  · rw [h0]
    rfl
  · rw [if_neg h0, if_pos (bne_iff_ne.2 h0)]
    rfl

/-- **The file of a tune holds what sounds of its notes**, one after another behind the tempo and
the instrument, in the manner that the settings and the tune's tempo give. -/
theorem Tune.generate_eq_ok {tune : Tune} {settings : Value} {bytes : List UInt8}
    (hne : tune.notes ≠ []) (h : generate tune.score settings = .ok bytes) :
    ∃ m : Manner, m.IsOf settings tune.header.tempo ∧ ∃ parts,
      List.Forall₂ (fun n part => m.Sounds n.pitch n.length part) tune.notes parts ∧
      fileBytes .single m.resolution [m.opening ++ parts.flatten] = .ok bytes := by
  rw [generate_eq] at h
  obtain ⟨resolution, hr, h⟩ := bind_eq_ok.1 h
  obtain ⟨p, hp, hf⟩ := bind_eq_ok.1 h
  obtain ⟨bpm, program, channel, events, parts, hbpm, hprogram, hchannel, hevents, hbeat, hc,
    hnumber, hparts, hnotes⟩ := Score.performance_eq_ok hp
  obtain ⟨configured, hconfigured, rfl⟩ := Tune.bpm_eq_ok hbpm
  obtain ⟨velocity, hvelocity, hevents⟩ := bind_eq_ok.1 hevents
  obtain ⟨channel', hchannel', hevents⟩ := bind_eq_ok.1 hevents
  cases hchannel.symm.trans hchannel'
  obtain rfl := channelOf_int hc
  obtain rfl := dataByteOf_int hnumber
  have hpos : ((resolution.toNat : Nat) : Int) = resolution :=
    Int.toNat_of_nonneg (Int.le_of_lt (resolutionOf_pos hr))
  rw [← hpos] at hr hparts hf
  have hevents := mapM_eq_ok.1 hevents
  have hparts := mapM_eq_ok.1 hparts
  obtain ⟨v, hv⟩ := velocity_of_parts hne hevents hparts
  have hinstrument : programEvent settings .null
      = .ok (.program (.int p.program.val) (.int p.channel.val)) := by
    rw [programEvent_eq, hprogram, ok_bind, hchannel, ok_bind]
  rw [hv] at hvelocity
  refine ⟨⟨resolution.toNat, p.beat, p.program, p.channel, v⟩,
    ⟨hr, ⟨configured, hconfigured, hbeat⟩, hinstrument, hchannel, hvelocity⟩, parts,
    sounds_of_parts rfl hv hevents hparts, ?_⟩
  rw [← hnotes]
  exact hf

end Tunebook
