import Tunebook.Midi.Generate
import Tunebook.Proofs.Pitch
import Tunebook.Proofs.TickClass

/-!
# The messages of events

An event becomes messages or fails, and a track takes in its events one by one.  Both are equations
between computations, so what is said of a track holds for its failures too.

* `Event.part`: the messages of an event, if all of them can be made.
* `Track.add_eq`: **a track takes in its events one by one**, up to the first one that fails.
* `part_note`, `part_of_noteEvent`: **a note is a beginning and an end of its pitch**, since the
  name by which it goes leads back to the pitch.
* `isOfNote_of_part`: a note has no other messages.
-/

namespace Tunebook

/-! ### Events and tracks -/

/-- The messages of an event, if all of them can be made. -/
def Event.part (resolution : Int) (e : Event) : Except Fault Track :=
  match e.messages resolution with
  | (made, none) => .ok made
  | (_, some f) => .error f

theorem Event.part_eq_ok {resolution : Int} {e : Event} {part : Track}
    (h : e.part resolution = .ok part) : e.messages resolution = (part, none) := by
  rw [Event.part] at h
  split at h
  · next made hm =>
    cases h
    exact hm
  · cases h

namespace Track

theorem add_cons (track : Track) (resolution : Int) (e : Event) (rest : List Event) :
    add track resolution (e :: rest)
      = (e.part resolution >>= fun made => add (track ++ made) resolution rest) := by
  rw [add, append, Event.part]
  obtain ⟨made, fault⟩ := e.messages resolution
  cases fault with
  | none => rfl
  | some f => rfl

/-- **A track takes in its events one by one**, up to the first one that fails. -/
theorem add_eq (track : Track) (resolution : Int) (events : List Event) :
    add track resolution events
      = (events.mapM (Event.part resolution) >>= fun parts => .ok (track ++ parts.flatten)) := by
  induction events generalizing track with
  | nil => exact congrArg Except.ok (List.append_nil track).symm
  | cons e rest ih =>
    rw [add_cons, List.mapM_cons, bind_assoc]
    refine bind_congr fun made => ?_
    rw [ih, bind_assoc]
    refine bind_congr fun parts => ?_
    rw [pure_bind, List.flatten_cons, List.append_assoc]

end Track

theorem part_of_single {e : Event} {resolution : Int} {x : Except Fault Message}
    (h : e.messages resolution = .single x) :
    e.part resolution = (x >>= fun m => .ok [⟨0, m⟩]) := by
  rw [Event.part, h]
  cases x with
  | error f => rfl
  | ok m => rfl

/-! ### Fields of messages -/

theorem channelOf_int {n : Int} {c : Channel} (h : channelOf (.int n) = .ok c) : n = c.val := by
  rw [channelOf] at h
  dsimp only [Value.asInt?] at h
  split at h
  · cases h
    exact (Int.toNat_of_nonneg (by omega)).symm
  · cases h

theorem dataByteOf_int {n : Int} {b : DataByte} (h : dataByteOf (.int n) = .ok b) : n = b.val := by
  rw [dataByteOf] at h
  dsimp only [Value.asInt?] at h
  split at h
  · cases h
    exact (Int.toNat_of_nonneg (by omega)).symm
  · cases h

theorem channelOf_val (c : Channel) : channelOf (.int c.val) = .ok c := by
  rw [channelOf]
  dsimp only [Value.asInt?]
  rw [dif_pos (by omega)]
  exact congrArg Except.ok (Fin.ext (Int.toNat_natCast c.val))

theorem dataByteOf_val (b : DataByte) : dataByteOf (.int b.val) = .ok b := by
  rw [dataByteOf]
  dsimp only [Value.asInt?]
  rw [dif_pos (by omega)]
  exact congrArg Except.ok (Fin.ext (Int.toNat_natCast b.val))

/-! ### Notes -/

/-- A note begins and ends with its pitch: the name that stands between leads back to it. -/
theorem part_note {pitch : Int} {name : String} (h : pitchName pitch = .ok name) (c : TickClass)
    (velocity channel resolution : Int) :
    (Event.note (.text name) (.text c.name) (.int velocity) (.int channel)).part resolution = (do
      let ch ← channelOf (.int channel)
      let key ← dataByteOf (.int pitch)
      let v ← dataByteOf (.int velocity)
      let ticks ← c.ticks resolution
      .ok [⟨0, .noteOn ch key v⟩, ⟨ticks.toNat, .noteOff ch key releaseVelocity⟩]) := by
  have hback : pitchOfValue (.text name) = .ok pitch := pitchOfName_pitchName h
  rw [Event.part, Event.messages, noteOnOf, noteOffOf, hback, TickClass.ticksOfValue,
    TickClass.named_name]
  simp only [ok_bind]
  -- the end asks for the channel and the key once more, behind the ticks
  cases channelOf (.int channel) with
  | error f => rfl
  | ok ch =>
    cases dataByteOf (.int pitch) with
    | error f => rfl
    | ok key =>
      cases dataByteOf (.int velocity) with
      | error f => rfl
      | ok v =>
        cases c.ticks resolution with
        | error f => rfl
        | ok ticks => rfl

theorem ofValue_toValue (x : Number) :
    TickClass.ofValue x.toValue = .ok (TickClass.ofLength x) := by
  cases x with
  | int n => rfl
  | double x => rfl
  | flag b => rfl

theorem noteEvent_numbers (velocity channel pitch : Int) (x : Number) :
    noteEvent velocity channel ⟨.int pitch, x.toValue⟩ = (pitchName pitch >>= fun name =>
      .ok (.note (.text name) (.text (TickClass.ofLength x).name) (.int velocity)
        (.int channel))) := by
  have hname : pitchNameOfValue (.int pitch) = pitchName pitch := rfl
  rw [noteEvent, hname, ofValue_toValue]
  rfl

/-- **What is written of a note** whose pitch is an integer and whose length is a number. -/
theorem part_of_noteEvent {velocity channel pitch : Int} {x : Number} {e : Event}
    (h : noteEvent velocity channel ⟨.int pitch, x.toValue⟩ = .ok e) (resolution : Int) :
    e.part resolution = (do
      let ch ← channelOf (.int channel)
      let key ← dataByteOf (.int pitch)
      let v ← dataByteOf (.int velocity)
      let ticks ← (TickClass.ofLength x).ticks resolution
      .ok [⟨0, .noteOn ch key v⟩, ⟨ticks.toNat, .noteOff ch key releaseVelocity⟩]) := by
  rw [noteEvent_numbers] at h
  obtain ⟨name, hname, h⟩ := bind_eq_ok.1 h
  cases h
  exact part_note hname _ _ _ _

/-- Whether a message is the beginning or the end of a note. -/
def Message.isOfNote : Message → Bool
  | noteOn _ _ _ => true
  | noteOff _ _ _ => true
  | _ => false

theorem isOfNote_of_noteOnOf {pitch velocity channel : Value} {m : Message}
    (h : noteOnOf pitch velocity channel = .ok m) : m.isOfNote = true := by
  obtain ⟨key, _, h⟩ := bind_eq_ok.1 h
  obtain ⟨c, _, h⟩ := bind_eq_ok.1 h
  obtain ⟨k, _, h⟩ := bind_eq_ok.1 h
  obtain ⟨v, _, h⟩ := bind_eq_ok.1 h
  cases h
  rfl

theorem isOfNote_of_noteOffOf {pitch length channel : Value} {resolution : Int} {t : Timed}
    (h : noteOffOf pitch length channel resolution = .ok t) : t.message.isOfNote = true := by
  obtain ⟨key, _, h⟩ := bind_eq_ok.1 h
  obtain ⟨ticks, _, h⟩ := bind_eq_ok.1 h
  obtain ⟨c, _, h⟩ := bind_eq_ok.1 h
  obtain ⟨k, _, h⟩ := bind_eq_ok.1 h
  cases h
  rfl

theorem isOfNote_of_part {e : Event} {resolution : Int} {part : Track} (hnote : e.isNote = true)
    (h : e.part resolution = .ok part) : ∀ t ∈ part, t.message.isOfNote = true := by
  have hmessages := Event.part_eq_ok h
  cases e with
  | note pitch length velocity channel =>
    rw [Event.messages] at hmessages
    split at hmessages
    · cases hmessages
    · next begun hon =>
      split at hmessages
      · cases hmessages
      · next ended hoff =>
        cases hmessages
        intro t ht
        rcases List.mem_cons.1 ht with rfl | ht
        · exact isOfNote_of_noteOnOf hon
        · obtain rfl := List.mem_singleton.1 ht
          exact isOfNote_of_noteOffOf hoff
  | _ => cases hnote

/-! ### Resolutions -/

theorem resolutionOf_pos {settings : Value} {n : Int} (h : resolutionOf settings = .ok n) :
    0 < n := by
  rw [resolutionOf] at h
  split at h
  · exact configuredResolution_pos h
  · cases h
    decide

end Tunebook
