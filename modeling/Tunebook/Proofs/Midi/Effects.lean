import Tunebook.Proofs.Midi.Messages

/-!
# Effects on a track

A track takes in the controllers of effects one by one, and one that cannot be made stops the step where
it is.  What is in front of it would stay.  But the controllers of one step are all on the same channel,
and all that can fail in a controller is its channel: so either the first of them fails or none does, and
a step is added whole or not at all.

* `Track.append_controllers`: **controllers on one channel are added all or not at all.**
* `EffectStep.apply_cases`: what one step does; `EffectStep.run_track`: what a run of steps does, in which a
  step that fails is passed over.
* `EffectStep.effects_atomic`: **every step of a run is added whole or not at all**, and which steps fail.
-/

namespace Tunebook

/-! ### Controllers on one channel -/

def isChannel (v : Value) : Bool := v.asInt?.any fun n => decide (0 ≤ n ∧ n ≤ 15)

/-- **A value is a channel exactly where it is an integer that names one.** -/
theorem isChannel_iff {v : Value} : isChannel v = true ↔ ∃ c, channelOf v = .ok c := by
  rw [isChannel, channelOf]
  cases v.asInt? with
  | none => simp
  | some n =>
    by_cases h : 0 ≤ n ∧ n ≤ 15
    · simp [h]
    · simp [h]

theorem isChannel_eq_false_iff {v : Value} : isChannel v = false ↔ ∃ f, channelOf v = .error f := by
  rw [← Bool.not_eq_true, isChannel_iff]
  cases channelOf v with
  | ok c => simp
  | error f => simp

def controllerEvents (channel : Value) (asked : List (DataByte × DataByte)) : List Event :=
  asked.map fun p => .controller (.int p.1.val) (.int p.2.val) channel

/-- The messages of controllers on a channel; all of them follow at once. -/
def controllerMessages (c : Channel) (asked : List (DataByte × DataByte)) : Track :=
  asked.map fun p => ⟨0, .controller c p.1 p.2⟩

theorem messages_controller (number value : DataByte) (channel : Value) (resolution : Int) :
    (Event.controller (.int number.val) (.int value.val) channel).messages resolution
      = .single (channelOf channel >>= fun c => .ok (.controller c number value)) := by
  simp only [Event.messages, dataByteOf_val, ok_bind]

/-- **Controllers on one channel are added all or not at all.**  The induction is on the controllers; where
the channel is none, the first of them stops it. -/
theorem Track.append_controllers (track : Track) (resolution : Int) (channel : Value)
    (asked : List (DataByte × DataByte)) :
    append track resolution (controllerEvents channel asked) =
      match channelOf channel with
      | .ok c => (track ++ controllerMessages c asked, none)
      | .error f => (track, if asked.isEmpty then none else some f) := by
  cases hchannel : channelOf channel with
  | ok c =>
    induction asked generalizing track with
    | nil => simp [controllerEvents, controllerMessages, append]
    | cons p rest ih =>
      have hmade : (Event.controller (.int p.1.val) (.int p.2.val) channel).messages resolution
          = ([⟨0, .controller c p.1 p.2⟩], none) := by
        rw [messages_controller, hchannel]
        rfl
      have hrest := ih (track ++ [⟨0, .controller c p.1 p.2⟩])
      simp only [controllerEvents, List.map_cons, append, hmade] at hrest ⊢
      rw [hrest]
      simp [controllerMessages]
  | error f =>
    cases asked with
    | nil => rfl
    | cons p rest =>
      have hmade : (Event.controller (.int p.1.val) (.int p.2.val) channel).messages resolution
          = ([], some f) := by
        rw [messages_controller, hchannel]
        rfl
      simp [controllerEvents, append, hmade]

/-! ### The controllers of effects -/

/-- The controllers of effects on a channel. -/
def controllers (channel : Channel) (sustain vibrato : Bool) : Track :=
  (if sustain then [⟨0, .controller channel ⟨64, by decide⟩ ⟨127, by decide⟩⟩] else [])
    ++ (if vibrato then [⟨0, .controller channel ⟨1, by decide⟩ ⟨64, by decide⟩⟩] else [])

def askedControllers (sustain vibrato : Bool) : List (DataByte × DataByte) :=
  (if sustain then [(⟨64, by decide⟩, ⟨127, by decide⟩)] else [])
    ++ (if vibrato then [(⟨1, by decide⟩, ⟨64, by decide⟩)] else [])

theorem effectEvents_eq (sustain vibrato channel : Value) : effectEvents sustain vibrato channel
    = controllerEvents channel (askedControllers sustain.isGiven vibrato.isGiven) := by
  rw [effectEvents, controllerEvents, askedControllers]
  cases sustain.isGiven <;> cases vibrato.isGiven <;> rfl

theorem controllerMessages_asked (c : Channel) (sustain vibrato : Bool) :
    controllerMessages c (askedControllers sustain vibrato) = controllers c sustain vibrato := by
  cases sustain <;> cases vibrato <;> rfl

theorem isEmpty_askedControllers (sustain vibrato : Bool) :
    (askedControllers sustain vibrato).isEmpty = !(sustain || vibrato) := by
  cases sustain <;> cases vibrato <;> rfl

/-! ### Steps -/

/-- A step of effects: whether the pedal and the wheel are asked for, and on which channel. -/
structure EffectStep where
  sustain : Value
  vibrato : Value
  channel : Value

namespace EffectStep

variable (s : EffectStep) (track : Track)

/-- What a step does to a track, and the fault that it raises. -/
def apply : Attempt := track.addEffects s.sustain s.vibrato s.channel

/-- The messages of the controllers that a step asks for, on its channel. -/
def messages : Track :=
  match channelOf s.channel with
  | .ok c => controllers c s.sustain.isGiven s.vibrato.isGiven
  | .error _ => []

/-- Whether a step asks for a controller on what is no channel. -/
def isRefused : Bool := (s.sustain.isGiven || s.vibrato.isGiven) && !isChannel s.channel

/-- **A step is added whole or not at all**: it fails where it asks for a controller on what is no channel,
and then the fault is that of the channel. -/
theorem apply_cases :
    (s.isRefused = false ∧ s.apply track = (track ++ s.messages, none)) ∨
      (s.isRefused = true ∧ ∃ f, channelOf s.channel = .error f ∧ s.apply track = (track, some f)) := by
  rw [apply, Track.addEffects, effectEvents_eq, Track.append_controllers, isEmpty_askedControllers,
    messages, isRefused]
  cases hchannel : channelOf s.channel with
  | ok c =>
    have h : isChannel s.channel = true := isChannel_iff.2 ⟨c, hchannel⟩
    simp [h, controllerMessages_asked]
  | error f =>
    have h : isChannel s.channel = false := isChannel_eq_false_iff.2 ⟨f, hchannel⟩
    cases hasked : s.sustain.isGiven || s.vibrato.isGiven with
    | false => simp [h]
    | true => simp [h]

/-! ### Runs -/

/-- The track after some steps, and the faults that they raised; a step that raises one does not end the
run. -/
def run (track : Track) : List EffectStep → Track × List (Option Fault)
  | [] => (track, [])
  | s :: rest =>
    let (after, fault) := s.apply track
    let (whole, faults) := run after rest
    (whole, fault :: faults)

/-- The steps of a run that raised no fault. -/
def succeeded (steps : List EffectStep) (faults : List (Option Fault)) : List EffectStep :=
  ((steps.zip faults).filter fun p => p.2.isNone).map Prod.fst

theorem run_cons (rest : List EffectStep) : run track (s :: rest) =
    ((run (s.apply track).1 rest).1, (s.apply track).2 :: (run (s.apply track).1 rest).2) := rfl

/-- **The steps of a run that fail are those that are refused**, whatever the others did. -/
theorem isSome_faults (steps : List EffectStep) :
    (run track steps).2.map Option.isSome = steps.map isRefused := by
  induction steps generalizing track with
  | nil => rfl
  | cons s rest ih =>
    rw [run_cons, List.map_cons, List.map_cons, ih]
    rcases apply_cases s track with ⟨hr, h⟩ | ⟨hr, f, _, h⟩
    · rw [h, hr]
      rfl
    · rw [h, hr]
      rfl

/-- **The track after a run is the track before it with the controllers of the steps that succeeded.** -/
theorem run_track (steps : List EffectStep) :
    (run track steps).1 = track ++ (succeeded steps (run track steps).2).flatMap messages := by
  induction steps generalizing track with
  | nil => simp [run, succeeded]
  | cons s rest ih =>
    rw [run_cons]
    rcases apply_cases s track with ⟨_, h⟩ | ⟨_, f, _, h⟩
    · rw [h, ih (track ++ s.messages)]
      simp [succeeded]
    · rw [h, ih track]
      simp [succeeded]

/-- **Every step of a run is added whole or not at all.**  A step on any track either appends all the
controllers that it asks for, the pedal before the wheel, or raises the fault of its channel and leaves the
track as it was; it raises one exactly where it asks for a controller and its channel is no integer from
`0` to `15`.  So a run leaves the track with the controllers of the steps that succeeded, in their order. -/
theorem effects_atomic :
    (∀ (s : EffectStep) (before : Track),
      (s.isRefused = false ∧ s.apply before = (before ++ s.messages, none)) ∨
      (s.isRefused = true ∧ ∃ f, s.apply before = (before, some f))) ∧
    ∀ (steps : List EffectStep) (track : Track),
      (run track steps).2.map Option.isSome = steps.map isRefused ∧
      (run track steps).1 = track ++ (succeeded steps (run track steps).2).flatMap messages := by
  refine ⟨fun s before => ?_, fun steps track => ⟨isSome_faults track steps, run_track track steps⟩⟩
  rcases apply_cases s before with h | ⟨hr, f, _, h⟩
  · exact .inl h
  · exact .inr ⟨hr, f, h⟩

-- a channel out of range, a text where nothing is asked for, and a truth value that counts as a channel
example : run [] [⟨.flag true, .flag true, .int 3⟩, ⟨.flag true, .flag true, .int 16⟩,
      ⟨.null, .null, .text "3"⟩, ⟨.null, .int 7, .flag true⟩]
    = ([⟨0, .controller 3 64 127⟩, ⟨0, .controller 3 1 64⟩, ⟨0, .controller 1 1 64⟩],
      [none, some .channelOutOfRange, none, none]) := rfl

end EffectStep

end Tunebook
