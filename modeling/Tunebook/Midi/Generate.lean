import Tunebook.Midi.File

/-!
# Files of scores

A score becomes a file in four ways: plainly, with one track for each of several instruments, with effects
before the notes, or with texts at the start.

* `resolutionOf` is the configured number of ticks of a beat; `configuredResolution_pos` says that it is positive.
* `generate`, `generateMultiTrack`, `generateWithEffects`, `generateWithTexts` write the files.
-/

namespace Tunebook

/-- The number of ticks of a beat that settings configure, if settings are given at all. Settings that are given
have to be a mapping. -/
def configuredResolution : Value → Except Fault Int
  | .map entries => do
    let n ← ((Mapping.field? "ticks_per_beat" entries).getD (.int usualResolution)).integer?
    match n with
    | some n => .ok (if 0 < n then n else usualResolution)
    | none => .ok usualResolution
  | v => .error (.noMember v.kind "get")

def resolutionOf (settings : Value) : Except Fault Int :=
  if settings.isGiven then configuredResolution settings else .ok usualResolution

theorem configuredResolution_pos {settings : Value} {n : Int} (h : configuredResolution settings = .ok n) :
    0 < n := by
  unfold configuredResolution at h
  split at h
  · rename_i entries
    cases e : ((Mapping.field? "ticks_per_beat" entries).getD (.int usualResolution)).integer? with
    | error f =>
      rw [e] at h
      cases h
    | ok r =>
      rw [e] at h
      cases r with
      | none =>
        cases h
        decide
      | some k =>
        simp only [bind, Except.bind] at h
        split at h
        · cases h
          assumption
        · cases h
          decide
  · cases h

def singleTrack (events : List Event) (resolution : Int) : Except Fault (List UInt8) := do
  let track ← Track.add [] resolution events
  fileBytes .single resolution [track]

def Event.ticksAt (resolution : Value) : Event → Except Fault Int
  | note _ length _ _ => TickClass.ticksOfValues length resolution
  | _ => .ok 0

/-- What is wrong with a file whose resolution is no integer: an event that has no messages or no length, or at
last the header. -/
def resolutionFault (resolution : Value) : List Event → Fault
  | [] => .headerFieldNotInteger
  | e :: rest =>
    match e.messages usualResolution, e.ticksAt resolution with
    | (_, some f), _ => f
    | (_, none), .error f => f
    | (_, none), .ok _ => resolutionFault resolution rest

/-- The file of one track with the given events where the resolution is a dynamic value. -/
def singleTrackOfValue (events : List Event) (resolution : Value) : Except Fault (List UInt8) :=
  match resolution.asInt? with
  | some n => singleTrack events n
  | none => .error (resolutionFault resolution events)

def generate (s : Score) (settings : Value) : Except Fault (List UInt8) := do
  let resolution ← resolutionOf settings
  let events ← s.events settings .null .null .null
  singleTrack events resolution

/-- The members of a value that names several instruments; one piano where nothing is given. -/
def instrumentNames (v : Value) : Except Fault (List Value) :=
  if v.isGiven then
    match v.members? with
    | some members => .ok members
    | none => .error (.notIterable v.kind)
  else .ok [.text usualInstrument]

/-- The track of one instrument among several; only the first one sets the tempo. -/
def instrumentTrack (s : Score) (settings : Value) (resolution : Int) (first : Bool) (name : Value) :
    Except Fault Track := do
  let events ← s.events settings name .null .null
  let label ← name.plain
  let kept := if first then events else events.filter fun e => !e.isTempo
  Track.add [⟨0, .trackName label⟩] resolution kept

def instrumentTracks (s : Score) (settings : Value) (resolution : Int) :
    Bool → List Value → Except Fault (List Track)
  | _, [] => .ok []
  | first, name :: rest => do
    let track ← instrumentTrack s settings resolution first name
    let more ← instrumentTracks s settings resolution false rest
    .ok (track :: more)

/-- The file of a score with one track for each instrument. -/
def generateMultiTrack (s : Score) (instruments settings : Value) : Except Fault (List UInt8) := do
  let resolution ← resolutionOf settings
  let names ← instrumentNames instruments
  let tracks ← instrumentTracks s settings resolution true names
  fileBytes .several resolution tracks

def lastChannel (events : List Event) : Value :=
  match events.getLast? with
  | some (.program _ channel) => channel
  | _ => .int usualChannel

/-- The file of a score with effects between the instrument and the notes. -/
def generateWithEffects (s : Score) (sustain vibrato settings : Value) : Except Fault (List UInt8) := do
  let resolution ← resolutionOf settings
  let events ← s.events settings .null .null .null
  let head := events.filter fun e => !e.isNote
  let notes := events.filter Event.isNote
  let begun ← Track.add [] resolution head
  let effects ← Track.add begun usualResolution (effectEvents sustain vibrato (lastChannel head))
  let track ← Track.add effects resolution notes
  fileBytes .single resolution [track]

/-- The file of a score with a title and a composer at the start. -/
def generateWithTexts (s : Score) (title composer settings : Value) : Except Fault (List UInt8) := do
  let resolution ← resolutionOf settings
  let events ← s.events settings .null title composer
  singleTrack events resolution

/-- A file as it is kept: nothing is left out of it. -/
def optimized (data : List UInt8) : List UInt8 := data

end Tunebook
