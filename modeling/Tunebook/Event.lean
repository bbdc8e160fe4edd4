import Tunebook.Instrument
import Tunebook.Pitch
import Tunebook.Settings
import Tunebook.TickClass
import Tunebook.Tune.Basic

/-!
# Events

An event is something that a track plays. Its fields are dynamic values, since what callers and settings hand
in is checked only where the event becomes a message.

* `Score` is what is played of a tune: its tempo and its tones.
* `Score.events` are the events of one track, in playing order.
* `effectEvents` are the controllers of the effects.
-/

namespace Tunebook

/-- An event of a track. -/
inductive Event where
  | tempo (bpm : Value)
  | program (instrument channel : Value)
  | note (pitch length velocity channel : Value)
  | controller (number value channel : Value)
  | text (content : Value)
  | unknown (v : Value)
  deriving Repr, Inhabited

def Event.isNote : Event → Bool
  | note _ _ _ _ => true
  | _ => false

def Event.isTempo : Event → Bool
  | tempo _ => true
  | _ => false

def usualVelocity : Int := 100

def usualChannel : Int := 0

/-- What is played of a tune: its tempo, which may be missing, and its tones. -/
structure Score where
  tempo : Value
  tones : List Tone
  deriving Repr, Inhabited

def Tune.score (t : Tune) : Score := ⟨.int t.header.tempo, t.notes.map Note.tone⟩

def noteEvent (velocity channel : Int) (t : Tone) : Except Fault Event := do
  let name ← pitchNameOfValue t.pitch
  let length ← TickClass.ofValue t.length
  .ok (.note (.text name) (.text length.name) (.int velocity) (.int channel))

def noteEvents (tones : List Tone) (settings : Value) : Except Fault (List Event) := do
  let velocity ← Settings.integer settings "velocity" usualVelocity
  let channel ← Settings.integer settings "channel" usualChannel
  tones.mapM (noteEvent velocity channel)

def textEvents (content : Value) : List Event := if content.isGiven then [.text content] else []

/-- The event that sets the tempo: the score's where it has one, else the configured one. -/
def Score.tempoEvent (s : Score) (settings : Value) : Except Fault Event := do
  let configured ← Settings.integer settings "default_tempo" usualTempo
  .ok (.tempo (if s.tempo.isGiven then s.tempo else .int configured))

/-- The event that chooses the instrument: the one asked for, else the configured one. -/
def programEvent (settings instrument : Value) : Except Fault Event := do
  let name ← match instrument with
    | .null => do
      let configured ← Settings.get? settings "instrument"
      .ok (configured.getD (.text usualInstrument))
    | v => .ok v
  let program ← programOfValue name
  let channel ← Settings.integer settings "channel" usualChannel
  .ok (.program (.int program) (.int channel))

/-- The events of one track: the texts that are given, the tempo, the instrument and the notes. -/
def Score.events (s : Score) (settings instrument title composer : Value) : Except Fault (List Event) := do
  let tempo ← s.tempoEvent settings
  let program ← programEvent settings instrument
  let notes ← noteEvents s.tones settings
  .ok (textEvents title ++ textEvents composer ++ [tempo, program] ++ notes)

def sustainController : Int := 64

def modulationController : Int := 1

/-- The controllers of the effects that are asked for: the pedal down, the wheel in the middle. -/
def effectEvents (sustain vibrato channel : Value) : List Event :=
  (if sustain.isGiven then [.controller (.int sustainController) (.int 127) channel] else [])
    ++ (if vibrato.isGiven then [.controller (.int modulationController) (.int 64) channel] else [])

end Tunebook
