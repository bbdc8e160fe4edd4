import Tunebook.Event
import Tunebook.Text.Real

/-!
# Messages

A message is what a track of a file holds: of a channel, with data bytes, or about the track. Its fields are in
range by their types, so every message can be written.

* `channelOf`, `dataByteOf` accept the values that are in range.
* `tempoOfValue` is the time of a beat in microseconds at a tempo.
* `Event.messages` are the messages of an event, as far as they can be made.
-/

namespace Tunebook

abbrev Channel := Fin 16

abbrev DataByte := Fin 128

abbrev BeatTime := Fin 16777216

/-- A message of a track. -/
inductive Message where
  | tempo (beat : BeatTime)
  | text (content : Wording)
  | trackName (name : Wording)
  | program (channel : Channel) (number : DataByte)
  | controller (channel : Channel) (number value : DataByte)
  | noteOn (channel : Channel) (key velocity : DataByte)
  | noteOff (channel : Channel) (key velocity : DataByte)
  deriving DecidableEq, Repr

structure Timed where
  delta : Nat
  message : Message
  deriving DecidableEq, Repr

abbrev Track := List Timed

def channelOf (v : Value) : Except Fault Channel :=
  match v.asInt? with
  | none => .error .channelNotInteger
  | some n =>
    if h : 0 ≤ n ∧ n ≤ 15 then .ok ⟨n.toNat, by omega⟩ else .error .channelOutOfRange

def dataByteOf (v : Value) : Except Fault DataByte :=
  match v.asInt? with
  | none => .error .dataByteNotInteger
  | some n =>
    if h : 0 ≤ n ∧ n ≤ 127 then .ok ⟨n.toNat, by omega⟩ else .error .dataByteOutOfRange

/-- A value as a double; a text is read as one. -/
def realOfValue (v : Value) : Except Fault Double :=
  match v with
  | .text s => readReal s.toList
  | .torn t => .error (.notNumber t.quoted)
  | _ =>
    match Number.ofValue? v with
    | some x => x.toDouble
    | none => .error (.notReal v.kind)

/-- The slowest tempo that is told apart from standing still, a millionth of a beat a minute. -/
def slowestTempo : Double := .ofRatio false 1 1000000

def minuteMicros : Double := .ofInt 60000000

/-- An integer as a beat's time: at least one microsecond, at most what 24 bits hold. -/
def beatTimeOf (n : Int) : BeatTime := ⟨min 16777215 (max 1 n.toNat), by omega⟩

/-- The time of a beat at a tempo: a minute over the tempo in double precision, rounded to a microsecond. -/
def beatTimeAt (bpm : Double) : Except Fault BeatTime := do
  let effective := if slowestTempo.lt bpm then bpm else slowestTempo
  let n ← (minuteMicros.div effective).round
  .ok (beatTimeOf n)

/-- The time of a beat at a tempo that is a dynamic value. -/
def tempoOfValue (v : Value) : Except Fault BeatTime := do
  let bpm ← realOfValue v
  beatTimeAt bpm

def contentOf : Value → Except Fault Wording
  | .text s => .ok s
  | .torn t => .ok (.torn t)
  | _ => .error .textNotString

def noteOnOf (pitch velocity channel : Value) : Except Fault Message := do
  let key ← pitchOfValue pitch
  let c ← channelOf channel
  let k ← dataByteOf (.int key)
  let v ← dataByteOf velocity
  .ok (.noteOn c k v)

def releaseVelocity : DataByte := 0

def noteOffOf (pitch length channel : Value) (resolution : Int) : Except Fault Timed := do
  let key ← pitchOfValue pitch
  let ticks ← TickClass.ticksOfValue length resolution
  let c ← channelOf channel
  let k ← dataByteOf (.int key)
  .ok ⟨ticks.toNat, .noteOff c k releaseVelocity⟩

abbrev Attempt := Track × Option Fault

def Attempt.single : Except Fault Message → Attempt
  | .ok m => ([⟨0, m⟩], none)
  | .error f => ([], some f)

/-- The messages of an event, as far as they can be made. A note begins at once and ends after its length. -/
def Event.messages (resolution : Int) : Event → Attempt
  | tempo bpm => .single (do
      let beat ← tempoOfValue bpm
      .ok (.tempo beat))
  | text content => .single (do
      let s ← contentOf content
      .ok (.text s))
  | program instrument channel => .single (do
      let c ← channelOf channel
      let p ← dataByteOf instrument
      .ok (.program c p))
  | controller number value channel => .single (do
      let c ← channelOf channel
      let n ← dataByteOf number
      let v ← dataByteOf value
      .ok (.controller c n v))
  | note pitch length velocity channel =>
    match noteOnOf pitch velocity channel with
    | .error f => ([], some f)
    | .ok begun =>
      match noteOffOf pitch length channel resolution with
      | .error f => ([⟨0, begun⟩], some f)
      | .ok ended => ([⟨0, begun⟩, ended], none)
  | unknown v =>
    match v.shown with
    | .error f => ([], some f)
    | .ok shown => ([], some (.unknownEvent shown))

namespace Track

def append (track : Track) (resolution : Int) : List Event → Attempt
  | [] => (track, none)
  | e :: rest =>
    match e.messages resolution with
    | (made, none) => append (track ++ made) resolution rest
    | (made, some f) => (track ++ made, some f)

def add (track : Track) (resolution : Int) (events : List Event) : Except Fault Track :=
  match append track resolution events with
  | (whole, none) => .ok whole
  | (_, some f) => .error f

def addEffects (track : Track) (sustain vibrato channel : Value) : Attempt :=
  append track usualResolution (effectEvents sustain vibrato channel)

end Track

end Tunebook
