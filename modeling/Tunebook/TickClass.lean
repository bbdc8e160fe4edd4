import Tunebook.Value

/-!
# Note values and their lengths in ticks

A note's length in unit lengths is one of six note values or, if it is none of them, is played as an eighth.
A note value lasts a number of eighths of a beat, and a beat a number of ticks.

* `TickClass.ofLength` is the note value of a length.
* `TickClass.ticks` is its length in ticks: the product in double precision, rounded to the nearest integer.
* `ofName?_name`: a note value is found by its name.
-/

namespace Tunebook

def usualResolution : Int := 960

/-- The note values. -/
inductive TickClass where
  | thirtySecond
  | sixteenth
  | eighth
  | quarter
  | half
  | whole
  deriving DecidableEq, Repr, Inhabited

namespace TickClass

def name : TickClass → String
  | thirtySecond => "thirty-second"
  | sixteenth => "sixteenth"
  | eighth => "eighth"
  | quarter => "quarter"
  | half => "half"
  | whole => "whole"

def all : List TickClass := [thirtySecond, sixteenth, eighth, quarter, half, whole]

def ofName? (s : String) : Option TickClass := all.find? fun c => c.name == s

/-- A note value is found by its name. -/
theorem ofName?_name (c : TickClass) : ofName? c.name = some c := by
  cases c <;> decide

/-- How many parts a note value has: a part is an eighth of a beat, which is a quarter of the unit length. -/
def parts : TickClass → Nat
  | thirtySecond => 1
  | sixteenth => 2
  | eighth => 4
  | quarter => 8
  | half => 16
  | whole => 32

def isQuarters (x : Number) (quarters : Nat) : Bool :=
  match x with
  | .int n => n * 4 == quarters
  | .flag b => (if b then 4 else 0) == quarters
  | .double x => x.numEq (.ofRatio false quarters 4)

/-- The note value of a length in unit lengths; other lengths are played as eighths. -/
def ofLength (x : Number) : TickClass :=
  (all.find? fun c => isQuarters x c.parts).getD eighth

/-- The note value of a dynamic value: what is no number is played as an eighth, unless it cannot be looked
up at all. -/
def ofValue (v : Value) : Except Fault TickClass :=
  if v.isUnhashable then .error (.unhashable v.kind)
  else .ok (((Number.ofValue? v).map ofLength).getD eighth)

end TickClass

/-- A number of beats in ticks; a resolution that is not positive is the usual one. -/
def beatsToTicks (beats : Number) (resolution : Int) : Except Fault Int :=
  let resolution := if resolution ≤ 0 then usualResolution else resolution
  match beats with
  | .int n => .ok (n * resolution)
  | .flag b => .ok ((if b then 1 else 0) * resolution)
  | .double x => do
    let r ← (Number.int resolution).toDouble
    (x.mul r).round

def greatestSize : Int := 9223372036854775807

/-- What is wrong with the product of what is no number and a number: only a text and a list can be repeated, an
integer number of times, and they cannot be rounded. -/
def productFault (v : Value) (factor : Number) : Fault :=
  let repeatable := match v with
    | .text _ | .torn _ | .list _ => true
    | _ => false
  if repeatable then
    match factor with
    | .double _ => .notRepeated factor.toValue.kind
    | _ => if factor.isAbove greatestSize then .repeatedTooOften else .notRounded v.kind
  else .notOperable "*" v.kind factor.toValue.kind

def beatsToTicksOfNumber (beats : Value) (resolution : Number) : Except Fault Int :=
  let factor := if resolution.isNotPositive then .int usualResolution else resolution
  match Number.ofValue? beats, factor with
  | none, _ => .error (productFault beats factor)
  | some b, .int n => beatsToTicks b n
  | some b, .flag f => beatsToTicks b (if f then 1 else 0)
  | some b, .double y => do
    let x ← b.toDouble
    (x.mul y).round

def beatsToTicksOfValues (beats resolution : Value) : Except Fault Int := do
  let r ← Number.comparable resolution "<="
  beatsToTicksOfNumber beats r

namespace TickClass

def beats (c : TickClass) : Double := .ofRatio false c.parts 8

def ticks (c : TickClass) (resolution : Int) : Except Fault Int := beatsToTicks (.double c.beats) resolution

def named (v : Value) : Except Fault TickClass :=
  match v with
  | .text s =>
    match ofName? s with
    | some c => .ok c
    | none => .error (.unknownKey (quoted s))
  | _ =>
    if v.isUnhashable then .error (.unhashable v.kind)
    else do
      let shown ← v.shown
      .error (.unknownKey shown)

theorem named_name (c : TickClass) : named (.text c.name) = .ok c := by
  simp [named, ofName?_name]

def ticksOfValue (v : Value) (resolution : Int) : Except Fault Int := do
  let c ← named v
  c.ticks resolution

/-- The ticks of the note value that a dynamic value names, where the resolution is one too. -/
def ticksOfValues (v resolution : Value) : Except Fault Int := do
  let c ← named v
  beatsToTicksOfValues (.double c.beats) resolution

end TickClass

end Tunebook
