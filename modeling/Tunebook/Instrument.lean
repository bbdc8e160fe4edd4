import Tunebook.Value

/-!
# Instruments

A few instruments have names; any other name is played as a piano.

* `instrumentProgram` is the program number of a name.
* `programOfValue` is that of a dynamic value, where a value that is not given is a piano.
-/

namespace Tunebook

def instrumentPrograms : List (String × Int) :=
  [("piano", 0), ("violin", 40), ("flute", 73), ("guitar", 24), ("bass", 32)]

def usualInstrument : String := "piano"

/-- The program number of an instrument's name, blanks at its ends and the case of its letters aside. -/
def instrumentProgram (name : String) : Int :=
  let plain := String.ofList ((strip name.toList).map Char.toLower)
  (instrumentPrograms.lookup plain).getD 0

/-- The program number of a dynamic value, which has to be a name where it is given. No torn text and no octets are
the name of an instrument. -/
def programOfValue (v : Value) : Except Fault Int :=
  match v with
  | .text s => .ok (instrumentProgram s)
  | .torn _ => .ok (instrumentProgram "")
  | .octets _ => .ok (instrumentProgram "")
  | _ => if v.isGiven then .error (.noMember v.kind "strip") else .ok (instrumentProgram "")

end Tunebook
