import Tunebook.Tune.Note
import Tunebook.Tune.Remarks

/-!
# Tunes

A tune is a header, the notes of the lines behind it, and the remarks of the whole text.

* `Tune.read` reads a tune; only a number with too many digits makes it fail.
* `Tune.ofSource` reads a tune from what a caller hands in, which has to be a text.
-/

namespace Tunebook

/-- A tune as it is written. -/
structure Tune where
  header : Header
  notes : List Note
  remarks : Remarks := {}
  deriving DecidableEq, Repr, Inhabited

namespace Tune

def read (text : String) : Except Fault Tune := do
  let ls := lines (strip text.toList)
  let (header, n) ← Header.read ls
  let notes ← readNotes (ls.drop n)
  .ok ⟨header, notes, .of text.toList⟩

def ofSource : Source → Except Fault Tune
  | .text s => read s
  | .other v _ => .error (.noMember v.kind "strip")

end Tune

end Tunebook
