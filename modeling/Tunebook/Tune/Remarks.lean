import Tunebook.Text.Blank
import Tunebook.Text.Lines

/-!
# Remarks in a tune

A comment reaches from a percent sign to the end of its line. Comments and bar lines are recorded and have no
other effect here.

* `Remarks.of` are the comments and the number of bar lines of a text.
-/

namespace Tunebook

/-- The comments of a tune and the number of its bar lines. -/
structure Remarks where
  comments : List String := []
  bars : Nat := 0
  deriving DecidableEq, Repr, Inhabited

def comment? (line : List Char) : Option String :=
  match line.dropWhile (· != '%') with
  | [] => none
  | _ :: rest => some (String.ofList (strip rest))

/-- The comments and the number of bar lines of a text. -/
def Remarks.of (text : List Char) : Remarks :=
  ⟨(lines text).filterMap comment?, text.count '|'⟩

end Tunebook
