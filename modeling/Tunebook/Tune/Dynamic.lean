import Tunebook.Tune.Note

/-!
# Parts of tunes from dynamic values

A caller may hand in any value where the marks of a note or the lines of a tune are expected. A text then stands
for its characters, a mapping for its keys.

* `accidentalOffsetOfValue`, `octaveShiftOfValue` read marks.
* `Header.ofValue?`, `notesOfValue?` read lines; `Header.ofMembers_texts` says that lines of texts are read as they are.
-/

namespace Tunebook

/-! ## Marks -/

def marksAmong (members : List Value) : List Char :=
  members.filterMap fun v => match v with
    | .text s =>
      match s.toList with
      | [c] => some c
      | _ => none
    | _ => none

/-- How many semitones the marks that a value holds shift a note. -/
def accidentalOffsetOfValue : Value → Except Fault Int
  | .text s => .ok (accidentalOffset s.toList)
  | .torn t => .ok (accidentalOffset (t.points.filterMap CodePoint.char?))
  | .list items => .ok (accidentalOffset (marksAmong items))
  | .map entries => .ok (accidentalOffset (marksAmong (entries.map Prod.fst)))
  | v => .error (.notContainer v.kind)

/-- How many octaves the marks that a value holds shift a note. The keys of a mapping cannot be counted. -/
def octaveShiftOfValue : Value → Except Fault Int
  | .text s => .ok (octaveShift s.toList)
  | .torn t => .ok (octaveShift (t.points.filterMap CodePoint.char?))
  | .list items => .ok (octaveShift (marksAmong items))
  | v => .error (.noMember v.kind "count")

/-! ## Lines -/

def leadingTexts : List Source → List (List Char)
  | .text s :: rest => s.toList :: leadingTexts rest
  | _ => []

/-- The texts of a list whose members are counted from `place` on, if all of them are texts. -/
def textsFrom (place : Nat) : List Source → Except Fault (List (List Char))
  | [] => .ok []
  | .text s :: rest => do
    let more ← textsFrom (place + 1) rest
    .ok (s.toList :: more)
  | .other v _ :: _ => .error (.memberNotText place v.kind)

theorem leadingTexts_texts (ls : List String) : leadingTexts (ls.map .text) = ls.map String.toList := by
  induction ls with
  | nil => rfl
  | cons s rest ih => simp only [List.map_cons, leadingTexts, ih]

namespace Header

/-- The header of lines and the number of lines that belong to it. A line is looked at only where the header
reaches to it, and has to be a text then. -/
def ofMembers (members : List Source) : Except Fault (Header × Nat) := do
  let (h, n) ← read (leadingTexts members)
  match members[n]? with
  | none => .ok (h, n)
  | some (.text _) => .ok (h, n)
  | some (.other v _) => .error (.noMember v.kind "strip")

/-- The header of lines that are a dynamic value, unless one of them is torn. -/
def ofValue? (v : Value) : Option (Except Fault (Header × Nat)) :=
  match v.members? with
  | some members => (members.mapM Source.ofValue?).map ofMembers
  | none => some (.error (.notSized v.kind))

/-- The header of lines that are texts is read from these. -/
theorem ofMembers_texts (ls : List String) : ofMembers (ls.map .text) = read (ls.map String.toList) := by
  rw [ofMembers, leadingTexts_texts]
  cases h : read (ls.map String.toList) with
  | error f => rfl
  | ok r =>
    obtain ⟨header, n⟩ := r
    simp only [bind, Except.bind, List.getElem?_map]
    cases ls[n]? <;> rfl

end Header

/-- The notes of lines that are a dynamic value, unless one of them is torn. -/
def notesOfValue? (v : Value) : Option (Except Fault (List Note)) :=
  match v.members? with
  | some members => (members.mapM Source.ofValue?).map fun ls => textsFrom 0 ls >>= readNotes
  | none => some (.error .notJoined)

end Tunebook
