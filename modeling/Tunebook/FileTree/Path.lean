import Tunebook.Text.Lines
import Tunebook.Value

/-!
# Paths

A path leads from a root, or from the working directory where it has none, through names. Neither empty names
nor the name `.` of a directory itself are kept; the name `..` of the directory above is. A name is a `String`:
names with surrogates, or with octets that are no text, lie outside the model.

* `Path.ofText` reads a path, `Path.text` writes it.
* `Path.parent` leaves the last name out, `Path.withSuffix` changes its suffix.
* `pathText` takes a path from what a caller hands in.
* `settled` follows names without looking at any file.
-/

namespace Tunebook

abbrev Place := List String

/-- A path: its root, which is empty for a path from the working directory, and its names. -/
structure Path where
  root : String := ""
  names : List String := []
  deriving DecidableEq, Repr, Inhabited

namespace Path

/-- The root of a path's text. Two slashes are a root of their own, any other number of them is one slash. -/
def rootOf : List Char → String
  | '/' :: '/' :: '/' :: _ => "/"
  | '/' :: '/' :: _ => "//"
  | '/' :: _ => "/"
  | _ => ""

def ofText (text : String) : Path :=
  let names := (pieces '/' text.toList).filter fun name => name ≠ [] ∧ name ≠ ['.']
  ⟨rootOf text.toList, names.map String.ofList⟩

/-- The text of a path; the empty path is the working directory. -/
def text (p : Path) : String :=
  let s := p.root ++ String.intercalate "/" p.names
  if s.isEmpty then "." else s

def parent (p : Path) : Path := ⟨p.root, p.names.dropLast⟩

theorem length_parent_lt (p : Path) (h : p.names ≠ []) : p.parent.names.length < p.names.length := by
  have hl := List.length_pos_iff.2 h
  simp only [parent, List.length_dropLast]
  omega

def hasNul (p : Path) : Bool := p.names.any fun name => name.toList.contains '\x00'

/-! ## Suffixes -/

/-- A name without its suffix. The suffix begins at the last point, unless that is the first or the last
character of the name. -/
def stem (name : List Char) : List Char :=
  let tail := name.reverse.takeWhile (· ≠ '.')
  let front := (name.reverse.dropWhile (· ≠ '.')).drop 1
  if tail.isEmpty ∨ front.isEmpty then name else front.reverse

def withSuffix (p : Path) (suffix : String) : Path :=
  match p.names.getLast? with
  | some name => ⟨p.root, p.names.dropLast ++ [String.ofList (stem name.toList) ++ suffix]⟩
  | none => p

end Path

def pathText : Source → Except Fault String
  | .text s => .ok s
  | .other v _ => .error (.notPath v.kind)

/-! ## Following names -/

def Place.next (place : Place) (name : String) : Place :=
  if name = ".." then place.dropLast else place ++ [name]

/-- The place that names lead to, whatever stands there. -/
def settled (place : Place) (names : List String) : Place := names.foldl Place.next place

theorem settled_upwards {place : Place} (h : ".." ∉ place) (names : List String) :
    ".." ∉ settled place names := by
  induction names generalizing place with
  | nil => exact h
  | cons name rest ih =>
    refine ih ?_
    unfold Place.next
    split
    · exact fun hm => h (List.dropLast_subset _ hm)
    · rename_i hn
      intro hm
      rcases List.mem_append.1 hm with hp | hs
      · exact h hp
      · exact hn (List.mem_singleton.1 hs).symm

end Tunebook
