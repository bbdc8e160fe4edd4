import Tunebook.FileTree.Path
import Tunebook.Text.Quoted
import Tunebook.Text.Utf8

/-!
# File trees

A file tree says what stands at a place, a file or a directory. A program sees it from its working directory,
and it knows the home directories of accounts. A path is followed name by name; all but the last have to lead
to directories, whatever is made of the last one.

Nothing in a tree leads elsewhere: what stands at a place is a file or a directory, and links lie outside the
model. So do names that are no whole texts, as paths do not have them.

* `FileTree.get?` is the view of a tree; `get?_put_self` and `get?_put_other` say what `FileTree.put` does
  to it.
* `Site.locate` follows a path, `Site.read` and `Site.readText` read a file.
* `Site.write` and `Site.makeDirectories` change the tree.
-/

namespace Tunebook

inductive Entry where
  | file (content : List UInt8)
  | directory
  deriving DecidableEq, Repr, Inhabited

/-- The places of a tree at which something stands. At its top there is always a directory. -/
structure FileTree where
  entries : List (Place × Entry) := []
  deriving DecidableEq, Repr, Inhabited

namespace FileTree

def get? (t : FileTree) (place : Place) : Option Entry :=
  if place.isEmpty then some .directory else t.entries.lookup place

def putEntry (place : Place) (entry : Entry) : List (Place × Entry) → List (Place × Entry)
  | [] => [(place, entry)]
  | (p, e) :: rest => if p = place then (p, entry) :: rest else (p, e) :: putEntry place entry rest

def put (t : FileTree) (place : Place) (entry : Entry) : FileTree := ⟨putEntry place entry t.entries⟩

def file? (t : FileTree) (place : Place) : Option (List UInt8) :=
  match t.get? place with
  | some (.file content) => some content
  | _ => none

theorem lookup_putEntry_self (place : Place) (entry : Entry) (entries : List (Place × Entry)) :
    (putEntry place entry entries).lookup place = some entry := by
  induction entries with
  | nil => simp [putEntry]
  | cons e rest ih =>
    obtain ⟨p, e⟩ := e
    unfold putEntry
    split
    · rename_i h
      simp [h]
    · rename_i h
      rw [List.lookup_cons, beq_false_of_ne (Ne.symm h)]
      exact ih

theorem lookup_putEntry_other {place other : Place} (h : other ≠ place) (entry : Entry)
    (entries : List (Place × Entry)) :
    (putEntry place entry entries).lookup other = entries.lookup other := by
  induction entries with
  | nil => simp [putEntry, List.lookup_cons, beq_false_of_ne h]
  | cons e rest ih =>
    obtain ⟨p, e⟩ := e
    unfold putEntry
    split
    · rename_i hp
      rw [List.lookup_cons, List.lookup_cons, hp, beq_false_of_ne h]
    · rw [List.lookup_cons, List.lookup_cons, ih]

/-- What is put at a place below the top stands there. -/
theorem get?_put_self {place : Place} (h : place ≠ []) (t : FileTree) (entry : Entry) :
    (t.put place entry).get? place = some entry := by
  have he : place.isEmpty = false := by simp [h]
  rw [get?, he]
  exact lookup_putEntry_self place entry t.entries

/-- What stands at any other place stays. -/
theorem get?_put_other {place other : Place} (h : other ≠ place) (t : FileTree) (entry : Entry) :
    (t.put place entry).get? other = t.get? other := by
  unfold get?
  split
  · rfl
  · exact lookup_putEntry_other h entry t.entries

/-! ## Following paths -/

def longestName : Nat := 255

def longestPath : Nat := 4095

/-- The place to which names lead from a directory. All but the last have to lead to directories. -/
def walk (t : FileTree) (place : Place) : List String → Except Refusal Place
  | [] => .ok place
  | name :: rest =>
    if longestName < name.utf8ByteSize then .error .nameTooLong
    else if rest.isEmpty then .ok (place.next name)
    else match t.get? (place.next name) with
      | none => .error .absent
      | some (.file _) => .error .notDirectory
      | some .directory => walk t (place.next name) rest

end FileTree

/-- Where a program runs: the files, the working directory, the home directories, its own one and those of
accounts with a name, and the path of the file with its own settings, empty where it has none. -/
structure Site where
  files : FileTree := {}
  here : Place := []
  home : String := "/"
  homes : List (String × String) := []
  ownSettings : String := ""
  deriving Repr, Inhabited

namespace Site

def withFiles (s : Site) (files : FileTree) : Site := { s with files }

def start (s : Site) (p : Path) : Place := if p.root.isEmpty then s.here else []

def about {α : Type} (p : Path) : Except Refusal α → Except Fault α
  | .ok x => .ok x
  | .error why => .error (.refused why (quoted p.text))

def locate (s : Site) (p : Path) : Except Fault Place :=
  if p.hasNul then .error .nulInPath
  else if FileTree.longestPath < p.text.utf8ByteSize then about p (.error .nameTooLong)
  else about p (s.files.walk (s.start p) p.names)

def entry (s : Site) (p : Path) : Except Fault Entry := do
  let place ← s.locate p
  about p (match s.files.get? place with
    | some e => .ok e
    | none => .error .absent)

/-- What stands where a path leads, if anything does. Only a path that is too long to be followed is a fault. -/
def seek (s : Site) (p : Path) : Except Fault (Option Entry) :=
  match s.entry p with
  | .ok e => .ok (some e)
  | .error (.refused .nameTooLong shown) => .error (.refused .nameTooLong shown)
  | .error _ => .ok none

def read (s : Site) (p : Path) : Except Fault (List UInt8) := do
  let e ← s.entry p
  match e with
  | .file content => .ok content
  | .directory => about p (.error .isDirectory)

/-- Reads the text of the file where a path leads, with line feeds for all line ends. -/
def readText (s : Site) (p : Path) : Except Fault (List Char) := do
  let content ← s.read p
  let cs ← decodeText content
  .ok (withLineFeeds cs)

/-! ## Paths of a program -/

def homeOf (s : Site) (name : String) : Except Fault String :=
  if name.isEmpty then .ok s.home
  else if name.toList.contains '\x00' then .error .nulInPath
  else match s.homes.lookup name with
    | some home => .ok home
    | none => .error .noHome

/-- The path with its first name replaced if that is a tilde, with or without the name of an account. -/
def expanded (s : Site) (p : Path) : Except Fault Path :=
  match p.root.isEmpty, p.names with
  | true, first :: rest =>
    match first.toList with
    | '~' :: account => do
      let home ← s.homeOf (String.ofList account)
      let front := Path.ofText home
      .ok ⟨front.root, front.names ++ rest⟩
    | _ => .ok p
  | _, _ => .ok p

/-- The path from the root that a path amounts to, without a step upwards, whatever stands on the way. -/
def resolved (s : Site) (p : Path) : Except Fault Path :=
  if p.hasNul then .error .nulInPath else .ok ⟨"/", settled (s.start p) p.names⟩

def pathOf (s : Site) (text : String) : Except Fault Path := do
  let p ← s.expanded (.ofText text)
  s.resolved p

/-! ## Changing files -/

def makeDirectory (s : Site) (p : Path) : Except Fault FileTree := do
  let place ← s.locate p
  about p (match s.files.get? place with
    | some _ => .error .present
    | none => .ok (s.files.put place .directory))

def ensureDirectory (s : Site) (p : Path) : FileTree × Option Fault :=
  match s.makeDirectory p with
  | .ok files => (files, none)
  | .error f =>
    match s.seek p with
    | .ok (some .directory) => (s.files, none)
    | _ => (s.files, some f)

/-- The files after an attempt to make a directory and those above it. What was made before a refusal stays. -/
def makeDirectories (s : Site) (p : Path) : FileTree × Option Fault :=
  match s.makeDirectory p with
  | .error (.refused .absent _) =>
    if h : p.names = [] then s.ensureDirectory p
    else
      have _ := p.length_parent_lt h
      match makeDirectories s p.parent with
      | (files, some f) => (files, some f)
      | (files, none) => (s.withFiles files).ensureDirectory p
  | _ => s.ensureDirectory p
termination_by p.names.length

/-- The files after a file is written where a path leads. -/
def write (s : Site) (p : Path) (content : List UInt8) : Except Fault FileTree := do
  let place ← s.locate p
  about p (match s.files.get? place with
    | some .directory => .error .isDirectory
    | _ => .ok (s.files.put place (.file content)))

def save (s : Site) (p : Path) (content : List UInt8) : FileTree × Option Fault :=
  match s.makeDirectories p.parent with
  | (files, some f) => (files, some f)
  | (files, none) =>
    match (s.withFiles files).write p content with
    | .ok files => (files, none)
    | .error f => (files, some f)

end Site

end Tunebook
