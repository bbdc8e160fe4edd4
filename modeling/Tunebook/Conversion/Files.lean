import Tunebook.FileTree.Basic
import Tunebook.History

/-!
# Conversions between files

The text of a tune is read from a file, and the bytes of a tune are saved in one.

* `Site.convertFile` converts the text of a file and records the result.
* `Site.saveTune` saves bytes and says what came of it.
-/

namespace Tunebook

def unreadableFile : String := "Could not read file"

def unwritableFile : String := "Could not write MIDI file"

inductive Saved where
  | written
  | refused (details : List String)
  deriving DecidableEq, Repr, Inhabited

namespace Site

/-- Converts the text of a file. The result is recorded, unless the file cannot be read. Only a path that no file
can have is a fault. -/
def convertFile (s : Site) (h : History) (c : Clock) (path : String) (settings : Value) :
    Except Fault (History × Result) :=
  match s.readText (.ofText path) with
  | .ok text => .ok (h.convert c (.text (String.ofList text)) (.flag false) settings)
  | .error .nulInPath => .error .nulInPath
  | .error f => .ok (h, .failure c unreadableFile [f.message])

/-- Saves bytes in a file, and makes the directories above it. Only a path that no file can have is a fault. -/
def saveTune (s : Site) (path : String) (bytes : List UInt8) : FileTree × Except Fault Saved :=
  match s.save (.ofText path) bytes with
  | (files, none) => (files, .ok .written)
  | (files, some .nulInPath) => (files, .error .nulInPath)
  | (files, some f) => (files, .ok (.refused [f.message]))

end Site

end Tunebook
