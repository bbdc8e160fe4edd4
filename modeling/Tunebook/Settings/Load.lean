import Tunebook.Event
import Tunebook.FileTree.Basic
import Tunebook.Yaml.Load

/-!
# Settings in files

The settings of a run are three layers: the usual ones, those of a default file, and those of the user's file.
A file is a layer if its text is a YAML mapping. Every other file is an empty layer, unless a part of it has
no value for a cause of its own, such as a date that does not exist.

* `layerOfText` is the layer that a text amounts to.
* `Site.readLayer` reads a layer, `Site.loadSettings` reads and merges all of them.
-/

namespace Tunebook

def usualSettings : Mapping :=
  [(.text "ticks_per_beat", .int usualResolution), (.text "velocity", .int usualVelocity),
    (.text "channel", .int usualChannel), (.text "default_tempo", .int usualTempo),
    (.text "instrument", .text usualInstrument)]

/-- The layer that a value amounts to: only a mapping holds settings. -/
def Value.asLayer (v : Value) : Mapping := v.entries?.getD []

def layerOfText (text : List Char) : Except Fault Mapping :=
  match Yaml.load text with
  | .ok v => .ok v.asLayer
  | .error .malformed => .ok []
  | .error (.fault f) => .error f

theorem layerOfText_of_malformed {text : List Char} (h : Yaml.load text = .error .malformed) :
    layerOfText text = .ok [] := by
  rw [layerOfText, h]

namespace Site

/-- Reads a file as a layer. A file that is missing or cannot be read is an empty one. -/
def readLayer (s : Site) (path : String) : Except Fault Mapping := do
  let p := Path.ofText path
  let e ← s.seek p
  match e with
  | some (.file _) =>
    match s.readText p with
    | .ok text => layerOfText text
    | .error _ => .ok []
  | _ => .ok []

/-- Reads the default layer; without a path it holds the usual settings. -/
def defaultLayer (s : Site) (path : String) : Except Fault Mapping :=
  if path.isEmpty then .ok usualSettings else s.readLayer path

/-- Reads the user's layer; without a path it is read from the user's own settings file. -/
def userLayer (s : Site) (path : String) : Except Fault Mapping :=
  s.readLayer (if path.isEmpty then s.ownSettings else path)

/-- Reads the layer at a path that is a dynamic value; without a path it is empty. -/
def readLayerOfSource (s : Site) : Source → Except Fault Mapping
  | .other .null _ => .ok []
  | path => do
    let text ← pathText path
    s.readLayer text

def loadSettings (s : Site) (userPath defaultPath : String) : Except Fault Mapping := do
  let shared ← s.defaultLayer defaultPath
  let own ← s.userLayer userPath
  mergeLayers [usualSettings, shared, own]

def loadSettingsOfSources (s : Site) (userPath defaultPath : Source) : Except Fault Mapping := do
  let shared ← if defaultPath.isGiven then s.readLayerOfSource defaultPath else s.defaultLayer ""
  let own ← if userPath.isGiven then s.readLayerOfSource userPath else s.userLayer ""
  mergeLayers [usualSettings, shared, own]

end Site

end Tunebook
