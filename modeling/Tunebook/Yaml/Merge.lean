import Tunebook.Yaml.Node

/-!
# Merge keys

A mapping takes over the entries of the mappings under its merge keys. They come in front of its own entries, so
that its own ones win; of a list of mappings the first one comes last and wins. Mappings are merged in place: an
alias of a merged mapping stands for the merged one.

* `Nodes.flatten` merges one mapping and those that it takes over.
* `Nodes.mergeCount` bounds the steps: every step takes away a merge key, and none adds one.
-/

namespace Tunebook.Yaml

abbrev Nodes := Array Node

namespace Nodes

def node (ns : Nodes) (i : Nat) : Node := ns.getD i default

def tag (ns : Nodes) (i : Nat) : Tag := (ns.node i).tag

/-- The entries of a mapping; other nodes have none. -/
def entries (ns : Nodes) (i : Nat) : List (Nat × Nat) :=
  match (ns.node i).content with
  | .mapping entries => entries
  | _ => []

def isMapping (ns : Nodes) (i : Nat) : Bool :=
  match (ns.node i).content with
  | .mapping _ => true
  | _ => false

def setEntries (ns : Nodes) (i : Nat) (entries : List (Nat × Nat)) : Nodes :=
  ns.modify i fun n => { n with content := .mapping entries }

def asTexts (ns : Nodes) (keys : List Nat) : Nodes :=
  keys.foldl (fun ns k => ns.modify k fun n => if n.tag = .default then { n with tag := .str } else n) ns

def mergeCount (ns : Nodes) : Nat :=
  ns.foldl
    (fun total n =>
      match n.content with
      | .mapping entries => total + (entries.filter fun e => ns.tag e.1 = .merge).length
      | _ => total)
    0

def firstMerge? (ns : Nodes) : List (Nat × Nat) → Option (Nat × List (Nat × Nat))
  | [] => none
  | e :: rest =>
    if ns.tag e.1 = .merge then some (e.2, rest)
    else (firstMerge? ns rest).map fun r => (r.1, e :: r.2)

def sources (ns : Nodes) (i : Nat) : Reading (List Nat) :=
  match (ns.node i).content with
  | .mapping _ => .ok [i]
  | .sequence items => if items.all ns.isMapping then .ok items else malformed
  | .scalar _ => malformed

/-- Merges a mapping in so many steps at most. A key that is marked as the default becomes a text. -/
def flatten : Nat → Nodes → Nat → Reading Nodes
  | 0, ns, _ => .ok ns
  | budget + 1, ns, i =>
    match ns.firstMerge? (ns.entries i) with
    | none => .ok (ns.asTexts ((ns.entries i).map Prod.fst))
    | some (v, others) => do
      let sources ← ns.sources v
      let ns ← sources.foldlM (flatten budget) (ns.setEntries i others)
      let taken := sources.reverse.flatMap ns.entries
      let ns ← flatten budget ns i
      .ok (ns.setEntries i (taken ++ ns.entries i))

theorem flatten_of_firstMerge?_eq_none {ns : Nodes} {i : Nat} (h : ns.firstMerge? (ns.entries i) = none)
    (budget : Nat) : flatten (budget + 1) ns i = .ok (ns.asTexts ((ns.entries i).map Prod.fst)) := by
  rw [flatten, h]

end Nodes

end Tunebook.Yaml
