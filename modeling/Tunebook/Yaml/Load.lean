import Tunebook.Yaml.Merge
import Tunebook.Yaml.ScalarValue

/-!
# Values of YAML documents

The values of a document's nodes are made level by level: the value of a collection is there before those of its
members, so that it may hold itself. Of several things that are wrong the one counts that comes first level by
level, and in the order of the text within a level.

* `Making.make` begins the value of a node, `Making.complete` makes the members of a collection.
* `Document.load` is the value of a document, `load` that of a text.
-/

namespace Tunebook.Yaml

/-- What a node was made into; other nodes are given by their numbers. -/
inductive Product where
  | plain (v : Value)
  | list (items : List Nat)
  | pairs (entries : List (Nat × Nat))
  | set (keys : List Nat)
  | map (entries : List (Nat × Nat))
  deriving Repr, Inhabited

/-- What is made of the nodes so far, and the collections whose members are still to be made, latest first. -/
structure Making where
  nodes : Nodes
  products : Array (Option Product)
  waiting : List Nat := []
  deriving Inhabited

namespace Making

def product? (m : Making) (i : Nat) : Option Product := m.products.getD i none

def put (m : Making) (i : Nat) (x : Product) : Making := { m with products := m.products.setIfInBounds i (some x) }

def postpone (m : Making) (i : Nat) (x : Product) : Making :=
  let m := m.put i x
  { m with waiting := i :: m.waiting }

/-- The text of a node that is read as a scalar: a mapping stands for the scalar under its default key. What stands
for itself has no text. -/
def contentOf (ns : Nodes) : Nat → Nat → Reading Wording
  | 0, _ => .error (.fault .endless)
  | budget + 1, i =>
    match (ns.node i).content with
    | .scalar content => .ok content
    | .mapping entries =>
      match entries.find? fun e => ns.tag e.1 = .default with
      | some e => contentOf ns budget e.2
      | none => malformed
    | .sequence _ => malformed

def content (m : Making) (i : Nat) : Reading Wording := contentOf m.nodes (m.nodes.size + 1) i

/-- The value of a node that is no collection. A date is never found in a mapping. -/
def plainValue (m : Making) (i : Nat) : Reading Value := do
  let content ← m.content i
  if m.nodes.tag i = .timestamp ∧ m.nodes.isMapping i then .error (.fault (.notMatchable (Value.list []).kind))
  else scalarValue (m.nodes.tag i) content

/-- Makes a node, unless it is made already; the members of a collection come later. -/
def make (m : Making) (i : Nat) : Reading Making :=
  if (m.product? i).isSome then .ok m
  else
    match m.nodes.tag i with
    | .seq => .ok (m.postpone i (.list []))
    | .omap => .ok (m.postpone i (.pairs []))
    | .pairs => .ok (m.postpone i (.pairs []))
    | .set => .ok (m.postpone i (.set []))
    | .map => .ok (m.postpone i (.map []))
    | _ => do
      let v ← m.plainValue i
      .ok (m.put i (.plain v))

def makeKey (m : Making) (i : Nat) : Reading Making := do
  let m ← m.make i
  match m.product? i with
  | some (.plain _) => .ok m
  | _ => malformed

def plain (m : Making) (i : Nat) : Value :=
  match m.product? i with
  | some (.plain v) => v
  | _ => .null

/-- Whether a node is no number without being the word for it: such a value is the same as no other one. -/
def isUnlike (m : Making) (i : Nat) : Bool :=
  match m.plain i, m.content i with
  | .double .nan, .ok content => !isNotANumberWord content
  | _, _ => false

def sameKey (m : Making) (i j : Nat) : Bool :=
  i == j || ((m.plain i).sameKey (m.plain j) && !m.isUnlike i && !m.isUnlike j)

/-- Entries with one more: in the place of its key's entry, or at the end. -/
def insertEntry (m : Making) (k v : Nat) : List (Nat × Nat) → List (Nat × Nat)
  | [] => [(k, v)]
  | e :: rest => if m.sameKey e.1 k then (e.1, v) :: rest else e :: insertEntry m k v rest

def makeEntries (m : Making) (done : List (Nat × Nat)) : List (Nat × Nat) → Reading (List (Nat × Nat) × Making)
  | [] => .ok (done, m)
  | (k, v) :: rest => do
    let m ← m.makeKey k
    let m ← m.make v
    makeEntries m (m.insertEntry k v done) rest

def makePairs (m : Making) : List Nat → Reading (List (Nat × Nat) × Making)
  | [] => .ok ([], m)
  | i :: rest =>
    match m.nodes.entries i with
    | [(k, v)] => do
      let m ← m.make k
      let m ← m.make v
      let (more, m) ← makePairs m rest
      .ok ((k, v) :: more, m)
    | _ => malformed

def makeMapping (m : Making) (budget i : Nat) : Reading (List (Nat × Nat) × Making) :=
  if m.nodes.isMapping i then do
    let nodes ← m.nodes.flatten budget i
    { m with nodes := nodes }.makeEntries [] (nodes.entries i)
  else malformed

def complete (budget : Nat) (m : Making) (i : Nat) : Reading Making :=
  match m.nodes.tag i, (m.nodes.node i).content with
  | .seq, .sequence items => do
    let m ← items.foldlM make m
    .ok (m.put i (.list items))
  | .omap, .sequence items | .pairs, .sequence items => do
    let (entries, m) ← m.makePairs items
    .ok (m.put i (.pairs entries))
  | .set, _ => do
    let (entries, m) ← m.makeMapping budget i
    .ok (m.put i (.set (entries.map Prod.fst)))
  | .map, _ => do
    let (entries, m) ← m.makeMapping budget i
    .ok (m.put i (.map entries))
  | _, _ => malformed

/-- Makes the members of collections level by level. Each level holds a node that was not made before it. -/
def completeLevels (budget : Nat) : Nat → List Nat → Making → Reading Making
  | _, [], m => .ok m
  | 0, _, m => .ok m
  | levels + 1, level, m => do
    let m ← level.foldlM (complete budget) { m with waiting := [] }
    completeLevels budget levels m.waiting.reverse m

/-- The value of a node inside some collections, of which the innermost comes first, nested so deep at most. Inside
itself a collection is referred to. -/
def valueOf (m : Making) : Nat → List Nat → Nat → Value
  | 0, _, _ => .null
  | budget + 1, around, i =>
    match m.product? i with
    | some (.plain v) => v
    | some (.list items) =>
      if i ∈ around then .again .list (around.idxOf i) else .list (items.map (valueOf m budget (i :: around)))
    | some (.pairs entries) =>
      if i ∈ around then .again .list (around.idxOf i)
      else
        .list (entries.map fun e =>
          .pair (valueOf m budget (i :: around) e.1) (valueOf m budget (i :: around) e.2))
    | some (.set keys) => .set (keys.map m.plain)
    | some (.map entries) =>
      if i ∈ around then .again .map (around.idxOf i)
      else .map (entries.map fun e => (m.plain e.1, valueOf m budget (i :: around) e.2))
    | none => .null

end Making

def Document.load (d : Document) : Reading Value := do
  let size := d.nodes.size
  let m ← Making.make { nodes := d.nodes, products := Array.replicate size none } d.root
  let m ← m.completeLevels (Nodes.mergeCount d.nodes + 1) size m.waiting
  .ok (m.valueOf (size + 1) [] d.root)

/-- The value of a text; a text without a document has the value that is nothing. -/
def load (text : List Char) : Reading Value := do
  let document ← Document.ofTokens (Token.scan text)
  match document with
  | none => .ok .null
  | some d => d.load

end Tunebook.Yaml
