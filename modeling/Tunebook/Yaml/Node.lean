import Tunebook.Yaml.Tag
import Tunebook.Yaml.Token

/-!
# Nodes of a YAML document

A document is made of scalars, sequences and mappings, each with a tag. Its nodes are numbered in the order in
which they begin. An alias stands for the node that its anchor names, which has to begin before it, so that a
node may stand inside itself. A text holds at most one document here.

* `Document.ofTokens` is the document of a list of tokens, or none in a text without one.
-/

namespace Tunebook.Yaml

/-- What a node holds; other nodes are given by their numbers. -/
inductive Content where
  | scalar (text : Wording)
  | sequence (items : List Nat)
  | mapping (entries : List (Nat × Nat))
  deriving DecidableEq, Repr, Inhabited

structure Node where
  tag : Tag
  content : Content
  deriving DecidableEq, Repr, Inhabited

/-- A document: its nodes by their numbers, and the number of the outermost one. -/
structure Document where
  nodes : Array Node
  root : Nat
  deriving Repr, Inhabited

/-- The tokens that are left, the anchors and the nodes so far. -/
structure Progress where
  rest : List Token
  anchors : List (List Char × Nat) := []
  nodes : Array Node := #[]
  deriving Repr, Inhabited

namespace Progress

/-- The next token; behind the last one the text is broken. -/
def head (p : Progress) : Token := p.rest.headD (.broken .malformed)

def step (p : Progress) : Progress := { p with rest := p.rest.tail }

/-- Fails at a token that does not fit: the text is malformed, unless it could not even be scanned. -/
def refuse {α : Type} (p : Progress) : Reading α :=
  match p.head with
  | .broken f => .error f
  | _ => malformed

def expect (p : Progress) (t : Token) : Reading Progress := if p.head = t then .ok p.step else p.refuse

def add (p : Progress) (n : Node) : Nat × Progress := (p.nodes.size, { p with nodes := p.nodes.push n })

def addEmpty (p : Progress) : Nat × Progress := p.add ⟨.null, .scalar ""⟩

/-- Begins a node, which its anchor names from now on. No anchor may come twice. -/
def begin (p : Progress) (anchor : Option (List Char)) (n : Node) : Reading (Nat × Progress) :=
  match anchor with
  | none => .ok (p.add n)
  | some a =>
    if (p.anchors.lookup a).isSome then malformed
    else
      let (i, p) := p.add n
      .ok (i, { p with anchors := (a, i) :: p.anchors })

def fill (p : Progress) (i : Nat) (content : Content) : Progress :=
  { p with nodes := p.nodes.modify i fun n => { n with content := content } }

end Progress

abbrev Handles := List (List Char × List Char)

def usualHandles : Handles := [(['!'], ['!']), (['!', '!'], commonTags)]

def fullTag (handles : Handles) (handle : Option (List Char)) (suffix : List Char) : Reading (List Char) :=
  match handle with
  | none => .ok suffix
  | some h =>
    match handles.lookup h with
    | some replacement => .ok (replacement ++ suffix)
    | none => malformed

def properties (handles : Handles) (p : Progress) :
    Reading (Option (List Char) × Option (List Char) × Progress) :=
  match p.head with
  | .anchor a =>
    match p.step.head with
    | .tag handle suffix => do
      let t ← fullTag handles handle suffix
      .ok (some a, some t, p.step.step)
    | _ => .ok (some a, none, p.step)
  | .tag handle suffix =>
    match p.step.head with
    | .anchor a => do
      let t ← fullTag handles handle suffix
      .ok (some a, some t, p.step.step)
    | .broken f => .error f
    | _ => do
      let t ← fullTag handles handle suffix
      .ok (none, some t, p.step)
  | _ => .ok (none, none, p)

/-- The tag that the form of a scalar asks for; a torn text has the form of nothing else. -/
def tagOfForm : Wording → Tag
  | .whole s => .ofPlain s.toList
  | .torn _ => .str

/-- The tag of a scalar. Without a tag, or with the tag that is a mere mark, its form decides; a scalar between
quotation marks without a tag is a text. -/
def scalarTag (tag : Option (List Char)) (content : Wording) (plain : Bool) : Tag :=
  match tag with
  | none => if plain then tagOfForm content else .str
  | some ['!'] => tagOfForm content
  | some t => .ofText t

def collectionTag (tag : Option (List Char)) (usual : Tag) : Tag :=
  match tag with
  | none => usual
  | some ['!'] => usual
  | some t => .ofText t

def endsPair (t : Token) : Bool := t = .key ∨ t = .value ∨ t = .blockEnd

mutual

/-- A node. In a block it may be a block collection, behind a key also a sequence without indentation. -/
def readNode : Nat → Handles → Bool → Bool → Progress → Reading (Nat × Progress)
  | 0, _, _, _, p => p.refuse
  | budget + 1, handles, block, indentless, p =>
    match p.head with
    | .alias name =>
      match p.anchors.lookup name with
      | some i => .ok (i, p.step)
      | none => malformed
    | _ => do
      let (anchor, tag, p) ← properties handles p
      readContent budget handles block indentless anchor tag p

def readContent : Nat → Handles → Bool → Bool → Option (List Char) → Option (List Char) → Progress →
    Reading (Nat × Progress)
  | 0, _, _, _, _, _, p => p.refuse
  | budget + 1, handles, block, indentless, anchor, tag, p =>
    let absent : Reading (Nat × Progress) :=
      if anchor.isSome || tag.isSome then p.begin anchor ⟨scalarTag tag "" true, .scalar ""⟩ else p.refuse
    match p.head with
    | .entry =>
      if indentless then do
        let (i, p) ← p.begin anchor ⟨collectionTag tag .seq, .sequence []⟩
        let (items, p) ← readIndentless budget handles p
        .ok (i, p.fill i (.sequence items))
      else absent
    | .scalar content plain => p.step.begin anchor ⟨scalarTag tag content plain, .scalar content⟩
    | .flowSequence => do
      let (i, p) ← p.step.begin anchor ⟨collectionTag tag .seq, .sequence []⟩
      let (items, p) ← readFlowItems budget handles true p
      .ok (i, p.fill i (.sequence items))
    | .flowMapping => do
      let (i, p) ← p.step.begin anchor ⟨collectionTag tag .map, .mapping []⟩
      let (entries, p) ← readFlowEntries budget handles true p
      .ok (i, p.fill i (.mapping entries))
    | .blockSequence =>
      if block then do
        let (i, p) ← p.step.begin anchor ⟨collectionTag tag .seq, .sequence []⟩
        let (items, p) ← readBlockItems budget handles p
        .ok (i, p.fill i (.sequence items))
      else absent
    | .blockMapping =>
      if block then do
        let (i, p) ← p.step.begin anchor ⟨collectionTag tag .map, .mapping []⟩
        let (entries, p) ← readBlockEntries budget handles p
        .ok (i, p.fill i (.mapping entries))
      else absent
    | .broken f => .error f
    | _ => absent

def readBlockItems : Nat → Handles → Progress → Reading (List Nat × Progress)
  | 0, _, p => p.refuse
  | budget + 1, handles, p =>
    if p.head = .entry then do
      let p := p.step
      let (n, p) ←
        if p.head = .entry ∨ p.head = .blockEnd then .ok p.addEmpty
        else readNode budget handles true false p
      let (more, p) ← readBlockItems budget handles p
      .ok (n :: more, p)
    else do
      let p ← p.expect .blockEnd
      .ok ([], p)

def readIndentless : Nat → Handles → Progress → Reading (List Nat × Progress)
  | 0, _, p => p.refuse
  | budget + 1, handles, p =>
    if p.head = .entry then do
      let p := p.step
      let (n, p) ←
        if p.head = .entry ∨ endsPair p.head then .ok p.addEmpty else readNode budget handles true false p
      let (more, p) ← readIndentless budget handles p
      .ok (n :: more, p)
    else .ok ([], p)

def readBlockEntries : Nat → Handles → Progress → Reading (List (Nat × Nat) × Progress)
  | 0, _, p => p.refuse
  | budget + 1, handles, p =>
    if p.head = .key then do
      let p := p.step
      let (k, p) ← if endsPair p.head then .ok p.addEmpty else readNode budget handles true true p
      let (v, p) ←
        if p.head = .value then
          (if endsPair p.step.head then .ok p.step.addEmpty else readNode budget handles true true p.step)
        else .ok p.addEmpty
      let (more, p) ← readBlockEntries budget handles p
      .ok ((k, v) :: more, p)
    else do
      let p ← p.expect .blockEnd
      .ok ([], p)

/-- The members of a flow sequence up to its end; a member that is a key and a value is a mapping. -/
def readFlowItems : Nat → Handles → Bool → Progress → Reading (List Nat × Progress)
  | 0, _, _, p => p.refuse
  | budget + 1, handles, first, p =>
    if p.head = .flowSequenceEnd then .ok ([], p.step)
    else do
      let p ← if first then .ok p else p.expect .flowEntry
      if p.head = .flowSequenceEnd then .ok ([], p.step)
      else
        let (n, p) ←
          if p.head = .key then do
            let (i, p) := p.step.add ⟨.map, .mapping []⟩
            let (k, p) ←
              if p.head = .value ∨ p.head = .flowEntry ∨ p.head = .flowSequenceEnd then .ok p.addEmpty
              else readNode budget handles false false p
            let (v, p) ← readFlowValue budget handles .flowSequenceEnd p
            .ok (i, p.fill i (.mapping [(k, v)]))
          else readNode budget handles false false p
        let (more, p) ← readFlowItems budget handles false p
        .ok (n :: more, p)

/-- The entries of a flow mapping up to its end; an entry may lack its value. -/
def readFlowEntries : Nat → Handles → Bool → Progress → Reading (List (Nat × Nat) × Progress)
  | 0, _, _, p => p.refuse
  | budget + 1, handles, first, p =>
    if p.head = .flowMappingEnd then .ok ([], p.step)
    else do
      let p ← if first then .ok p else p.expect .flowEntry
      if p.head = .flowMappingEnd then .ok ([], p.step)
      else
        let (entry, p) ←
          if p.head = .key then do
            let p := p.step
            let (k, p) ←
              if p.head = .value ∨ p.head = .flowEntry ∨ p.head = .flowMappingEnd then .ok p.addEmpty
              else readNode budget handles false false p
            let (v, p) ← readFlowValue budget handles .flowMappingEnd p
            .ok ((k, v), p)
          else do
            let (k, p) ← readNode budget handles false false p
            let (v, p) := p.addEmpty
            .ok ((k, v), p)
        let (more, p) ← readFlowEntries budget handles false p
        .ok (entry :: more, p)

def readFlowValue : Nat → Handles → Token → Progress → Reading (Nat × Progress)
  | 0, _, _, p => p.refuse
  | budget + 1, handles, closing, p =>
    if p.head = .value then
      let p := p.step
      if p.head = .flowEntry ∨ p.head = closing then .ok p.addEmpty
      else readNode budget handles false false p
    else .ok p.addEmpty

end

/-! ## Documents -/

/-- The directives in front of a document: at most one version, which has to be a first one, and handles of
which none comes twice. -/
def readDirectives (version : Bool) (handles : Handles) : List Token → Reading (Handles × List Token)
  | .version major :: rest =>
    if version || major != 1 then malformed else readDirectives true handles rest
  | .tagHandle handle replacement :: rest =>
    if (handles.lookup handle).isSome then malformed
    else readDirectives version ((handle, replacement) :: handles) rest
  | .directive :: rest => readDirectives version handles rest
  | rest => .ok (handles, rest)

def endsDocument : Token → Bool
  | .version _ => true
  | .tagHandle _ _ => true
  | .directive => true
  | .documentStart => true
  | .documentEnd => true
  | .textEnd => true
  | _ => false

/-- The steps that reading a list of tokens takes at most: every second one passes over a token. -/
def budgetFor (tokens : List Token) : Nat := 4 * tokens.length + 8

def readDocument (handles : Handles) (p : Progress) : Reading (Nat × Progress) :=
  if endsDocument p.head then .ok p.addEmpty
  else readNode (budgetFor p.rest) handles true false p

/-- The document of a list of tokens. A second document is an error, which is found at its beginning, behind its
directives. -/
def Document.ofTokens (tokens : List Token) : Reading (Option Document) := do
  let p : Progress := { rest := tokens }
  match p.head with
  | .textEnd => .ok none
  | .broken f => .error f
  | _ =>
    let (root, p) ←
      if endsDocument p.head && p.head != .documentEnd then do
        let (handles, rest) ← readDirectives false [] p.rest
        let p ← Progress.expect { p with rest := rest } .documentStart
        readDocument (handles ++ usualHandles) p
      else readNode (budgetFor p.rest) usualHandles true false p
    let rest := p.rest.dropWhile (· = .documentEnd)
    match rest with
    | [.textEnd] => .ok (some ⟨p.nodes, root⟩)
    | _ => do
      let (_, rest) ← readDirectives false [] rest
      Progress.refuse { p with rest := rest }

end Tunebook.Yaml
