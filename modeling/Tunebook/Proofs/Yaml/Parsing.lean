import Tunebook.Proofs.Yaml.Scanning
import Tunebook.Yaml.Node

/-!
# What can go wrong when tokens are made into nodes

The readers of nodes have no faults of their own: where they fail the text is malformed, unless the token
in front of them is the failure in which scanning ended.  Each of them leaves tokens behind that were
there before.

* `Progress.IsSound`: the failures among the tokens that are left are a malformed text or faults of scanning.
* `ReadsOn`: how a reader of nodes ends on such tokens.
* `Readers`, `readers`: **every reader of nodes reads on**, all of them for one budget, by induction on it.
* `meets_ofTokens`: the document of the tokens of a text.
-/

namespace Tunebook.Yaml

theorem Token.IsSound.yields {α : Type} {expected : α → Prop} {f : Failure}
    (h : (Token.broken f).IsSound) : Yields ScanFault expected (.error f) := by
  cases f with
  | malformed => exact .malformed
  | fault f => exact .fault (h f rfl)

namespace Progress

/-- The failures among the tokens that are left are a malformed text or faults of scanning. -/
def IsSound (p : Progress) : Prop := ∀ t ∈ p.rest, t.IsSound

/-- A reader meets faults of scanning only, and what it leaves is sound. -/
abbrev ReadsOn {α : Type} (x : Reading (α × Progress)) : Prop :=
  Yields ScanFault (fun r => r.2.IsSound) x

variable {p : Progress}

theorem IsSound.head (h : p.IsSound) : p.head.IsSound := by
  rw [Progress.head, List.headD_eq_head?_getD]
  cases hrest : p.rest with
  | nil => exact nofun
  | cons t rest => exact h t (hrest ▸ List.mem_cons_self)

theorem IsSound.step (h : p.IsSound) : p.step.IsSound :=
  fun t ht => h t (List.mem_of_mem_tail ht)

theorem IsSound.refuse {α : Type} (h : p.IsSound) {expected : α → Prop} :
    Yields ScanFault expected (p.refuse : Reading α) := by
  have hhead := h.head
  rw [Progress.refuse]
  split
  · next f hf =>
    exact Token.IsSound.yields (hf ▸ hhead)
  · exact .malformed

theorem IsSound.expect (h : p.IsSound) (t : Token) : Yields ScanFault IsSound (p.expect t) := by
  rw [Progress.expect]
  exact .ite (fun _ => .ok h.step) fun _ => h.refuse

theorem IsSound.addEmpty (h : p.IsSound) : ReadsOn (.ok p.addEmpty) := .ok h

theorem IsSound.begin (h : p.IsSound) (anchor : Option (List Char)) (n : Node) :
    ReadsOn (p.begin anchor n) := by
  cases anchor with
  | none => exact .ok h
  | some a => exact .ite (fun _ => .malformed) fun _ => .ok h

end Progress

open Progress

theorem meets_fullTag (handles : Handles) (handle : Option (List Char)) (suffix : List Char) :
    Meets ScanFault (fullTag handles handle suffix) := by
  cases handle with
  | none => exact .ok trivial
  | some a =>
    rw [fullTag.eq_def]
    dsimp only
    split
    · exact .ok trivial
    · exact .malformed

theorem yields_properties {p : Progress} (h : p.IsSound) (handles : Handles) :
    Yields ScanFault (fun r => r.2.2.IsSound) (properties handles p) := by
  rw [properties]
  split
  · split
    · exact (meets_fullTag _ _ _).bind fun _ _ => .ok h.step.step
    · exact .ok h.step
  · split
    · exact (meets_fullTag _ _ _).bind fun _ _ => .ok h.step.step
    · next f hf =>
      exact Token.IsSound.yields (hf ▸ h.step.head)
    · exact (meets_fullTag _ _ _).bind fun _ _ => .ok h.step
  · exact .ok h

/-- Each of the readers of nodes reads on, in so many steps at most. -/
structure Readers (budget : Nat) : Prop where
  node : ∀ handles block indentless p, p.IsSound → ReadsOn (readNode budget handles block indentless p)
  content : ∀ handles block indentless anchor tag p, p.IsSound →
    ReadsOn (readContent budget handles block indentless anchor tag p)
  blockItems : ∀ handles p, p.IsSound → ReadsOn (readBlockItems budget handles p)
  indentless : ∀ handles p, p.IsSound → ReadsOn (readIndentless budget handles p)
  blockEntries : ∀ handles p, p.IsSound → ReadsOn (readBlockEntries budget handles p)
  flowItems : ∀ handles first p, p.IsSound → ReadsOn (readFlowItems budget handles first p)
  flowEntries : ∀ handles first p, p.IsSound → ReadsOn (readFlowEntries budget handles first p)
  flowValue : ∀ handles closing p, p.IsSound → ReadsOn (readFlowValue budget handles closing p)

theorem readers_zero : Readers 0 where
  node _ _ _ _ h := h.refuse
  content _ _ _ _ _ _ h := h.refuse
  blockItems _ _ h := h.refuse
  indentless _ _ h := h.refuse
  blockEntries _ _ h := h.refuse
  flowItems _ _ _ h := h.refuse
  flowEntries _ _ _ h := h.refuse
  flowValue _ _ _ h := h.refuse

section

variable {budget : Nat} {p : Progress} (r : Readers budget)
include r

theorem Readers.succ_node (h : p.IsSound) (handles : Handles) (block indentless : Bool) :
    ReadsOn (readNode (budget + 1) handles block indentless p) := by
  rw [readNode]
  split
  · split
    · exact .ok h.step
    · exact .malformed
  · exact (yields_properties h handles).bind fun q hq => r.content _ _ _ _ _ _ hq

theorem Readers.succ_content (h : p.IsSound) (handles : Handles) (block indentless : Bool)
    (anchor tag : Option (List Char)) :
    ReadsOn (readContent (budget + 1) handles block indentless anchor tag p) := by
  have habsent : ReadsOn (if anchor.isSome || tag.isSome then
      p.begin anchor ⟨scalarTag tag "" true, .scalar ""⟩ else p.refuse) :=
    .ite (fun _ => h.begin _ _) fun _ => h.refuse
  rw [readContent]
  dsimp only
  split
  · refine .ite (fun _ => ?_) fun _ => habsent
    exact (h.begin _ _).bind fun q hq => (r.indentless _ _ hq).bind fun q' hq' => .ok hq'
  · exact h.step.begin _ _
  · exact (h.step.begin _ _).bind fun q hq => (r.flowItems _ _ _ hq).bind fun q' hq' => .ok hq'
  · exact (h.step.begin _ _).bind fun q hq => (r.flowEntries _ _ _ hq).bind fun q' hq' => .ok hq'
  · refine .ite (fun _ => ?_) fun _ => habsent
    exact (h.step.begin _ _).bind fun q hq => (r.blockItems _ _ hq).bind fun q' hq' => .ok hq'
  · refine .ite (fun _ => ?_) fun _ => habsent
    exact (h.step.begin _ _).bind fun q hq => (r.blockEntries _ _ hq).bind fun q' hq' => .ok hq'
  · next f hf =>
    exact Token.IsSound.yields (hf ▸ h.head)
  · exact habsent

theorem Readers.succ_blockItems (h : p.IsSound) (handles : Handles) :
    ReadsOn (readBlockItems (budget + 1) handles p) := by
  rw [readBlockItems]
  refine .ite (fun _ => ?_) fun _ => (h.expect _).bind fun q hq => .ok hq
  refine .ite_bind (fun _ => h.step.addEmpty) (fun _ => r.node _ _ _ _ h.step) fun q hq => ?_
  exact (r.blockItems _ _ hq).bind fun q' hq' => .ok hq'

theorem Readers.succ_indentless (h : p.IsSound) (handles : Handles) :
    ReadsOn (readIndentless (budget + 1) handles p) := by
  rw [readIndentless]
  refine .ite (fun _ => ?_) fun _ => .ok h
  refine .ite_bind (fun _ => h.step.addEmpty) (fun _ => r.node _ _ _ _ h.step) fun q hq => ?_
  exact (r.indentless _ _ hq).bind fun q' hq' => .ok hq'

theorem Readers.succ_blockEntries (h : p.IsSound) (handles : Handles) :
    ReadsOn (readBlockEntries (budget + 1) handles p) := by
  rw [readBlockEntries]
  refine .ite (fun _ => ?_) fun _ => (h.expect _).bind fun q hq => .ok hq
  refine .ite_bind (fun _ => h.step.addEmpty) (fun _ => r.node _ _ _ _ h.step) fun q hq => ?_
  have hvalue : ReadsOn (if endsPair q.2.step.head then .ok q.2.step.addEmpty
      else readNode budget handles true true q.2.step) :=
    .ite (fun _ => hq.step.addEmpty) fun _ => r.node _ _ _ _ hq.step
  refine .ite_bind (fun _ => hvalue) (fun _ => hq.addEmpty) fun q' hq' => ?_
  exact (r.blockEntries _ _ hq').bind fun q'' hq'' => .ok hq''

theorem Readers.succ_flowItems (h : p.IsSound) (handles : Handles) (first : Bool) :
    ReadsOn (readFlowItems (budget + 1) handles first p) := by
  rw [readFlowItems]
  refine .ite (fun _ => .ok h.step) fun _ => ?_
  refine Yields.ite_bind (fun _ => .ok h) (fun _ => h.expect _) fun q hq => ?_
  refine .ite (fun _ => .ok hq.step) fun _ => ?_
  have hmore : ∀ q' : Nat × Progress, q'.2.IsSound → ReadsOn
      (readFlowItems budget handles false q'.2 >>= fun q'' => .ok (q'.1 :: q''.1, q''.2)) :=
    fun q' hq' => (r.flowItems _ _ _ hq').bind fun q'' hq'' => .ok hq''
  refine .ite (fun _ => ?_) fun _ => (r.node _ _ _ _ hq).bind hmore
  -- a key makes the member a mapping with one entry
  have hkey : (q.step.add ⟨.map, .mapping []⟩).2.IsSound := hq.step
  refine .ite_bind (fun _ => hkey.addEmpty) (fun _ => r.node _ _ _ _ hkey) fun k hk => ?_
  exact (r.flowValue _ _ _ hk).bind fun v hv => hmore (_, v.2.fill _ _) hv

theorem Readers.succ_flowEntries (h : p.IsSound) (handles : Handles) (first : Bool) :
    ReadsOn (readFlowEntries (budget + 1) handles first p) := by
  rw [readFlowEntries]
  refine .ite (fun _ => .ok h.step) fun _ => ?_
  refine Yields.ite_bind (fun _ => .ok h) (fun _ => h.expect _) fun q hq => ?_
  refine .ite (fun _ => .ok hq.step) fun _ => ?_
  have hmore : ∀ q' : (Nat × Nat) × Progress, q'.2.IsSound → ReadsOn
      (readFlowEntries budget handles false q'.2 >>= fun q'' => .ok (q'.1 :: q''.1, q''.2)) :=
    fun q' hq' => (r.flowEntries _ _ _ hq').bind fun q'' hq'' => .ok hq''
  refine .ite (fun _ => ?_) fun _ => ?_
  · refine .ite_bind (fun _ => hq.step.addEmpty) (fun _ => r.node _ _ _ _ hq.step) fun k hk => ?_
    exact (r.flowValue _ _ _ hk).bind fun v hv => hmore ((_, _), v.2) hv
  · exact (r.node _ _ _ _ hq).bind fun k hk => hmore ((_, _), k.2.addEmpty.2) hk

theorem Readers.succ_flowValue (h : p.IsSound) (handles : Handles) (closing : Token) :
    ReadsOn (readFlowValue (budget + 1) handles closing p) := by
  rw [readFlowValue]
  refine .ite (fun _ => ?_) fun _ => h.addEmpty
  exact .ite (fun _ => h.step.addEmpty) fun _ => r.node _ _ _ _ h.step

end

/-- **Every reader of nodes meets faults of scanning only, and leaves tokens that were there before.** -/
theorem readers (budget : Nat) : Readers budget := by
  induction budget with
  | zero => exact readers_zero
  | succ budget r =>
    exact {
      node := fun _ _ _ _ h => r.succ_node h _ _ _
      content := fun _ _ _ _ _ _ h => r.succ_content h _ _ _ _ _
      blockItems := fun _ _ h => r.succ_blockItems h _
      indentless := fun _ _ h => r.succ_indentless h _
      blockEntries := fun _ _ h => r.succ_blockEntries h _
      flowItems := fun _ _ _ h => r.succ_flowItems h _ _
      flowEntries := fun _ _ _ h => r.succ_flowEntries h _ _
      flowValue := fun _ _ _ h => r.succ_flowValue h _ _ }

/-! ## Documents -/

theorem yields_readDirectives (version : Bool) (handles : Handles) (tokens : List Token) :
    Yields ScanFault (fun r => r.2 ⊆ tokens) (readDirectives version handles tokens) := by
  fun_induction readDirectives version handles tokens with
  | case1 => exact .malformed
  | case2 version handles major rest _ ih => exact ih.mono fun r hr => List.subset_cons_of_subset _ hr
  | case3 => exact .malformed
  | case4 version handles handle replacement rest _ ih =>
    exact ih.mono fun r hr => List.subset_cons_of_subset _ hr
  | case5 version handles rest ih => exact ih.mono fun r hr => List.subset_cons_of_subset _ hr
  | case6 version handles rest => exact .ok (List.Subset.refl rest)

theorem readDocument_readsOn {p : Progress} (h : p.IsSound) (handles : Handles) :
    ReadsOn (readDocument handles p) := by
  rw [readDocument]
  exact .ite (fun _ => h.addEmpty) fun _ => (readers _).node _ _ _ _ h

theorem meets_documentEnd {q : Nat × Progress} (h : q.2.IsSound) : Meets ScanFault
    (match q.2.rest.dropWhile (· = .documentEnd) with
    | [.textEnd] => .ok (some ⟨q.2.nodes, q.1⟩)
    | _ => do
      let (_, rest) ← readDirectives false [] (q.2.rest.dropWhile (· = .documentEnd))
      Progress.refuse { q.2 with rest := rest } : Reading (Option Document)) := by
  have hrest : q.2.rest.dropWhile (· = .documentEnd) ⊆ q.2.rest :=
    (List.dropWhile_sublist _).subset
  split
  · exact .ok trivial
  · refine (yields_readDirectives _ _ _).bind fun r hr => ?_
    exact IsSound.refuse (p := { q.2 with rest := r.2 }) fun t ht => h t (hrest (hr ht))

/-- **The document of a text meets faults of scanning only.** -/
theorem meets_ofTokens (text : List Char) : Meets ScanFault (Document.ofTokens (Token.scan text)) := by
  have hsound : Progress.IsSound { rest := Token.scan text } := fun t ht => isSound_of_mem_scan ht
  rw [Document.ofTokens]
  dsimp only
  split
  · exact .ok trivial
  · next f hf =>
    exact Token.IsSound.yields (hf ▸ hsound.head)
  · refine .ite (fun _ => ?_) fun _ => ?_
    · refine (yields_readDirectives _ _ _).bind fun r hr => ?_
      have hrest : Progress.IsSound { rest := r.2 } := fun t ht => hsound t (hr ht)
      refine (hrest.expect _).bind fun p hp => ?_
      exact (readDocument_readsOn hp _).bind fun q hq => meets_documentEnd hq
    · exact ((readers _).node _ _ _ _ hsound).bind fun q hq => meets_documentEnd hq

end Tunebook.Yaml
