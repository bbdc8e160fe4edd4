import Mathlib.Data.List.ProdSigma
import Mathlib.Data.List.Perm.Subperm
import Tunebook.Proofs.References
import Tunebook.Proofs.Stage

/-!
# Merging that does not end

Two mappings under one key are merged in turn, so merging asks for the pairs of mappings that meet under
one key, pair inside pair.  A mapping that holds itself may let this go on for ever.  It does so exactly
where there is an endless chain of pairs, and no other cause keeps merging from its end.

The budget of `mergeInto` is no part of that: closed mappings reach only so many others, and a chain of
more pairs than there are comes back to one of them (`Inner.lt_of_reach`).

* `Inner`: a pair of mappings that is merged while another pair is.
* `mergeInto_eq_error_iff`: merging within a budget fails exactly where as long a chain begins.
* `mergeLayer_eq_error_iff`: **merging fails exactly where it does not end.**
* `mergeLayer_eq`: the recursion of merging, without a budget.
-/

namespace Tunebook

/-- What is merged: a mapping and a later one. -/
abbrev Pair := Mapping × Mapping

/-- The first pair is merged while the second one is: its mappings stand under one key. -/
def Inner (t s : Pair) : Prop :=
  ∃ e ∈ s.2, (Mapping.get? e.1 s.1).bind Value.entries? = some t.1 ∧ e.2.entries? = some t.2

/-- Merging never ends: there is always another pair inside. -/
def Endless (base later : Mapping) : Prop :=
  ∃ path : Nat → Pair, path 0 = (base, later) ∧ ∀ n, Inner (path (n + 1)) (path n)

/-- A chain of so many pairs, each inside the one before it, begins at a pair. -/
inductive Reach : Nat → Pair → Prop
  | stay (s : Pair) : Reach 0 s
  | step {n : Nat} {s t : Pair} (inner : Inner t s) (more : Reach n t) : Reach (n + 1) s

section

variable {base later : Mapping} {f : Fault}

theorem mergeValue_eq_error_iff {merge : Mapping → Mapping → Except Fault Mapping} {earlier : Option Value}
    {v : Value} : mergeValue merge earlier v = .error f ↔
      ∃ t : Pair, earlier.bind Value.entries? = some t.1 ∧ v.entries? = some t.2 ∧ merge t.1 t.2 = .error f := by
  rw [mergeValue]
  split
  · next base later hbase hlater =>
    constructor
    · intro h
      refine ⟨(base, later), hbase, hlater, ?_⟩
      cases hm : merge base later with
      | ok m =>
        rw [hm] at h
        cases h
      | error f' =>
        rw [hm] at h
        cases h
        rfl
    · rintro ⟨t, ht, ht', h⟩
      cases hbase.symm.trans ht
      cases hlater.symm.trans ht'
      rw [h]
      rfl
  · next hno =>
    constructor
    · intro h
      cases h
    · rintro ⟨t, ht, ht', -⟩
      exact absurd ht' (hno _ _ ht)

end

theorem foldlM_eq_error_iff {α β γ : Type} {g : α → Except Fault γ} {h : β → α → γ → β} {l : List α} {f : Fault}
    (only : ∀ a ∈ l, ∀ f', g a = .error f' → f' = f) {b : β} {f' : Fault} :
    l.foldlM (fun b a => (g a).map (h b a)) b = .error f' ↔ f' = f ∧ ∃ a ∈ l, g a = .error f := by
  induction l generalizing b with
  | nil => exact iff_of_false nofun fun ⟨_, _, ha, _⟩ => List.not_mem_nil ha
  | cons a rest ih =>
    rw [List.foldlM_cons]
    cases hg : g a with
    | error f₁ =>
      obtain rfl := only a List.mem_cons_self f₁ hg
      constructor
      · intro h
        cases h
        exact ⟨rfl, a, List.mem_cons_self, hg⟩
      · rintro ⟨rfl, -⟩
        rfl
    | ok c =>
      refine (ih fun a ha => only a (List.mem_cons_of_mem _ ha)).trans (and_congr_right fun _ => ?_)
      simp only [List.mem_cons, exists_eq_or_imp, hg, reduceCtorEq, false_or]

/-- **Merging within a budget fails exactly where a chain as long as the budget begins.** -/
theorem mergeInto_eq_error_iff {levels : Nat} {base later : Mapping} {f : Fault} :
    mergeInto levels base later = .error f ↔ f = .endlessMerge ∧ Reach levels (base, later) := by
  induction levels generalizing base later f with
  | zero =>
    constructor
    · intro h
      cases h
      exact ⟨rfl, .stay _⟩
    · rintro ⟨rfl, -⟩
      rfl
  | succ levels ih =>
    rw [mergeInto, foldlM_eq_error_iff (f := .endlessMerge)]
    · refine and_congr_right fun _ => ?_
      constructor
      · rintro ⟨e, he, h⟩
        obtain ⟨t, hbase, hlater, h⟩ := mergeValue_eq_error_iff.1 h
        exact .step ⟨e, he, hbase, hlater⟩ (ih.1 h).2
      · intro h
        cases h with
        | step inner more =>
          obtain ⟨e, he, hbase, hlater⟩ := inner
          exact ⟨e, he, mergeValue_eq_error_iff.2 ⟨_, hbase, hlater, ih.2 ⟨rfl, more⟩⟩⟩
    · intro e _ f' h
      obtain ⟨t, -, -, h⟩ := mergeValue_eq_error_iff.1 h
      exact (ih.1 h).1

/-! ### The pairs inside a pair -/

theorem Mapping.exists_of_get? {key v : Value} {m : Mapping} (h : get? key m = some v) : ∃ e ∈ m, e.2 = v := by
  induction m with
  | nil => cases h
  | cons e rest ih =>
    rw [get?] at h
    split at h
    · exact ⟨e, List.mem_cons_self, Option.some.inj h⟩
    · obtain ⟨e', he', hv⟩ := ih h
      exact ⟨e', List.mem_cons_of_mem _ he', hv⟩

def Pair.IsClosed (s : Pair) : Prop := Mapping.IsClosed s.1 ∧ Mapping.IsClosed s.2

def Pair.inside (s : Pair) : List Pair := Value.entriesUnrolled [] s.1 ×ˢ Value.entriesUnrolled [] s.2

theorem Pair.length_inside (s : Pair) :
    s.inside.length = entriesMappings s.1 * entriesMappings s.2 := by
  rw [inside, List.length_product, Value.length_entriesUnrolled, Value.length_entriesUnrolled]

open Relation

namespace Inner

variable {s t : Pair}

theorem mem_of_heldIn {known known' : List Mapping} (h : Inner t s)
    (held : ∀ e ∈ s.1, Value.HeldIn known e.2) (held' : ∀ e ∈ s.2, Value.HeldIn known' e.2) :
    t.1 ∈ known ∧ t.2 ∈ known' := by
  obtain ⟨e, he, hbase, hlater⟩ := h
  obtain ⟨v, hv, hbase⟩ := Option.bind_eq_some_iff.1 hbase
  obtain ⟨e', he', rfl⟩ := Mapping.exists_of_get? hv
  exact ⟨held e' he' _ hbase, held' e he _ hlater⟩

theorem isClosed (h : Inner t s) (closed : s.IsClosed) : t.IsClosed := by
  obtain ⟨e, he, hbase, hlater⟩ := h
  obtain ⟨v, hv, hbase⟩ := Option.bind_eq_some_iff.1 hbase
  obtain ⟨e', he', rfl⟩ := Mapping.exists_of_get? hv
  exact ⟨Value.isClosed_of_entries? (closed.1 e' he') hbase, Value.isClosed_of_entries? (closed.2 e he) hlater⟩

/-- **Pairs inside pairs are inside the outermost one.** -/
theorem mem_inside (closed : s.IsClosed) (h : TransGen Inner t s) : t ∈ s.inside := by
  rw [Pair.inside, ← Prod.mk.eta (p := t)]
  refine List.pair_mem_product.2 ?_
  induction h using TransGen.head_induction_on with
  | single h =>
    exact h.mem_of_heldIn (fun _ => Mapping.heldIn_entriesUnrolled closed.1)
      fun _ => Mapping.heldIn_entriesUnrolled closed.2
  | head h _ ih =>
    exact h.mem_of_heldIn (fun _ => Mapping.heldIn_of_mem_entriesUnrolled closed.1 ih.1)
      fun _ => Mapping.heldIn_of_mem_entriesUnrolled closed.2 ih.2

theorem irrefl_of_acc (acc : Acc Inner t) : ¬ TransGen Inner t t := by
  have hacc := acc.transGen
  clear acc
  induction hacc with
  | intro t _ ih => exact fun h => ih t h h

end Inner

theorem Reach.exists_nodup {n : Nat} {t : Pair} (h : Reach n t) (acc : Acc Inner t) :
    ∃ chain : List Pair, chain.length = n ∧ chain.Nodup ∧ ∀ u ∈ chain, TransGen Inner u t := by
  induction h with
  | stay => exact ⟨[], rfl, .nil, nofun⟩
  | @step n s t inner _ ih =>
    have acct := acc.inv inner
    obtain ⟨chain, hlen, hnodup, hin⟩ := ih acct
    refine ⟨t :: chain, congrArg (· + 1) hlen, List.nodup_cons.2 ⟨fun ht => ?_, hnodup⟩, ?_⟩
    · exact Inner.irrefl_of_acc acct (hin t ht)
    · exact List.forall_mem_cons.2 ⟨.single inner, fun u hu => (hin u hu).tail inner⟩

/-- **Where merging an inner pair ends, it goes less deep than there are pairs.** -/
theorem Inner.lt_of_reach {s t : Pair} {n : Nat} (inner : Inner t s) (closed : s.IsClosed)
    (acc : Acc Inner t) (h : Reach n t) : n < entriesMappings s.1 * entriesMappings s.2 := by
  obtain ⟨chain, hlen, hnodup, hin⟩ := h.exists_nodup acc
  have hnew : (t :: chain).Nodup :=
    List.nodup_cons.2 ⟨fun ht => irrefl_of_acc acc (hin t ht), hnodup⟩
  have hsub : t :: chain ⊆ s.inside :=
    List.cons_subset.2 ⟨mem_inside closed (.single inner), fun u hu => mem_inside closed ((hin u hu).tail inner)⟩
  have hle := (List.subperm_of_subset hnew hsub).length_le
  rw [List.length_cons, hlen, s.length_inside] at hle
  exact hle

/-! ### Merging that fails -/

theorem endless_iff {base later : Mapping} : Endless base later ↔ ¬ Acc Inner (base, later) :=
  not_acc_iff_exists_descending_chain.symm

theorem Endless.reach {base later : Mapping} (h : Endless base later) (n : Nat) : Reach n (base, later) := by
  obtain ⟨path, hstart, hpath⟩ := h
  rw [← hstart]
  clear hstart
  induction n generalizing path with
  | zero => exact .stay _
  | succ n ih => exact .step (hpath 0) (ih (fun n => path (n + 1)) fun n => hpath (n + 1))

section

variable {base later : Mapping} {f : Fault}

/-- **Merging a later layer fails exactly where it does not end.** -/
theorem mergeLayer_eq_error_iff (hbase : base.IsClosed) (hlater : later.IsClosed) :
    mergeLayer base later = .error f ↔ f = .endlessMerge ∧ Endless base later := by
  rw [mergeLayer, mergeInto_eq_error_iff]
  refine and_congr_right fun _ => ⟨fun h => endless_iff.2 fun acc => ?_, fun h => h.reach _⟩
  cases h with
  | step inner more => exact (inner.lt_of_reach ⟨hbase, hlater⟩ (acc.inv inner) more).false

/-- Under one key both layers hold a mapping that holds itself under another. -/
example :
    let layer : Mapping := [(.text "a", .map [(.text "b", .again .map 0)])]
    mergeLayer layer layer = .error .endlessMerge := rfl

theorem not_endless_of_entriesMappings (hbase : base.IsClosed) (hlater : later.IsClosed)
    (hnone : entriesMappings base = 0) : ¬ Endless base later := by
  rintro ⟨path, hstart, hpath⟩
  have hmem := Inner.mem_inside ⟨hbase, hlater⟩ (.single (hstart ▸ hpath 0))
  have hlen := Pair.length_inside (base, later)
  rw [hnone, Nat.zero_mul, List.length_eq_zero_iff] at hlen
  rw [hlen] at hmem
  cases hmem

/-! ### Merging that ends -/

theorem mergeInto_invariant {P : Mapping → Prop} {levels : Nat} {merged : Mapping}
    (keeps : ∀ m, P m → ∀ e ∈ later, ∀ v, mergeValue (mergeInto (levels - 1)) (Mapping.get? e.1 base) e.2 = .ok v →
      P (Mapping.insert e.1 v m)) (hbase : P base) (h : mergeInto levels base later = .ok merged) : P merged := by
  cases levels with
  | zero => cases h
  | succ levels =>
    rw [mergeInto] at h
    refine foldlM_invariant (fun m hm e he m' hstep => ?_) hbase h
    obtain ⟨v, hv, rfl⟩ := map_eq_ok.1 hstep
    exact keeps m hm e he v hv

theorem Mapping.IsClosed.insert {m : Mapping} (h : m.IsClosed) (k : Value) {v : Value} (hv : v.isClosed 0 = true) :
    (Mapping.insert k v m).IsClosed := by
  induction m with
  | nil => exact List.forall_mem_singleton.2 hv
  | cons e rest ih =>
    obtain ⟨he, hrest⟩ := List.forall_mem_cons.1 h
    rw [Mapping.insert]
    split
    · exact List.forall_mem_cons.2 ⟨hv, hrest⟩
    · exact List.forall_mem_cons.2 ⟨he, ih hrest⟩

/-- **Closed mappings are merged into a closed one.** -/
theorem isClosed_mergeInto {levels : Nat} {base later merged : Mapping} (hbase : base.IsClosed)
    (hlater : later.IsClosed) (h : mergeInto levels base later = .ok merged) : merged.IsClosed := by
  induction levels generalizing base later merged with
  | zero => cases h
  | succ levels ih =>
    refine mergeInto_invariant (fun m hm e he v hv => hm.insert _ ?_) hbase h
    rw [mergeValue] at hv
    split at hv
    · next base' later' hb hl =>
      obtain ⟨inner, hinner, rfl⟩ := map_eq_ok.1 hv
      have closed : Pair.IsClosed (base', later') :=
        Inner.isClosed (s := (base, later)) ⟨e, he, hb, hl⟩ ⟨hbase, hlater⟩
      exact Value.isClosed_map_of_isClosed (ih closed.1 closed.2 hinner) 0
    · cases hv
      exact hlater e he

end

end Tunebook
