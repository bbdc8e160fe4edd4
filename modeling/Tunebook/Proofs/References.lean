import Mathlib.Logic.Relation
import Mathlib.Order.WellFounded
import Tunebook.Settings

/-!
# Values that hold themselves

A reference inside a value stands for a list or a mapping around it and says how many others stand in
between, like a variable without a name.  A value is closed when all its references end inside it.  Only
closed values are ever put in place of references, so nothing has to be renumbered.

* `Value.nested`: induction over what a value holds.
* `Value.within_of_isClosed`: a closed value is the same wherever it stands.
* `Value.within_within`: what stands inside one value after the other.
* `Value.isClosed_of_entries?`: the entries of a closed mapping are closed.
* `Value.unrolled`: the mappings that can be reached in a value by keys, as many as it holds
  (`Value.length_unrolled`); `heldIn_of_mem_entriesUnrolled`: what they hold is among them again.
-/

namespace Tunebook

namespace Value

def isLeaf : Value → Bool
  | list _ | pair _ _ | map _ | again _ _ => false
  | _ => true

theorem isLeaf_ofWording (w : Wording) : (ofWording w).isLeaf = true := by
  cases w <;> rfl

/-- What holds of a value if it holds of those inside it holds of every value. -/
@[elab_as_elim]
theorem nested {P : Value → Prop} (leaf : ∀ v, v.isLeaf = true → P v)
    (again : ∀ holder level, P (.again holder level))
    (list : ∀ items, (∀ v ∈ items, P v) → P (.list items)) (pair : ∀ x y, P x → P y → P (.pair x y))
    (map : ∀ entries, (∀ e ∈ entries, P e.2) → P (.map entries)) (v : Value) : P v := by
  match v with
  | .again holder level => exact again holder level
  | .list items => exact list items fun v _ => nested leaf again list pair map v
  | .pair x y => exact pair x y (nested leaf again list pair map x) (nested leaf again list pair map y)
  | .map entries => exact map entries fun e _ => nested leaf again list pair map e.2
  | .null | .flag _ | .int _ | .double _ | .text _ | .torn _ | .date _ | .moment _ | .octets _ | .set _ =>
    exact leaf _ rfl
termination_by sizeOf v
decreasing_by
  · have hv : sizeOf v < sizeOf items := List.sizeOf_lt_of_mem ‹_›
    rw [Value.list.sizeOf_spec]
    omega
  · rw [Value.pair.sizeOf_spec]
    omega
  · rw [Value.pair.sizeOf_spec]
    omega
  · obtain ⟨k, w⟩ := e
    have he : sizeOf (k, w) < sizeOf entries := List.sizeOf_lt_of_mem ‹_›
    rw [Prod.mk.sizeOf_spec] at he
    rw [Value.map.sizeOf_spec]
    dsimp only
    omega

/-! ### What a value is inside others -/

theorem withinItems_eq_map (around : List Value) (depth : Nat) (items : List Value) :
    withinItems around depth items = items.map (within around depth) := by
  induction items with
  | nil => rfl
  | cons v rest ih => rw [withinItems, ih, List.map_cons]

theorem withinEntries_eq_map (around : List Value) (depth : Nat) (entries : List (Value × Value)) :
    withinEntries around depth entries = entries.map fun e => (e.1, within around depth e.2) := by
  induction entries with
  | nil => rfl
  | cons e rest ih => rw [withinEntries, ih, List.map_cons]

theorem within_of_isLeaf {v : Value} (h : v.isLeaf = true) (around : List Value) (depth : Nat) :
    within around depth v = v := by
  cases v with
  | list | pair | map | again => cases h
  | _ => rfl

/-! ### Closed values -/

mutual

/-- Whether all references in a value end inside it or in the `depth` lists and mappings around it. -/
def isClosed (depth : Nat) : Value → Bool
  | again _ level => level < depth
  | list items => itemsClosed (depth + 1) items
  | pair first second => isClosed depth first && isClosed depth second
  | map entries => entriesClosed (depth + 1) entries
  | _ => true

def itemsClosed (depth : Nat) : List Value → Bool
  | [] => true
  | v :: rest => isClosed depth v && itemsClosed depth rest

def entriesClosed (depth : Nat) : List (Value × Value) → Bool
  | [] => true
  | (_, v) :: rest => isClosed depth v && entriesClosed depth rest

end

theorem itemsClosed_iff {depth : Nat} {items : List Value} :
    itemsClosed depth items = true ↔ ∀ v ∈ items, v.isClosed depth = true := by
  induction items with
  | nil => exact iff_of_true rfl nofun
  | cons v rest ih => rw [itemsClosed, Bool.and_eq_true, List.forall_mem_cons, ih]

theorem entriesClosed_iff {depth : Nat} {entries : List (Value × Value)} :
    entriesClosed depth entries = true ↔ ∀ e ∈ entries, e.2.isClosed depth = true := by
  induction entries with
  | nil => exact iff_of_true rfl nofun
  | cons e rest ih => rw [entriesClosed, Bool.and_eq_true, List.forall_mem_cons, ih]

theorem isClosed_list {depth : Nat} {items : List Value} :
    (list items).isClosed depth = true ↔ ∀ v ∈ items, v.isClosed (depth + 1) = true := by
  rw [isClosed, itemsClosed_iff]

theorem isClosed_pair {depth : Nat} {x y : Value} :
    (pair x y).isClosed depth = true ↔ x.isClosed depth = true ∧ y.isClosed depth = true := by
  rw [isClosed, Bool.and_eq_true]

theorem isClosed_map {depth : Nat} {entries : Mapping} :
    (map entries).isClosed depth = true ↔ ∀ e ∈ entries, e.2.isClosed (depth + 1) = true := by
  rw [isClosed, entriesClosed_iff]

theorem isClosed_again {holder : Holder} {depth level : Nat} :
    (again holder level).isClosed depth = true ↔ level < depth := by
  rw [isClosed, decide_eq_true_eq]

theorem isClosed_of_isLeaf {v : Value} (h : v.isLeaf = true) (depth : Nat) : v.isClosed depth = true := by
  cases v with
  | list | pair | map | again => cases h
  | _ => rfl

theorem isClosed_mono {v : Value} {depth depth' : Nat} (hle : depth ≤ depth')
    (h : v.isClosed depth = true) : v.isClosed depth' = true := by
  induction v using nested generalizing depth depth' with
  | leaf v hv => exact isClosed_of_isLeaf hv _
  | again holder level => exact isClosed_again.2 ((isClosed_again.1 h).trans_le hle)
  | list items ih =>
    exact isClosed_list.2 fun v hv => ih v hv (Nat.add_le_add_right hle 1) (isClosed_list.1 h v hv)
  | pair x y ihx ihy =>
    obtain ⟨hx, hy⟩ := isClosed_pair.1 h
    exact isClosed_pair.2 ⟨ihx hle hx, ihy hle hy⟩
  | map entries ih =>
    exact isClosed_map.2 fun e he => ih e he (Nat.add_le_add_right hle 1) (isClosed_map.1 h e he)

/-- **A closed value is the same wherever it stands.** -/
theorem within_of_isClosed {v : Value} {depth : Nat} (h : v.isClosed depth = true) (around : List Value) :
    within around depth v = v := by
  induction v using nested generalizing depth with
  | leaf v hv => exact within_of_isLeaf hv _ _
  | again holder level => rw [within, if_pos (isClosed_again.1 h)]
  | list items ih =>
    have hitems : ∀ v ∈ items, within around (depth + 1) v = id v := fun v hv =>
      ih v hv (isClosed_list.1 h v hv)
    rw [within, withinItems_eq_map, List.map_congr_left hitems, List.map_id]
  | pair x y ihx ihy =>
    obtain ⟨hx, hy⟩ := isClosed_pair.1 h
    rw [within, ihx hx, ihy hy]
  | map entries ih =>
    have hentries : ∀ e ∈ entries, (e.1, within around (depth + 1) e.2) = id e := fun e he => by
      rw [ih e he (isClosed_map.1 h e he), id]
    rw [within, withinEntries_eq_map, List.map_congr_left hentries, List.map_id]

section

variable {around : List Value} (closed : ∀ u ∈ around, u.isClosed 0 = true)

include closed

theorem isClosed_within {v : Value} {depth : Nat} (h : v.isClosed (depth + around.length) = true) :
    (within around depth v).isClosed depth = true := by
  induction v using nested generalizing depth with
  | leaf v hv =>
    rw [within_of_isLeaf hv]
    exact isClosed_of_isLeaf hv _
  | again holder level =>
    rw [within]
    split
    · next hlt => exact isClosed_again.2 hlt
    · next hge =>
      have hlevel : level - depth < around.length := by
        have := isClosed_again.1 h
        omega
      rw [List.getElem?_eq_getElem hlevel, Option.getD_some]
      exact isClosed_mono (Nat.zero_le _) (closed _ (List.getElem_mem hlevel))
  | list items ih =>
    rw [within, withinItems_eq_map, isClosed_list, List.forall_mem_map]
    intro v hv
    refine ih v hv ?_
    rw [Nat.add_right_comm]
    exact isClosed_list.1 h v hv
  | pair x y ihx ihy =>
    obtain ⟨hx, hy⟩ := isClosed_pair.1 h
    exact isClosed_pair.2 ⟨ihx hx, ihy hy⟩
  | map entries ih =>
    rw [within, withinEntries_eq_map, isClosed_map, List.forall_mem_map]
    intro e he
    refine ih e he ?_
    rw [Nat.add_right_comm]
    exact isClosed_map.1 h e he

/-- **What stands inside closed values and, inside these, one value more** may be put in place at once. -/
theorem within_within {w : Value} (v : Value) (depth : Nat) :
    within [w] depth (within around (depth + 1) v) = within (w :: around) depth v := by
  induction v using nested generalizing depth with
  | leaf v hv => simp only [within_of_isLeaf hv]
  | again holder level =>
    rw [within, within]
    obtain hlt | rfl | hgt := Nat.lt_trichotomy level depth
    · rw [if_pos (Nat.lt_succ_of_lt hlt), if_pos hlt, within, if_pos hlt]
    · rw [if_pos (Nat.lt_succ_self _), if_neg (Nat.lt_irrefl _), within, if_neg (Nat.lt_irrefl _), Nat.sub_self]
      rfl
    · have hindex : level - depth = level - (depth + 1) + 1 := by omega
      rw [if_neg (by omega), if_neg (by omega), hindex, List.getElem?_cons_succ]
      cases hu : around[level - (depth + 1)]? with
      | none => rw [Option.getD_none, within, if_neg (by omega), hindex, List.getElem?_cons_succ]; rfl
      | some u =>
        have hclosed := isClosed_mono (Nat.zero_le depth) (closed u (List.mem_of_getElem? hu))
        rw [Option.getD_some, within_of_isClosed hclosed]
  | list items ih =>
    simp only [within, withinItems_eq_map, List.map_map, list.injEq, List.map_inj_left]
    exact fun v hv => ih v hv (depth + 1)
  | pair x y ihx ihy => rw [within, within, within, ihx, ihy]
  | map entries ih =>
    simp only [within, withinEntries_eq_map, List.map_map, map.injEq, List.map_inj_left]
    exact fun e he => congrArg (Prod.mk e.1) (ih e he (depth + 1))

end

end Value

namespace Mapping

def IsClosed (m : Mapping) : Prop := ∀ e ∈ m, e.2.isClosed 0 = true

end Mapping

namespace Value

/-- **The entries of a closed mapping are closed.** -/
theorem isClosed_of_entries? {v : Value} {entries : Mapping} (h : v.isClosed 0 = true)
    (he : v.entries? = some entries) : entries.IsClosed := by
  cases v with
  | map raw =>
    cases he
    rw [withinEntries_eq_map, Mapping.IsClosed, List.forall_mem_map]
    intro e hmem
    refine isClosed_within ?_ (isClosed_map.1 h e hmem)
    exact List.forall_mem_singleton.2 h
  | _ => cases he

theorem isClosed_map_of_isClosed {entries : Mapping} (h : entries.IsClosed) (depth : Nat) :
    (map entries).isClosed depth = true :=
  isClosed_map.2 fun e he => isClosed_mono (Nat.zero_le _) (h e he)

/-! ### Mappings inside a value -/

mutual

/-- The mappings that can be reached in a value by keys, each with closed entries. -/
def unrolled (around : List Value) : Value → List Mapping
  | map entries =>
    let self := within around 0 (map entries)
    withinEntries (self :: around) 0 entries :: entriesUnrolled (self :: around) entries
  | _ => []

def entriesUnrolled (around : List Value) : List (Value × Value) → List Mapping
  | [] => []
  | (_, v) :: rest => unrolled around v ++ entriesUnrolled around rest

end

theorem mem_entriesUnrolled {around : List Value} {entries : List (Value × Value)} {m : Mapping} :
    m ∈ entriesUnrolled around entries ↔ ∃ e ∈ entries, m ∈ unrolled around e.2 := by
  induction entries with
  | nil => exact iff_of_false List.not_mem_nil fun ⟨_, h, _⟩ => List.not_mem_nil h
  | cons e rest ih => simp only [entriesUnrolled, List.mem_append, ih, List.mem_cons, exists_eq_or_imp]

mutual

/-- There are as many of them as the value holds. -/
theorem length_unrolled (around : List Value) : ∀ v : Value, (unrolled around v).length = v.mappings
  | map entries => by rw [unrolled, List.length_cons, length_entriesUnrolled, mappings]
  | again _ _ | list _ | pair _ _ | null | flag _ | int _ | double _ | text _ | torn _ | date _ | moment _
  | octets _ | set _ => rfl

theorem length_entriesUnrolled (around : List Value) : ∀ entries : List (Value × Value),
    (entriesUnrolled around entries).length = entriesMappings entries
  | [] => rfl
  | (_, v) :: rest => by
    rw [entriesUnrolled, List.length_append, length_unrolled, length_entriesUnrolled, entriesMappings]

end

def HeldIn (known : List Mapping) (v : Value) : Prop := ∀ entries, v.entries? = some entries → entries ∈ known

section

variable {known : List Mapping}

theorem heldIn_within {around : List Value} (closed : ∀ u ∈ around, u.isClosed 0 = true)
    (held : ∀ u ∈ around, HeldIn known u) {v : Value} (h : ∀ m ∈ unrolled around v, m ∈ known) :
    HeldIn known (within around 0 v) := by
  intro entries he
  cases v with
  | map raw =>
    have hself : (within around 0 (map raw)).entries?
        = some (withinEntries (within around 0 (map raw) :: around) 0 raw) := by
      rw [within, entries?, withinEntries_eq_map, withinEntries_eq_map, withinEntries_eq_map, List.map_map]
      refine congrArg some (List.map_congr_left fun e _ => ?_)
      exact congrArg (Prod.mk e.1) (within_within closed e.2 0)
    rw [hself] at he
    cases he
    exact h _ List.mem_cons_self
  | again holder level =>
    rw [within, if_neg (Nat.not_lt_zero _), Nat.sub_zero] at he
    cases hu : around[level]? with
    | none =>
      rw [hu] at he
      cases he
    | some u =>
      rw [hu] at he
      exact held u (List.mem_of_getElem? hu) entries he
  | _ => cases he

/-- **Every mapping that is reached in a value by a key is among the unrolled ones.** -/
theorem heldIn_of_mem_unrolled {around : List Value} {v : Value}
    (closed : ∀ u ∈ around, u.isClosed 0 = true) (bound : v.isClosed around.length = true)
    (held : ∀ u ∈ around, HeldIn known u) (h : ∀ m ∈ unrolled around v, m ∈ known) {m : Mapping}
    (hm : m ∈ unrolled around v) : ∀ e ∈ m, HeldIn known e.2 := by
  induction v using nested generalizing around with
  | map raw ih =>
    have hself : HeldIn known (within around 0 (map raw)) := heldIn_within closed held h
    have hclosed : (within around 0 (map raw)).isClosed 0 = true := by
      refine isClosed_within closed ?_
      rw [Nat.zero_add]
      exact bound
    have closed' : ∀ u ∈ within around 0 (map raw) :: around, u.isClosed 0 = true :=
      List.forall_mem_cons.2 ⟨hclosed, closed⟩
    have held' : ∀ u ∈ within around 0 (map raw) :: around, HeldIn known u :=
      List.forall_mem_cons.2 ⟨hself, held⟩
    have hinner : ∀ e ∈ raw, ∀ m ∈ unrolled (within around 0 (map raw) :: around) e.2, m ∈ known :=
      fun e he m hm => h m (List.mem_cons_of_mem _ (mem_entriesUnrolled.2 ⟨e, he, hm⟩))
    rcases List.mem_cons.1 hm with rfl | hm
    · rw [withinEntries_eq_map, List.forall_mem_map]
      exact fun e he => heldIn_within closed' held' (hinner e he)
    · obtain ⟨e, he, hm⟩ := mem_entriesUnrolled.1 hm
      exact ih e he closed' (isClosed_map.1 bound e he) held' (hinner e he) hm
  | leaf v hv =>
    cases v with
    | list | pair | map | again => cases hv
    | _ => cases hm
  | again | list | pair => cases hm

end

end Value

namespace Mapping

variable {m inner : Mapping}

/-- **What a closed mapping holds under its keys is unrolled with it**, and so is what those mappings hold. -/
theorem heldIn_entriesUnrolled (h : m.IsClosed) {e : Value × Value} (he : e ∈ m) :
    Value.HeldIn (Value.entriesUnrolled [] m) e.2 := by
  have hnone : ∀ u ∈ ([] : List Value), u.isClosed 0 = true := nofun
  rw [← Value.within_of_isClosed (h e he) []]
  exact Value.heldIn_within hnone (fun _ hu => nomatch hu)
    fun _ hm => Value.mem_entriesUnrolled.2 ⟨e, he, hm⟩

theorem heldIn_of_mem_entriesUnrolled (h : m.IsClosed) (hinner : inner ∈ Value.entriesUnrolled [] m)
    {e : Value × Value} (he : e ∈ inner) : Value.HeldIn (Value.entriesUnrolled [] m) e.2 := by
  have hnone : ∀ u ∈ ([] : List Value), u.isClosed 0 = true := nofun
  obtain ⟨e', he', hmem⟩ := Value.mem_entriesUnrolled.1 hinner
  exact Value.heldIn_of_mem_unrolled hnone (h e' he') (fun _ hu => nomatch hu)
    (fun _ hm => Value.mem_entriesUnrolled.2 ⟨e', he', hm⟩) hmem e he

end Mapping

end Tunebook
