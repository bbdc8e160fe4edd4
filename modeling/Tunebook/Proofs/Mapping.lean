import Tunebook.Value

/-!
# Names in a mapping

A mapping is looked up by names, whatever other keys it has.  Its names are the keys that are texts,
in the order of its entries, and no other key is one key with a name.

* `Value.sameKey_text_iff`: a name is one key with itself alone.
* `Mapping.mem_names_iff`: the names are those under which a value is found.
* `Mapping.field?_insert`, `Mapping.names_insert`: an insertion seen by names.
* `Mapping.names_prefix_insert`: no insertion takes a name away.
* `Mapping.field?_without`: a removal seen by names.
-/

namespace Tunebook

def Value.name? : Value → Option String
  | .text name => some name
  | _ => none

/-- **A key is one key with a name exactly where it is that name.** -/
theorem Value.sameKey_text_iff (k : Value) (name : String) :
    k.sameKey (.text name) = true ↔ k.name? = some name := by
  cases k with
  | text s => rw [sameKey_text, beq_iff_eq, name?, Option.some.injEq]
  | _ =>
    constructor
    · intro h
      cases h
    · intro h
      cases h

namespace Mapping

/-- The keys of a mapping that are texts, in order. -/
def names (m : Mapping) : List String := m.filterMap fun entry => entry.1.name?

theorem names_cons (k v : Value) (rest : Mapping) :
    names ((k, v) :: rest) = k.name?.toList ++ names rest := by
  rw [names, List.filterMap_cons]
  cases k.name? <;> rfl

theorem mem_names_cons (name : String) (k v : Value) (rest : Mapping) :
    name ∈ names ((k, v) :: rest) ↔ k.name? = some name ∨ name ∈ names rest := by
  rw [names_cons, List.mem_append, Option.mem_toList]

theorem field?_nil (name : String) : field? name [] = none := rfl

theorem field?_cons (name : String) (k v : Value) (rest : Mapping) :
    field? name ((k, v) :: rest) = if k.name? = some name then some v else field? name rest := by
  simp only [field?, get?, Value.sameKey_text_iff]

theorem insert_cons (name : String) (v k w : Value) (rest : Mapping) :
    insert (.text name) v ((k, w) :: rest) = if k.name? = some name then (k, v) :: rest
      else (k, w) :: insert (.text name) v rest := by
  simp only [insert, Value.sameKey_text_iff]

/-- A name that is there keeps its place, and another one comes last. -/
theorem names_insert (name : String) (v : Value) (m : Mapping) :
    names (insert (.text name) v m)
      = if name ∈ names m then names m else names m ++ [name] := by
  induction m with
  | nil => rfl
  | cons entry rest ih =>
    obtain ⟨k, w⟩ := entry
    rw [insert_cons]
    by_cases h : k.name? = some name
    · rw [if_pos h, if_pos ((mem_names_cons ..).2 (.inl h)), names_cons, names_cons]
    · rw [if_neg h, names_cons, names_cons, ih]
      simp only [List.mem_append, Option.mem_toList, h, false_or]
      split
      · rfl
      · rw [List.append_assoc]

/-- **No insertion takes a name away**, whatever its key is. -/
theorem names_prefix_insert (k v : Value) (m : Mapping) : names m <+: names (insert k v m) := by
  induction m with
  | nil => exact List.nil_prefix
  | cons entry rest ih =>
    obtain ⟨k₀, w⟩ := entry
    rw [insert]
    split
    · exact ⟨[], by rw [List.append_nil, names_cons, names_cons]⟩
    · rw [names_cons, names_cons]
      exact (List.prefix_append_right_inj _).2 ih

/-! ### Removals -/

/-- A mapping without what stands under a name. -/
def without (name : String) (m : Mapping) : Mapping := m.filter fun entry => entry.1.name? != some name

/-- A removal takes away what stands under its name, and nothing else. -/
theorem field?_without (name other : String) (m : Mapping) :
    field? other (without name m) = if name = other then none else field? other m := by
  induction m with
  | nil => rw [without, List.filter_nil, field?_nil, ite_self]
  | cons entry rest ih =>
    obtain ⟨k, v⟩ := entry
    rw [without] at ih ⊢
    by_cases hk : k.name? = some name
    · rw [List.filter_cons_of_neg (by simp [hk]), ih, field?_cons, hk]
      by_cases hname : name = other
      · rw [if_pos hname, if_pos hname]
      · rw [if_neg hname, if_neg hname, if_neg fun e => hname (Option.some.inj e)]
    · rw [List.filter_cons_of_pos (by simpa using hk), field?_cons, field?_cons, ih]
      by_cases hother : k.name? = some other
      · have hname : name ≠ other := by
          rintro rfl
          exact hk hother
        rw [if_pos hother, if_pos hother, if_neg hname]
      · rw [if_neg hother, if_neg hother]

end Mapping

end Tunebook
