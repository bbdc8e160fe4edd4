import Mathlib.Data.List.Forall2

/-!
# Stages that may fail

A computation of stages stops at the first one that fails.  These lemmas take such a
computation apart, so that nothing else has to open a stage.

* `bind_eq_ok`, `bind_eq_error`: how two stages end; `bind_ok_eq_error`: one that is followed by none.
* `bind_eq_error_iff_or`: two stages, each with the reason that it may have to fail.
* `ok_bind`, `bind_congr_of_ok`: what stands behind a stage that succeeded.
* `foldlM_congr`, `foldlM_invariant`: stages for the members of a list.
* `mapM_eq_ok`, `mapM_eq_error`, `mapM_ok`: how one stage for each member of a list ends.
* `mem_of_forall₂`, `forall_mem_iff_of_forall₂`: what came of a list came of its members.
-/

namespace Tunebook

section

variable {ε α β : Type}

theorem bind_eq_ok {x : Except ε α} {f : α → Except ε β} {b : β} :
    (x >>= f) = .ok b ↔ ∃ a, x = .ok a ∧ f a = .ok b := by
  constructor
  · intro h
    cases x with
    | error e => cases h
    | ok a => exact ⟨a, rfl, h⟩
  · rintro ⟨a, rfl, h⟩
    exact h

theorem bind_eq_error {x : Except ε α} {f : α → Except ε β} {e : ε} :
    (x >>= f) = .error e ↔ x = .error e ∨ ∃ a, x = .ok a ∧ f a = .error e := by
  constructor
  · intro h
    cases x with
    | error e' =>
      cases h
      exact .inl rfl
    | ok a => exact .inr ⟨a, rfl, h⟩
  · rintro (rfl | ⟨a, rfl, h⟩)
    · rfl
    · exact h

theorem map_eq_ok {x : Except ε α} {g : α → β} {b : β} : x.map g = .ok b ↔ ∃ a, x = .ok a ∧ g a = b := by
  cases x with
  | error e => exact iff_of_false nofun fun ⟨_, h, _⟩ => nomatch h
  | ok a =>
    constructor
    · intro h
      cases h
      exact ⟨a, rfl, rfl⟩
    · rintro ⟨_, h, rfl⟩
      cases h
      rfl

/-- Whether the result of a stage has a property can be computed. -/
instance decidableForallOk (x : Except ε α) (P : α → Prop) [DecidablePred P] : Decidable (∀ a, x = .ok a → P a) :=
  match x with
  | .error _ => .isTrue nofun
  | .ok a => decidable_of_iff (P a) ⟨fun h _ e => Except.ok.inj e ▸ h, fun h => h a rfl⟩

theorem ok_bind (a : α) (f : α → Except ε β) : (Except.ok a >>= f) = f a := rfl

theorem bind_ok_eq_error {x : Except ε α} {g : α → β} {e : ε} :
    (x >>= fun a => Except.ok (g a)) = .error e ↔ x = .error e := by
  rw [bind_eq_error]
  constructor
  · rintro (h | ⟨_, _, h⟩)
    · exact h
    · cases h
  · exact Or.inl

theorem exists_eq_ok_iff {x : Except ε α} {o : Option ε} (h : ∀ e, x = .error e ↔ o = some e) :
    (∃ a, x = .ok a) ↔ o = none := by
  cases x with
  | error e => exact iff_of_false nofun fun ho => nomatch ho ▸ (h e).1 rfl
  | ok a =>
    refine iff_of_true ⟨a, rfl⟩ ?_
    cases o with
    | none => rfl
    | some e => exact nomatch (h e).2 rfl

theorem exists_eq_ok_congr {x : Except ε α} {y : Except ε β} (h : ∀ e, x = .error e ↔ y = .error e) :
    (∃ a, x = .ok a) ↔ ∃ b, y = .ok b := by
  cases x with
  | error e =>
    obtain rfl := (h e).1 rfl
    exact iff_of_false nofun nofun
  | ok a =>
    cases y with
    | error e => exact nomatch (h e).2 rfl
    | ok b => exact iff_of_true ⟨a, rfl⟩ ⟨b, rfl⟩

theorem bind_eq_error_iff_or {x : Except ε α} {f : α → Except ε β} {o p : Option ε} {e : ε}
    (hx : ∀ e, x = .error e ↔ o = some e) (hf : ∀ a, x = .ok a → ∀ e, f a = .error e ↔ p = some e) :
    (x >>= f) = .error e ↔ o.or p = some e := by
  cases x with
  | error e' =>
    rw [(hx e').1 rfl, Option.some_or, Option.some.injEq]
    exact ⟨Except.error.inj, congrArg Except.error⟩
  | ok a =>
    rw [(exists_eq_ok_iff hx).1 ⟨a, rfl⟩, Option.none_or]
    exact hf a rfl e

theorem bind_eq_error_iff_of_ok {x : Except ε α} {f g : α → Except ε β} {e : ε} {p : Prop}
    (h : ∀ a, x = .ok a → (f a = .error e ↔ g a = .error e ∨ (∃ b, g a = .ok b) ∧ p)) :
    (x >>= f) = .error e ↔ (x >>= g) = .error e ∨ (∃ b, (x >>= g) = .ok b) ∧ p := by
  cases x with
  | error e' => exact (or_iff_left fun ⟨⟨_, hb⟩, _⟩ => nomatch hb).symm
  | ok a => exact h a rfl

theorem bind_congr_of_ok {x : Except ε α} {f g : α → Except ε β}
    (h : ∀ a, x = .ok a → f a = g a) : (x >>= f) = (x >>= g) := by
  cases x with
  | error e => rfl
  | ok a => exact h a rfl

theorem foldlM_invariant {f : β → α → Except ε β} {P : β → Prop} {l : List α}
    (keeps : ∀ b, P b → ∀ a ∈ l, ∀ b', f b a = .ok b' → P b') {b r : β} (hb : P b) (h : l.foldlM f b = .ok r) :
    P r := by
  induction l generalizing b with
  | nil =>
    cases h
    exact hb
  | cons a rest ih =>
    rw [List.foldlM_cons] at h
    obtain ⟨b', hstep, h⟩ := bind_eq_ok.1 h
    exact ih (fun b hb a ha => keeps b hb a (List.mem_cons_of_mem _ ha))
      (keeps b hb a List.mem_cons_self b' hstep) h

theorem mapM_eq_ok {f : α → Except ε β} {l : List α} {r : List β} :
    l.mapM f = .ok r ↔ List.Forall₂ (fun a b => f a = .ok b) l r := by
  induction l generalizing r with
  | nil =>
    rw [List.mapM_nil, List.forall₂_nil_left_iff]
    constructor
    · intro h
      cases h
      rfl
    · rintro rfl
      rfl
  | cons a rest ih =>
    rw [List.mapM_cons, bind_eq_ok, List.forall₂_cons_left_iff]
    constructor
    · rintro ⟨b, hb, h⟩
      obtain ⟨more, hm, h⟩ := bind_eq_ok.1 h
      cases h
      exact ⟨b, more, hb, ih.1 hm, rfl⟩
    · rintro ⟨b, more, hb, hm, rfl⟩
      exact ⟨b, hb, bind_eq_ok.2 ⟨more, ih.2 hm, rfl⟩⟩

theorem mem_of_forall₂ {R : α → β → Prop} {l : List α} {r : List β} (h : List.Forall₂ R l r)
    {b : β} (hb : b ∈ r) : ∃ a ∈ l, R a b := by
  induction h with
  | nil => cases hb
  | cons hab _ ih =>
    rcases List.mem_cons.1 hb with rfl | hb
    · exact ⟨_, List.mem_cons_self, hab⟩
    · obtain ⟨a, ha, h⟩ := ih hb
      exact ⟨a, List.mem_cons_of_mem _ ha, h⟩

theorem forall_mem_iff_of_forall₂ {R : α → β → Prop} {P : α → Prop} {Q : β → Prop} {l : List α}
    {r : List β} (h : List.Forall₂ R l r) (hiff : ∀ a b, R a b → (Q b ↔ P a)) :
    (∀ b ∈ r, Q b) ↔ ∀ a ∈ l, P a := by
  induction h with
  | nil => exact iff_of_true nofun nofun
  | cons hab _ ih => rw [List.forall_mem_cons, List.forall_mem_cons, hiff _ _ hab, ih]

theorem mapM_eq_error {f : α → Except ε β} {l : List α} {e : ε} (h : l.mapM f = .error e) :
    ∃ a ∈ l, f a = .error e := by
  induction l with
  | nil => cases h
  | cons a rest ih =>
    rw [List.mapM_cons] at h
    rcases bind_eq_error.1 h with ha | ⟨b, _, h⟩
    · exact ⟨a, List.mem_cons_self, ha⟩
    · rcases bind_eq_error.1 h with hm | ⟨more, _, h⟩
      · obtain ⟨a', ha', e'⟩ := ih hm
        exact ⟨a', List.mem_cons_of_mem _ ha', e'⟩
      · cases h

theorem mapM_ok {f : α → Except ε β} {l : List α} (h : ∀ a ∈ l, ∃ b, f a = .ok b) :
    ∃ r, l.mapM f = .ok r := by
  cases hm : l.mapM f with
  | ok r => exact ⟨r, rfl⟩
  | error e =>
    obtain ⟨a, ha, he⟩ := mapM_eq_error hm
    obtain ⟨b, hb⟩ := h a ha
    rw [hb] at he
    cases he

end

end Tunebook
