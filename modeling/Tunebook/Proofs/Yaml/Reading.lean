import Tunebook.Proofs.Stage
import Tunebook.Yaml.ScalarValue

/-!
# How a step of reading ends

A step of reading a YAML text yields something, finds the text malformed, or meets a fault of its
own.  What is known of it are the faults that it may meet and what it yields; both are
carried through the steps by one lemma for each way in which steps are put together.

* `Yields`: the faults a step may meet, and what it yields.
* `Yields.bind`, `Yields.ite`, `Yields.foldlM`: steps one after another.
* `yields_lift`: a computation on texts as a step.
-/

namespace Tunebook.Yaml

/-- A step of reading meets known faults only, and what it yields is as expected. -/
inductive Yields {α : Type} (known : Fault → Prop) (expected : α → Prop) : Reading α → Prop
  | ok {a : α} (holds : expected a) : Yields known expected (.ok a)
  | malformed : Yields known expected (.error .malformed)
  | fault {f : Fault} (meets : known f) : Yields known expected (.error (.fault f))

abbrev Meets {α : Type} (known : Fault → Prop) (x : Reading α) : Prop := Yields known (fun _ => True) x

section

variable {α β : Type} {known known' : Fault → Prop} {expected : α → Prop} {x : Reading α}

theorem Yields.known_of_fault (h : Yields known expected x) {f : Fault}
    (hx : x = .error (.fault f)) : known f := by
  cases h with
  | ok holds => cases hx
  | malformed => cases hx
  | fault meets =>
    cases hx
    exact meets

theorem Yields.expected_of_ok (h : Yields known expected x) {a : α} (hx : x = .ok a) : expected a := by
  cases h with
  | ok holds =>
    cases hx
    exact holds
  | malformed => cases hx
  | fault meets => cases hx

theorem Yields.mono (h : Yields known expected x) {expected' : α → Prop}
    (himp : ∀ a, expected a → expected' a) : Yields known expected' x := by
  cases h with
  | ok holds => exact .ok (himp _ holds)
  | malformed => exact .malformed
  | fault meets => exact .fault meets

theorem Yields.of_known (h : Yields known expected x) (himp : ∀ f, known f → known' f) :
    Yields known' expected x := by
  cases h with
  | ok holds => exact .ok holds
  | malformed => exact .malformed
  | fault meets => exact .fault (himp _ meets)

/-- One step behind another one. -/
theorem Yields.bind (h : Yields known expected x) {f : α → Reading β} {expected' : β → Prop}
    (hf : ∀ a, expected a → Yields known expected' (f a)) : Yields known expected' (x >>= f) := by
  cases h with
  | ok holds => exact hf _ holds
  | malformed => exact .malformed
  | fault meets => exact .fault meets

theorem Yields.ite {c : Prop} [Decidable c] {y : Reading α} (hx : c → Yields known expected x)
    (hy : ¬ c → Yields known expected y) : Yields known expected (if c then x else y) := by
  split
  · next hc => exact hx hc
  · next hc => exact hy hc

theorem Yields.ite_bind {c : Prop} [Decidable c] {y : Reading α} (hx : c → Yields known expected x)
    (hy : ¬ c → Yields known expected y) {f : α → Reading β} {expected' : β → Prop}
    (hf : ∀ a, expected a → Yields known expected' (f a)) :
    Yields known expected' (if c then x >>= f else y >>= f) :=
  .ite (fun hc => (hx hc).bind hf) fun hc => (hy hc).bind hf

theorem Yields.map (h : Yields known expected x) {f : α → β} {expected' : β → Prop}
    (hf : ∀ a, expected a → expected' (f a)) : Yields known expected' (x.map f) := by
  cases h with
  | ok holds => exact .ok (hf _ holds)
  | malformed => exact .malformed
  | fault meets => exact .fault meets

/-- A step for each member of a list, each of which goes on from what is as expected. -/
theorem Yields.foldlM {f : β → α → Reading β} {expected : β → Prop} {l : List α}
    (hf : ∀ b, expected b → ∀ a ∈ l, Yields known expected (f b a)) {b : β} (hb : expected b) :
    Yields known expected (l.foldlM f b) := by
  induction l generalizing b with
  | nil => exact .ok hb
  | cons a rest ih =>
    rw [List.foldlM_cons]
    refine (hf b hb a List.mem_cons_self).bind fun b' hb' => ?_
    exact ih (fun b hb a ha => hf b hb a (List.mem_cons_of_mem _ ha)) hb'

/-- A computation on texts is a step that meets its faults. -/
theorem yields_lift {x : Except Fault α} (h : ∀ f, x = .error f → known f) :
    Meets known (lift x) := by
  cases x with
  | ok a => exact .ok trivial
  | error f => exact .fault (h f rfl)

end

end Tunebook.Yaml
