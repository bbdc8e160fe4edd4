import Tunebook.FileTree.Basic
import Tunebook.Proofs.Stage

/-!
# Looking for a file and reading it

Whether something stands where a path leads is asked before a file is read.  The question has an answer
for every path but one that is too long, and what does not stand there cannot be read.

* `Site.seek_eq_some_iff`, `Site.seek_of_readText`: what is found where something stands.
* `Site.seek_eq_error_iff`: **only a path that is too long lets the question fail.**
* `Site.readText_eq_error_iff`: **what stands somewhere cannot be read where it is a directory, or no
  text.**
-/

namespace Tunebook

namespace Site

variable {s : Site} {p : Path} {f : Fault} {e : Entry} {text : List Char}

theorem seek_eq_some_iff : s.seek p = .ok (some e) ↔ s.entry p = .ok e := by
  rw [seek]
  cases s.entry p with
  | ok e' => simp only [Except.ok.injEq, Option.some.injEq]
  | error f =>
    constructor
    · intro h
      split at h
      · next he => cases he
      · cases h
      · cases h
    · intro h
      cases h

theorem seek_of_readText (h : s.readText p = .ok text) : ∃ e, s.seek p = .ok (some e) := by
  obtain ⟨content, h, _⟩ := bind_eq_ok.1 h
  obtain ⟨e, h, _⟩ := bind_eq_ok.1 h
  rw [seek, h]
  exact ⟨e, rfl⟩

theorem entry_eq_error_of_locate (h : s.locate p = .error f) : s.entry p = .error f := by
  rw [entry, h]
  rfl

theorem shown_of_locate_eq_error {why : Refusal} {shown : String}
    (h : s.locate p = .error (.refused why shown)) : shown = quoted p.text := by
  have habout : ∀ x : Except Refusal Place, about p x = .error (.refused why shown) →
      shown = quoted p.text := by
    intro x hx
    cases x with
    | ok place => cases hx
    | error why' =>
      cases hx
      rfl
  rw [locate] at h
  split at h
  · cases h
  · split at h
    · exact habout _ h
    · exact habout _ h

/-- **Looking for a file fails only where its path is too long to be followed.** -/
theorem seek_eq_error_iff : s.seek p = .error f ↔
    f = .refused .nameTooLong (quoted p.text) ∧ s.locate p = .error f := by
  constructor
  · intro h
    rw [seek] at h
    split at h
    · cases h
    · next shown he =>
      cases h
      rcases bind_eq_error.1 he with hl | ⟨place, _, he⟩
      · obtain rfl := shown_of_locate_eq_error hl
        exact ⟨rfl, hl⟩
      · split at he
        · cases he
        · cases he
    · cases h
  · rintro ⟨rfl, hl⟩
    rw [seek, entry_eq_error_of_locate hl]

/-- **What stands somewhere cannot be read as a text where it is a directory, or a file that is none.** -/
theorem readText_eq_error_iff (h : s.seek p = .ok (some e)) : s.readText p = .error f ↔
    e = .directory ∧ f = .refused .isDirectory (quoted p.text) ∨
      ∃ content, e = .file content ∧ decodeText content = .error f := by
  rw [seek_eq_some_iff] at h
  rw [readText, read, h, ok_bind]
  cases e with
  | directory =>
    constructor
    · intro h
      cases h
      exact .inl ⟨rfl, rfl⟩
    · rintro (⟨_, rfl⟩ | ⟨content, he, _⟩)
      · rfl
      · cases he
  | file content =>
    rw [ok_bind]
    constructor
    · intro h
      rcases bind_eq_error.1 h with h | ⟨_, _, h⟩
      · exact .inr ⟨content, rfl, h⟩
      · cases h
    · rintro (⟨he, _⟩ | ⟨content', he, h⟩)
      · cases he
      · cases he
        exact bind_eq_error.2 (.inl h)

end Site

end Tunebook
