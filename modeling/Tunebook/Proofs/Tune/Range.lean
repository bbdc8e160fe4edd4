import Tunebook.Proofs.Runs
import Tunebook.Proofs.Stage
import Tunebook.Proofs.Text.Digits
import Tunebook.Tune.Check

/-!
# Complaints about the range

The check of tones complains in texts, and a text about a range begins as one about a length does.
They part behind the place of the note, where the digits end.

* `rangeComplaint_ne_lengthComplaint`: no text is both.
* `exists_rangeComplaint_iff`: **there is a complaint about the range exactly where a pitch is out
  of range.**
-/

namespace Tunebook

/-! ### Texts -/

/-- The complaint about a note number outside the range. -/
def rangeComplaint (place : Nat) (shown : String) : String :=
  "Note " ++ toString place ++ ": MIDI note " ++ shown ++ " out of range (0-127)"

def lengthComplaint (place : Nat) (shown : String) : String :=
  "Note " ++ toString place ++ ": invalid duration " ++ shown

theorem dropWhile_place (place : Nat) (behind : List Char) :
    ((toString place).toList ++ ':' :: behind).dropWhile Char.isDigit = ':' :: behind := by
  have hdigits : ∀ c ∈ (toString place).toList, c.isDigit = true := by
    intro c hc
    rw [Nat.toString_eq_repr, Nat.toList_repr] at hc
    exact isDigit_of_mem_toDigits hc
  rw [dropWhile_append_stop (by decide), List.dropWhile_eq_nil_iff.2 hdigits, List.nil_append]

theorem rangeComplaint_ne_lengthComplaint (i j : Nat) (s t : String) :
    rangeComplaint i s ≠ lengthComplaint j t := by
  intro h
  have hchars := congrArg String.toList h
  have hrange : ": MIDI note ".toList = ':' :: " MIDI note ".toList := by decide
  have hlength : ": invalid duration ".toList = ':' :: " invalid duration ".toList := by decide
  simp only [rangeComplaint, lengthComplaint, String.toList_append, List.append_assoc, hrange,
    hlength, List.cons_append, List.append_cancel_left_eq] at hchars
  have hbehind := congrArg (List.dropWhile Char.isDigit) hchars
  rw [dropWhile_place, dropWhile_place] at hbehind
  cases hbehind

/-! ### One tone -/

theorem pitchComplaints_eq_ok {place : Nat} {pitch : Int} {complaints : List String}
    (h : pitchComplaints place (.int pitch) = .ok complaints) :
    (0 ≤ pitch ∧ pitch ≤ 127 ∧ complaints = []) ∨
      ((pitch < 0 ∨ 127 < pitch) ∧ ∃ shown, complaints = [rangeComplaint place shown]) := by
  obtain ⟨x, hx, h⟩ := bind_eq_ok.1 h
  cases hx
  split at h
  · next hout =>
    obtain ⟨shown, _, h⟩ := bind_eq_ok.1 h
    cases h
    rw [Bool.or_eq_true, Number.isBelow, Number.isAbove, decide_eq_true_eq, decide_eq_true_eq]
      at hout
    exact .inr ⟨hout, shown, rfl⟩
  · next hin =>
    cases h
    rw [Bool.or_eq_true, Number.isBelow, Number.isAbove, decide_eq_true_eq, decide_eq_true_eq,
      greatestPitch] at hin
    exact .inl ⟨by omega, by omega, rfl⟩

theorem lengthComplaints_eq_ok {place : Nat} {v : Value} {complaints : List String}
    (h : lengthComplaints place v = .ok complaints) :
    complaints = [] ∨ ∃ shown, complaints = [lengthComplaint place shown] := by
  obtain ⟨x, _, h⟩ := bind_eq_ok.1 h
  split at h
  · obtain ⟨shown, _, h⟩ := bind_eq_ok.1 h
    cases h
    exact .inr ⟨shown, rfl⟩
  · cases h
    exact .inl rfl

/-! ### All tones -/

/-- A tone whose pitch is an integer and whose length is a number. -/
def Tone.ofNumbers (n : Int × Number) : Tone := ⟨.int n.1, n.2.toValue⟩

/-- **There is a complaint about the range exactly where a pitch is out of range.** -/
theorem exists_rangeComplaint_iff {notes : List (Int × Number)} {first : Nat}
    {complaints : List String}
    (h : tonesComplaints first (notes.map Tone.ofNumbers) = .ok complaints) :
    (∃ place shown, rangeComplaint place shown ∈ complaints) ↔
      ∃ n ∈ notes, n.1 < 0 ∨ 127 < n.1 := by
  induction notes generalizing first complaints with
  | nil =>
    cases h
    constructor
    · rintro ⟨_, _, h⟩
      cases h
    · rintro ⟨_, h, _⟩
      cases h
  | cons n rest ih =>
    obtain ⟨outside, houtside, h⟩ := bind_eq_ok.1 h
    obtain ⟨short, hshort, h⟩ := bind_eq_ok.1 h
    obtain ⟨more, hmore, h⟩ := bind_eq_ok.1 h
    cases h
    have hlength : ∀ place shown, rangeComplaint place shown ∉ short := by
      intro place shown hmem
      rcases lengthComplaints_eq_ok hshort with rfl | ⟨shown', rfl⟩
      · cases hmem
      · exact rangeComplaint_ne_lengthComplaint _ _ _ _ (List.mem_singleton.1 hmem)
    have hsplit : (∃ place shown, rangeComplaint place shown ∈ outside ++ short ++ more) ↔
        (∃ place shown, rangeComplaint place shown ∈ outside) ∨
          ∃ place shown, rangeComplaint place shown ∈ more := by
      simp only [List.mem_append, hlength, or_false, exists_or]
    rw [hsplit, ih hmore, List.exists_mem_cons_iff]
    refine or_congr ?_ Iff.rfl
    rcases pitchComplaints_eq_ok houtside with ⟨h0, h127, rfl⟩ | ⟨hout, shown, rfl⟩
    · constructor
      · rintro ⟨_, _, h⟩
        cases h
      · intro h
        omega
    · exact ⟨fun _ => hout, fun _ => ⟨first, shown, List.mem_singleton_self _⟩⟩

end Tunebook
