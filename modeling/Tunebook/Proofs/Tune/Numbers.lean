import Tunebook.Proofs.Stage
import Tunebook.Proofs.Text.Digits
import Tunebook.Proofs.Tune.Scan

/-!
# Numbers in fields

A number field and a tempo field are read for the integer that they begin with.  It is read off a
run of digits behind blanks and a sign, and nothing else of the field matters to it.

* `leadingInteger_eq`: the integer, from its digits; `leadingDigits_strip`: blanks do not matter.
* `leadingInteger_ok_iff`: only a number with too many digits cannot be read.
* `leadingInteger_lt`, `tempoOf_lt`: a number that is read can be written.
-/

namespace Tunebook

def unsigned : List Char → List Char
  | [] => []
  | c :: rest => if c = '-' ∨ c = '+' then rest else c :: rest

/-- The digits of the integer that a text begins with, after blanks and a sign. -/
def leadingDigits (cs : List Char) : List Char :=
  (unsigned (cs.dropWhile isBlank)).takeWhile isDecimalDigit

def hasMinus (cs : List Char) : Bool := (cs.dropWhile isBlank).head? == some '-'

theorem unsigned_append {cs : List Char} (hne : cs ≠ []) (behind : List Char) :
    unsigned (cs ++ behind) = unsigned cs ++ behind := by
  cases cs with
  | nil => exact absurd rfl hne
  | cons c rest =>
    rw [List.cons_append, unsigned, unsigned]
    split <;> rfl

/-- Blanks around a text do not matter to the number that it begins with. -/
theorem leadingDigits_strip (cs : List Char) : leadingDigits (strip cs) = leadingDigits cs := by
  refine strip_invariant leadingDigits ?_ ?_ cs
  · intro c cs h
    rw [leadingDigits, leadingDigits, List.dropWhile_cons_of_pos h]
  · intro c cs h
    have hc := isDecimalDigit_of_isBlank h
    rw [leadingDigits, leadingDigits, List.dropWhile_append]
    split
    · next hnone =>
      rw [List.isEmpty_iff.1 hnone, List.dropWhile_cons_of_pos h, List.dropWhile_nil]
    · next hsome =>
      rw [unsigned_append fun hnil => hsome (List.isEmpty_iff.2 hnil), takeWhile_append_stop hc]

/-- **An integer is read off its digits, with its sign.** -/
theorem leadingInteger_eq (cs : List Char) : leadingInteger cs =
    if leadingDigits cs = [] then .ok none
    else readDigits (leadingDigits cs) >>= fun n =>
      .ok (some (if hasMinus cs then -(n : Int) else n)) := by
  unfold leadingInteger leadingDigits hasMinus
  generalize cs.dropWhile isBlank = body
  split
  next negative digits hsign =>
    have hparts : negative = (body.head? == some '-') ∧ digits = unsigned body := by
      split at hsign
      · cases hsign
        exact ⟨rfl, by rw [unsigned, if_pos (.inl rfl)]⟩
      · cases hsign
        exact ⟨rfl, by rw [unsigned, if_pos (.inr rfl)]⟩
      · next hminus hplus =>
        cases hsign
        cases body with
        | nil => exact ⟨rfl, rfl⟩
        | cons c rest =>
          have hm : c ≠ '-' := fun e => hminus rest (by rw [e])
          have hp : c ≠ '+' := fun e => hplus rest (by rw [e])
          exact ⟨by simp [hm], by rw [unsigned, if_neg (not_or.2 ⟨hm, hp⟩)]⟩
    obtain ⟨rfl, rfl⟩ := hparts
    rw [takeDigits?]
    cases (unsigned body).takeWhile isDecimalDigit with
    | nil => rfl
    | cons d more => rfl

/-- **The integer that a text begins with can be read unless it has too many digits.** -/
theorem leadingInteger_ok_iff (cs : List Char) :
    (∃ n, leadingInteger cs = .ok n) ↔ (leadingDigits cs).length ≤ digitLimit := by
  rw [leadingInteger_eq]
  by_cases hnone : leadingDigits cs = []
  · rw [if_pos hnone, hnone]
    exact ⟨fun _ => Nat.zero_le _, fun _ => ⟨none, rfl⟩⟩
  · rw [if_neg hnone, readDigits]
    by_cases hlong : digitLimit < (leadingDigits cs).length
    · rw [if_pos hlong]
      constructor
      · rintro ⟨n, h⟩
        cases h
      · intro hshort
        exact absurd hlong (Nat.not_lt.2 hshort)
    · rw [if_neg hlong]
      exact ⟨fun _ => Nat.not_lt.1 hlong, fun _ => ⟨_, rfl⟩⟩

theorem natAbs_signed (negative : Bool) (k : Nat) :
    (if negative then -(k : Int) else k).natAbs = k := by
  cases negative <;> simp

theorem natAbs_of_leadingInteger {cs : List Char} {n : Int} (h : leadingInteger cs = .ok (some n)) :
    n.natAbs = decimalValue (leadingDigits cs) := by
  rw [leadingInteger_eq] at h
  split at h
  · cases h
  · obtain ⟨k, hk, h⟩ := bind_eq_ok.1 h
    have hn := Option.some.inj (Except.ok.inj h)
    rw [← hn, natAbs_signed]
    exact readDigits_eq_ok hk

theorem leadingInteger_lt {cs : List Char} {n : Int} (h : leadingInteger cs = .ok (some n)) :
    n.natAbs < Nat.pow 10 digitLimit := by
  have hshort := (leadingInteger_ok_iff cs).1 ⟨_, h⟩
  rw [natAbs_of_leadingInteger h]
  exact Nat.lt_of_lt_of_le (decimalValue_lt _) (pow_ten_le hshort)

theorem usualTempo_lt : usualTempo.natAbs < Nat.pow 10 digitLimit := by
  have hlimit : 3 ≤ digitLimit := by decide
  exact Nat.lt_of_lt_of_le (by decide) (pow_ten_le hlimit)

/-- The tempo that a field states was read from as many digits as may be written. -/
theorem tempoOf_lt {value : List Char} {n : Int} (h : tempoOf value = .ok n) :
    n.natAbs < Nat.pow 10 digitLimit := by
  rw [tempoOf] at h
  split at h
  · obtain ⟨k, hk, h⟩ := bind_eq_ok.1 h
    have hn := Except.ok.inj h
    rw [← hn, Int.natAbs_natCast]
    exact readDigits_lt hk
  · obtain ⟨found, hfound, h⟩ := bind_eq_ok.1 h
    have hn := Except.ok.inj h
    cases found with
    | none =>
      rw [← hn]
      exact usualTempo_lt
    | some k =>
      rw [← hn]
      exact leadingInteger_lt hfound

end Tunebook
