import Mathlib.Data.List.TakeWhile
import Tunebook.Pitch
import Tunebook.Proofs.Runs
import Tunebook.Proofs.Stage
import Tunebook.Proofs.Text.Digits

/-!
# Pitch names read back

A note number is written as the name of its degree and its octave and read as both.
No degree's name reaches into the octave: an octave begins with a digit or a minus sign,
never with a sharp.

* `splitPitchName?_name`: a pitch name falls apart where it was put together.
* `pitchOfName_pitchName`: **the detour over a name changes no note number.**
* `pitchName_eq_error_iff`: which note numbers have no name.
-/

namespace Tunebook

def octaveText (negative : Bool) (digits : List Char) : List Char :=
  if negative then '-' :: digits else digits

theorem not_sharp_of_isDecimalDigit {c : Char} (h : isDecimalDigit c = true) : c ≠ '#' := by
  rintro rfl
  cases h

theorem not_minus_of_isDecimalDigit {c : Char} (h : isDecimalDigit c = true) : c ≠ '-' := by
  rintro rfl
  cases h

theorem degreeName_cases (degree : Fin 12) :
    let letter := (degreeName degree).toList.headD 'C'
    ('A' ≤ letter ∧ letter ≤ 'G') ∧
      ((degreeName degree).toList = [letter] ∨ (degreeName degree).toList = [letter, '#']) := by
  revert degree
  decide

/-- **A pitch name falls apart where it was put together**, whatever digits its octave has and whether or
not its line ends behind it. -/
theorem splitPitchName?_name (degree : Fin 12) (negative : Bool) {digits behind : List Char}
    (hd : ∀ c ∈ digits, isDecimalDigit c = true) (hne : digits ≠ [])
    (hbehind : behind = [] ∨ behind = ['\n']) :
    splitPitchName? ((degreeName degree).toList ++ (octaveText negative digits ++ behind))
      = some (degreeName degree, negative, digits) := by
  obtain ⟨hletter, hname⟩ := degreeName_cases degree
  have hend : ∀ c ∈ behind.head?, isDecimalDigit c = false := by
    rcases hbehind with rfl | rfl
    · simp
    · simp
      decide
  obtain ⟨ht, hr⟩ := takeWhile_dropWhile_run hd hend
  obtain ⟨d, more, rfl⟩ := List.exists_cons_of_ne_nil hne
  have hsharp := not_sharp_of_isDecimalDigit (hd d List.mem_cons_self)
  have hminus := not_minus_of_isDecimalDigit (hd d List.mem_cons_self)
  rw [List.cons_append] at ht hr
  generalize (degreeName degree).toList.headD 'C' = letter at hletter hname
  rcases hname with h | h
  · have e : String.ofList [letter] = degreeName degree := by rw [← h, String.ofList_toList]
    cases negative with
    | false => simp [h, octaveText, splitPitchName?, hletter, hsharp, hminus, ht, hr, e, hbehind]
    | true => simp [h, octaveText, splitPitchName?, hletter, ht, hr, e, hbehind]
  · have e : String.ofList [letter, '#'] = degreeName degree := by rw [← h, String.ofList_toList]
    cases negative with
    | false => simp [h, octaveText, splitPitchName?, hletter, hminus, ht, hr, e, hbehind]
    | true => simp [h, octaveText, splitPitchName?, hletter, ht, hr, e, hbehind]

/-- **The detour over a name changes no note number.** -/
theorem pitchOfName_pitchName {pitch : Int} {name : String} (h : pitchName pitch = .ok name) :
    pitchOfName name = .ok pitch := by
  obtain ⟨octave, ho, h⟩ := bind_eq_ok.1 h
  cases h
  obtain ⟨hlimit, hoctave⟩ := writeInteger_eq_ok ho
  rw [Int.fdiv_eq_ediv_of_nonneg pitch (by decide)] at hlimit hoctave
  rw [Int.fmod_eq_emod_of_nonneg pitch (by decide)]
  have hdegree : (pitch % 12).toNat < 12 := by omega
  have hsplit := splitPitchName?_name ⟨(pitch % 12).toNat, hdegree⟩ (decide (pitch / 12 - 1 < 0))
    (fun _ hc => isDecimalDigit_of_isDigit (isDigit_of_mem_toDigits hc))
    (Nat.toDigits_ne_nil (n := (pitch / 12 - 1).natAbs) (b := 10)) (.inl rfl)
  have hlist : (degreeName (pitch % 12).toNat ++ octave).toList
    = (degreeName (pitch % 12).toNat).toList
      ++ (octaveText (decide (pitch / 12 - 1 < 0)) (Nat.toDigits 10 (pitch / 12 - 1).natAbs)
        ++ []) := by
    rw [String.toList_append, hoctave, octaveText, List.append_nil]
    simp only [decide_eq_true_eq]
  have hvalue : (if decide (pitch / 12 - 1 < 0) = true then -((pitch / 12 - 1).natAbs : Int)
      else (pitch / 12 - 1).natAbs) = pitch / 12 - 1 := by
    simp only [decide_eq_true_eq]
    omega
  rw [pitchOfName, hlist, hsplit]
  simp only [readDigits_toDigits hlimit, degreeIndex?_degreeName ⟨(pitch % 12).toNat, hdegree⟩,
    bind, Except.bind, hvalue]
  congr 1
  omega

/-- The octave of a note number has no more digits than can be written. -/
def Nameable (pitch : Int) : Prop := (pitch.fdiv 12 - 1).natAbs < Nat.pow 10 digitLimit

/-- **A note number has no name exactly where its octave has too many digits.** -/
theorem pitchName_eq_error_iff {pitch : Int} {f : Fault} :
    pitchName pitch = .error f ↔ ¬ Nameable pitch ∧ f = .tooLongToWrite := by
  rw [pitchName, bind_ok_eq_error, writeInteger_eq_error_iff, Nameable]

end Tunebook
