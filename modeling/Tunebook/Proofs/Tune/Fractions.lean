import Tunebook.Proofs.Tune.Numbers

/-!
# Tempo fields

A tempo field is searched for a fraction with an equals sign and a number behind it.  Where there is
none, the field is read like a number field: what counts is the number that it begins with, whatever
stands behind it.  So a field that is a number states that number, and a field that begins with no
number states the usual tempo; but a field that begins with a number and goes on states that number too,
which may be the numerator of a fraction that was written otherwise.

* `HoldsFraction`, `fractionTempo?_eq_none_iff`: **the search finds a fraction wherever there is one.**
* `plainNumber?`: the number that a whole field is.
* `tempoOf_without_fraction`: **the tempo of a field without a fraction**, and where it is not the usual
  one although the field is no number.
* `leading_number_misread`: a number with a word behind it.
-/

namespace Tunebook

/-! ### Numbers in digits -/

/-- A number in decimal digits. -/
def IsNumeral (ds : List Char) : Prop := ds ≠ [] ∧ ∀ d ∈ ds, isDecimalDigit d = true

theorem takeDigits?_eq_some_iff {cs ds rest : List Char} : takeDigits? cs = some (ds, rest) ↔
    IsNumeral ds ∧ (∀ c ∈ rest.head?, isDecimalDigit c = false) ∧ cs = ds ++ rest := by
  rw [takeDigits?]
  constructor
  · intro h
    split at h
    · cases h
    · next d more hrun =>
      cases h
      refine ⟨⟨List.cons_ne_nil _ _, fun c hc => ?_⟩, fun c hc => ?_, ?_⟩
      · rw [← hrun] at hc
        exact List.mem_takeWhile_imp hc
      · have hany := head?_dropWhile_any isDecimalDigit cs
        rwa [Option.mem_def.1 hc] at hany
      · rw [← hrun, List.takeWhile_append_dropWhile]
  · rintro ⟨⟨hne, hdigits⟩, hrest, rfl⟩
    obtain ⟨htake, hdrop⟩ := takeWhile_dropWhile_run hdigits hrest
    rw [htake, hdrop]
    cases ds with
    | nil => exact absurd rfl hne
    | cons d more => rfl

/-! ### The search for a fraction -/

/-- A text holds a fraction with an equals sign and a number behind it. -/
def HoldsFraction (value : List Char) : Prop :=
  ∃ pre a b n post, IsNumeral a ∧ IsNumeral b ∧ IsNumeral n ∧
    value = pre ++ (a ++ '/' :: (b ++ '=' :: (n ++ post)))

/-- **A fraction at the start of a text**: the digits behind it are taken as far as they go. -/
theorem fractionAt?_eq_some_iff {cs n : List Char} : fractionAt? cs = some n ↔
    ∃ a b post, IsNumeral a ∧ IsNumeral b ∧ IsNumeral n ∧
      (∀ c ∈ post.head?, isDecimalDigit c = false) ∧
      cs = a ++ '/' :: (b ++ '=' :: (n ++ post)) := by
  have hslash : ∀ rest : List Char, ∀ c ∈ ('/' :: rest).head?, isDecimalDigit c = false := by
    rintro rest c ⟨⟩
    decide
  have hequals : ∀ rest : List Char, ∀ c ∈ ('=' :: rest).head?, isDecimalDigit c = false := by
    rintro rest c ⟨⟩
    decide
  constructor
  · intro h
    rw [fractionAt?] at h
    split at h
    · next a rest hfirst =>
      obtain ⟨ha, _, rfl⟩ := takeDigits?_eq_some_iff.1 hfirst
      split at h
      · next b more hsecond =>
        obtain ⟨hb, _, rfl⟩ := takeDigits?_eq_some_iff.1 hsecond
        obtain ⟨⟨m, post⟩, hthird, rfl⟩ := Option.map_eq_some_iff.1 h
        obtain ⟨hm, hpost, rfl⟩ := takeDigits?_eq_some_iff.1 hthird
        exact ⟨a, b, post, ha, hb, hm, hpost, rfl⟩
      · cases h
    · cases h
  · rintro ⟨a, b, post, ha, hb, hn, hpost, rfl⟩
    have hfirst := takeDigits?_eq_some_iff.2 ⟨ha, hslash (b ++ '=' :: (n ++ post)), rfl⟩
    have hsecond := takeDigits?_eq_some_iff.2 ⟨hb, hequals (n ++ post), rfl⟩
    have hthird := takeDigits?_eq_some_iff.2 ⟨hn, hpost, rfl⟩
    simp only [fractionAt?, hfirst, hsecond, hthird, Option.map_some]

theorem exists_fractionAt? {a b n : List Char} (ha : IsNumeral a) (hb : IsNumeral b)
    (hn : IsNumeral n) (post : List Char) :
    ∃ m, fractionAt? (a ++ '/' :: (b ++ '=' :: (n ++ post))) = some m := by
  refine ⟨n ++ post.takeWhile isDecimalDigit, fractionAt?_eq_some_iff.2
    ⟨a, b, post.dropWhile isDecimalDigit, ha, hb, ⟨?_, fun d hd => ?_⟩, fun c hc => ?_, ?_⟩⟩
  · exact List.append_ne_nil_of_left_ne_nil hn.1 _
  · obtain hd | hd := List.mem_append.1 hd
    · exact hn.2 d hd
    · exact List.mem_takeWhile_imp hd
  · have hany := head?_dropWhile_any isDecimalDigit post
    rwa [Option.mem_def.1 hc] at hany
  · rw [List.append_assoc, List.takeWhile_append_dropWhile]

theorem holdsFraction_of_fractionTempo? {value n : List Char} (h : fractionTempo? value = some n) :
    HoldsFraction value := by
  induction value with
  | nil => cases h
  | cons c rest ih =>
    rw [fractionTempo?] at h
    split at h
    · next m hm =>
      obtain ⟨a, b, post, ha, hb, hn, _, hcs⟩ := fractionAt?_eq_some_iff.1 hm
      exact ⟨[], a, b, m, post, ha, hb, hn, hcs⟩
    · obtain ⟨pre, a, b, n, post, ha, hb, hn, rfl⟩ := ih h
      exact ⟨c :: pre, a, b, n, post, ha, hb, hn, rfl⟩

/-- **The search finds a fraction wherever there is one.** -/
theorem fractionTempo?_eq_none_iff {value : List Char} :
    fractionTempo? value = none ↔ ¬ HoldsFraction value := by
  constructor
  · rintro h ⟨pre, a, b, n, post, ha, hb, hn, rfl⟩
    obtain ⟨m, hm⟩ := exists_fractionAt? ha hb hn post
    induction pre with
    | nil =>
      cases a with
      | nil => exact ha.1 rfl
      | cons d more =>
        rw [List.nil_append, List.cons_append, fractionTempo?, ← List.cons_append, hm] at h
        cases h
    | cons c pre ih =>
      rw [List.cons_append, fractionTempo?] at h
      split at h
      · cases h
      · exact ih h
  · intro h
    cases hsearch : fractionTempo? value with
    | none => rfl
    | some n => exact absurd (holdsFraction_of_fractionTempo? hsearch) h

/-! ### Fields without a fraction -/

/-- The number with the digits that a text begins with, after its sign. -/
def leadingNumber (value : List Char) : Int :=
  if hasMinus value then -(decimalValue (leadingDigits value) : Int)
  else decimalValue (leadingDigits value)

/-- The number that a whole field is, apart from blanks around it, if it can be read. -/
def plainNumber? (value : List Char) : Option Int :=
  let digits := unsigned (strip value)
  if digits ≠ [] ∧ digits.all isDecimalDigit ∧ digits.length ≤ digitLimit then
    some (if hasMinus value then -(decimalValue digits : Int) else decimalValue digits)
  else none

theorem dropWhile_isBlank_strip (cs : List Char) : (strip cs).dropWhile isBlank = strip cs := by
  cases h : strip cs with
  | nil => rfl
  | cons c rest =>
    have hc := head?_trimmed isBlank cs c
    rw [← strip_eq_trimmed, h] at hc
    exact List.dropWhile_cons_of_neg (by rw [hc rfl]; exact Bool.false_ne_true)

theorem leadingDigits_of_plain {value : List Char}
    (h : (unsigned (strip value)).all isDecimalDigit = true) :
    leadingDigits value = unsigned (strip value) := by
  rw [← leadingDigits_strip, leadingDigits, dropWhile_isBlank_strip]
  exact List.takeWhile_eq_self_iff.2 (List.all_eq_true.1 h)

theorem leadingNumber_of_plain {value : List Char} {n : Int} (h : plainNumber? value = some n) :
    leadingDigits value ≠ [] ∧ (leadingDigits value).length ≤ digitLimit ∧ leadingNumber value = n := by
  rw [plainNumber?, Option.ite_none_right_eq_some] at h
  obtain ⟨⟨hne, hall, hshort⟩, hn⟩ := h
  rw [leadingNumber, leadingDigits_of_plain hall]
  exact ⟨hne, hshort, Option.some.inj hn⟩

theorem tempoOf_eq {value : List Char} (h : ¬ HoldsFraction value) : tempoOf value =
    if leadingDigits value = [] then .ok usualTempo
    else if digitLimit < (leadingDigits value).length then
      .error (.tooManyDigits (leadingDigits value).length)
    else .ok (leadingNumber value) := by
  rw [tempoOf, fractionTempo?_eq_none_iff.2 h]
  dsimp only
  rw [leadingInteger_eq]
  split
  · rfl
  · rw [readDigits]
    split
    · rfl
    · rfl

/-- **The tempo of a field without a fraction.**  It is the usual one where the field begins with no
number, and else the number that it begins with, unless that has too many digits.  So a field that is
a number states that number, and one that is none states the usual tempo only if it begins with no
number, or with that of the usual tempo. -/
theorem tempoOf_without_fraction {value : List Char} (h : ¬ HoldsFraction value) :
    (leadingDigits value = [] → tempoOf value = .ok 120) ∧
    (leadingDigits value ≠ [] → (leadingDigits value).length ≤ digitLimit →
      tempoOf value = .ok (leadingNumber value)) ∧
    (digitLimit < (leadingDigits value).length →
      tempoOf value = .error (.tooManyDigits (leadingDigits value).length)) ∧
    (∀ n, plainNumber? value = some n → tempoOf value = .ok n) ∧
    (plainNumber? value = none → (tempoOf value = .ok 120 ↔ leadingDigits value = [] ∨
      (leadingDigits value).length ≤ digitLimit ∧ leadingNumber value = 120)) := by
  have hnone : leadingDigits value = [] → tempoOf value = .ok 120 := by
    intro he
    rw [tempoOf_eq h, if_pos he]
    rfl
  have hnumber : leadingDigits value ≠ [] → (leadingDigits value).length ≤ digitLimit →
      tempoOf value = .ok (leadingNumber value) := by
    intro hne hshort
    rw [tempoOf_eq h, if_neg hne, if_neg (Nat.not_lt.2 hshort)]
  have hlong : digitLimit < (leadingDigits value).length →
      tempoOf value = .error (.tooManyDigits (leadingDigits value).length) := by
    intro hlong
    have hne : leadingDigits value ≠ [] := List.ne_nil_of_length_pos (Nat.zero_lt_of_lt hlong)
    rw [tempoOf_eq h, if_neg hne, if_pos hlong]
  refine ⟨hnone, hnumber, hlong, ?_, fun _ => ⟨fun hvalue => ?_, ?_⟩⟩
  · intro n hn
    obtain ⟨hne, hshort, rfl⟩ := leadingNumber_of_plain hn
    exact hnumber hne hshort
  · by_cases hne : leadingDigits value = []
    · exact .inl hne
    · by_cases hshort : (leadingDigits value).length ≤ digitLimit
      · rw [hnumber hne hshort] at hvalue
        exact .inr ⟨hshort, Except.ok.inj hvalue⟩
      · rw [hlong (Nat.not_le.1 hshort)] at hvalue
        cases hvalue
  · rintro (he | ⟨hshort, hn⟩)
    · exact hnone he
    · by_cases hne : leadingDigits value = []
      · exact hnone hne
      · rw [hnumber hne hshort, hn]

/-- A fraction with blanks around its equals sign is read as a tempo of one. -/
theorem tempoOf_without_fraction_blanks :
    ¬ HoldsFraction "1/4 = 120".toList ∧ tempoOf "1/4 = 120".toList = .ok 1 := by
  have hno : ¬ HoldsFraction "1/4 = 120".toList :=
    fractionTempo?_eq_none_iff.1 (by decide +kernel)
  refine ⟨hno, ((tempoOf_without_fraction hno).2.1 (by decide +kernel) (by decide +kernel)).trans ?_⟩
  decide +kernel

/-- **A field that is no number may still be read as one.** -/
theorem leading_number_misread : ¬ ∀ value : List Char, ¬ HoldsFraction value →
    tempoOf value = .ok ((plainNumber? value).getD 120) := by
  intro h
  have hno : ¬ HoldsFraction "90 bpm".toList := fractionTempo?_eq_none_iff.1 (by decide +kernel)
  have hread : tempoOf "90 bpm".toList = .ok 90 := by decide +kernel
  have hplain : (plainNumber? "90 bpm".toList).getD 120 = 120 := by decide +kernel
  have htempo := h _ hno
  rw [hread, hplain] at htempo
  cases htempo

end Tunebook
