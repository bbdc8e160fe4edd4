import Tunebook.Text.Integer

/-!
# Integers read back

An integer that was written is read as itself: the digits that it is written with are
digits of the reader's first script, and both count them from the highest.

* `decimalValue_toDigits`: the digits of a number have its value.
* `readDigits_lt`, `length_toDigits_le`: a number that is read can be written again.
* `writeInteger_eq_ok`, `writeInteger_eq_error_iff`: an integer is written as its sign and
  its digits, and only one with more than 4300 digits is not.
-/

namespace Tunebook

theorem digitValue?_of_isDigit {c : Char} (h : c.isDigit = true) :
    digitValue? c = some (c.toNat - '0'.toNat) := by
  obtain ⟨h₁, h₂⟩ := Char.isDigit_iff_toNat.1 h
  have e₁ : '0'.toNat = 0x30 := rfl
  have e₂ : '9'.toNat = 0x39 := rfl
  rw [digitValue?, if_pos (by omega), if_pos (by omega), e₁]

theorem isDecimalDigit_of_isDigit {c : Char} (h : c.isDigit = true) : isDecimalDigit c = true := by
  rw [isDecimalDigit, digitValue?_of_isDigit h]
  rfl

theorem isDigit_of_mem_toDigits {c : Char} {n : Nat} (h : c ∈ Nat.toDigits 10 n) :
    c.isDigit = true :=
  Nat.isDigit_of_mem_toDigits (by decide) (by decide) h

theorem foldl_digitValue? {digits : List Char} (h : ∀ c ∈ digits, c.isDigit = true) (total : Nat) :
    (digits.filterMap digitValue?).foldl (fun total d => 10 * total + d) total
      = Nat.ofDigitChars 10 digits total := by
  induction digits generalizing total with
  | nil => rfl
  | cons c rest ih =>
    have hc := digitValue?_of_isDigit (h c List.mem_cons_self)
    have hrest := fun d hd => h d (List.mem_cons_of_mem c hd)
    rw [List.filterMap_cons_some hc, List.foldl_cons, ih hrest, Nat.ofDigitChars_cons]

/-- **The digits of a number have its value.** -/
theorem decimalValue_toDigits (n : Nat) : decimalValue (Nat.toDigits 10 n) = n := by
  rw [decimalValue, positionalValue, foldl_digitValue? fun _ => isDigit_of_mem_toDigits,
    Nat.ofDigitChars_ten_toDigits]

theorem readDigits_toDigits {n : Nat} (h : (Nat.toDigits 10 n).length ≤ digitLimit) :
    readDigits (Nat.toDigits 10 n) = .ok n := by
  rw [readDigits, if_neg (by omega), decimalValue_toDigits]

theorem readDigits_eq_ok {digits : List Char} {n : Nat} (h : readDigits digits = .ok n) :
    n = decimalValue digits := by
  rw [readDigits] at h
  split at h
  · cases h
  · cases h
    rfl

/-! ### How great numbers get -/

theorem foldl_digits_lt {ds : List Nat} (h : ∀ d ∈ ds, d < 10) (total : Nat) :
    ds.foldl (fun total d => 10 * total + d) total < (total + 1) * Nat.pow 10 ds.length := by
  induction ds generalizing total with
  | nil =>
    show total < (total + 1) * 1
    omega
  | cons d rest ih =>
    have hd := h d List.mem_cons_self
    have hrest := ih (fun x hx => h x (List.mem_cons_of_mem d hx)) (10 * total + d)
    have hpow : Nat.pow 10 (rest.length + 1) = 10 * Nat.pow 10 rest.length := by
      rw [Nat.pow_eq, Nat.pow_succ, Nat.mul_comm, Nat.pow_eq]
    rw [List.foldl_cons, List.length_cons, hpow, ← Nat.mul_assoc]
    refine Nat.lt_of_lt_of_le hrest (Nat.mul_le_mul_right _ ?_)
    omega

theorem pow_ten_le {k l : Nat} (h : k ≤ l) : Nat.pow 10 k ≤ Nat.pow 10 l :=
  Nat.pow_le_pow_right (by decide) h

theorem filterMap_digitValue?_lt {digits : List Char} {d : Nat}
    (h : d ∈ digits.filterMap digitValue?) : d < 10 := by
  obtain ⟨c, _, hc⟩ := List.mem_filterMap.1 h
  exact digitValue?_lt hc

theorem decimalValue_lt (digits : List Char) :
    decimalValue digits < Nat.pow 10 digits.length := by
  have hlt := foldl_digits_lt (fun _ => @filterMap_digitValue?_lt digits _) 0
  rw [Nat.zero_add, Nat.one_mul] at hlt
  exact Nat.lt_of_lt_of_le hlt (pow_ten_le (List.length_filterMap_le digitValue? digits))

theorem readDigits_lt {digits : List Char} {n : Nat} (h : readDigits digits = .ok n) :
    n < Nat.pow 10 digitLimit := by
  have hn := readDigits_eq_ok h
  rw [readDigits] at h
  split at h
  · cases h
  · next hl =>
    rw [hn]
    exact Nat.lt_of_lt_of_le (decimalValue_lt digits) (pow_ten_le (Nat.not_lt.1 hl))

theorem length_toDigits_le {n : Nat} (h : n < Nat.pow 10 digitLimit) :
    (Nat.toDigits 10 n).length ≤ digitLimit := by
  have hlimit : 0 < digitLimit := by decide
  generalize digitLimit = k at h hlimit ⊢
  exact (Nat.length_toDigits_le_iff (by decide) hlimit).2 h

/-! ### What is written -/

theorem writeInteger_eq_ok {n : Int} {s : String} (h : writeInteger n = .ok s) :
    (Nat.toDigits 10 n.natAbs).length ≤ digitLimit ∧
      s.toList = if n < 0 then '-' :: Nat.toDigits 10 n.natAbs else Nat.toDigits 10 n.natAbs := by
  rw [writeInteger] at h
  split at h
  · cases h
  · next hl =>
    cases h
    exact ⟨by omega, String.toList_ofList⟩

theorem pow_le_of_length_toDigits {k n : Nat} (hk : 0 < k) (h : k < (Nat.toDigits 10 n).length) :
    Nat.pow 10 k ≤ n := by
  refine Nat.not_lt.1 fun hlt => ?_
  have hle := (Nat.length_toDigits_le_iff (by decide) hk).2 hlt
  omega

theorem writeInteger_eq_error {n : Int} {f : Fault} (h : writeInteger n = .error f) :
    Nat.pow 10 digitLimit ≤ n.natAbs := by
  rw [writeInteger] at h
  split at h
  · next hl => exact pow_le_of_length_toDigits (by decide) hl
  · cases h

/-- **An integer is not written exactly where it has more than 4300 digits.** -/
theorem writeInteger_eq_error_iff {n : Int} {f : Fault} :
    writeInteger n = .error f ↔ ¬ n.natAbs < Nat.pow 10 digitLimit ∧ f = .tooLongToWrite := by
  constructor
  · intro h
    refine ⟨Nat.not_lt.2 (writeInteger_eq_error h), ?_⟩
    rw [writeInteger] at h
    split at h
    · cases h
      rfl
    · cases h
  · rintro ⟨hgreat, rfl⟩
    refine if_pos (Nat.not_le.1 fun hshort => hgreat ?_)
    have hlimit : 0 < digitLimit := by decide
    generalize digitLimit = k at hlimit hshort ⊢
    exact (Nat.length_toDigits_le_iff (by decide) hlimit).1 hshort

theorem le_pow_ten {k : Nat} (hk : 3 ≤ k) : 128 ≤ Nat.pow 10 k :=
  calc
    128 ≤ Nat.pow 10 3 := by decide
    _ ≤ Nat.pow 10 k := pow_ten_le hk

theorem writeInteger_ok {n : Int} (h : n.natAbs < 128) : ∃ s, writeInteger n = .ok s := by
  cases hn : writeInteger n with
  | ok s => exact ⟨s, rfl⟩
  | error f =>
    have hlimit : 3 ≤ digitLimit := by decide
    have hten := Nat.le_trans (le_pow_ten hlimit) (writeInteger_eq_error hn)
    omega

end Tunebook
