import Tunebook.Proofs.Json.RoundTrip
import Tunebook.Proofs.Text.Digits

/-!
# Dynamic values as JSON

Null, flags, numbers, whole texts, lists and mappings with whole texts as keys have a JSON form,
nested to any depth; only integers may have too many digits for one.  The form is said here
outright, member by member.  A number in it is the text that the number has elsewhere, and
nothing has to be known about a double but which characters its text is made of.

* `Value.hasJson`, `Value.asJson`: the values that have a JSON form, and their form.
* `isNumberText_toString`, `isNumberText_literal`: the numbers of the form are texts of numbers.
* `Value.toJson_eq`: **what has a JSON form is written in it**, and it is valid.
-/

namespace Tunebook

/-! ### The form of a value -/

namespace Value

mutual

/-- Whether a value has a JSON form. -/
def hasJson : Value → Bool
  | null | flag _ | double _ | text _ => true
  | int n => decide ((Nat.toDigits 10 n.natAbs).length ≤ digitLimit)
  | list items => itemsHaveJson items
  | map entries => entriesHaveJson entries
  | _ => false

def itemsHaveJson : List Value → Bool
  | [] => true
  | v :: rest => hasJson v && itemsHaveJson rest

def entriesHaveJson : List (Value × Value) → Bool
  | [] => true
  | (text _, v) :: rest => hasJson v && entriesHaveJson rest
  | _ => false

end

def keyText : Value → String
  | text s => s
  | _ => ""

mutual

def asJson : Value → Json
  | null => .null
  | flag b => .flag b
  | int n => .ofInt n
  | double x => .number x.literal
  | text s => .text s
  | list items => .list (itemsAsJson items)
  | map entries => .object (entriesAsJson entries)
  | _ => .null

def itemsAsJson : List Value → List Json
  | [] => []
  | v :: rest => asJson v :: itemsAsJson rest

def entriesAsJson : List (Value × Value) → List (Wording × Json)
  | [] => []
  | (k, v) :: rest => (.whole (keyText k), asJson v) :: entriesAsJson rest

end

end Value

/-! ### Texts of integers -/

theorem toList_toString (n : Int) : (toString n).toList
    = if n < 0 then '-' :: Nat.toDigits 10 n.natAbs else Nat.toDigits 10 n.natAbs := by
  cases n with
  | ofNat k =>
    rw [if_neg (by simp)]
    exact String.toList_ofList
  | negSucc k =>
    rw [if_pos (Int.negSucc_lt_zero k)]
    show ("-" ++ String.ofList (Nat.toDigits 10 (k + 1))).toList = _
    rw [String.toList_append]
    show ['-'] ++ (String.ofList (Nat.toDigits 10 (k + 1))).toList = _
    rw [String.toList_ofList]
    rfl

theorem writeInteger_eq {n : Int} (h : (Nat.toDigits 10 n.natAbs).length ≤ digitLimit) :
    writeInteger n = .ok (toString n) := by
  rw [writeInteger]
  simp only [if_neg (Nat.not_lt.2 h), ← toList_toString, String.ofList_toList]

namespace Json

theorem isNumberChar_of_isDigit {c : Char} (h : c.isDigit = true) : isNumberChar c = true := by
  simp [isNumberChar, h]

theorem isNumberText_toString (n : Int) : IsNumberText (toString n) := by
  have hdigits : ∀ c ∈ Nat.toDigits 10 n.natAbs, isNumberChar c = true := fun c hc =>
    isNumberChar_of_isDigit (isDigit_of_mem_toDigits hc)
  right
  rw [toList_toString]
  split
  · refine ⟨by simp, ?_⟩
    intro c hc
    rcases List.mem_cons.1 hc with rfl | hc
    · decide
    · exact hdigits c hc
  · exact ⟨Nat.toDigits_ne_nil, hdigits⟩

end Json

/-! ### Texts of doubles -/

namespace Double

open Json (isNumberChar)

theorem isDigit_of_mem_ofFound (point : Int) (found : Option (Nat × Nat)) :
    ∀ c ∈ (Digits.ofFound point found).digits, c.isDigit = true := by
  intro c hc
  cases found with
  | none =>
    obtain rfl := List.mem_singleton.1 hc
    decide
  | some p =>
    have hmem : c ∈ (Nat.toDigits 10 p.1).reverse.dropWhile (· == '0') := List.mem_reverse.1 hc
    have hdigit := (List.dropWhile_sublist _).subset hmem
    exact isDigit_of_mem_toDigits (List.mem_reverse.1 hdigit)

theorem all_zeros (n : Nat) : (List.replicate n '0').all isNumberChar = true := by
  rw [List.all_eq_true]
  intro c hc
  rw [(List.mem_replicate.1 hc).2]
  decide

theorem all_padded (n : Nat) :
    (if (Nat.toDigits 10 n).length < 2 then '0' :: Nat.toDigits 10 n
      else Nat.toDigits 10 n).all isNumberChar = true := by
  have hzero : isNumberChar '0' = true := by decide
  have hdigits : (Nat.toDigits 10 n).all isNumberChar = true := by
    rw [List.all_eq_true]
    exact fun c hc => Json.isNumberChar_of_isDigit (isDigit_of_mem_toDigits hc)
  split
  · rw [List.all_cons, hzero, hdigits, Bool.and_self]
  · exact hdigits

theorem layout_chars {d : Digits} (h : ∀ c ∈ d.digits, isNumberChar c = true) :
    layout d ≠ [] ∧ ∀ c ∈ layout d, isNumberChar c = true := by
  have hzero : isNumberChar '0' = true := by decide
  have hpoint : isNumberChar '.' = true := by decide
  have hpower : isNumberChar 'e' = true := by decide
  have hsign : isNumberChar (if d.point - 1 < 0 then '-' else '+') = true := by
    split <;> decide
  have htake : ∀ c ∈ d.digits.take d.point.toNat, isNumberChar c = true :=
    fun c hc => h c (List.mem_of_mem_take hc)
  have hdrop : ∀ c ∈ d.digits.drop d.point.toNat, isNumberChar c = true :=
    fun c hc => h c (List.mem_of_mem_drop hc)
  simp only [← List.all_eq_true] at h htake hdrop ⊢
  rw [layout]
  split
  · split
    · refine ⟨by simp, ?_⟩
      simp only [List.cons_append, List.all_cons, List.all_append, hzero, hpoint, all_zeros, h,
        Bool.and_self]
    · split
      · refine ⟨by simp, ?_⟩
        simp only [List.all_cons, List.all_append, List.all_nil, hzero, hpoint, all_zeros, h,
          Bool.and_self]
      · refine ⟨by simp, ?_⟩
        simp only [List.all_cons, List.all_append, hpoint, htake, hdrop, Bool.and_self]
  · refine ⟨by simp, ?_⟩
    simp only [List.all_append, List.all_cons, hpower, hsign, all_padded, Bool.and_true]
    split
    · rfl
    · next c hd =>
      rw [hd] at h
      exact h
    · next c rest _ hd =>
      rw [hd, List.all_cons] at h
      rw [List.all_cons, List.all_cons, hpoint, Bool.true_and]
      exact h

theorem body_chars (m : Nat) (e : Int) :
    let body := if m = 0 then ['0', '.', '0']
      else layout (shortest (finite false m e) (m * Nat.pow 2 e.toNat) (Nat.pow 2 (-e).toNat))
    body ≠ [] ∧ ∀ c ∈ body, isNumberChar c = true := by
  dsimp only
  split
  · have hbody : ['0', '.', '0'].all isNumberChar = true := by decide
    exact ⟨by simp, List.all_eq_true.1 hbody⟩
  · refine layout_chars ?_
    intro c hc
    rw [shortest] at hc
    exact Json.isNumberChar_of_isDigit (isDigit_of_mem_ofFound _ _ c hc)

/-- **A double is written as the text of a number, or as one of the words.** -/
theorem isNumberText_literal (x : Double) : Json.IsNumberText x.literal := by
  cases x with
  | nan => exact .inl (by simp [literal])
  | infinite s => cases s <;> exact .inl (by simp [literal])
  | finite s m e =>
    obtain ⟨hne, hchars⟩ := body_chars m e
    have hliteral : (finite s m e).literal = (finite s m e).render := rfl
    right
    rw [hliteral, render, String.toList_ofList]
    split
    · refine ⟨by simp, ?_⟩
      intro c hc
      rcases List.mem_cons.1 hc with rfl | hc
      · decide
      · exact hchars c hc
    · exact ⟨hne, hchars⟩

end Double

/-! ### Writing the form of a value -/

namespace Value

mutual

/-- **A value that has a JSON form is written in it.** -/
theorem toJson_eq : ∀ {v : Value}, v.hasJson = true → v.toJson = .ok v.asJson
  | null, _ => rfl
  | flag _, _ => rfl
  | double _, _ => rfl
  | text _, _ => rfl
  | int n, h => by
    rw [toJson, writeInteger_eq (by simpa [hasJson] using h)]
    rfl
  | list items, h => by
    rw [toJson, toJsonItems_eq (by simpa [hasJson] using h)]
    rfl
  | map entries, h => by
    rw [toJson, toJsonEntries_eq (by simpa [hasJson] using h)]
    rfl

theorem toJsonItems_eq : ∀ {items : List Value}, itemsHaveJson items = true →
    toJsonItems items = .ok (itemsAsJson items)
  | [], _ => rfl
  | v :: rest, h => by
    rw [itemsHaveJson, Bool.and_eq_true] at h
    rw [toJsonItems, toJson_eq h.1, toJsonItems_eq h.2]
    rfl

theorem toJsonEntries_eq : ∀ {entries : List (Value × Value)}, entriesHaveJson entries = true →
    toJsonEntries entries = .ok (entriesAsJson entries)
  | [], _ => rfl
  | (text s, v) :: rest, h => by
    rw [entriesHaveJson, Bool.and_eq_true] at h
    rw [toJsonEntries, toJson_eq h.1, toJsonEntries_eq h.2]
    rfl

end

mutual

theorem isValid_asJson : ∀ v : Value, v.asJson.IsValid
  | int n => by
    rw [asJson]
    exact Json.isNumberText_toString n
  | double x => by
    rw [asJson]
    exact x.isNumberText_literal
  | list items => by
    rw [asJson, Json.IsValid]
    exact itemsAreValid_asJson items
  | map entries => by
    rw [asJson, Json.IsValid]
    exact fieldsAreValid_asJson entries
  | null => trivial
  | flag _ => trivial
  | text _ => rfl
  | torn _ => trivial
  | date _ => trivial
  | moment _ => trivial
  | octets _ => trivial
  | pair _ _ => trivial
  | set _ => trivial
  | again _ _ => trivial

theorem itemsAreValid_asJson : ∀ items : List Value, Json.ItemsAreValid (itemsAsJson items)
  | [] => trivial
  | v :: rest => ⟨isValid_asJson v, itemsAreValid_asJson rest⟩

theorem fieldsAreValid_asJson : ∀ entries : List (Value × Value),
    Json.FieldsAreValid (entriesAsJson entries)
  | [] => trivial
  | (_, v) :: rest => ⟨rfl, isValid_asJson v, fieldsAreValid_asJson rest⟩

end

end Value

end Tunebook
