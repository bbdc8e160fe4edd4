import Tunebook.Proofs.Tune.Fractions

/-!
# The first fraction of a tempo field

The search for a fraction takes the first place where one stands, and the digits behind its equals sign
as far as they go.  Digits and slashes in front of the fraction may begin something that turns out to be
none, as in `1/2/4=5`, so the place that counts need not be where the fraction seems to begin.  But no
digit is an equals sign: whatever the place is, the number stands behind the first equals sign of the
field.

* `FractionBehind`, `FirstFraction`: a fraction at a place of a text, and the first one.
* `fractionTempo?_eq_some_iff`: **the search finds the first fraction.**
* `FractionBehind.digits_eq`: the number behind a fraction is settled by the first equals sign.
* `tempoOf_with_fraction`: **a fraction is found wherever it stands.**
-/

namespace Tunebook

/-- A text holds a fraction with an equals sign behind some characters, and a number behind it. -/
def FractionBehind (value pre n : List Char) : Prop :=
  ∃ a b post, IsNumeral a ∧ IsNumeral b ∧ IsNumeral n ∧
    (∀ c ∈ post.head?, isDecimalDigit c = false) ∧
    value = pre ++ (a ++ '/' :: (b ++ '=' :: (n ++ post)))

/-- The first place where a text holds a fraction has a number behind it. -/
def FirstFraction (value n : List Char) : Prop :=
  ∃ pre, FractionBehind value pre n ∧
    ∀ pre' n', FractionBehind value pre' n' → pre.length ≤ pre'.length

/-! ### Places -/

theorem fractionBehind_nil_iff {cs n : List Char} :
    FractionBehind cs [] n ↔ fractionAt? cs = some n := fractionAt?_eq_some_iff.symm

theorem fractionBehind_cons_iff {c d : Char} {rest pre n : List Char} :
    FractionBehind (c :: rest) (d :: pre) n ↔ d = c ∧ FractionBehind rest pre n := by
  constructor
  · rintro ⟨a, b, post, ha, hb, hn, hpost, hvalue⟩
    rw [List.cons_append, List.cons.injEq] at hvalue
    exact ⟨hvalue.1.symm, a, b, post, ha, hb, hn, hpost, hvalue.2⟩
  · rintro ⟨rfl, a, b, post, ha, hb, hn, hpost, rfl⟩
    exact ⟨a, b, post, ha, hb, hn, hpost, rfl⟩

theorem FractionBehind.isPrefix {value pre n : List Char} (h : FractionBehind value pre n) :
    pre <+: value := by
  obtain ⟨a, b, post, _, _, _, _, rfl⟩ := h
  exact List.prefix_append _ _

theorem FractionBehind.holdsFraction {value pre n : List Char} (h : FractionBehind value pre n) :
    HoldsFraction value := by
  obtain ⟨a, b, post, ha, hb, hn, _, hvalue⟩ := h
  exact ⟨pre, a, b, n, post, ha, hb, hn, hvalue⟩

theorem FractionBehind.unique {value pre n m : List Char} (h : FractionBehind value pre n)
    (h' : FractionBehind value pre m) : n = m := by
  have hdrop : ∀ k, FractionBehind value pre k → fractionAt? (value.drop pre.length) = some k := by
    rintro k ⟨a, b, post, ha, hb, hk, hpost, rfl⟩
    rw [List.drop_left]
    exact fractionAt?_eq_some_iff.2 ⟨a, b, post, ha, hb, hk, hpost, rfl⟩
  exact Option.some.inj ((hdrop n h).symm.trans (hdrop m h'))

/-! ### The search -/

theorem firstFraction_of_fractionTempo? {value n : List Char} (h : fractionTempo? value = some n) :
    FirstFraction value n := by
  induction value with
  | nil => cases h
  | cons c rest ih =>
    rw [fractionTempo?] at h
    cases hhere : fractionAt? (c :: rest) with
    | some m =>
      rw [hhere] at h
      obtain rfl : m = n := Option.some.inj h
      exact ⟨[], fractionBehind_nil_iff.2 hhere, fun pre' n' _ => Nat.zero_le _⟩
    | none =>
      rw [hhere] at h
      obtain ⟨pre, hpre, hfirst⟩ := ih h
      refine ⟨c :: pre, fractionBehind_cons_iff.2 ⟨rfl, hpre⟩, ?_⟩
      intro pre' n' hbehind
      cases pre' with
      | nil =>
        rw [fractionBehind_nil_iff, hhere] at hbehind
        cases hbehind
      | cons d more =>
        have hle := hfirst more n' (fractionBehind_cons_iff.1 hbehind).2
        simp only [List.length_cons]
        omega

/-- **The search finds the first fraction.** -/
theorem fractionTempo?_eq_some_iff {value n : List Char} :
    fractionTempo? value = some n ↔ FirstFraction value n := by
  constructor
  · exact firstFraction_of_fractionTempo?
  · rintro ⟨pre, hpre, hfirst⟩
    cases hsearch : fractionTempo? value with
    | none => exact absurd hpre.holdsFraction (fractionTempo?_eq_none_iff.1 hsearch)
    | some m =>
      -- both places are the first one, so they are one place
      obtain ⟨pre', hpre', hfirst'⟩ := firstFraction_of_fractionTempo? hsearch
      have hle := hfirst pre' m hpre'
      have hle' := hfirst' pre n hpre
      have hplace : pre' = pre :=
        (List.prefix_of_prefix_length_le hpre'.isPrefix hpre.isPrefix hle').eq_of_length (by omega)
      rw [hplace] at hpre'
      rw [hpre'.unique hpre]

/-! ### The first equals sign -/

theorem equals_not_mem_of_isNumeral {ds : List Char} (h : IsNumeral ds) : '=' ∉ ds := by
  intro hmem
  have hdigit := h.2 '=' hmem
  revert hdigit
  decide

/-- **The number behind a fraction is settled by the first equals sign**: it is the run of digits behind
that sign, wherever the fraction begins. -/
theorem FractionBehind.digits_eq {value pre n : List Char} (h : FractionBehind value pre n)
    (before : '=' ∉ pre) :
    n = ((value.dropWhile fun c => c != '=').drop 1).takeWhile isDecimalDigit := by
  obtain ⟨a, b, post, ha, hb, hn, hpost, rfl⟩ := h
  have hfront : ∀ c ∈ pre ++ (a ++ '/' :: b), (c != '=') = true := by
    intro c hc
    simp only [List.mem_append, List.mem_cons] at hc
    rw [bne_iff_ne]
    rintro rfl
    rcases hc with hc | hc | hc | hc
    · exact before hc
    · exact equals_not_mem_of_isNumeral ha hc
    · cases hc
    · exact equals_not_mem_of_isNumeral hb hc
  have hstop : ∀ c ∈ ('=' :: (n ++ post)).head?, (c != '=') = false := by
    rintro c ⟨⟩
    rfl
  have hsplit : pre ++ (a ++ '/' :: (b ++ '=' :: (n ++ post)))
      = (pre ++ (a ++ '/' :: b)) ++ '=' :: (n ++ post) := by
    simp only [List.append_assoc, List.cons_append]
  rw [hsplit, (takeWhile_dropWhile_run hfront hstop).2, List.drop_succ_cons, List.drop_zero,
    (takeWhile_dropWhile_run hn.2 hpost).1]

/-- The first fraction of a text that holds one behind no equals sign has the same number behind it. -/
theorem FirstFraction.digits_eq {value pre n m : List Char} (h : FirstFraction value m)
    (hpre : FractionBehind value pre n) (before : '=' ∉ pre) : m = n := by
  obtain ⟨first, hfirst, hleast⟩ := h
  have hfront : first <+: pre :=
    List.prefix_of_prefix_length_le hfirst.isPrefix hpre.isPrefix (hleast pre n hpre)
  have hbefore : '=' ∉ first := fun hmem => before (hfront.subset hmem)
  rw [hfirst.digits_eq hbefore, ← hpre.digits_eq before]

/-- **A fraction is found wherever it stands.**  With no equals sign in front of it and no more digits
behind its number, that number is the tempo, whatever else the field holds. -/
theorem tempoOf_with_fraction {pre a b n post : List Char} (before : '=' ∉ pre) (ha : IsNumeral a)
    (hb : IsNumeral b) (hn : IsNumeral n) (short : n.length ≤ digitLimit)
    (behind : ∀ c ∈ post.head?, isDecimalDigit c = false) :
    tempoOf (pre ++ (a ++ '/' :: (b ++ '=' :: (n ++ post)))) = .ok (decimalValue n) := by
  have hplace : FractionBehind (pre ++ (a ++ '/' :: (b ++ '=' :: (n ++ post)))) pre n :=
    ⟨a, b, post, ha, hb, hn, behind, rfl⟩
  cases hsearch : fractionTempo? (pre ++ (a ++ '/' :: (b ++ '=' :: (n ++ post)))) with
  | none => exact absurd hplace.holdsFraction (fractionTempo?_eq_none_iff.1 hsearch)
  | some m =>
    obtain rfl := (fractionTempo?_eq_some_iff.1 hsearch).digits_eq hplace before
    rw [tempoOf, hsearch]
    dsimp only
    rw [readDigits, if_neg (Nat.not_lt.2 short), ok_bind]

/-- A numeral and a slash in front of the fraction, a digit of another script behind its equals sign, and
one more fraction behind all that. -/
theorem tempoOf_with_fraction_slashes :
    '=' ∉ "1/".toList ∧ IsNumeral ['2'] ∧ IsNumeral ['4'] ∧ IsNumeral ['٥'] ∧
      tempoOf "1/2/4=٥ 3/8=90".toList = .ok 5 := by
  have before : '=' ∉ "1/".toList := by decide +kernel
  have digit : ∀ d : Char, isDecimalDigit d = true → IsNumeral [d] := by
    intro d hd
    refine ⟨List.cons_ne_nil d [], fun c hc => ?_⟩
    rwa [List.mem_singleton.1 hc]
  have two := digit '2' (by decide)
  have four := digit '4' (by decide)
  have five := digit '٥' (by decide +kernel)
  have behind : ∀ c ∈ " 3/8=90".toList.head?, isDecimalDigit c = false := by
    rintro c ⟨⟩
    decide +kernel
  have read := @tempoOf_with_fraction "1/".toList ['2'] ['4'] ['٥'] " 3/8=90".toList before two four
    five (by decide) behind
  exact ⟨before, two, four, five, read⟩

end Tunebook
