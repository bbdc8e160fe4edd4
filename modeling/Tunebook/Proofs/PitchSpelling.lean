import Tunebook.Proofs.Pitch
import Tunebook.Proofs.Tune.Fractions

/-!
# Pitch names and note numbers

A text names a pitch if it spells a degree and an octave: the degree's letter and sharp, perhaps a minus
sign, digits of any script with zeros before them or not, and perhaps the end of the line.  Texts that
spell the same degree and the same octave name the same note number, and the name that this number is
given spells them plainly.

* `exists_padded`: digits are those of their value, with zeros before them.
* `WrittenPitch`: what a pitch name spells, `WrittenPitch.plain` the same pitch spelled plainly.
* `pitchOfName_eq_ok_iff`: **the texts that name a pitch**; `category_of_pitchOfName`: how the others fail.
* `WrittenPitch.pitchName_pitch`: **a note number is named by its plain spelling.**
* `pitch_names_inverse`: names and note numbers lead back to each other.
-/

namespace Tunebook

/-! ### Digits of the same value -/

theorem foldl_digits_inj {ds es : List Nat} (hlength : ds.length = es.length)
    (hds : ∀ d ∈ ds, d < 10) (hes : ∀ e ∈ es, e < 10) {m n : Nat}
    (h : ds.foldl (fun total d => 10 * total + d) m = es.foldl (fun total d => 10 * total + d) n) :
    m = n ∧ ds = es := by
  induction ds generalizing es m n with
  | nil =>
    rw [List.length_nil, eq_comm, List.length_eq_zero_iff] at hlength
    subst hlength
    exact ⟨h, rfl⟩
  | cons d ds ih =>
    cases es with
    | nil => cases hlength
    | cons e es =>
      have hd := hds d List.mem_cons_self
      have he := hes e List.mem_cons_self
      obtain ⟨htotal, rfl⟩ := ih (Nat.succ.inj hlength)
        (fun d' hd' => hds d' (List.mem_cons_of_mem d hd'))
        (fun e' he' => hes e' (List.mem_cons_of_mem e he')) h
      have htotal : 10 * m + d = 10 * n + e := htotal
      -- a digit is below ten, so it is told apart from what stands before it
      obtain ⟨rfl, rfl⟩ : m = n ∧ d = e := by omega
      exact ⟨rfl, rfl⟩

theorem foldl_zeros (zeros : Nat) :
    (List.replicate zeros 0).foldl (fun total d => 10 * total + d) 0 = 0 := by
  induction zeros with
  | zero => rfl
  | succ zeros ih => rw [List.replicate_succ, List.foldl_cons, ih]

theorem length_filterMap_digitValue? {digits : List Char} (h : ∀ c ∈ digits, isDecimalDigit c = true) :
    (digits.filterMap digitValue?).length = digits.length :=
  List.filterMap_length_eq_length.2 h

theorem isNumeral_toDigits (n : Nat) : IsNumeral (Nat.toDigits 10 n) :=
  ⟨Nat.toDigits_ne_nil, fun _ hc => isDecimalDigit_of_isDigit (isDigit_of_mem_toDigits hc)⟩

/-- **Digits are those of their value, with zeros before them**, whatever their script is. -/
theorem exists_padded {digits : List Char} (h : IsNumeral digits) :
    ∃ zeros, digits.filterMap digitValue? = List.replicate zeros 0
      ++ (Nat.toDigits 10 (decimalValue digits)).filterMap digitValue? := by
  have hlength := length_filterMap_digitValue? h.2
  have hplain := length_filterMap_digitValue? (isNumeral_toDigits (decimalValue digits)).2
  have hshort : (Nat.toDigits 10 (decimalValue digits)).length ≤ digits.length :=
    (Nat.length_toDigits_le_iff (by decide) (List.length_pos_of_ne_nil h.1)).2 (decimalValue_lt digits)
  -- with that many zeros both are as long, and zeros in front do not change a value
  refine ⟨digits.length - (Nat.toDigits 10 (decimalValue digits)).length,
    (foldl_digits_inj (m := 0) (n := 0) ?_ (fun _ => filterMap_digitValue?_lt) ?_ ?_).2⟩
  · rw [List.length_append, List.length_replicate]
    omega
  · intro d hd
    obtain hd | hd := List.mem_append.1 hd
    · rw [List.eq_of_mem_replicate hd]
      decide
    · exact filterMap_digitValue?_lt hd
  · rw [List.foldl_append, foldl_zeros]
    exact (decimalValue_toDigits _).symm

/-! ### Pitches as texts spell them -/

/-- A pitch as a text spells it. -/
structure WrittenPitch where
  degree : Fin 12
  negative : Bool
  digits : List Char
  /-- Whether the text goes on to the end of its line. -/
  lineFeed : Bool
  numeral : IsNumeral digits
  short : digits.length ≤ digitLimit

namespace WrittenPitch

/-- The text that spells a pitch. -/
def text (w : WrittenPitch) : String :=
  String.ofList ((degreeName w.degree).toList
    ++ (octaveText w.negative w.digits ++ if w.lineFeed then ['\n'] else []))

/-- The octave that is spelled. -/
def octave (w : WrittenPitch) : Int :=
  if w.negative then -(decimalValue w.digits : Int) else decimalValue w.digits

/-- The note number of the pitch that is spelled. -/
def pitch (w : WrittenPitch) : Int := (w.octave + 1) * 12 + w.degree.val

variable (w : WrittenPitch)

theorem natAbs_octave : w.octave.natAbs = decimalValue w.digits := by
  rw [octave]
  split <;> omega

theorem natAbs_octave_lt : w.octave.natAbs < Nat.pow 10 digitLimit := by
  rw [w.natAbs_octave]
  exact Nat.lt_of_lt_of_le (decimalValue_lt w.digits) (pow_ten_le w.short)

/-- The same pitch without zeros before its octave, without a sign at octave zero and in one line. -/
def plain : WrittenPitch where
  degree := w.degree
  negative := decide (w.octave < 0)
  digits := Nat.toDigits 10 w.octave.natAbs
  lineFeed := false
  numeral := isNumeral_toDigits _
  short := length_toDigits_le w.natAbs_octave_lt

@[simp]
theorem plain_degree : w.plain.degree = w.degree := rfl

@[simp]
theorem plain_octave : w.plain.octave = w.octave := by
  show (if decide (w.octave < 0) = true then -(decimalValue (Nat.toDigits 10 w.octave.natAbs) : Int)
    else decimalValue (Nat.toDigits 10 w.octave.natAbs)) = w.octave
  rw [decimalValue_toDigits]
  simp only [decide_eq_true_eq]
  omega

theorem plain_negative (h : w.octave ≠ 0) : w.plain.negative = w.negative := by
  show decide (w.octave < 0) = w.negative
  cases hsign : w.negative with
  | false =>
    have hoctave : w.octave = decimalValue w.digits := by rw [octave, hsign]; rfl
    exact decide_eq_false (by omega)
  | true =>
    have hoctave : w.octave = -(decimalValue w.digits : Int) := by rw [octave, hsign]; rfl
    exact decide_eq_true (by omega)

theorem exists_plain_padded : ∃ zeros, w.digits.filterMap digitValue?
    = List.replicate zeros 0 ++ w.plain.digits.filterMap digitValue? := by
  show ∃ zeros, w.digits.filterMap digitValue?
    = List.replicate zeros 0 ++ (Nat.toDigits 10 w.octave.natAbs).filterMap digitValue?
  rw [w.natAbs_octave]
  exact exists_padded w.numeral

/-- **A text that spells a pitch names it.** -/
theorem pitchOfName_text : pitchOfName w.text = .ok w.pitch := by
  have hread : readDigits w.digits = .ok (decimalValue w.digits) := by
    rw [readDigits, if_neg (Nat.not_lt.2 w.short)]
  have hbehind : (if w.lineFeed then ['\n'] else []) = [] ∨
      (if w.lineFeed then ['\n'] else []) = ['\n'] := by
    cases w.lineFeed <;> simp
  rw [pitchOfName, text, String.toList_ofList,
    splitPitchName?_name w.degree w.negative w.numeral.2 w.numeral.1 hbehind]
  simp only [hread, degreeIndex?_degreeName, ok_bind]
  rfl

/-- **A note number is named by its plain spelling.** -/
theorem pitchName_pitch : pitchName w.pitch = .ok w.plain.text := by
  have hdegree := w.degree.isLt
  have hoctave : w.pitch.fdiv 12 - 1 = w.octave := by
    rw [Int.fdiv_eq_ediv_of_nonneg _ (by decide), pitch]
    omega
  have hmod : (w.pitch.fmod 12).toNat = w.degree := by
    rw [Int.fmod_eq_emod_of_nonneg _ (by decide), pitch]
    omega
  have hwrite : writeInteger w.octave
      = .ok (String.ofList (octaveText (decide (w.octave < 0)) (Nat.toDigits 10 w.octave.natAbs))) := by
    rw [writeInteger, if_neg (Nat.not_lt.2 (length_toDigits_le w.natAbs_octave_lt)), octaveText]
    simp only [decide_eq_true_eq]
  rw [pitchName, hoctave, hwrite, ok_bind, hmod]
  congr 1
  apply String.toList_injective
  simp [text, plain]

end WrittenPitch

/-! ### What a text spells -/

theorem length_le_of_readDigits {digits : List Char} {n : Nat} (h : readDigits digits = .ok n) :
    digits.length ≤ digitLimit := by
  rw [readDigits] at h
  split at h
  · cases h
  · omega

theorem exists_degreeName {name : String} {i : Nat} (h : degreeIndex? name = some i) :
    ∃ degree : Fin 12, degree.val = i ∧ degreeName degree = name := by
  obtain ⟨hlt, hname, _⟩ := List.findIdx?_eq_some_iff_getElem.1 h
  refine ⟨⟨i, hlt⟩, rfl, ?_⟩
  rw [degreeName, List.getD_eq_getElem?_getD, List.getElem?_eq_getElem hlt]
  exact beq_iff_eq.1 hname

def takeDegree (letter : Char) (rest : List Char) : List Char × List Char :=
  match rest with
  | '#' :: more => ([letter, '#'], more)
  | more => ([letter], more)

def takeSign (cs : List Char) : Bool × List Char :=
  match cs with
  | '-' :: more => (true, more)
  | more => (false, more)

theorem splitPitchName?_cons (letter : Char) (rest : List Char) :
    splitPitchName? (letter :: rest) = if 'A' ≤ letter ∧ letter ≤ 'G' then
      let octave := takeSign (takeDegree letter rest).2
      let behind := octave.2.dropWhile isDecimalDigit
      if (octave.2.takeWhile isDecimalDigit).isEmpty then none
      else if behind = [] ∨ behind = ['\n'] then
        some (String.ofList (takeDegree letter rest).1, octave.1, octave.2.takeWhile isDecimalDigit)
      else none
    else none := rfl

theorem takeDegree_append (letter : Char) (rest : List Char) :
    (takeDegree letter rest).1 ++ (takeDegree letter rest).2 = letter :: rest := by
  rw [takeDegree.eq_def]
  split <;> rfl

theorem octaveText_takeSign (cs : List Char) : octaveText (takeSign cs).1 (takeSign cs).2 = cs := by
  rw [takeSign.eq_def]
  split <;> rfl

theorem octaveText_append (negative : Bool) (digits behind : List Char) :
    octaveText negative (digits ++ behind) = octaveText negative digits ++ behind := by
  cases negative <;> rfl

/-- **A text that falls apart into the parts of a pitch name is made of them.** -/
theorem eq_of_splitPitchName? {cs digits : List Char} {name : String} {negative : Bool}
    (h : splitPitchName? cs = some (name, negative, digits)) :
    ∃ behind, (behind = [] ∨ behind = ['\n']) ∧ IsNumeral digits ∧
      cs = name.toList ++ (octaveText negative digits ++ behind) := by
  cases cs with
  | nil => cases h
  | cons letter rest =>
    rw [splitPitchName?_cons] at h
    split at h
    · dsimp only at h
      split at h
      · cases h
      · next hne =>
        split at h
        · next hbehind =>
          cases h
          refine ⟨_, hbehind, ⟨fun hnil => hne (List.isEmpty_iff.2 hnil),
            fun d hd => List.mem_takeWhile_imp hd⟩, ?_⟩
          rw [← octaveText_append, List.takeWhile_append_dropWhile, octaveText_takeSign,
            String.toList_ofList, takeDegree_append]
        · cases h
    · cases h

/-- **The texts that name a pitch** are those that spell it. -/
theorem pitchOfName_eq_ok_iff {text : String} {pitch : Int} :
    pitchOfName text = .ok pitch ↔ ∃ w : WrittenPitch, w.text = text ∧ w.pitch = pitch := by
  constructor
  · intro h
    rw [pitchOfName] at h
    split at h
    · cases h
    · next name negative digits hsplit =>
      obtain ⟨behind, hbehind, hnumeral, htext⟩ := eq_of_splitPitchName? hsplit
      obtain ⟨n, hread, h⟩ := bind_eq_ok.1 h
      have hshort := length_le_of_readDigits hread
      obtain rfl := readDigits_eq_ok hread
      cases hindex : degreeIndex? name with
      | none =>
        simp only [hindex] at h
        cases h
      | some i =>
        simp only [hindex] at h
        cases h
        obtain ⟨degree, rfl, rfl⟩ := exists_degreeName hindex
        have htext' := congrArg String.ofList htext
        rw [String.ofList_toList] at htext'
        obtain rfl | rfl := hbehind
        · exact ⟨⟨degree, negative, digits, false, hnumeral, hshort⟩, htext'.symm, rfl⟩
        · exact ⟨⟨degree, negative, digits, true, hnumeral, hshort⟩, htext'.symm, rfl⟩
  · rintro ⟨w, rfl, rfl⟩
    exact w.pitchOfName_text

/-- **Every other text fails with a fault of its value.** -/
theorem category_of_pitchOfName {text : String} {f : Fault} (h : pitchOfName text = .error f) :
    f.category = .value := by
  rw [pitchOfName] at h
  split at h
  · cases h
    rfl
  · next name negative digits _ =>
    obtain hread | ⟨n, _, h⟩ := bind_eq_error.1 h
    · rw [readDigits] at hread
      split at hread
      · cases hread
        rfl
      · cases hread
    · cases hindex : degreeIndex? name with
      | none =>
        simp only [hindex] at h
        cases h
        rfl
      | some i =>
        simp only [hindex] at h
        cases h

theorem octaveText_ne_sharp {negative : Bool} {digits : List Char} (h : IsNumeral digits)
    (behind more : List Char) : octaveText negative digits ++ behind ≠ '#' :: more := by
  obtain ⟨d, rest, rfl⟩ := List.exists_cons_of_ne_nil h.1
  have hsharp := not_sharp_of_isDecimalDigit (h.2 d List.mem_cons_self)
  cases negative <;> simp [octaveText, hsharp]

theorem WrittenPitch.text_ne_sharp (w : WrittenPitch) {letter : Char} (h : letter = 'E' ∨ letter = 'B')
    (behind : List Char) : w.text ≠ String.ofList (letter :: '#' :: behind) := by
  intro htext
  have hlist := congrArg String.toList htext
  rw [text, String.toList_ofList, String.toList_ofList] at hlist
  have hnone : ∀ degree : Fin 12, (degreeName degree).toList ≠ [letter, '#'] := by
    rcases h with rfl | rfl <;> decide
  obtain ⟨-, hname | hname⟩ := degreeName_cases w.degree
  · rw [hname] at hlist
    exact octaveText_ne_sharp w.numeral _ _ (List.cons.inj hlist).2
  · rw [hname] at hlist
    exact hnone w.degree (by rw [hname, (List.cons.inj hlist).1])

/-! ### Names and note numbers -/

/-- **Names and note numbers lead back to each other.**  A note number has a name where its octave can be
written, and the name leads back to it, so that no other number has it.  A text that names a number
spells it, and the name of that number spells the same degree and octave: it has the digits of the text
without the zeros before them, it has its sign unless the octave is zero, and it ends in its line.  Texts
that spell no pitch fail with a fault of their value, those with a sharp that the scale lacks among them. -/
theorem pitch_names_inverse :
    (∀ pitch, Nameable pitch → ∃ name, pitchName pitch = .ok name ∧ pitchOfName name = .ok pitch ∧
      ∀ other, pitchName other = .ok name → other = pitch) ∧
    (∀ text pitch, pitchOfName text = .ok pitch → ∃ w : WrittenPitch, w.text = text ∧
      pitchName pitch = .ok w.plain.text ∧ w.plain.degree = w.degree ∧ w.plain.octave = w.octave ∧
      (∃ zeros, w.digits.filterMap digitValue?
        = List.replicate zeros 0 ++ w.plain.digits.filterMap digitValue?) ∧
      (w.octave ≠ 0 → w.plain.negative = w.negative) ∧ w.plain.lineFeed = false) ∧
    (∀ text, (∃ w : WrittenPitch, w.text = text ∧ pitchOfName text = .ok w.pitch) ∨
      (∀ w : WrittenPitch, w.text ≠ text) ∧
        ∃ f, pitchOfName text = .error f ∧ f.category = .value) ∧
    ∀ letter, letter = 'E' ∨ letter = 'B' → ∀ behind,
      ∃ f, pitchOfName (String.ofList (letter :: '#' :: behind)) = .error f ∧ f.category = .value := by
  have fails : ∀ text, (∀ w : WrittenPitch, w.text ≠ text) →
      ∃ f, pitchOfName text = .error f ∧ f.category = .value := by
    intro text hnone
    cases h : pitchOfName text with
    | error f => exact ⟨f, rfl, category_of_pitchOfName h⟩
    | ok pitch =>
      obtain ⟨w, hw, _⟩ := pitchOfName_eq_ok_iff.1 h
      exact absurd hw (hnone w)
  refine ⟨?_, ?_, ?_, ?_⟩
  · intro pitch hnameable
    cases h : pitchName pitch with
    | error f => exact absurd hnameable (pitchName_eq_error_iff.1 h).1
    | ok name =>
      have hback := pitchOfName_pitchName h
      refine ⟨name, rfl, hback, fun other hother => ?_⟩
      rw [pitchOfName_pitchName hother] at hback
      exact Except.ok.inj hback
  · intro text pitch h
    obtain ⟨w, rfl, rfl⟩ := pitchOfName_eq_ok_iff.1 h
    exact ⟨w, rfl, w.pitchName_pitch, w.plain_degree, w.plain_octave, w.exists_plain_padded,
      w.plain_negative, rfl⟩
  · intro text
    by_cases h : ∃ w : WrittenPitch, w.text = text
    · obtain ⟨w, rfl⟩ := h
      exact .inl ⟨w, rfl, w.pitchOfName_text⟩
    · exact .inr ⟨not_exists.1 h, fails text (not_exists.1 h)⟩
  · intro letter hletter behind
    exact fails _ fun w => w.text_ne_sharp hletter behind

/-- Digits of another script, a zero before them and the end of the line: the name has none of these. -/
theorem pitch_names_inverse_below_zero :
    (Nameable (-9) ∧ ∃ name, pitchName (-9) = .ok name ∧ pitchOfName name = .ok (-9)) ∧
      pitchOfName "D#-٠٢\n" = .ok (-9) ∧
      ∃ w : WrittenPitch, w.text = "D#-٠٢\n" ∧ w.octave = -2 ∧ w.plain.text = "D#-2" := by
  obtain ⟨hname, hspelled, -⟩ := pitch_names_inverse
  have hnameable : Nameable (-9) := by
    show ((-9 : Int).fdiv 12 - 1).natAbs < Nat.pow 10 digitLimit
    decide +kernel
  have hread : pitchOfName "D#-٠٢\n" = .ok (-9) := by decide
  have hplain : pitchName (-9) = .ok "D#-2" := by decide
  obtain ⟨name, h, hback, _⟩ := hname (-9) hnameable
  obtain ⟨w, htext, htold, _⟩ := hspelled _ _ hread
  refine ⟨⟨hnameable, name, h, hback⟩, hread, w, htext, ?_, ?_⟩
  · rw [← htext, w.pitchOfName_text, Except.ok.injEq, WrittenPitch.pitch] at hread
    have hdegree := w.degree.isLt
    omega
  · rw [hplain] at htold
    exact (Except.ok.inj htold).symm

end Tunebook
