import Tunebook.History
import Tunebook.Proofs.Midi.Emission
import Tunebook.Proofs.Tune.Tones

/-!
# Conversions end in one of four ways

A conversion passes two gates and two stages that may fail.  Its result tells which of
them stopped it, if one did, and says what that one said.

* `passage_eq_passed_iff`, `passage_eq_refused_iff`, `passage_eq_error`: what lies behind
  the first gate.
* `convertUntimed_cases`: the four results.
* `exists_passage_eq_error_iff`: the stages fail exactly where reading or writing does.
  The second gate cannot be written off beforehand, but a tune that it fails on is one
  that cannot be written either.
* `History.convert_tells`: **every conversion ends in one recorded result, and its error
  names the stage.**
-/

namespace Tunebook

/-! ### What stops a conversion -/

/-- The second gate refuses a text: it is read as a tune, and the check of its tones complains. -/
def TonesRefused (text : Source) (report : Report) : Prop :=
  ∃ tune, Tune.ofSource text = .ok tune ∧ checkStructure tune.score.tones = .ok report ∧
    report.isValid = false

/-- A stage behind the first gate fails: a text cannot be read, or the tune that it is read as is
not refused and cannot be written. -/
def StageFails (text : Source) (optimize settings : Value) : Prop :=
  (∃ f, Tune.ofSource text = .error f) ∨
    ∃ tune, Tune.ofSource text = .ok tune ∧
      (∀ report, checkStructure tune.score.tones = .ok report → report.isValid = true) ∧
      ∃ f, plainFile optimize.isGiven settings tune.score = .error f

/-- The fault of the stage that fails first.  The check of tones is such a stage too, but only for
texts that no memory holds. -/
inductive FirstFault (text : Source) (optimize settings : Value) (f : Fault) : Prop
  | reading : Tune.ofSource text = .error f → FirstFault text optimize settings f
  | checking (tune : Tune) (s : String) : Tune.ofSource text = .ok tune →
      checkStructure tune.score.tones = .error f → text = .text s →
        Nat.pow 10 (digitLimit - 2) ≤ s.toList.length →
      FirstFault text optimize settings f
  | writing (tune : Tune) (report : Report) : Tune.ofSource text = .ok tune →
      checkStructure tune.score.tones = .ok report → report.isValid = true →
      plainFile optimize.isGiven settings tune.score = .error f →
        FirstFault text optimize settings f

/-! ### Behind the first gate -/

section

variable {text : Source} {written : Score → Except Fault (List UInt8)}

theorem passage_eq_passed_iff {tune : Tune} {midi : List UInt8} :
    passage text written = .ok (.passed tune midi) ↔ Tune.ofSource text = .ok tune ∧
      (∃ report, checkStructure tune.score.tones = .ok report ∧ report.isValid = true) ∧
      written tune.score = .ok midi := by
  constructor
  · intro h
    obtain ⟨t, ht, h⟩ := bind_eq_ok.1 h
    obtain ⟨report, hr, h⟩ := bind_eq_ok.1 h
    split at h
    · next hv =>
      obtain ⟨m, hm, h⟩ := bind_eq_ok.1 h
      cases h
      exact ⟨ht, ⟨report, hr, hv⟩, hm⟩
    · cases h
  · rintro ⟨ht, ⟨report, hr, hv⟩, hm⟩
    simp only [passage, ht, hr, hm, bind, Except.bind, hv, if_true]

theorem passage_eq_refused_iff {complaints : List String} :
    passage text written = .ok (.refused complaints) ↔
      ∃ report, TonesRefused text report ∧ complaints = report.errors := by
  constructor
  · intro h
    obtain ⟨t, ht, h⟩ := bind_eq_ok.1 h
    obtain ⟨report, hr, h⟩ := bind_eq_ok.1 h
    split at h
    · obtain ⟨m, _, h⟩ := bind_eq_ok.1 h
      cases h
    · next hv =>
      cases h
      exact ⟨report, ⟨t, ht, hr, Bool.eq_false_iff.2 hv⟩, rfl⟩
  · rintro ⟨report, ⟨t, ht, hr, hv⟩, rfl⟩
    simp only [passage, ht, hr, bind, Except.bind, hv, Bool.false_eq_true, if_false]

theorem passage_eq_error {f : Fault} (h : passage text written = .error f) :
    Tune.ofSource text = .error f ∨ ∃ tune, Tune.ofSource text = .ok tune ∧
      (checkStructure tune.score.tones = .error f ∨
        ∃ report, checkStructure tune.score.tones = .ok report ∧ report.isValid = true ∧
          written tune.score = .error f) := by
  rcases bind_eq_error.1 h with h | ⟨tune, ht, h⟩
  · exact .inl h
  · refine .inr ⟨tune, ht, ?_⟩
    rcases bind_eq_error.1 h with h | ⟨report, hr, h⟩
    · exact .inl h
    · split at h
      · next hv =>
        rcases bind_eq_error.1 h with h | ⟨_, _, h⟩
        · exact .inr ⟨report, hr, hv, h⟩
        · cases h
      · cases h

end

/-! ### Tunes whose check fails -/

theorem ofSource_eq_ok {text : Source} {tune : Tune} (h : Tune.ofSource text = .ok tune) :
    ∃ s, text = .text s ∧ Tune.read s = .ok tune := by
  rw [Tune.ofSource.eq_def] at h
  split at h
  · exact ⟨_, rfl, h⟩
  · cases h

theorem generate_eq_error {tune : Tune} (settings : Value) {n : Note} (hn : n ∈ tune.notes)
    (hp : 128 ≤ n.pitch.natAbs) : ∃ f, generate tune.score settings = .error f := by
  cases h : generate tune.score settings with
  | error f => exact ⟨f, rfl⟩
  | ok bytes =>
    obtain ⟨m, _, parts, hparts, _⟩ := Tune.generate_eq_ok (List.ne_nil_of_mem hn) h
    obtain ⟨part, _, key, ticks, hkey, _, _⟩ := mem_of_forall₂ hparts.flip hn
    have hlt := key.isLt
    omega

theorem plainFile_eq_error {tune : Tune} {settings : Value} {optimize : Bool} {f : Fault}
    (h : checkStructure tune.score.tones = .error f) :
    ∃ f', plainFile optimize settings tune.score = .error f' := by
  obtain ⟨n, hn, hp⟩ := checkStructure_eq_error h
  have hlimit : 3 ≤ digitLimit := by decide
  obtain ⟨f', hf'⟩ := generate_eq_error settings hn (Nat.le_trans (le_pow_ten hlimit) hp)
  exact ⟨f', by rw [plainFile, hf']; rfl⟩

section

variable {text : Source} {optimize settings : Value}

/-- **Conversions fail exactly where reading or writing does.** -/
theorem exists_passage_eq_error_iff :
    (∃ f, passage text (plainFile optimize.isGiven settings) = .error f) ↔
    StageFails text optimize settings := by
  constructor
  · rintro ⟨f, h⟩
    rcases passage_eq_error h with h | ⟨tune, ht, hs | ⟨report, hr, hv, hw⟩⟩
    · exact .inl ⟨f, h⟩
    · refine .inr ⟨tune, ht, ?_, plainFile_eq_error hs⟩
      intro report hr
      rw [hs] at hr
      cases hr
    · refine .inr ⟨tune, ht, ?_, f, hw⟩
      intro report' hr'
      cases hr.symm.trans hr'
      exact hv
  · intro h
    cases hp : passage text (plainFile optimize.isGiven settings) with
    | error f => exact ⟨f, rfl⟩
    | ok p =>
      cases p with
      | refused complaints =>
        obtain ⟨report, ⟨tune, ht, hr, hv⟩, _⟩ := passage_eq_refused_iff.1 hp
        rcases h with ⟨f, hf⟩ | ⟨tune', ht', hvalid, _⟩
        · cases ht.symm.trans hf
        · cases ht.symm.trans ht'
          rw [hvalid report hr] at hv
          cases hv
      | passed tune midi =>
        obtain ⟨ht, _, hw⟩ := passage_eq_passed_iff.1 hp
        rcases h with ⟨f, hf⟩ | ⟨tune', ht', _, f, hf⟩
        · cases ht.symm.trans hf
        · cases ht.symm.trans ht'
          cases hw.symm.trans hf

theorem firstFault_of_passage {f : Fault}
    (h : passage text (plainFile optimize.isGiven settings) = .error f) :
    FirstFault text optimize settings f := by
  rcases passage_eq_error h with h | ⟨tune, ht, hs | ⟨report, hr, hv, hw⟩⟩
  · exact .reading h
  · obtain ⟨s, hs', hread⟩ := ofSource_eq_ok ht
    exact .checking tune s ht hs hs' (length_of_checkStructure_eq_error hread hs)
  · exact .writing tune report ht hr hv hw

/-! ### The four results -/

/-- A conversion is stopped at the first gate, passes everything, is stopped at the second gate, or
fails. -/
theorem convertUntimed_cases (c : Clock) (text : Source) (optimize settings : Value) :
    ((checkInput text).isValid = false ∧
      convertUntimed c text optimize settings = .failure c invalidInput (checkInput text).errors) ∨
    (checkInput text).isValid = true ∧
      ((∃ tune midi, passage text (plainFile optimize.isGiven settings) = .ok (.passed tune midi) ∧
        convertUntimed c text optimize settings
          = ⟨true, some midi, none, [], tune.metadata, c.timestamp⟩) ∨
      (∃ complaints,
        passage text (plainFile optimize.isGiven settings) = .ok (.refused complaints) ∧
        convertUntimed c text optimize settings = .failure c invalidStructure complaints) ∨
      ∃ f, passage text (plainFile optimize.isGiven settings) = .error f ∧
        convertUntimed c text optimize settings = .failure c conversionFailed [f.message]) := by
  cases hv : (checkInput text).isValid with
  | false =>
    refine .inl ⟨rfl, ?_⟩
    simp only [convertUntimed, hv, Bool.false_eq_true, if_false]
  | true =>
    refine .inr ⟨rfl, ?_⟩
    simp only [convertUntimed, hv, if_true]
    cases hp : passage text (plainFile optimize.isGiven settings) with
    | error f => exact .inr (.inr ⟨f, rfl, rfl⟩)
    | ok p =>
      cases p with
      | passed tune midi => exact .inl ⟨tune, midi, rfl, rfl⟩
      | refused complaints => exact .inr (.inl ⟨complaints, rfl, rfl⟩)

end

namespace Result

theorem timed_eq (r : Result) (c : Clock) :
    r.timed c = { r with metadata := (r.timed c).metadata } := by
  rw [timed]
  split
  · rfl
  · rfl

/-- A result of a conversion that succeeded: a file and nothing to say. -/
def Succeeded (r : Result) : Prop :=
  r.success = true ∧ r.midi.isSome = true ∧ r.error = none ∧ r.details = []

/-- A result of a conversion that was stopped: no file, one of the three errors and something to
say. -/
def Stopped (r : Result) : Prop :=
  r.success = false ∧ r.midi = none ∧ r.details ≠ [] ∧
    (r.error = some invalidInput ∨ r.error = some invalidStructure ∨
      r.error = some conversionFailed)

/-- What a result says of the conversion of a text: whether it was stopped, at which stage, and what
that stage said. -/
structure Tells (r : Result) (text : Source) (optimize settings : Value) : Prop where
  shape : r.Succeeded ∨ r.Stopped
  passed : ∀ midi, r.midi = some midi ↔
    (checkInput text).isValid = true ∧ ∃ tune, Tune.ofSource text = .ok tune ∧
      (∃ report, checkStructure tune.score.tones = .ok report ∧ report.isValid = true) ∧
      plainFile optimize.isGiven settings tune.score = .ok midi
  input : r.error = some invalidInput ↔ (checkInput text).isValid = false
  inputDetails : r.error = some invalidInput → r.details = (checkInput text).errors
  tones : r.error = some invalidStructure ↔
    (checkInput text).isValid = true ∧ ∃ report, TonesRefused text report
  tonesDetails : r.error = some invalidStructure →
    ∃ report, TonesRefused text report ∧ r.details = report.errors
  stages : r.error = some conversionFailed ↔
    (checkInput text).isValid = true ∧ StageFails text optimize settings
  stagesDetails : r.error = some conversionFailed →
    ∃ f, FirstFault text optimize settings f ∧ r.details = [f.message]

end Result

theorem invalidInput_ne_invalidStructure : invalidInput ≠ invalidStructure := by decide

theorem invalidInput_ne_conversionFailed : invalidInput ≠ conversionFailed := by decide

theorem invalidStructure_ne_conversionFailed : invalidStructure ≠ conversionFailed := by decide

theorem errors_ne_nil {r : Report} (h : r.isValid = false) : r.errors ≠ [] := by
  intro e
  rw [Report.isValid, e] at h
  cases h

section

variable {r : Result} {c : Clock} {text : Source} {optimize settings : Value}

theorem tells_of_invalid (hv : (checkInput text).isValid = false)
    (hr : r = .failure c invalidInput (checkInput text).errors) :
    r.Tells text optimize settings := by
  have hs := invalidInput_ne_invalidStructure
  have hf := invalidInput_ne_conversionFailed
  subst hr
  constructor
  case shape => exact .inr ⟨rfl, rfl, errors_ne_nil hv, .inl rfl⟩
  case passed => simp [Result.failure, hv]
  case input => simp [Result.failure, hv]
  case inputDetails => exact fun _ => rfl
  case tones => simp [Result.failure, hv, hs]
  case tonesDetails => simp [Result.failure, hs]
  case stages => simp [Result.failure, hv, hf]
  case stagesDetails => simp [Result.failure, hf]

theorem exists_tonesRefused_iff (optimize settings : Value) :
    (∃ report, TonesRefused text report) ↔
      ∃ complaints,
        passage text (plainFile optimize.isGiven settings) = .ok (.refused complaints) := by
  constructor
  · rintro ⟨report, h⟩
    exact ⟨report.errors, passage_eq_refused_iff.2 ⟨report, h, rfl⟩⟩
  · rintro ⟨complaints, h⟩
    obtain ⟨report, hr, _⟩ := passage_eq_refused_iff.1 h
    exact ⟨report, hr⟩

theorem tells_of_passed {tune : Tune} {midi : List UInt8} (hv : (checkInput text).isValid = true)
    (hp : passage text (plainFile optimize.isGiven settings) = .ok (.passed tune midi))
    (hr : r = ⟨true, some midi, none, [], tune.metadata, c.timestamp⟩) :
    r.Tells text optimize settings := by
  subst hr
  constructor
  case shape => exact .inl ⟨rfl, rfl, rfl, rfl⟩
  case passed =>
    intro midi'
    constructor
    · intro h
      cases h
      exact ⟨hv, tune, passage_eq_passed_iff.1 hp⟩
    · rintro ⟨_, tune', h⟩
      cases hp.symm.trans (passage_eq_passed_iff.2 h)
      rfl
  case input => simp [hv]
  case inputDetails => simp
  case tones => simp [exists_tonesRefused_iff optimize settings, hp]
  case tonesDetails => simp
  case stages => simp [← exists_passage_eq_error_iff, hp]
  case stagesDetails => simp

theorem tells_of_refused {complaints : List String} (hv : (checkInput text).isValid = true)
    (hp : passage text (plainFile optimize.isGiven settings) = .ok (.refused complaints))
    (hr : r = .failure c invalidStructure complaints) : r.Tells text optimize settings := by
  obtain ⟨report, hrefused, hc⟩ := passage_eq_refused_iff.1 hp
  subst hr hc
  have hs := invalidInput_ne_invalidStructure.symm
  have hf := invalidStructure_ne_conversionFailed
  constructor
  case shape =>
    obtain ⟨_, _, _, hv'⟩ := hrefused
    exact .inr ⟨rfl, rfl, errors_ne_nil hv', .inr (.inl rfl)⟩
  case passed => simp [Result.failure, ← passage_eq_passed_iff, hp]
  case input => simp [Result.failure, hv, hs]
  case inputDetails => simp [Result.failure, hs]
  case tones => exact ⟨fun _ => ⟨hv, report, hrefused⟩, fun _ => rfl⟩
  case tonesDetails => exact fun _ => ⟨report, hrefused, rfl⟩
  case stages => simp [Result.failure, ← exists_passage_eq_error_iff, hp, hf]
  case stagesDetails => simp [Result.failure, hf]

theorem tells_of_fault {f : Fault} (hv : (checkInput text).isValid = true)
    (hp : passage text (plainFile optimize.isGiven settings) = .error f)
    (hr : r = .failure c conversionFailed [f.message]) : r.Tells text optimize settings := by
  have hi := invalidInput_ne_conversionFailed.symm
  have hs := invalidStructure_ne_conversionFailed.symm
  subst hr
  constructor
  case shape => exact .inr ⟨rfl, rfl, List.cons_ne_nil _ _, .inr (.inr rfl)⟩
  case passed => simp [Result.failure, ← passage_eq_passed_iff, hp]
  case input => simp [Result.failure, hv, hi]
  case inputDetails => simp [Result.failure, hi]
  case tones => simp [Result.failure, exists_tonesRefused_iff optimize settings, hp, hs]
  case tonesDetails => simp [Result.failure, hs]
  case stages => exact ⟨fun _ => ⟨hv, exists_passage_eq_error_iff.1 ⟨f, hp⟩⟩, fun _ => rfl⟩
  case stagesDetails => exact fun _ => ⟨f, firstFault_of_passage hp, rfl⟩

theorem convertUntimed_tells (c : Clock) (text : Source) (optimize settings : Value) :
    (convertUntimed c text optimize settings).Tells text optimize settings := by
  rcases convertUntimed_cases c text optimize settings with
    ⟨hv, hr⟩ | ⟨hv, ⟨tune, midi, hp, hr⟩ | ⟨complaints, hp, hr⟩ | ⟨f, hp, hr⟩⟩
  · exact tells_of_invalid hv hr
  · exact tells_of_passed hv hp hr
  · exact tells_of_refused hv hp hr
  · exact tells_of_fault hv hp hr

theorem Result.Tells.timed (h : r.Tells text optimize settings) (c : Clock) :
    (r.timed c).Tells text optimize settings := by
  rw [r.timed_eq c]
  exact ⟨h.shape, h.passed, h.input, h.inputDetails, h.tones, h.tonesDetails, h.stages,
    h.stagesDetails⟩

end

/-- **Every conversion ends in one result**, whatever text, flag and settings it is given: with a
file and nothing to say, or with one of three errors, which names the stage that stopped it, and
with what that stage said.  A history holds exactly this result more. -/
theorem History.convert_tells (h : History) (c : Clock) (text : Source) (optimize settings : Value) :
    (h.convert c text optimize settings).1.results
        = h.results ++ [(h.convert c text optimize settings).2] ∧
      (h.convert c text optimize settings).2 = Tunebook.convert c text optimize settings ∧
      (Tunebook.convert c text optimize settings).Tells text optimize settings :=
  ⟨rfl, rfl, (convertUntimed_tells c text optimize settings).timed c⟩

end Tunebook
