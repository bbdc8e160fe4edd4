import Tunebook.Proofs.Double.Overflow
import Tunebook.Proofs.Midi.Tempo
import Tunebook.Proofs.Tune.Numerals

/-!
# Which tempos can be encoded

A tempo becomes the time of a beat, which has 24 bits.  However slow or fast a tempo is, and whatever its
sign, this time is cut to what the bits hold and to one microsecond at least.  But before any of this the
tempo is taken as a double, and beyond the greatest one there is nothing to cut.

* `tempoOfValue_int_ok`, `tempoOfValue_int_error`: a tempo has a time of a beat exactly as far as the
  doubles go.
* `EncodableTempo`: what it is to have one, and a message of it.
* `tempo_encodable`: **the tempo of a tune, and whether it can be encoded**; a text without very long
  numbers always has one that can.
-/

namespace Tunebook

theorem one_le_beatTimeOf (n : Int) : 1 ≤ (beatTimeOf n).val := by
  show 1 ≤ min 16777215 (max 1 n.toNat)
  omega

theorem one_le_of_tempoOfValue {v : Value} {beat : BeatTime} (h : tempoOfValue v = .ok beat) :
    1 ≤ beat.val := by
  obtain ⟨bpm, _, h⟩ := bind_eq_ok.1 h
  obtain ⟨n, _, h⟩ := bind_eq_ok.1 h
  cases h
  exact one_le_beatTimeOf n

section

variable {bpm : Int}

theorem tempoOfValue_int_ok (h : bpm.natAbs < doubleBound) :
    ∃ beat, tempoOfValue (.int bpm) = .ok beat :=
  tempoOfValue_ok_of_isFinite ((Double.ofInt_isFinite_iff bpm).2 h)

theorem tempoOfValue_int_error (h : ¬ bpm.natAbs < doubleBound) :
    tempoOfValue (.int bpm) = .error .integerBeyondDouble := by
  have hreal : realOfValue (.int bpm) = .error .integerBeyondDouble :=
    (toDouble_int_eq bpm).trans (if_neg h)
  rw [tempoOfValue, hreal]
  rfl

/-- A tempo can be encoded: there is a time of a beat at it within 24 bits, and a message of it. -/
def EncodableTempo (bpm : Int) : Prop :=
  ∃ beat : BeatTime, tempoOfValue (.int bpm) = .ok beat ∧ 1 ≤ beat.val ∧ beat.val ≤ 0xFFFFFF ∧
    ∀ resolution, (Event.tempo (.int bpm)).messages resolution = ([⟨0, .tempo beat⟩], none)

/-- **A tempo can be encoded exactly as far as the doubles go**, be it slow, zero or negative. -/
theorem encodableTempo_iff : EncodableTempo bpm ↔ bpm.natAbs < doubleBound := by
  constructor
  · rintro ⟨beat, hbeat, _⟩
    by_contra hgreat
    rw [tempoOfValue_int_error hgreat] at hbeat
    cases hbeat
  · intro h
    obtain ⟨beat, hbeat⟩ := tempoOfValue_int_ok h
    refine ⟨beat, hbeat, one_le_of_tempoOfValue hbeat, Nat.le_of_lt_succ beat.isLt, ?_⟩
    intro resolution
    rw [Event.messages, hbeat]
    rfl

theorem pow_le_doubleBound : ∀ k < 309, Nat.pow 10 k ≤ doubleBound := by decide +kernel

end

theorem tempo_lt_of_short {text : String} {tune : Tune} (parsed : Tune.read text = .ok tune)
    (short : ∀ run, run <:+: text.toList → (∀ d ∈ run, isDecimalDigit d = true) →
      run.length ≤ 308) : tune.header.tempo.natAbs < doubleBound := by
  rcases Tune.natAbs_of_read parsed with husual | ⟨ds, hreads, hds⟩
  · rw [husual]
    exact lt_doubleBound (by decide)
  · obtain ⟨hstands, hdigits⟩ := hreads.runIn
    rw [hds]
    exact Nat.lt_of_lt_of_le (decimalValue_lt ds)
      (pow_le_doubleBound _ (Nat.lt_succ_of_le (short ds hstands hdigits)))

/-- **The tempo of a tune, and whether it can be encoded.**  Without settings a tune is played at the
tempo of its header, or at the usual one where that is zero.  This tempo can be encoded exactly as far as
the doubles go, whatever its sign is; beyond them the tune has no file.  A text in which no number has
more than 308 digits stays below. -/
theorem tempo_encodable {text : String} {tune : Tune} (parsed : Tune.read text = .ok tune) :
    let bpm := if tune.header.tempo = 0 then 120 else tune.header.tempo
    tune.score.PlayedAt .null bpm ∧
    (EncodableTempo bpm ↔ bpm.natAbs < doubleBound) ∧
    (¬ EncodableTempo bpm → tempoOfValue (.int bpm) = .error .integerBeyondDouble ∧
      ∀ bytes, generate tune.score .null ≠ .ok bytes) ∧
    ((∀ run, run <:+: text.toList → (∀ d ∈ run, isDecimalDigit d = true) → run.length ≤ 308) →
      EncodableTempo bpm) := by
  intro bpm
  have hplayed : tune.score.PlayedAt .null bpm := playedAt_of_configured rfl
  refine ⟨hplayed, encodableTempo_iff, ?_, ?_⟩
  · intro hno
    have hfails := tempoOfValue_int_error (mt encodableTempo_iff.2 hno)
    refine ⟨hfails, fun bytes hbytes => ?_⟩
    obtain ⟨_, p, hbeat, _⟩ := hplayed.message bytes hbytes
    rw [hfails] at hbeat
    cases hbeat
  · intro short
    refine encodableTempo_iff.2 ?_
    by_cases hzero : tune.header.tempo = 0
    · have hbpm : bpm = 120 := if_pos hzero
      rw [hbpm]
      exact lt_doubleBound (by decide)
    · have hbpm : bpm = tune.header.tempo := if_neg hzero
      rw [hbpm]
      exact tempo_lt_of_short parsed short

/-- A negative tempo can be encoded. -/
theorem tempo_encodable_negative :
    ∃ tune, Tune.read "Q:-60\nK:C\nC" = .ok tune ∧ tune.header.tempo = -60 ∧ EncodableTempo (-60) := by
  have hread : (Tune.read "Q:-60\nK:C\nC" >>= fun tune => .ok tune.header.tempo) = .ok (-60) := by
    decide +kernel
  obtain ⟨tune, parsed, htempo⟩ := bind_eq_ok.1 hread
  have htempo := Except.ok.inj htempo
  obtain ⟨_, hiff, _⟩ := tempo_encodable parsed
  rw [htempo, if_neg (by decide)] at hiff
  exact ⟨tune, parsed, htempo, hiff.2 (lt_doubleBound (by decide))⟩

theorem great_tempo_not_encodable :
    ¬ ∀ (text : String) (tune : Tune), Tune.read text = .ok tune →
      EncodableTempo (if tune.header.tempo = 0 then 120 else tune.header.tempo) := by
  intro h
  have hread : (Tune.read (String.ofList ("Q:1/4=1".toList ++ List.replicate 309 '0')) >>= fun tune =>
      .ok tune.header.tempo) = .ok (Nat.pow 10 309 : Nat) := by
    rw [Tune.read, String.toList_ofList]
    decide +kernel
  obtain ⟨tune, parsed, htempo⟩ := bind_eq_ok.1 hread
  have hgreat : ¬ EncodableTempo (if tune.header.tempo = 0 then 120 else tune.header.tempo) := by
    rw [Except.ok.inj htempo, encodableTempo_iff]
    decide +kernel
  exact hgreat (h _ tune parsed)

end Tunebook
