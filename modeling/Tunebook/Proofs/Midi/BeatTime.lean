import Tunebook.Proofs.Double.Rational
import Tunebook.Proofs.Midi.TempoRange

/-!
# The time of a beat, exactly

The time of a beat is found in double precision: the tempo becomes a double, a minute is divided by it,
and the quotient is rounded to a microsecond.  The quotient has a small numerator, so the rounding of
the division never carries it over a half, and a tempo so great that it is no longer itself as a double
is far beyond those whose beats last a microsecond.

* `beatTimeAt_of_isExactly`: a minute over a double that is an integer, rounded once.
* `tempo_exact`: **the time of a beat is the exact one**, cut to its bounds, and a faster tempo never has
  a longer beat.
-/

namespace Tunebook

theorem minuteMicros_isExactly : minuteMicros.IsExactly 60000000 :=
  ⟨_, _, minuteMicros_eq, by norm_num⟩

theorem slowestTempo_isExactly : ∃ q, slowestTempo.IsExactly q ∧ q < 1 := by
  have h : slowestTempo = .finite false 4722366482869645 (-72) := by decide +kernel
  exact ⟨_, ⟨_, _, h, rfl⟩, by norm_num⟩

/-- **A minute over a positive integer is rounded like the exact quotient.** -/
theorem beatTimeAt_of_isExactly {x : Double} {k : ℕ} (hk : 0 < k) (hx : x.IsExactly k) :
    beatTimeAt x = .ok (beatTimeOf (nearest 60000000 k)) := by
  obtain ⟨q, hslowest, hq⟩ := slowestTempo_isExactly
  have hpos : (1 : ℚ) ≤ k := by exact_mod_cast hk
  have hfaster : slowestTempo.lt x = true := (hslowest.lt_iff hx).2 (lt_of_lt_of_le hq hpos)
  have hdiv : minuteMicros.div x = Double.ofRatio false 60000000 k :=
    minuteMicros_isExactly.div_eq hx (by linarith) hk (by norm_num)
  rw [beatTimeAt, if_pos hfaster, hdiv, Double.round_ofRatio (by decide) hk]
  rfl

theorem nearest_minute_of_fast {k : ℕ} (h : Nat.pow 2 53 ≤ k) : nearest 60000000 k = 0 := by
  have hpow : Nat.pow 2 53 = 9007199254740992 := by decide
  exact nearest_eq_zero (by omega)

section

variable {bpm : ℤ}

/-- **A positive tempo has the exact time of a beat**, rounded and cut. -/
theorem tempoOfValue_of_pos {n : ℕ} (hn : 0 < n) (finite : n < doubleBound) :
    tempoOfValue (.int n) = .ok (beatTimeOf (nearest 60000000 n)) := by
  have hfinite : (Double.ofInt n).isFinite = true := (Double.ofInt_isFinite_iff n).2 finite
  have hreal : realOfValue (.int n) = .ok (.ofInt n) := if_pos hfinite
  obtain ⟨k, hk, hexact, hkeep⟩ := Double.exists_isExactly_ofInt hn hfinite
  have hsame : nearest 60000000 k = nearest 60000000 n := by
    rcases hkeep with rfl | ⟨hgreat, hgreat'⟩
    · rfl
    · rw [nearest_minute_of_fast hgreat, nearest_minute_of_fast hgreat']
  rw [tempoOfValue, hreal, ok_bind, beatTimeAt_of_isExactly hk hexact, hsame]

theorem Double.not_lt_of_negative (m n : ℕ) (e f : ℤ) :
    Double.lt (.finite false m e) (.finite true n f) = false := by
  rw [Double.lt, Double.compare?, beq_eq_false_iff_ne]
  simp only [Bool.false_eq_true, if_false, if_true, Int.one_mul, ne_eq, Option.some.injEq,
    Int.compare_eq_lt]
  omega

/-- **A tempo that is not positive has the longest beat.** -/
theorem tempoOfValue_of_nonpos (h : bpm ≤ 0) (finite : bpm.natAbs < doubleBound) :
    tempoOfValue (.int bpm) = .ok 16777215 := by
  have hfinite : (Double.ofInt bpm).isFinite = true := (Double.ofInt_isFinite_iff bpm).2 finite
  have hreal : realOfValue (.int bpm) = .ok (.ofInt bpm) := if_pos hfinite
  have hslow : slowestTempo.lt (.ofInt bpm) = false := by
    by_cases hzero : bpm = 0
    · rw [hzero]
      decide +kernel
    · obtain ⟨q, ⟨m, e, hslowest, _⟩, _⟩ := slowestTempo_isExactly
      obtain ⟨n, f, hbpm, _⟩ := Double.ofInt_of_isFinite hzero hfinite
      have hsign : decide (bpm < 0) = true := decide_eq_true (by omega)
      rw [hslowest, hbpm, hsign]
      exact Double.not_lt_of_negative m n e f
  have hround : (minuteMicros.div slowestTempo).round = .ok 60000000000000 := by decide +kernel
  rw [tempoOfValue, hreal, ok_bind, beatTimeAt, hslow]
  simp only [Bool.false_eq_true, if_false, hround]
  rfl

theorem beatTimeOf_mono {m n : ℤ} (h : m ≤ n) : beatTimeOf m ≤ beatTimeOf n := by
  show min 16777215 (max 1 m.toNat) ≤ min 16777215 (max 1 n.toNat)
  omega

theorem val_beatTimeOf (n : ℕ) : ((beatTimeOf n).val : ℤ) = min 16777215 (max 1 (n : ℤ)) := by
  show ((min 16777215 (max 1 (n : ℤ).toNat) : ℕ) : ℤ) = _
  omega

/-- **The time of a beat is the exact one**, at every tempo that is finite as a double and so at all tempos
whose magnitude is below `2 ^ 1023`.  At a positive tempo it is the integer nearest to the exact quotient of
a minute by the tempo, the even one of two, cut to 24 bits and to one microsecond at least.  At a tempo of
zero or below it is the longest.  So a faster tempo never has a longer beat. -/
theorem tempo_exact (finite : bpm.natAbs < doubleBound) :
    ∃ beat : BeatTime, tempoOfValue (.int bpm) = .ok beat ∧
      (1 ≤ bpm → ∃ micros : ℤ, IsNearest (60000000 / bpm) micros ∧
        (beat.val : ℤ) = min 16777215 (max 1 micros)) ∧
      (bpm ≤ 0 → beat.val = 16777215) ∧
      ∀ faster : ℤ, bpm ≤ faster → faster.natAbs < doubleBound →
        ∃ beat', tempoOfValue (.int faster) = .ok beat' ∧ beat' ≤ beat := by
  have longest : ∀ beat : BeatTime, beat ≤ 16777215 := by
    intro beat
    exact Nat.le_of_lt_succ beat.isLt
  by_cases hslow : bpm ≤ 0
  · refine ⟨16777215, tempoOfValue_of_nonpos hslow finite, by omega, fun _ => rfl, ?_⟩
    intro faster _ hfinite
    obtain ⟨beat', hbeat'⟩ := tempoOfValue_int_ok hfinite
    exact ⟨beat', hbeat', longest beat'⟩
  · obtain ⟨n, rfl⟩ := Int.eq_ofNat_of_zero_le (show 0 ≤ bpm by omega)
    have hn : 0 < n := by omega
    refine ⟨beatTimeOf (nearest 60000000 n), tempoOfValue_of_pos hn finite, ?_, by omega, ?_⟩
    · intro _
      have hnear := isNearest_nearest 60000000 hn
      refine ⟨nearest 60000000 n, ?_, val_beatTimeOf _⟩
      simpa only [Int.cast_natCast, Nat.cast_ofNat] using hnear
    · intro faster hfaster hfinite
      obtain ⟨k, rfl⟩ := Int.eq_ofNat_of_zero_le (show 0 ≤ faster by omega)
      refine ⟨_, tempoOfValue_of_pos (by omega) hfinite, beatTimeOf_mono ?_⟩
      exact_mod_cast nearest_antitone 60000000 hn (show n ≤ k by omega)

/-- A beat of thirty-nine thousand and sixty-two microseconds and a half goes to the even neighbour. -/
theorem tempo_exact_half : (1536 : ℤ).natAbs < doubleBound ∧ tempoOfValue (.int 1536) = .ok 39062 := by
  have finite : (1536 : ℤ).natAbs < doubleBound := lt_doubleBound (by decide)
  refine ⟨finite, ?_⟩
  obtain ⟨beat, hbeat, exact, _⟩ := tempo_exact finite
  obtain ⟨micros, hnear, hval⟩ := exact (by decide)
  have hhalf : IsNearest (60000000 / (1536 : ℤ)) 39062 := by
    refine ⟨?_, fun _ => by decide⟩
    rw [abs_le]
    norm_num
  rw [hnear.unique hhalf] at hval
  have hbeat' : beat = 39062 := Fin.ext (by exact_mod_cast hval)
  rw [hbeat, hbeat']

end

end Tunebook
