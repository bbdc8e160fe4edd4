import Tunebook.Proofs.Double.Rational
import Tunebook.Proofs.TickClass

/-!
# Lengths in ticks, exactly

The ticks of a note value are found in double precision: its beats are multiplied by the ticks of a
beat, and the product is rounded to an integer.  A note value has a power of two of parts, so the
product has the mantissa of the resolution.  It is a double wherever the resolution is one, and
nothing is rounded before the end.

* `ticks_eq`: the ticks of a note value as a quotient, rounded once; `ticks_ok`: there are some at every
  resolution of a file; `ticksOfValues_name`: the same ticks come from the name.
* `ticks_exact`: **lengths in ticks are exact**, so they grow with the resolution and from one note
  value to the next, and the next longer note value is twice as long up to a tick.
* `ticks_ofLength_eq_zero_iff`: **which lengths of a tune are rounded to nothing**: at one tick a
  beat those that are played as eighths, and no others.
-/

namespace Tunebook

namespace TickClass

/-! ### The product -/

theorem parts_eq_two_pow (c : TickClass) : c.parts = 2 ^ c.parts.log2 := by
  cases c <;> decide

theorem log2_parts_le (c : TickClass) : c.parts.log2 ≤ 5 := by
  cases c <;> decide

theorem beats_isExactly (c : TickClass) : c.beats.IsExactly (c.parts / 8) := by
  have hsmall : c.parts < Nat.pow 2 53 := by cases c <;> decide
  have hvalue : (c.parts : ℚ) / (8 : ℕ) = c.parts * 2 ^ (-3 : ℤ) := by norm_num [div_eq_mul_inv]
  have hexact := Double.isExactly_ofRatio (by decide) hsmall (by decide) (by decide) hvalue
  rwa [Nat.cast_ofNat] at hexact

theorem beats_mul_isExactly (c : TickClass) {n : ℕ} (small : n < Nat.pow 2 53) :
    (c.beats.mul (.ofInt n)).IsExactly (c.parts / 8 * n) := by
  have hlog := c.log2_parts_le
  have hleast : Double.leastExponent = -1074 := rfl
  have hgreatest : Double.greatestExponent = 971 := rfl
  have hvalue : (c.parts : ℚ) / 8 * n = n * 2 ^ ((c.parts.log2 : ℤ) - 3) := by
    have hparts : (c.parts : ℚ) = 2 ^ c.parts.log2 := by exact_mod_cast c.parts_eq_two_pow
    rw [zpow_sub₀ two_ne_zero, zpow_natCast, ← hparts, mul_comm]
    norm_num
  exact c.beats_isExactly.mul (Double.isExactly_ofInt small) small (by omega) (by omega) hvalue

/-! ### The ticks -/

/-- **The ticks of a note value** are its parts times those of a beat over eight, rounded once. -/
theorem ticks_eq (c : TickClass) {n : ℕ} (pos : 0 < n) (small : n < Nat.pow 2 53) :
    c.ticks n = .ok (nearest (c.parts * n) 8) := by
  have hfinite : (n : ℤ).natAbs < doubleBound := lt_doubleBound (Nat.lt_trans small (by decide))
  have hreal : (Number.int n).toDouble = .ok (.ofInt n) := by rw [toDouble_int_eq, if_pos hfinite]
  have hproduct : (c.parts : ℚ) / 8 * n = (c.parts * n : ℕ) / (8 : ℕ) := by
    push_cast
    ring
  have hexact := c.beats_mul_isExactly small
  rw [hproduct] at hexact
  rw [ticks, beatsToTicks, if_neg (by omega), hreal, ok_bind]
  exact hexact.round_eq (isNearest_nearest _ (by decide))

/-- **At a resolution that a file can hold every note value lasts some ticks.** -/
theorem ticks_ok {resolution : ℤ} (pos : 0 < resolution) (held : resolution ≤ 32767)
    (c : TickClass) : ∃ ticks, c.ticks resolution = .ok ticks := by
  obtain ⟨n, rfl⟩ := Int.eq_ofNat_of_zero_le pos.le
  have hheld : n ≤ 32767 := by omega
  exact ⟨_, c.ticks_eq (by omega) (Nat.lt_of_le_of_lt hheld (by decide))⟩

theorem beatsToTicks_of_nonpos (beats : Number) {resolution : ℤ} (h : resolution ≤ 0) :
    beatsToTicks beats resolution = beatsToTicks beats usualResolution := by
  have husual : ¬usualResolution ≤ 0 := by decide
  rw [beatsToTicks.eq_def, beatsToTicks.eq_def beats usualResolution]
  simp only [if_pos h, if_neg husual]

/-- The name of a note value stands for it, at every resolution. -/
theorem ticksOfValues_name (c : TickClass) (resolution : ℤ) :
    ticksOfValues (.text c.name) (.int resolution) = c.ticks resolution := by
  have hcompared : Number.comparable (.int resolution) "<=" = .ok (.int resolution) :=
    Number.comparable_toValue (.int resolution) "<="
  rw [ticksOfValues, named_name, ok_bind, beatsToTicksOfValues, hcompared, ok_bind, ticks,
    beatsToTicksOfNumber]
  by_cases h : resolution ≤ 0
  · have hnone : (Number.int resolution).isNotPositive = true := decide_eq_true h
    rw [hnone, beatsToTicks_of_nonpos _ h]
    rfl
  · have hsome : (Number.int resolution).isNotPositive = false := decide_eq_false h
    rw [hsome]
    rfl

/-- A note value lasts so many ticks, if a beat has so many. -/
def Lasts (c : TickClass) (resolution ticks : ℤ) : Prop :=
  ticksOfValues (.text c.name) (.int resolution) = .ok ticks

section

variable {resolution : ℤ}

theorem exists_lasts (c : TickClass) (pos : 1 ≤ resolution) (small : resolution < 2 ^ 53) :
    ∃ ticks, c.Lasts resolution ticks ∧ IsNearest (c.parts * resolution / 8) ticks := by
  obtain ⟨n, rfl⟩ := Int.eq_ofNat_of_zero_le (show 0 ≤ resolution by omega)
  have small' : n < Nat.pow 2 53 := by exact_mod_cast small
  have hquotient : (c.parts * (n : ℤ) / 8 : ℚ) = (c.parts * n : ℕ) / (8 : ℕ) := by push_cast; rfl
  refine ⟨nearest (c.parts * n) 8, ?_, ?_⟩
  · rw [Lasts, ticksOfValues_name, c.ticks_eq (by omega) small']
  · rw [hquotient]
    exact isNearest_nearest _ (by decide)

/-- **Lengths in ticks are exact**, at every resolution below `2 ^ 53`: a note value of `k` eighths of a
beat lasts the integer nearest to `k / 8` of the resolution, the even one of two.  So it lasts just that
where it is an integer, a finer resolution gives it no fewer ticks, a longer note value has no fewer, and
the note value that is twice as long lasts twice the ticks, up to one. -/
theorem ticks_exact (c : TickClass) (pos : 1 ≤ resolution) (small : resolution < 2 ^ 53) :
    ∃ ticks, c.Lasts resolution ticks ∧ IsNearest (c.parts * resolution / 8) ticks ∧
      (8 ∣ c.parts * resolution → 8 * ticks = c.parts * resolution) ∧
      (∀ finer, resolution ≤ finer → finer < 2 ^ 53 →
        ∃ ticks', c.Lasts finer ticks' ∧ ticks ≤ ticks') ∧
      (∀ longer : TickClass, c.parts ≤ longer.parts →
        ∃ ticks', longer.Lasts resolution ticks' ∧ ticks ≤ ticks') ∧
      ∀ next : TickClass, next.parts = 2 * c.parts →
        ∃ ticks', next.Lasts resolution ticks' ∧ |2 * ticks - ticks'| ≤ 1 := by
  have hpos : (0 : ℚ) ≤ resolution := by exact_mod_cast (show 0 ≤ resolution by omega)
  obtain ⟨ticks, hlasts, hnear⟩ := c.exists_lasts pos small
  refine ⟨ticks, hlasts, hnear, ?_, ?_, ?_, ?_⟩
  · rintro ⟨whole, hwhole⟩
    have hexact : (c.parts * resolution / 8 : ℚ) = whole := by
      rw [div_eq_iff (by norm_num), mul_comm (whole : ℚ)]
      exact_mod_cast hwhole
    rw [hexact] at hnear
    rw [hnear.unique (.self whole), hwhole]
  · intro finer hfiner hsmall
    obtain ⟨ticks', hlasts', hnear'⟩ := c.exists_lasts (pos.trans hfiner) hsmall
    refine ⟨ticks', hlasts', hnear.mono hnear' ?_⟩
    have hcast : (resolution : ℚ) ≤ finer := by exact_mod_cast hfiner
    gcongr
  · intro longer hlonger
    obtain ⟨ticks', hlasts', hnear'⟩ := longer.exists_lasts pos small
    refine ⟨ticks', hlasts', hnear.mono hnear' ?_⟩
    gcongr
  · intro next hnext
    obtain ⟨ticks', hlasts', hnear'⟩ := next.exists_lasts pos small
    refine ⟨ticks', hlasts', hnear.abs_twice_sub_le ?_⟩
    have htwice : (2 * (c.parts * resolution / 8) : ℚ) = next.parts * resolution / 8 := by
      rw [hnext]
      push_cast
      ring
    rwa [htwice]

/-- Half of the greatest resolution is a tie, which goes to the even neighbour; twice that is one tick
more than a beat. -/
theorem ticks_exact_greatest :
    (1 : ℤ) ≤ 9007199254740991 ∧ (9007199254740991 : ℤ) < 2 ^ 53 ∧
      eighth.Lasts 9007199254740991 4503599627370496 ∧
      ∃ ticks, quarter.Lasts 9007199254740991 ticks ∧ |2 * 4503599627370496 - ticks| ≤ 1 := by
  have pos : (1 : ℤ) ≤ 9007199254740991 := by decide
  have small : (9007199254740991 : ℤ) < 2 ^ 53 := by decide
  obtain ⟨ticks, hlasts, hnear, _, _, _, hnext⟩ := ticks_exact eighth pos small
  have hhalf : IsNearest (eighth.parts * (9007199254740991 : ℤ) / 8) 4503599627370496 := by
    have hparts : eighth.parts = 4 := rfl
    refine ⟨?_, fun _ => by decide⟩
    rw [hparts, abs_le]
    norm_num
  obtain rfl := hnear.unique hhalf
  exact ⟨pos, small, hlasts, hnext quarter rfl⟩

end

/-- The note values and their eighths of a beat. -/
example : all.map (fun c => (c.name, c.parts)) =
    [("thirty-second", 1), ("sixteenth", 2), ("eighth", 4), ("quarter", 8), ("half", 16),
      ("whole", 32)] := by decide

/-! ### Lengths that are rounded to nothing -/

theorem isQuarters_int (length quarters : ℕ) :
    isQuarters (.int length) quarters = decide (length * 4 = quarters) := by
  have hcast : (length : ℤ) * 4 = quarters ↔ length * 4 = quarters := by exact_mod_cast Iff.rfl
  rw [isQuarters, ← decide_eq_decide.2 hcast]
  rfl

/-- A length of a tune has four parts for each unit if it is two, four or eight; all others are played
as one unit. -/
theorem parts_ofLength (length : ℕ) : (ofLength (.int length)).parts =
    if length ∈ [2, 4, 8] then 4 * length else 4 := by
  by_cases h : length ∈ [1, 2, 4, 8]
  · have hcases : length = 1 ∨ length = 2 ∨ length = 4 ∨ length = 8 := by simpa using h
    rcases hcases with rfl | rfl | rfl | rfl <;> decide
  · have hnone : all.find? (fun c => isQuarters (.int length) c.parts) = none := by
      rw [List.find?_eq_none]
      intro c _ hc
      rw [isQuarters_int, decide_eq_true_eq] at hc
      have hparts : length * 4 ∈ [1, 2, 4, 8, 16, 32] := by
        rw [hc]
        cases c <;> decide
      simp only [List.mem_cons, List.not_mem_nil, or_false] at h hparts
      omega
    rw [ofLength, hnone, if_neg fun hmem => h (List.mem_cons_of_mem 1 hmem)]
    rfl

/-- **Which lengths of a tune are rounded to nothing.**  At one tick a beat those that are played as
eighths, since half a tick goes to the even neighbour; all others last. -/
theorem ticks_ofLength_eq_zero_iff {n length ticks : ℕ} (pos : 0 < n) (small : n < Nat.pow 2 53)
    (h : (ofLength (.int length)).ticks n = .ok ticks) :
    ticks = 0 ↔ n = 1 ∧ length ∉ [2, 4, 8] := by
  rw [ticks_eq _ pos small] at h
  obtain rfl : nearest ((ofLength (.int length)).parts * n) 8 = ticks :=
    Int.ofNat.inj (Except.ok.inj h)
  rw [nearest_eq_zero_iff (by decide), parts_ofLength]
  split
  · next hmem =>
    have hlength : 2 ≤ length := by
      simp only [List.mem_cons, List.not_mem_nil, or_false] at hmem
      omega
    have hlong : 4 * 2 * 1 ≤ 4 * length * n := Nat.mul_le_mul (Nat.mul_le_mul_left 4 hlength) pos
    exact iff_of_false (by omega) fun hvanishes => hvanishes.2 hmem
  · next hmem =>
    constructor
    · intro hshort
      exact ⟨by omega, hmem⟩
    · rintro ⟨rfl, _⟩
      decide

end TickClass

end Tunebook
