import Tunebook.Json.Reader

/-!
# Quoted texts are read back

A text is written one character after another.  Most characters stand for themselves, some
have a name behind a backslash, and every other one is written as a UTF-16 unit, or as two
of them where it lies beyond these.  The reader takes the text for pieces of these three
kinds and puts the units that belong together into one character.  A surrogate may find a
partner that it did not have, so only whole texts are read back.

* `readPieces?_unit`, `readPieces?_named`, `readPieces?_plain`: one step of the reader.
* `Spells`: the pieces of a character, wherever it stands.
* `exists_spells`: every character is read as pieces that spell it.
* `readString?_escaped`: **a quoted text is read as that text.**
-/

namespace Tunebook.Json

/-! ### Units -/

theorem hexValue?_digitChar_all : ∀ d, d < 16 → hexValue? (Nat.digitChar d) = some d := by decide

theorem hexValue?_digitChar {d : Nat} (h : d < 16) : hexValue? (Nat.digitChar d) = some d :=
  hexValue?_digitChar_all d h

theorem hexDigits_four (n : Nat) : hexDigits n 4 =
    [Nat.digitChar (n / 4096 % 16), Nat.digitChar (n / 256 % 16), Nat.digitChar (n / 16 % 16),
      Nat.digitChar (n % 16)] := by
  simp [hexDigits, Nat.div_div_eq_div_mul]

theorem unitOf?_hexDigits {n : Nat} (h : n < 65536) :
    unitOf? (Nat.digitChar (n / 4096 % 16)) (Nat.digitChar (n / 256 % 16))
      (Nat.digitChar (n / 16 % 16)) (Nat.digitChar (n % 16)) = some n := by
  have hn : ((n / 4096 % 16 * 16 + n / 256 % 16) * 16 + n / 16 % 16) * 16 + n % 16 = n := by omega
  simp only [unitOf?, hexValue?_digitChar (Nat.mod_lt _ (by decide : 0 < 16)), bind, Option.bind, hn]

/-! ### One step of the reader -/

-- the equations of both functions are made here, once for all proofs below
attribute [local simp] readPieces? pointsOf

theorem readPieces?_quote (rest : List Char) : readPieces? ('"' :: rest) = some ([], rest) := by
  simp

/-- Reads a unit and what stands behind it. -/
theorem readPieces?_unit {n : Nat} (h : n < 65536) (rest : List Char) :
    readPieces? (escapedUnit n ++ rest)
      = (readPieces? rest).map fun p => (.unit n :: p.1, p.2) := by
  rw [escapedUnit, hexDigits_four]
  simp only [List.cons_append, List.nil_append, readPieces?, unitOf?_hexDigits h]
  cases readPieces? rest <;> rfl

/-- Reads a character that is named behind a backslash. -/
theorem readPieces?_named {e c : Char} (h : escaped? e = some c) (rest : List Char) :
    readPieces? ('\\' :: e :: rest) = (readPieces? rest).map fun p => (.char c :: p.1, p.2) := by
  have hu : e ≠ 'u' := by
    rintro rfl
    cases h
  rw [readPieces?]
  · rw [h]
    cases readPieces? rest <;> rfl
  · simp [hu]

/-- Reads a character that stands for itself. -/
theorem readPieces?_plain {c : Char} (hq : c ≠ '"') (hb : c ≠ '\\') (hc : 0x20 ≤ c.toNat)
    (rest : List Char) :
    readPieces? (c :: rest) = (readPieces? rest).map fun p => (.char c :: p.1, p.2) := by
  have hplain : ¬ (c = '\\' ∨ c.toNat < 0x20) := by
    rw [not_or]
    exact ⟨hb, by omega⟩
  rw [readPieces?]
  · rw [if_neg hplain]
    cases readPieces? rest <;> rfl
  · simpa using hq
  · simp [hb]
  · simp [hb]

/-! ### Characters and their pieces -/

theorem pointsOf_unit {n : Nat} (h : n < 0xd800 ∨ 0xdc00 ≤ n) (more : List Piece) :
    pointsOf (.unit n :: more) = .ofCode n :: pointsOf more := by
  have hpair (m : Nat) : ¬ (0xd800 ≤ n ∧ n < 0xdc00 ∧ 0xdc00 ≤ m ∧ m < 0xe000) := by omega
  cases more with
  | nil => rfl
  | cons p rest =>
    cases p with
    | char c => rfl
    | unit m => rw [pointsOf, if_neg (hpair m)]

theorem pointsOf_pair {n : Nat} (h : n < 0x100000) (more : List Piece) :
    pointsOf (.unit (0xd800 + n / 0x400) :: .unit (0xdc00 + n % 0x400) :: more)
      = .char (Char.ofNat (0x10000 + n)) :: pointsOf more := by
  have hn : 0x10000 + (0xd800 + n / 0x400 - 0xd800) * 0x400 + (0xdc00 + n % 0x400 - 0xdc00)
      = 0x10000 + n := by
    omega
  rw [pointsOf, if_pos (by omega), hn]

/-- Pieces spell a character: they are what is read of it, and it is what is made of them. -/
structure Spells (ps : List Piece) (c : Char) : Prop where
  reads : ∀ rest, readPieces? (escapedChar c ++ rest)
    = (readPieces? rest).map fun p => (ps ++ p.1, p.2)
  points : ∀ more, pointsOf (ps ++ more) = .char c :: pointsOf more

theorem spells_named {e c : Char} (h : escaped? e = some c) (hc : escapedChar c = ['\\', e]) :
    Spells [.char c] c := by
  refine ⟨?_, fun _ => rfl⟩
  intro rest
  rw [hc]
  exact readPieces?_named h rest

/-- **Every character is read as pieces that spell it.** -/
theorem exists_spells (c : Char) : ∃ ps, Spells ps c := by
  have valid : c.toNat < 0xd800 ∨ (0xdfff < c.toNat ∧ c.toNat < 0x110000) := c.valid
  by_cases hname : c ∈ ['"', '\\', '\n', '\r', '\t', '\x08', '\x0c']
  · simp only [List.mem_cons, List.not_mem_nil, or_false] at hname
    refine ⟨[.char c], ?_⟩
    rcases hname with rfl | rfl | rfl | rfl | rfl | rfl | rfl
    · exact spells_named (e := '"') rfl rfl
    · exact spells_named (e := '\\') rfl rfl
    · exact spells_named (e := 'n') rfl rfl
    · exact spells_named (e := 'r') rfl rfl
    · exact spells_named (e := 't') rfl rfl
    · exact spells_named (e := 'b') rfl rfl
    · exact spells_named (e := 'f') rfl rfl
  · simp only [List.mem_cons, List.not_mem_nil, or_false, not_or] at hname
    obtain ⟨hq, hb, hn, hr, ht, h8, hf⟩ := hname
    have hform : escapedChar c = if 0x20 ≤ c.toNat ∧ c.toNat < 0x7f then [c]
        else if c.toNat < 0x10000 then escapedUnit c.toNat
        else escapedUnit (0xd800 + (c.toNat - 0x10000) / 0x400)
          ++ escapedUnit (0xdc00 + (c.toNat - 0x10000) % 0x400) := by
      rw [escapedChar, if_neg (by simp [hq, hb]), if_neg hn, if_neg hr, if_neg ht, if_neg h8,
        if_neg hf]
    by_cases hprint : 0x20 ≤ c.toNat ∧ c.toNat < 0x7f
    · refine ⟨[.char c], ?_, fun _ => rfl⟩
      intro rest
      rw [hform, if_pos hprint]
      exact readPieces?_plain hq hb hprint.1 rest
    · by_cases hsmall : c.toNat < 0x10000
      · refine ⟨[.unit c.toNat], ?_, ?_⟩
        · intro rest
          rw [hform, if_neg hprint, if_pos hsmall]
          exact readPieces?_unit hsmall rest
        · intro more
          have hchar := pointsOf_unit (n := c.toNat) (by omega) more
          rw [CodePoint.ofCode_toNat] at hchar
          exact hchar
      · refine ⟨[.unit (0xd800 + (c.toNat - 0x10000) / 0x400),
          .unit (0xdc00 + (c.toNat - 0x10000) % 0x400)], ?_, ?_⟩
        · intro rest
          rw [hform, if_neg hprint, if_neg hsmall, List.append_assoc,
            readPieces?_unit (by omega), readPieces?_unit (by omega), Option.map_map]
          rfl
        · intro more
          have hchar := pointsOf_pair (n := c.toNat - 0x10000) (by omega) more
          rw [show 0x10000 + (c.toNat - 0x10000) = c.toNat by omega, Char.ofNat_toNat] at hchar
          exact hchar

/-! ### Texts -/

theorem exists_pieces (cs behind : List Char) :
    ∃ ps, readPieces? (cs.flatMap escapedChar ++ '"' :: behind) = some (ps, behind) ∧
      pointsOf ps = cs.map .char := by
  induction cs with
  | nil => exact ⟨[], readPieces?_quote behind, rfl⟩
  | cons c rest ih =>
    obtain ⟨ps, hread, hpoints⟩ := ih
    obtain ⟨p, hp⟩ := exists_spells c
    refine ⟨p ++ ps, ?_, ?_⟩
    · rw [List.flatMap_cons, List.append_assoc, hp.reads, hread]
      rfl
    · rw [hp.points, hpoints, List.map_cons]

theorem flatMap_escapedPoint (s : String) :
    (Wording.whole s).points.flatMap escapedPoint = s.toList.flatMap escapedChar := by
  rw [Wording.points, List.flatMap_map]
  rfl

/-- **A quoted text is read as that text**, whatever stands behind it. -/
theorem readString?_escaped (s : String) (behind : List Char) :
    readString? ((Wording.whole s).points.flatMap escapedPoint ++ '"' :: behind) = some (.whole s, behind) := by
  obtain ⟨ps, hread, hpoints⟩ := exists_pieces s.toList behind
  rw [flatMap_escapedPoint, readString?, hread, Option.map_some, hpoints]
  exact congrArg (fun w => some (w, behind)) (Wording.ofPoints_points (.whole s))

end Tunebook.Json
