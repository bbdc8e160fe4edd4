import Tunebook.Text.Utf8

/-!
# Texts are read back from their octets

`encodeChar` writes a character in one to four octets, and `decodeFrom` reads one
character at a time, whatever stands behind it.  So the reader undoes the writer,
character by character.

* `decodeFrom_cons`: one step of the reader, at a first octet whose followers are in range.
* `decodeFrom_encodeChar`: the octets of a character are read as that character.
* `decodeText_encodeText`: **the octets of a text are read as that text**.
-/

namespace Tunebook

/-! ### One step of the reader -/

theorem takeFollowers_zero (low high : Nat) (bytes : List UInt8) :
    takeFollowers 0 low high bytes = ([], bytes) := by
  rw [takeFollowers]

theorem takeFollowers_cons {n low high : Nat} {b : UInt8} (rest : List UInt8)
    (h : low ≤ b.toNat ∧ b.toNat ≤ high) :
    takeFollowers (n + 1) low high (b :: rest)
      = (b :: (takeFollowers n 0x80 0xbf rest).1, (takeFollowers n 0x80 0xbf rest).2) := by
  rw [takeFollowers, if_pos h]

theorem decodeFrom_cons {position count low high : Nat} {b : UInt8} {rest taken behind : List UInt8}
    (hb : followers? b = some (count, low, high))
    (ht : takeFollowers count low high rest = (taken, behind)) (hl : taken.length = count) :
    decodeFrom position (b :: rest)
      = (decodeFrom (position + count + 1) behind).map (charOf b taken :: ·) := by
  rw [decodeFrom]
  simp only [hb, ht, hl, if_true]
  cases decodeFrom (position + count + 1) behind <;> rfl

/-! ### First octets -/

theorem followers?_one {b : UInt8} (h : b.toNat < 0x80) : followers? b = some (0, 0, 0) := by
  simp only [followers?, if_pos h]

theorem followers?_two {b : UInt8} (h : 0xc2 ≤ b.toNat) (g : b.toNat < 0xe0) :
    followers? b = some (1, 0x80, 0xbf) := by
  simp only [followers?]
  rw [if_neg (by omega), if_neg (by omega), if_pos g]

theorem followers?_three {b : UInt8} (h : 0xe0 ≤ b.toNat) (g : b.toNat < 0xf0) {t : Nat}
    (hl : 0x80 ≤ t) (hh : t ≤ 0xbf) (long : b.toNat = 0xe0 → 0xa0 ≤ t)
    (scalar : b.toNat = 0xed → t ≤ 0x9f) :
    ∃ low high, followers? b = some (2, low, high) ∧ low ≤ t ∧ t ≤ high := by
  simp only [followers?]
  rw [if_neg (by omega), if_neg (by omega), if_neg (by omega)]
  by_cases h0 : b.toNat = 0xe0
  · rw [if_pos h0]
    exact ⟨_, _, rfl, long h0, hh⟩
  · by_cases hd : b.toNat = 0xed
    · rw [if_neg h0, if_pos hd]
      exact ⟨_, _, rfl, hl, scalar hd⟩
    · rw [if_neg h0, if_neg hd, if_pos g]
      exact ⟨_, _, rfl, hl, hh⟩

theorem followers?_four {b : UInt8} (h : 0xf0 ≤ b.toNat) (g : b.toNat ≤ 0xf4) {t : Nat}
    (hl : 0x80 ≤ t) (hh : t ≤ 0xbf) (long : b.toNat = 0xf0 → 0x90 ≤ t)
    (scalar : b.toNat = 0xf4 → t ≤ 0x8f) :
    ∃ low high, followers? b = some (3, low, high) ∧ low ≤ t ∧ t ≤ high := by
  simp only [followers?]
  rw [if_neg (by omega), if_neg (by omega), if_neg (by omega), if_neg (by omega), if_neg (by omega),
    if_neg (by omega)]
  by_cases h0 : b.toNat = 0xf0
  · rw [if_pos h0]
    exact ⟨_, _, rfl, long h0, hh⟩
  · by_cases h4 : b.toNat < 0xf4
    · rw [if_neg h0, if_pos h4]
      exact ⟨_, _, rfl, hl, hh⟩
    · rw [if_neg h0, if_neg h4, if_pos (by omega)]
      exact ⟨_, _, rfl, hl, scalar (by omega)⟩

/-! ### Characters -/

theorem octet_toNat {n : Nat} (h : n < 256) : (UInt8.ofNat n).toNat = n := by
  rw [UInt8.toNat_ofNat']
  omega

theorem charOf_nil (b : UInt8) : charOf b [] = Char.ofNat b.toNat := rfl

theorem charOf_one (b t : UInt8) :
    charOf b [t] = Char.ofNat ((b.toNat - 0xc0) * 64 + (t.toNat - 0x80)) := rfl

theorem charOf_two (b t u : UInt8) :
    charOf b [t, u] = Char.ofNat
      (((b.toNat - 0xe0) * 64 + (t.toNat - 0x80)) * 64 + (u.toNat - 0x80)) := rfl

theorem charOf_three (b t u v : UInt8) :
    charOf b [t, u, v] = Char.ofNat
      ((((b.toNat - 0xf0) * 64 + (t.toNat - 0x80)) * 64 + (u.toNat - 0x80)) * 64 +
      (v.toNat - 0x80)) := rfl

theorem decodeFrom_one {position n : Nat} (rest : List UInt8) (h : n < 0x80) :
    decodeFrom position (.ofNat n :: rest) = (decodeFrom (position + 1) rest).map
      (Char.ofNat n :: ·) := by
  have b := octet_toNat (n := n) (by omega)
  rw [decodeFrom_cons (followers?_one (by omega)) (takeFollowers_zero _ _ _) rfl, charOf_nil, b]

theorem decodeFrom_two {position a t : Nat} (rest : List UInt8) (ha : 2 ≤ a ∧ a < 32)
    (ht : t < 64) :
    decodeFrom position (.ofNat (0xc0 + a) :: .ofNat (0x80 + t) :: rest)
      = (decodeFrom (position + 2) rest).map (Char.ofNat (a * 64 + t) :: ·) := by
  have ba := octet_toNat (n := 0xc0 + a) (by omega)
  have bt := octet_toNat (n := 0x80 + t) (by omega)
  have taken := takeFollowers_cons (n := 0) (b := .ofNat (0x80 + t)) rest
    (show 0x80 ≤ _ ∧ _ ≤ 0xbf by omega)
  rw [takeFollowers_zero] at taken
  rw [decodeFrom_cons (followers?_two (by omega) (by omega)) taken rfl, charOf_one, ba, bt,
    Nat.add_sub_cancel_left, Nat.add_sub_cancel_left]

theorem decodeFrom_three {position a t u : Nat} (rest : List UInt8) (ha : a < 16) (ht : t < 64)
    (hu : u < 64) (long : a = 0 → 32 ≤ t) (scalar : a = 13 → t < 32) :
    decodeFrom position (.ofNat (0xe0 + a) :: .ofNat (0x80 + t) :: .ofNat (0x80 + u) :: rest)
      = (decodeFrom (position + 3) rest).map (Char.ofNat ((a * 64 + t) * 64 + u) :: ·) := by
  have ba := octet_toNat (n := 0xe0 + a) (by omega)
  have bt := octet_toNat (n := 0x80 + t) (by omega)
  have bu := octet_toNat (n := 0x80 + u) (by omega)
  obtain ⟨low, high, hf, hl, hh⟩ := followers?_three (b := .ofNat (0xe0 + a)) (t := 0x80 + t)
    (by omega) (by omega) (by omega) (by omega) (by omega) (by omega)
  have taken := takeFollowers_cons (n := 1) (b := .ofNat (0x80 + t)) (.ofNat (0x80 + u) :: rest)
    (show low ≤ _ ∧ _ ≤ high by omega)
  rw [takeFollowers_cons rest (by omega), takeFollowers_zero] at taken
  rw [decodeFrom_cons hf taken rfl, charOf_two, ba, bt, bu, Nat.add_sub_cancel_left,
    Nat.add_sub_cancel_left, Nat.add_sub_cancel_left]

theorem decodeFrom_four {position a t u v : Nat} (rest : List UInt8) (ha : a ≤ 4) (ht : t < 64)
    (hu : u < 64) (hv : v < 64) (long : a = 0 → 16 ≤ t) (scalar : a = 4 → t < 16) :
    decodeFrom position
        (.ofNat (0xf0 + a) :: .ofNat (0x80 + t) :: .ofNat (0x80 + u) :: .ofNat (0x80 + v) :: rest)
      = (decodeFrom (position + 4) rest).map
        (Char.ofNat (((a * 64 + t) * 64 + u) * 64 + v) :: ·) := by
  have ba := octet_toNat (n := 0xf0 + a) (by omega)
  have bt := octet_toNat (n := 0x80 + t) (by omega)
  have bu := octet_toNat (n := 0x80 + u) (by omega)
  have bv := octet_toNat (n := 0x80 + v) (by omega)
  obtain ⟨low, high, hf, hl, hh⟩ := followers?_four (b := .ofNat (0xf0 + a)) (t := 0x80 + t)
    (by omega) (by omega) (by omega) (by omega) (by omega) (by omega)
  have taken := takeFollowers_cons (n := 2) (b := .ofNat (0x80 + t))
    (.ofNat (0x80 + u) :: .ofNat (0x80 + v) :: rest) (show low ≤ _ ∧ _ ≤ high by omega)
  rw [takeFollowers_cons (b := .ofNat (0x80 + u)) _ (by omega), takeFollowers_cons rest (by omega),
    takeFollowers_zero] at taken
  rw [decodeFrom_cons hf taken rfl, charOf_three, ba, bt, bu, bv, Nat.add_sub_cancel_left,
    Nat.add_sub_cancel_left,
    Nat.add_sub_cancel_left, Nat.add_sub_cancel_left]

theorem decodeFrom_encodeChar (c : Char) (position : Nat) (rest : List UInt8) :
    decodeFrom position (encodeChar c ++ rest)
      = (decodeFrom (position + (encodeChar c).length) rest).map (c :: ·) := by
  have valid : c.toNat < 0xd800 ∨ (0xdfff < c.toNat ∧ c.toNat < 0x110000) := c.valid
  have back : Char.ofNat c.toNat = c := Char.ofNat_toNat c
  unfold encodeChar
  generalize c.toNat = n at valid back
  simp only [Nat.div_one]
  by_cases h1 : n < 0x80
  · rw [if_pos h1]
    exact (decodeFrom_one rest h1).trans (by rw [back]; rfl)
  · by_cases h2 : n < 0x800
    · rw [if_neg h1, if_pos h2]
      refine (decodeFrom_two rest (by omega) (Nat.mod_lt _ (by omega))).trans ?_
      rw [show n / 64 * 64 + n % 64 = n by omega, back]
      rfl
    · by_cases h3 : n < 0x10000
      · rw [if_neg h1, if_neg h2, if_pos h3]
        refine (decodeFrom_three rest (by omega) (Nat.mod_lt _ (by omega)) (Nat.mod_lt _ (by omega))
          (by omega) (by omega)).trans ?_
        rw [show (n / 4096 * 64 + n / 64 % 64) * 64 + n % 64 = n by omega, back]
        rfl
      · rw [if_neg h1, if_neg h2, if_neg h3]
        refine (decodeFrom_four rest (by omega) (Nat.mod_lt _ (by omega)) (Nat.mod_lt _ (by omega))
          (Nat.mod_lt _ (by omega)) (by omega) (by omega)).trans ?_
        rw [show ((n / 262144 * 64 + n / 4096 % 64) * 64 + n / 64 % 64) * 64 + n % 64 = n by omega,
          back]
        rfl

/-! ### Texts -/

theorem decodeFrom_encodeText (cs : List Char) (position : Nat) :
    decodeFrom position (encodeText cs) = .ok cs := by
  induction cs generalizing position with
  | nil => rw [encodeText, List.flatMap_nil, decodeFrom]
  | cons c rest ih =>
    rw [encodeText, List.flatMap_cons, decodeFrom_encodeChar]
    exact congrArg _ (ih _)

/-- **The octets of a text are read as that text.** -/
theorem decodeText_encodeText (cs : List Char) : decodeText (encodeText cs) = .ok cs :=
  decodeFrom_encodeText cs 0

end Tunebook
