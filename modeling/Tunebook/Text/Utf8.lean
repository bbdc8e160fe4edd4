import Tunebook.Fault

/-!
# Characters as octets

A character is written in one to four octets. Reading is strict: the first octet determines how many follow,
and neither overlong forms nor surrogates are accepted.

* `encodeChar`, `encodeText` write characters.
* `decodeText` reads octets or names the first octets that are no character, with their position.
-/

namespace Tunebook

def encodeChar (c : Char) : List UInt8 :=
  let n := c.toNat
  let tail (shift : Nat) : UInt8 := .ofNat (0x80 + n / shift % 64)
  if n < 0x80 then [.ofNat n]
  else if n < 0x800 then [.ofNat (0xc0 + n / 64), tail 1]
  else if n < 0x10000 then [.ofNat (0xe0 + n / 4096), tail 64, tail 1]
  else [.ofNat (0xf0 + n / 262144), tail 4096, tail 64, tail 1]

def encodeText (cs : List Char) : List UInt8 := cs.flatMap encodeChar

/-- How many octets follow a first octet, and the range of the next one; the octets after that range from
`0x80` to `0xbf`. -/
def followers? (b : UInt8) : Option (Nat × Nat × Nat) :=
  let n := b.toNat
  if n < 0x80 then some (0, 0, 0)
  else if n < 0xc2 then none
  else if n < 0xe0 then some (1, 0x80, 0xbf)
  else if n = 0xe0 then some (2, 0xa0, 0xbf)
  else if n = 0xed then some (2, 0x80, 0x9f)
  else if n < 0xf0 then some (2, 0x80, 0xbf)
  else if n = 0xf0 then some (3, 0x90, 0xbf)
  else if n < 0xf4 then some (3, 0x80, 0xbf)
  else if n = 0xf4 then some (3, 0x80, 0x8f)
  else none

def takeFollowers (count low high : Nat) (bytes : List UInt8) : List UInt8 × List UInt8 :=
  match count, bytes with
  | 0, rest => ([], rest)
  | _, [] => ([], [])
  | n + 1, b :: rest =>
    if low ≤ b.toNat ∧ b.toNat ≤ high then
      let (taken, behind) := takeFollowers n 0x80 0xbf rest
      (b :: taken, behind)
    else ([], b :: rest)

def leadBits (b : UInt8) : Nat → Nat
  | 0 => b.toNat
  | 1 => b.toNat - 0xc0
  | 2 => b.toNat - 0xe0
  | _ => b.toNat - 0xf0

def charOf (b : UInt8) (more : List UInt8) : Char :=
  Char.ofNat (more.foldl (fun n f => n * 64 + (f.toNat - 0x80)) (leadBits b more.length))

theorem takeFollowers_length (count low high : Nat) (bytes : List UInt8) :
    (takeFollowers count low high bytes).2.length ≤ bytes.length := by
  induction count generalizing low high bytes with
  | zero => simp [takeFollowers]
  | succ n ih =>
    cases bytes with
    | nil => simp [takeFollowers]
    | cons b rest =>
      unfold takeFollowers
      split
      · have h := ih 0x80 0xbf rest
        simp only [List.length_cons]
        omega
      · simp

def decodeFrom (position : Nat) : List UInt8 → Except Fault (List Char)
  | [] => .ok []
  | b :: rest =>
    match followers? b with
    | none => .error (.undecodable [b] position "invalid start byte")
    | some (count, low, high) =>
      let taken := takeFollowers count low high rest
      if taken.1.length = count then do
        let more ← decodeFrom (position + count + 1) taken.2
        .ok (charOf b taken.1 :: more)
      else if taken.2.isEmpty then
        .error (.undecodable (b :: taken.1) position "unexpected end of data")
      else .error (.undecodable (b :: taken.1) position "invalid continuation byte")
termination_by bytes => bytes.length
decreasing_by
  have h := takeFollowers_length count low high rest
  simp only [List.length_cons]
  omega

def decodeText (bytes : List UInt8) : Except Fault (List Char) := decodeFrom 0 bytes

end Tunebook
