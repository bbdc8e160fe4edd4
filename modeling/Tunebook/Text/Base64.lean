/-!
# Octets in base 64

Three octets are written as four characters of six bits each. Where the last group is short, equals signs fill it
up; they end the text. Characters outside the alphabet are passed over.

* `readBase64?` reads a text, unless its last group is not complete.
* `readGroup?_of_foreign`: a character outside the alphabet changes nothing.
-/

namespace Tunebook

def base64Value? (c : Char) : Option Nat :=
  if 'A' ≤ c ∧ c ≤ 'Z' then some (c.toNat - 'A'.toNat)
  else if 'a' ≤ c ∧ c ≤ 'z' then some (c.toNat - 'a'.toNat + 26)
  else if '0' ≤ c ∧ c ≤ '9' then some (c.toNat - '0'.toNat + 52)
  else if c = '+' then some 62
  else if c = '/' then some 63
  else none

/-- Reads on behind some characters of a group: how many there were, the bits of the last one that are left over,
and how many equals signs came after it. -/
def readGroup? (place left fills : Nat) : List Char → Option (List UInt8)
  | [] => if place = 0 then some [] else none
  | c :: rest =>
    if c = '=' then
      if place < 2 then readGroup? place left fills rest
      else if 4 ≤ place + fills + 1 then some []
      else readGroup? place left (fills + 1) rest
    else
      match base64Value? c with
      | none => readGroup? place left fills rest
      | some v =>
        match place with
        | 0 => readGroup? 1 v 0 rest
        | 1 => (readGroup? 2 (v % 16) 0 rest).map (.ofNat (left * 4 + v / 16) :: ·)
        | 2 => (readGroup? 3 (v % 4) 0 rest).map (.ofNat (left * 16 + v / 4) :: ·)
        | _ => (readGroup? 0 0 0 rest).map (.ofNat (left * 64 + v) :: ·)

def readBase64? (cs : List Char) : Option (List UInt8) := readGroup? 0 0 0 cs

/-- A character outside the alphabet is passed over. -/
theorem readGroup?_of_foreign {c : Char} (hc : c ≠ '=') (h : base64Value? c = none) (place left fills : Nat)
    (rest : List Char) : readGroup? place left fills (c :: rest) = readGroup? place left fills rest := by
  rw [readGroup?, if_neg hc, h]

end Tunebook
