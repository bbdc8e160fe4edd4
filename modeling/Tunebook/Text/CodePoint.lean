import Tunebook.Text.LowerCase
import Tunebook.Text.Quoted
import Tunebook.Text.Utf8

/-!
# Texts with surrogates

A text is a sequence of code points. Nearly all of them are characters; a surrogate is half of a pair that would
make up one. A text that holds a surrogate is torn: it can be compared and quoted, but it has no octets.

* `Wording` is any text, whole or torn; `Wording.ofPoints` makes it of code points, `Wording.points` takes it apart.
* `Wording.encode` writes a text as octets, or says where it is torn.
-/

namespace Tunebook

/-- A code point: a character, or one of the 2048 surrogates. -/
inductive CodePoint where
  | char (c : Char)
  | half (h : Fin 2048)
  deriving DecidableEq, Repr, Inhabited

namespace CodePoint

def code : CodePoint → Nat
  | char c => c.toNat
  | half h => 0xd800 + h

def ofCode (n : Nat) : CodePoint :=
  if h : 0xd800 ≤ n ∧ n < 0xe000 then half ⟨n - 0xd800, by omega⟩ else char (Char.ofNat n)

theorem ofCode_toNat (c : Char) : ofCode c.toNat = char c := by
  have valid : c.toNat < 0xd800 ∨ (0xdfff < c.toNat ∧ c.toNat < 0x110000) := c.valid
  rw [ofCode, dif_neg (by omega), Char.ofNat_toNat]

def isHalf : CodePoint → Bool
  | char _ => false
  | half _ => true

def char? : CodePoint → Option Char
  | char c => some c
  | half _ => none

def quoted (quote : Char) : CodePoint → List Char
  | char c => quotedChar quote c
  | half h => '\\' :: 'u' :: hexDigits (half h).code 4

end CodePoint

def chars? (points : List CodePoint) : Option (List Char) := points.mapM CodePoint.char?

structure TornText where
  points : List CodePoint
  torn : points.any CodePoint.isHalf = true
  deriving DecidableEq, Repr

namespace TornText

def quoted (t : TornText) : String :=
  let quote := if t.points.contains (.char '\'') && !t.points.contains (.char '"') then '"' else '\''
  String.ofList (quote :: (t.points.flatMap (CodePoint.quoted quote) ++ [quote]))

/-- Why a torn text has no octets: the first surrogates that follow one another, and their position. -/
def fault (t : TornText) : Fault :=
  let whole := t.points.takeWhile fun p => !p.isHalf
  let halves := (t.points.drop whole.length).takeWhile CodePoint.isHalf
  .unencodable (halves.map CodePoint.code) whole.length

end TornText

/-- A text. -/
inductive Wording where
  | whole (s : String)
  | torn (t : TornText)
  deriving DecidableEq, Repr

instance : Inhabited Wording := ⟨.whole ""⟩

instance : Coe String Wording := ⟨.whole⟩

namespace Wording

def ofPoints (points : List CodePoint) : Wording :=
  if h : points.any CodePoint.isHalf = true then torn ⟨points, h⟩
  else whole (String.ofList (points.filterMap CodePoint.char?))

def points : Wording → List CodePoint
  | whole s => s.toList.map .char
  | torn t => t.points

def encode : Wording → Except Fault (List UInt8)
  | whole s => .ok (encodeText s.toList)
  | torn t => .error t.fault

def isWhole : Wording → Bool
  | whole _ => true
  | torn _ => false

theorem ofPoints_points (w : Wording) : ofPoints w.points = w := by
  cases w with
  | whole s =>
    have hwhole : (s.toList.map CodePoint.char).any CodePoint.isHalf = false := by simp [CodePoint.isHalf]
    have hchars : (s.toList.map CodePoint.char).filterMap CodePoint.char? = s.toList := by
      simp [List.filterMap_map, Function.comp_def, CodePoint.char?]
    rw [ofPoints, points, dif_neg (by simp [hwhole]), hchars, String.ofList_toList]
  | torn t => rw [ofPoints, points, dif_pos t.torn]

end Wording

/-- Code points without the case of their letters. A surrogate is no letter, so that words end at it. -/
def lowerPoints (points : List CodePoint) : List CodePoint :=
  (points.splitBy fun p q => p.isHalf == q.isHalf).flatMap fun run =>
    match chars? run with
    | some cs => (lowerText cs).map .char
    | none => run

end Tunebook
