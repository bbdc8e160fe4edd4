import Tunebook.Conversion
import Tunebook.Json.Basic

/-!
# Histories of conversions

A history is the list of the results recorded in it, from the oldest.

* `History.record`, `History.clear`, `History.get?` are its operations.
* `History.stats` counts results and averages the time they took.
* `History.exportJson` writes all results as indented JSON.
-/

namespace Tunebook

/-- The results recorded so far, from the oldest. -/
structure History where
  results : List Result := []
  deriving Repr, Inhabited

/-- What a history amounts to. -/
structure Stats where
  total : Nat
  successful : Nat
  failed : Nat
  successRate : Double
  averageDuration : Double
  last : Option Result
  deriving Repr, Inhabited

def quotient (num : Int) (den : Nat) : Except Fault Double :=
  let x := Double.ofSignedRatio num den
  if x.isFinite then .ok x else .error .quotientBeyondDouble

namespace History

def size (h : History) : Nat := h.results.length

def record (h : History) (r : Result) : History := ⟨h.results ++ [r]⟩

def clear (_ : History) : History := ⟨[]⟩

def get? (h : History) (index : Int) : Option Result :=
  if index < 0 then none else h.results[index.toNat]?

/-- The result with an index that is a dynamic value. A double is compared with the size, but it is no index. -/
def getOfValue (h : History) (index : Value) : Except Fault (Option Result) :=
  match index with
  | .double x =>
    if (Number.double x).isBelow 0 || !(Number.double x).isBelow h.size then .ok none
    else .error (.notPlace "list" index.kind)
  | _ =>
    match index.asInt? with
    | some n => .ok (h.get? n)
    | none => .error (.notComparable "<=" (Value.int 0).kind index.kind)

theorem get?_record (h : History) (r : Result) : (h.record r).get? h.size = some r := by
  simp [get?, record, size]

def convert (h : History) (c : Clock) (text : Source) (optimize settings : Value) : History × Result :=
  let r := Tunebook.convert c text optimize settings
  (h.record r, r)

end History

/-! ## Statistics -/

/-- The sum of a number and a dynamic value: integers stay integers, a double makes the sum one. -/
def addValue (total : Number) (v : Value) : Except Fault Number :=
  match total, v with
  | .double x, .double y => .ok (.double (x.add y))
  | .double x, _ =>
    match v.asInt? with
    | some n => do
      let y ← (Number.int n).toDouble
      .ok (.double (x.add y))
    | none => .error (.notOperable "+" "float" v.kind)
  | _, .double y => do
    let x ← total.toDouble
    .ok (.double (x.add y))
  | _, _ =>
    match total.toValue.asInt?, v.asInt? with
    | some m, some n => .ok (.int (m + n))
    | _, _ => .error (.notOperable "+" "int" v.kind)

def average (sum : Number) (count : Nat) : Except Fault Double :=
  match sum with
  | .double x => do
    let n ← (Number.int count).toDouble
    .ok (x.div n)
  | _ => quotient ((sum.toValue.asInt?).getD 0) count

namespace History

def durations (h : History) : List Value :=
  h.results.map fun r => (Mapping.field? "duration_ms" r.metadata).getD (.int 0)

def stats (h : History) : Except Fault Stats := do
  let total := h.size
  let successful := h.results.countP fun r => r.success
  if total = 0 then .ok ⟨0, 0, 0, .zero, .zero, none⟩
  else
    let share ← quotient successful total
    let sum ← h.durations.foldlM addValue (.int 0)
    let mean ← average sum total
    .ok ⟨total, successful, total - successful, share.mul (.ofInt 100), mean, h.results.getLast?⟩

end History

/-! ## Export -/

def Result.toValue (r : Result) : Value :=
  .map [(.text "success", .flag r.success), (.text "midi_size", .int r.midiSize),
    (.text "error", match r.error with
      | some e => .text e
      | none => .null),
    (.text "details", .list (r.details.map .text)), (.text "metadata", .map r.metadata),
    (.text "timestamp", .text r.timestamp)]

namespace History

def toJson (h : History) : Except Fault Json := (Value.list (h.results.map Result.toValue)).toJson

def exportJson (h : History) : Except Fault String := do
  let j ← h.toJson
  .ok j.indented

end History

end Tunebook
