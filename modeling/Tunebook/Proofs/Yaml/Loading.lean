import Tunebook.Proofs.References
import Tunebook.Proofs.Yaml.Parsing
import Tunebook.Yaml.Load

/-!
# What can go wrong when a text is loaded

A text that is scanned and made into nodes may still have no value: a scalar may have a tag or a form that
its content does not live up to.  Each kind of scalar has its own causes.

* `ValueFault`: the faults of scalars without a value.
* `yieldsLeaf_intValue`, `yieldsLeaf_stampValue`, `yieldsLeaf_scalarValue`: the kinds of scalars.
* `Making.makes_make`, `Making.makes_complete`, `Making.makes_completeLevels`: one node, one collection and
  all levels of a document, of which `Making.HoldsLeaves` is the invariant.
* `Making.isClosed_valueOf`: the value of a node refers to the collections around it only.
* `yields_load`: **loading a text meets faults of scanning and of scalars only**, and its value is closed.
* `mem_loadCategories_iff`: the categories under which these are filed are exactly seven.
-/

namespace Tunebook.Yaml

/-- The faults of scalars without a value. -/
inductive ValueFault : Fault → Prop
  | notInteger (base : Nat) (shown : String) : ValueFault (.notInteger base shown)
  | tooManyDigits (count : Nat) : ValueFault (.tooManyDigits count)
  | emptyNumber : ValueFault .emptyNumber
  | notNumber (shown : String) : ValueFault (.notNumber shown)
  | integerBeyondDouble : ValueFault .integerBeyondDouble
  | unknownKey (shown : String) : ValueFault (.unknownKey shown)
  | noTimestamp : ValueFault .noTimestamp
  | notMatchable (kind : String) : ValueFault (.notMatchable kind)
  | yearOutOfRange (year : Nat) : ValueFault (.yearOutOfRange year)
  | monthOutOfRange : ValueFault .monthOutOfRange
  | dayOutOfRange : ValueFault .dayOutOfRange
  | hourOutOfRange : ValueFault .hourOutOfRange
  | minuteOutOfRange : ValueFault .minuteOutOfRange
  | secondOutOfRange : ValueFault .secondOutOfRange
  | offsetOutOfRange (shown : String) : ValueFault (.offsetOutOfRange shown)
  | endless : ValueFault .endless

/-! ## Numbers -/

theorem valueFault_of_readInteger {base : Nat} {cs : List Char} {f : Fault}
    (h : readInteger base cs = .error f) : ValueFault f := by
  rw [readInteger] at h
  dsimp only at h
  split at h
  · cases h
    exact .notInteger _ _
  · split_ifs at h with hlong hwhole
    · cases h
      exact .tooManyDigits _
    · cases h
      exact .notInteger _ _

theorem valueFault_of_integerOfPoints {base : Nat} {points : List CodePoint} {f : Fault}
    (h : integerOfPoints base points = .error f) : ValueFault f := by
  rw [integerOfPoints] at h
  split at h
  · exact valueFault_of_readInteger h
  · split at h
    · cases h
      exact .tooManyDigits _
    · cases h
      exact .notInteger _ _

theorem valueFault_of_readReal {cs : List Char} {f : Fault} (h : readReal cs = .error f) :
    ValueFault f := by
  rw [readReal] at h
  split at h
  · cases h
  · cases h
    exact .notNumber _

theorem valueFault_of_realOfPoints {points : List CodePoint} {f : Fault}
    (h : realOfPoints points = .error f) : ValueFault f := by
  rw [realOfPoints] at h
  split at h
  · exact valueFault_of_readReal h
  · cases h
    exact .notNumber _

theorem valueFault_of_toDouble {n : Int} {f : Fault} (h : (Number.int n).toDouble = .error f) :
    ValueFault f := by
  rw [Number.toDouble] at h
  generalize Double.ofInt n = x at h
  split at h
  · cases h
  · cases h
    exact .integerBeyondDouble

theorem meets_splitSign (points : List CodePoint) : Meets ValueFault (splitSign points) := by
  rw [splitSign.eq_def]
  split
  · exact .ok trivial
  · exact .ok trivial
  · exact .fault .emptyNumber
  · exact .ok trivial

theorem meets_parts {α : Type} {read : List CodePoint → Except Fault α}
    (h : ∀ {points f}, read points = .error f → ValueFault f) (parts : List (List CodePoint)) :
    Meets ValueFault (lift (parts.mapM read)) := by
  refine yields_lift fun f hf => ?_
  obtain ⟨cs, _, hcs⟩ := mapM_eq_error hf
  exact h hcs

theorem meets_unsignedInt (points : List CodePoint) : Meets ValueFault (unsignedInt points) := by
  have hread : ∀ base points, Meets ValueFault (lift (integerOfPoints base points)) :=
    fun base points => yields_lift fun f hf => valueFault_of_integerOfPoints hf
  rw [unsignedInt.eq_def]
  split
  · exact .fault .emptyNumber
  · exact .ok trivial
  · exact hread _ _
  · exact hread _ _
  · exact hread _ _
  · refine .ite (fun _ => ?_) fun _ => hread _ _
    exact (meets_parts valueFault_of_integerOfPoints _).bind fun _ _ => .ok trivial

/-- A step of reading yields a value that holds no other one, and meets faults of values only. -/
abbrev YieldsLeaf (x : Reading Value) : Prop := Yields ValueFault (fun v => v.isLeaf = true) x

theorem yieldsLeaf_intValue (content : Wording) : YieldsLeaf (intValue content) := by
  rw [intValue]
  refine (meets_splitSign _).bind fun _ _ => ?_
  exact (meets_unsignedInt _).bind fun _ _ => .ok rfl

theorem meets_sixtiethSum (sum : Double) (weight : Int) (parts : List Double) :
    Meets ValueFault (sixtiethSum sum weight parts) := by
  induction parts generalizing sum weight with
  | nil => exact .ok trivial
  | cons part rest ih =>
    rw [sixtiethSum]
    exact (yields_lift fun f hf => valueFault_of_toDouble hf).bind fun _ _ => ih _ _

theorem meets_unsignedFloat (points : List CodePoint) : Meets ValueFault (unsignedFloat points) := by
  rw [unsignedFloat]
  refine .ite (fun _ => .ok trivial) fun _ => .ite (fun _ => ?_) fun _ => ?_
  · exact (meets_parts valueFault_of_realOfPoints _).bind fun _ _ => meets_sixtiethSum _ _ _
  · exact yields_lift fun f hf => valueFault_of_realOfPoints hf

theorem yieldsLeaf_floatValue (content : Wording) : YieldsLeaf (floatValue content) := by
  rw [floatValue]
  refine (meets_splitSign _).bind fun _ _ => ?_
  refine .ite (fun _ => .ok rfl) fun _ => ?_
  exact (meets_unsignedFloat _).bind fun _ _ => .ok rfl

/-! ## Other scalars -/

theorem yieldsLeaf_boolValue (content : Wording) : YieldsLeaf (boolValue content) := by
  rw [boolValue]
  split
  · split
    · exact .ok rfl
    · exact .fault (.unknownKey _)
  · exact .fault (.unknownKey _)

theorem yieldsLeaf_binaryValue (content : Wording) : YieldsLeaf (binaryValue content) := by
  cases content with
  | torn t => exact .malformed
  | whole s =>
    rw [binaryValue]
    refine .ite (fun _ => ?_) fun _ => .malformed
    split
    · exact .ok rfl
    · exact .malformed

theorem valueFault_of_date {year month day : Nat} {f : Fault}
    (h : Date.make year month day = .error f) : ValueFault f := by
  rw [Date.make] at h
  split_ifs at h with hyear hmonth hday
  · cases h
    exact .yearOutOfRange _
  · cases h
    exact .monthOutOfRange
  · cases h
    exact .dayOutOfRange

theorem valueFault_of_moment {date : Date} {hour minute second microsecond : Nat} {offset : Option Int}
    {f : Fault} (h : Moment.make date hour minute second microsecond offset = .error f) :
    ValueFault f := by
  rw [Moment.make] at h
  split_ifs at h with hhour hminute hsecond
  · cases h
    exact .hourOutOfRange
  · cases h
    exact .minuteOutOfRange
  · cases h
    exact .secondOutOfRange

theorem meets_offsetMinutes (negative : Bool) (hours minutes : List Char) :
    Meets ValueFault (offsetMinutes negative hours minutes) := by
  rw [offsetMinutes]
  exact .ite (fun _ => .fault (.offsetOutOfRange _)) fun _ => .ok trivial

theorem yieldsLeaf_stampValue (content : Wording) : YieldsLeaf (stampValue content) := by
  rw [stampValue]
  split
  · exact .fault .noTimestamp
  · next fields _ =>
    have hdate : Meets ValueFault (lift (Date.make (decimalValue fields.year) (decimalValue fields.month)
        (decimalValue fields.day))) := yields_lift fun f hf => valueFault_of_date hf
    dsimp only
    split
    · exact hdate.map fun _ _ => rfl
    · next hour minute second fraction _ =>
      have hmoment : ∀ offset : Option Int, YieldsLeaf (do
          let date ← lift (Date.make (decimalValue fields.year) (decimalValue fields.month)
            (decimalValue fields.day))
          let m ← lift (Moment.make date (decimalValue hour) (decimalValue minute) (decimalValue second)
            (microseconds fraction) offset)
          .ok (Value.moment m)) := by
        intro offset
        refine hdate.bind fun date _ => ?_
        exact (yields_lift fun f hf => valueFault_of_moment hf).bind fun _ _ => .ok rfl
      split
      · exact hmoment none
      · exact hmoment (some 0)
      · next negative hours minutes _ =>
        have hoffset : Meets ValueFault ((offsetMinutes negative hours minutes).map some) :=
          (meets_offsetMinutes _ _ _).map fun _ _ => trivial
        exact hoffset.bind fun offset _ => hmoment offset

/-- **A scalar has a value that holds no other one**, or fails for one of the causes of scalars. -/
theorem yieldsLeaf_scalarValue (tag : Tag) (content : Wording) : YieldsLeaf (scalarValue tag content) := by
  cases tag with
  | null => exact .ok rfl
  | bool => exact yieldsLeaf_boolValue content
  | int => exact yieldsLeaf_intValue content
  | float => exact yieldsLeaf_floatValue content
  | binary => exact yieldsLeaf_binaryValue content
  | timestamp => exact yieldsLeaf_stampValue content
  | str => exact .ok (Value.isLeaf_ofWording content)
  | _ => exact .malformed

/-! ## Nodes -/

namespace Nodes

theorem meets_sources (ns : Nodes) (i : Nat) : Meets ValueFault (ns.sources i) := by
  rw [sources]
  split
  · exact .ok trivial
  · exact .ite (fun _ => .ok trivial) fun _ => .malformed
  · exact .malformed

theorem meets_flatten (budget : Nat) (ns : Nodes) (i : Nat) : Meets ValueFault (flatten budget ns i) := by
  induction budget generalizing ns i with
  | zero => exact .ok trivial
  | succ budget ih =>
    rw [flatten]
    split
    · exact .ok trivial
    · refine (meets_sources _ _).bind fun sources _ => ?_
      refine (Yields.foldlM (fun ns _ i _ => ih ns i) trivial).bind fun _ _ => ?_
      exact (ih _ _).bind fun _ _ => .ok trivial

end Nodes

namespace Making

theorem meets_contentOf (ns : Nodes) (budget i : Nat) : Meets ValueFault (contentOf ns budget i) := by
  induction budget generalizing i with
  | zero => exact .fault .endless
  | succ budget ih =>
    rw [contentOf]
    split
    · exact .ok trivial
    · split
      · exact ih _
      · exact .malformed
    · exact .malformed

theorem yieldsLeaf_plainValue (m : Making) (i : Nat) : YieldsLeaf (m.plainValue i) := by
  rw [plainValue]
  refine (meets_contentOf _ _ _).bind fun content _ => ?_
  exact .ite (fun _ => .fault (.notMatchable _)) fun _ => yieldsLeaf_scalarValue _ _

/-- What is made of nodes that are no collections holds no other value. -/
def HoldsLeaves (m : Making) : Prop := ∀ i v, m.product? i = some (.plain v) → v.isLeaf = true

variable {m : Making}

theorem product?_put {i j : Nat} {x y : Product} (h : (m.put i x).product? j = some y) :
    y = x ∨ m.product? j = some y := by
  rw [product?, put, Array.getD_eq_getD_getElem?, Array.getElem?_setIfInBounds] at h
  split at h
  · split at h
    · exact .inl (Option.some.inj h).symm
    · cases h
  · exact .inr (by rw [product?, Array.getD_eq_getD_getElem?, h])

theorem HoldsLeaves.put (h : m.HoldsLeaves) (i : Nat) {x : Product} (hx : ∀ v, x = .plain v → v.isLeaf = true) :
    (m.put i x).HoldsLeaves := by
  intro j v hj
  obtain rfl | hj := product?_put hj
  · exact hx v rfl
  · exact h j v hj

theorem HoldsLeaves.postpone (h : m.HoldsLeaves) (i : Nat) {x : Product}
    (hx : ∀ v, x = .plain v → v.isLeaf = true) : (m.postpone i x).HoldsLeaves :=
  h.put i hx

/-- A step of making meets faults of values only, and makes no plain value that holds another one. -/
abbrev Makes (x : Reading Making) : Prop := Yields ValueFault HoldsLeaves x

theorem makes_make (h : m.HoldsLeaves) (i : Nat) : Makes (m.make i) := by
  rw [make]
  refine .ite (fun _ => .ok h) fun _ => ?_
  split
  · exact .ok (h.postpone i nofun)
  · exact .ok (h.postpone i nofun)
  · exact .ok (h.postpone i nofun)
  · exact .ok (h.postpone i nofun)
  · exact .ok (h.postpone i nofun)
  · refine (yieldsLeaf_plainValue m i).bind fun v hv => .ok (h.put i ?_)
    rintro _ ⟨⟩
    exact hv

theorem makes_makeKey (h : m.HoldsLeaves) (i : Nat) : Makes (m.makeKey i) := by
  rw [makeKey]
  refine (makes_make h i).bind fun m' hm' => ?_
  split
  · exact .ok hm'
  · exact .malformed

theorem makes_makeEntries (h : m.HoldsLeaves) (done entries : List (Nat × Nat)) :
    Yields ValueFault (fun r => HoldsLeaves r.2) (m.makeEntries done entries) := by
  induction entries generalizing m done with
  | nil => exact .ok h
  | cons e rest ih =>
    rw [makeEntries]
    refine (makes_makeKey h _).bind fun _ hm => ?_
    exact (makes_make hm _).bind fun _ hm => ih hm _

theorem makes_makePairs (h : m.HoldsLeaves) (items : List Nat) :
    Yields ValueFault (fun r => HoldsLeaves r.2) (m.makePairs items) := by
  induction items generalizing m with
  | nil => exact .ok h
  | cons i rest ih =>
    rw [makePairs]
    split
    · refine (makes_make h _).bind fun _ hm => ?_
      refine (makes_make hm _).bind fun _ hm => ?_
      exact (ih hm).bind fun _ hm => .ok hm
    · exact .malformed

theorem makes_makeMapping (h : m.HoldsLeaves) (budget i : Nat) :
    Yields ValueFault (fun r => HoldsLeaves r.2) (m.makeMapping budget i) := by
  rw [makeMapping]
  refine .ite (fun _ => ?_) fun _ => .malformed
  refine (Nodes.meets_flatten _ _ _).bind fun nodes _ => ?_
  have hsame : { m with nodes := nodes }.HoldsLeaves := h
  exact makes_makeEntries hsame _ _

/-- The members of one collection. -/
theorem makes_complete (budget : Nat) (h : m.HoldsLeaves) (i : Nat) : Makes (complete budget m i) := by
  rw [complete]
  split
  · exact (Yields.foldlM (fun _ hm i _ => makes_make hm i) h).bind fun _ hm => .ok (hm.put i nofun)
  · exact (makes_makePairs h _).bind fun _ hm => .ok (hm.put i nofun)
  · exact (makes_makePairs h _).bind fun _ hm => .ok (hm.put i nofun)
  · exact (makes_makeMapping h _ _).bind fun _ hm => .ok (hm.put i nofun)
  · exact (makes_makeMapping h _ _).bind fun _ hm => .ok (hm.put i nofun)
  · exact .malformed

/-- The members of all collections, level by level. -/
theorem makes_completeLevels (budget levels : Nat) (level : List Nat) (h : m.HoldsLeaves) :
    Makes (completeLevels budget levels level m) := by
  induction levels generalizing level m with
  | zero =>
    cases level with
    | nil => exact .ok h
    | cons i rest => exact .ok h
  | succ levels ih =>
    cases level with
    | nil => exact .ok h
    | cons i rest =>
      rw [completeLevels]
      · have hsame : { m with waiting := [] }.HoldsLeaves := h
        exact (Yields.foldlM (fun _ hm i _ => makes_complete _ hm i) hsame).bind fun _ hm => ih _ hm
      · exact List.cons_ne_nil i rest

/-- **The value of a node refers to what stands around it, and to nothing else.** -/
theorem isClosed_valueOf (h : m.HoldsLeaves) (budget : Nat) (around : List Nat) (i : Nat) :
    (m.valueOf budget around i).isClosed around.length = true := by
  induction budget generalizing around i with
  | zero => rfl
  | succ budget ih =>
    rw [valueOf]
    split
    · next v hv => exact Value.isClosed_of_isLeaf (h i v hv) _
    · split
      · next hi => exact Value.isClosed_again.2 (List.idxOf_lt_length_of_mem hi)
      · exact Value.isClosed_list.2 (List.forall_mem_map.2 fun j _ => ih (i :: around) j)
    · split
      · next hi => exact Value.isClosed_again.2 (List.idxOf_lt_length_of_mem hi)
      · refine Value.isClosed_list.2 (List.forall_mem_map.2 fun e _ => ?_)
        exact Value.isClosed_pair.2 ⟨ih (i :: around) e.1, ih (i :: around) e.2⟩
    · rfl
    · split
      · next hi => exact Value.isClosed_again.2 (List.idxOf_lt_length_of_mem hi)
      · exact Value.isClosed_map.2 (List.forall_mem_map.2 fun e _ => ih (i :: around) e.2)
    · rfl

end Making

theorem yields_document (d : Document) : Yields ValueFault (fun v => v.isClosed 0 = true) d.load := by
  have hnone : ({ nodes := d.nodes, products := Array.replicate d.nodes.size none } : Making).HoldsLeaves := by
    intro i v h
    rw [Making.product?, Array.getD_eq_getD_getElem?, Array.getElem?_replicate] at h
    split at h <;> cases h
  rw [Document.load]
  refine (Making.makes_make hnone _).bind fun m hm => ?_
  refine (Making.makes_completeLevels _ _ _ hm).bind fun m hm => .ok ?_
  exact Making.isClosed_valueOf hm _ [] _

/-- **Loading a text meets faults of scanning and of scalars only, and its value is closed.** -/
theorem yields_load (text : List Char) :
    Yields (fun f => ScanFault f ∨ ValueFault f) (fun v => v.isClosed 0 = true) (load text) := by
  rw [load]
  refine ((meets_ofTokens text).of_known fun _ => .inl).bind fun document _ => ?_
  cases document with
  | none => exact .ok rfl
  | some d => exact (yields_document d).of_known fun _ => .inr

theorem isClosed_of_load {text : List Char} {v : Value} (h : load text = .ok v) : v.isClosed 0 = true :=
  (yields_load text).expected_of_ok h

/-! ## Categories -/

def fault? (text : String) : Option Fault :=
  match load text.toList with
  | .error (.fault f) => some f
  | _ => none

theorem fault?_eq_some_iff {text : String} {f : Fault} :
    fault? text = some f ↔ load text.toList = .error (.fault f) := by
  rw [fault?]
  constructor
  · intro h
    split at h
    · next f' hf =>
      cases h
      exact hf
    · cases h
  · intro h
    rw [h]

/-- The categories under which loading a text may fail. -/
def loadCategories : List Category := [.value, .overflow, .key, .index, .member, .type, .recursion]

theorem ScanFault.category {f : Fault} (h : ScanFault f) : f.category ∈ loadCategories := by
  cases h <;> simp only [Fault.category, loadCategories, List.mem_cons, true_or, or_true]

theorem ValueFault.category {f : Fault} (h : ValueFault f) : f.category ∈ loadCategories := by
  cases h <;> simp only [Fault.category, loadCategories, List.mem_cons, true_or, or_true]

theorem category_of_load {text : List Char} {f : Fault} (h : load text = .error (.fault f)) :
    f.category ∈ loadCategories := by
  obtain hscan | hvalue := (yields_load text).known_of_fault h
  · exact hscan.category
  · exact hvalue.category

/-- **Loading a text may fail under seven categories, and under each of them some text does**: a day that
does not exist, a character beyond all code points, a tag that is no truth value, a number without
characters, a tag that is no date, a date in a mapping, and a scalar that stands for itself. -/
theorem mem_loadCategories_iff (c : Category) :
    c ∈ loadCategories ↔ ∃ text f, fault? text = some f ∧ f.category = c := by
  constructor
  · intro h
    simp only [loadCategories, List.mem_cons, List.not_mem_nil, or_false] at h
    obtain rfl | rfl | rfl | rfl | rfl | rfl | rfl := h
    · exact ⟨"a: 2020-13-45", .monthOutOfRange, by decide +kernel⟩
    · exact ⟨"\"\\UFFFFFFFF\"", .codePointTooLong, by decide +kernel⟩
    · exact ⟨"!!bool maybe", .unknownKey "'maybe'", by decide +kernel⟩
    · exact ⟨"!!int ''", .emptyNumber, by decide +kernel⟩
    · exact ⟨"!!timestamp x", .noTimestamp, by decide +kernel⟩
    · exact ⟨"!!timestamp \x7b=: 2020-01-01\x7d", .notMatchable "list", by decide +kernel⟩
    · exact ⟨"!!str &a \x7b=: *a\x7d", .endless, by decide +kernel⟩
  · rintro ⟨text, f, hf, rfl⟩
    exact category_of_load (fault?_eq_some_iff.1 hf)

end Tunebook.Yaml
