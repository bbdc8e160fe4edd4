import Tunebook.Proofs.Tune.Sections

/-!
# The header field by field

A header is read in one go through the lines, each of which may write a field again.  What is left at
the end is said here by the lines themselves: the header ends at the first line that holds something and
begins with none of the nine tags, and each field is what the last line with its tag states, or what it
was before.

* `Field.value?`, `Field.stated?`: what a line, and what some lines, state for a field.
* `classify_eq_field_iff`, `endsAt_eq_beginsBody`: the kinds of lines by their tags.
* `Header.Carries`: a part of a header that one field writes; `Carries.restated_of_readFrom`: **such a
  part is what the last line with the tag states**, by induction on the lines.
* `Header.readFrom_heard`: **only the lines that are heard matter.**
* `Header.read_states`: **the header that lines are read as, and where it ends.**
-/

namespace Tunebook

/-! ### Tags -/

def Field.tag (f : Field) : List Char := [f.letter, ':']

def Field.all : List Field :=
  [number, title, composer, meter, noteLength, key, tempo, voice, instruction]

theorem Field.mem_all (f : Field) : f ∈ all := by
  cases f <;> decide

example : Field.all.map (fun f => String.ofList f.tag)
    = ["X:", "T:", "C:", "M:", "L:", "K:", "Q:", "V:", "I:"] := by decide

def Field.begins (f : Field) (line : List Char) : Bool := f.tag.isPrefixOf (strip line)

/-- What a line states for a field, if it begins with its tag. -/
def Field.value? (f : Field) (line : List Char) : Option (List Char) :=
  if f.begins line then some (strip ((strip line).drop 2)) else none

/-- What some lines state for a field: the last line with its tag counts. -/
def Field.stated? (f : Field) (ls : List (List Char)) : Option (List Char) :=
  (ls.filterMap f.value?).getLast?

/-- Whether a line holds something and begins with no tag, so that the body begins with it. -/
def beginsBody (line : List Char) : Bool :=
  !(strip line).isEmpty && !Field.all.any fun f => f.begins line

theorem Field.letter_of_ofLetter? {c : Char} {f : Field} (h : ofLetter? c = some f) : f.letter = c := by
  rw [ofLetter?.eq_def] at h
  split at h <;> first | cases h; rfl | cases h

theorem Field.begins_iff {f : Field} {line : List Char} :
    f.begins line = true ↔ ∃ rest, strip line = f.letter :: ':' :: rest := by
  rw [begins, List.isPrefixOf_iff_prefix]
  constructor
  · rintro ⟨rest, h⟩
    exact ⟨rest, h.symm⟩
  · rintro ⟨rest, h⟩
    exact ⟨rest, h.symm⟩

/-- **What a line states for a field is what it is read as.** -/
theorem classify_eq_field_iff {line : List Char} {f : Field} {value : List Char} :
    Line.classify line = .field f value ↔ f.value? line = some value := by
  rw [Field.value?, Option.ite_none_right_eq_some, Option.some.injEq, Field.begins_iff]
  constructor
  · intro h
    rw [Line.classify] at h
    split at h
    · cases h
    · next c rest hline =>
      split at h
      · next g v hsplit =>
        cases h
        obtain ⟨d, hd, hcons⟩ := tag_of_split? hsplit
        rw [hline, hcons, ← Field.letter_of_ofLetter? hd]
        exact ⟨⟨v, rfl⟩, rfl⟩
      · cases h
  · rintro ⟨⟨rest, hline⟩, rfl⟩
    rw [Line.classify, hline]
    simp only [split?_tag f.ofLetter?_letter, List.drop_succ_cons, List.drop_zero]

theorem classify_eq_blank_iff {line : List Char} : Line.classify line = .blank ↔ strip line = [] := by
  rw [Line.classify]
  split
  · next h => exact iff_of_true rfl h
  · next c rest h =>
    refine iff_of_false ?_ (h ▸ List.cons_ne_nil c rest)
    split <;> exact nofun

/-- **The header ends at a line where the body begins.** -/
theorem endsAt_eq_beginsBody (line : List Char) : Header.endsAt line = beginsBody line := by
  rw [Header.endsAt, beginsBody]
  cases h : Line.classify line with
  | blank => simp [classify_eq_blank_iff.1 h]
  | field f value =>
    have hvalue := classify_eq_field_iff.1 h
    rw [Field.value?, Option.ite_none_right_eq_some] at hvalue
    have htag : (Field.all.any fun f => f.begins line) = true :=
      List.any_eq_true.2 ⟨f, f.mem_all, hvalue.1⟩
    simp [htag]
  | music =>
    have hfull : strip line ≠ [] := by
      rw [Ne, ← classify_eq_blank_iff, h]
      intro hblank
      cases hblank
    have hno : (Field.all.any fun f => f.begins line) = false := by
      refine List.any_eq_false.2 fun f _ hf => ?_
      have hfield : f.value? line = some (strip ((strip line).drop 2)) := if_pos hf
      rw [← classify_eq_field_iff, h] at hfield
      cases hfield
    simp [hfull, hno]

/-! ### What lines state -/

theorem Field.stated?_of_none {f : Field} {line : List Char} (h : f.value? line = none)
    (rest : List (List Char)) : f.stated? (line :: rest) = f.stated? rest := by
  rw [stated?, List.filterMap_cons_none h, stated?]

theorem Field.stated?_of_some {f : Field} {line value : List Char} (h : f.value? line = some value)
    (rest : List (List Char)) :
    f.stated? (line :: rest) = some ((f.stated? rest).getD value) := by
  rw [stated?, List.filterMap_cons_some h, List.getLast?_cons, stated?]

theorem Field.value?_eq_none {f : Field} {line : List Char}
    (h : ∀ value, Line.classify line ≠ .field f value) : f.value? line = none :=
  Option.eq_none_iff_forall_ne_some.2 fun value hvalue => h value (classify_eq_field_iff.2 hvalue)

namespace Header

/-- What a field does to a header. -/
inductive Sets (h : Header) : Field → List Char → Header → Prop
  | number {value : List Char} {n : Option Int} (reads : leadingInteger value = .ok n) :
      Sets h .number value { h with number := n }
  | tempo {value : List Char} {n : Int} (reads : tempoOf value = .ok n) :
      Sets h .tempo value { h with tempo := n }
  | title (value : List Char) : Sets h .title value { h with title := String.ofList value }
  | composer (value : List Char) : Sets h .composer value { h with composer := some (String.ofList value) }
  | meter (value : List Char) : Sets h .meter value { h with meter := String.ofList value }
  | noteLength (value : List Char) :
      Sets h .noteLength value { h with noteLength := some (String.ofList value) }
  | key (value : List Char) : Sets h .key value { h with key := String.ofList value }
  | voice (value : List Char) : Sets h .voice value h
  | instruction (value : List Char) : Sets h .instruction value h

theorem sets_of_set {h header : Header} {f : Field} {value : List Char}
    (hset : h.set f value = .ok header) : Sets h f value header := by
  cases f with
  | number =>
    obtain ⟨n, reads, hset⟩ := bind_eq_ok.1 hset
    cases hset
    exact .number reads
  | tempo =>
    obtain ⟨n, reads, hset⟩ := bind_eq_ok.1 hset
    cases hset
    exact .tempo reads
  | _ =>
    cases hset
    constructor

/-- A part of a header is written by one field, as its value is read, and by no other one. -/
structure Carries {α : Type} (f : Field) (part : Header → α) (read : List Char → Except Fault α) :
    Prop where
  own : ∀ {h header : Header} {value : List Char}, Sets h f value header →
    read value = .ok (part header)
  other : ∀ {h header : Header} {g : Field} {value : List Char}, Sets h g value header → g ≠ f →
    part header = part h

def restated {α : Type} (read : List Char → Except Fault α) (before : α) :
    Option (List Char) → Except Fault α
  | none => .ok before
  | some value => read value

/-- **A part of a header is what the last line with its tag states**, or what it was before. -/
theorem Carries.restated_of_readFrom {α : Type} {f : Field} {part : Header → α}
    {read : List Char → Except Fault α} (c : Carries f part read) {ls : List (List Char)}
    (above : ∀ line ∈ ls, endsAt line = false) {h header : Header} {n : Nat}
    (hr : readFrom h ls = .ok (header, n)) :
    restated read (part h) (f.stated? ls) = .ok (part header) := by
  induction ls generalizing h header n with
  | nil =>
    cases hr
    rfl
  | cons line rest ih =>
    have hrest : ∀ l ∈ rest, endsAt l = false := fun l hl => above l (List.mem_cons_of_mem _ hl)
    rw [readFrom] at hr
    cases hk : Line.classify line with
    | blank =>
      rw [hk] at hr
      obtain ⟨⟨_, _⟩, hmore, hr⟩ := bind_eq_ok.1 hr
      cases hr
      rw [Field.stated?_of_none (Field.value?_eq_none (by simp [hk]))]
      exact ih hrest hmore
    | music =>
      have hline := above line List.mem_cons_self
      rw [endsAt, hk] at hline
      cases hline
    | field g value =>
      rw [hk] at hr
      obtain ⟨next, hset, hr⟩ := bind_eq_ok.1 hr
      obtain ⟨⟨_, _⟩, hmore, hr⟩ := bind_eq_ok.1 hr
      cases hr
      have hnext := ih hrest hmore
      have hsets := sets_of_set hset
      by_cases hg : g = f
      · subst hg
        rw [Field.stated?_of_some (classify_eq_field_iff.1 hk)]
        -- a later line counts, and this one where none comes
        cases hstated : g.stated? rest with
        | none =>
          rw [hstated] at hnext
          rw [← Except.ok.inj hnext]
          exact c.own hsets
        | some later =>
          rw [hstated] at hnext
          exact hnext
      · rw [Field.stated?_of_none (Field.value?_eq_none (by simp [hk, hg])), ← c.other hsets hg]
        exact hnext

theorem restated_text {α : Type} {shown : List Char → α} {before : α}
    {stated : Option (List Char)} {x : α}
    (h : restated (fun value => .ok (shown value)) before stated = .ok x) :
    x = (stated.map shown).getD before := by
  cases stated with
  | none => exact (Except.ok.inj h).symm
  | some value => exact (Except.ok.inj h).symm

/-! ### The parts -/

theorem carries_number : Carries .number number leadingInteger where
  own hset := by
    cases hset with
    | number reads => exact reads
  other hset hg := by
    cases hset <;> first | rfl | exact absurd rfl hg

theorem carries_tempo : Carries .tempo tempo tempoOf where
  own hset := by
    cases hset with
    | tempo reads => exact reads
  other hset hg := by
    cases hset <;> first | rfl | exact absurd rfl hg

theorem carries_title : Carries .title title fun value => .ok (String.ofList value) where
  own hset := by
    cases hset
    rfl
  other hset hg := by
    cases hset <;> first | rfl | exact absurd rfl hg

theorem carries_key : Carries .key key fun value => .ok (String.ofList value) where
  own hset := by
    cases hset
    rfl
  other hset hg := by
    cases hset <;> first | rfl | exact absurd rfl hg

theorem carries_meter : Carries .meter meter fun value => .ok (String.ofList value) where
  own hset := by
    cases hset
    rfl
  other hset hg := by
    cases hset <;> first | rfl | exact absurd rfl hg

theorem carries_composer : Carries .composer composer fun value => .ok (some (String.ofList value)) where
  own hset := by
    cases hset
    rfl
  other hset hg := by
    cases hset <;> first | rfl | exact absurd rfl hg

theorem carries_noteLength :
    Carries .noteLength noteLength fun value => .ok (some (String.ofList value)) where
  own hset := by
    cases hset
    rfl
  other hset hg := by
    cases hset <;> first | rfl | exact absurd rfl hg

/-- **What lines make a header say**: for each of its fields what the last line with the tag states,
and the usual value where no line does. -/
structure States (header : Header) (ls : List (List Char)) : Prop where
  title : header.title = ((Field.title.stated? ls).map String.ofList).getD "Untitled"
  key : header.key = ((Field.key.stated? ls).map String.ofList).getD "C"
  meter : header.meter = ((Field.meter.stated? ls).map String.ofList).getD "4/4"
  noteLength : header.noteLength = (Field.noteLength.stated? ls).map String.ofList
  composer : header.composer = (Field.composer.stated? ls).map String.ofList
  number : restated leadingInteger none (Field.number.stated? ls) = .ok header.number
  tempo : restated tempoOf 120 (Field.tempo.stated? ls) = .ok header.tempo

theorem states_of_readFrom {ls : List (List Char)} (above : ∀ line ∈ ls, endsAt line = false)
    {header : Header} {n : Nat} (hr : read ls = .ok (header, n)) : header.States ls where
  title := restated_text (carries_title.restated_of_readFrom above hr)
  key := restated_text (carries_key.restated_of_readFrom above hr)
  meter := restated_text (carries_meter.restated_of_readFrom above hr)
  noteLength := by
    rw [restated_text (carries_noteLength.restated_of_readFrom above hr)]
    cases Field.noteLength.stated? ls <;> rfl
  composer := by
    rw [restated_text (carries_composer.restated_of_readFrom above hr)]
    cases Field.composer.stated? ls <;> rfl
  number := carries_number.restated_of_readFrom above hr
  tempo := carries_tempo.restated_of_readFrom above hr

/-! ### Where it ends, and what is heard -/

theorem takeWhile_eq_take (ls : List (List Char)) :
    (ls.takeWhile fun line => !endsAt line) = ls.take (ls.findIdx beginsBody) := by
  rw [List.takeWhile_eq_take_findIdx_not]
  simp only [Bool.not_not, endsAt_eq_beginsBody]

/-- **The header ends at the first line with which the body begins**, or with the lines. -/
theorem read_length {ls : List (List Char)} {header : Header} {n : Nat}
    (hr : read ls = .ok (header, n)) : n = ls.findIdx beginsBody := by
  rw [readFrom_length hr, takeWhile_eq_take, List.length_take,
    Nat.min_eq_left List.findIdx_le_length]

/-- Whether a line may write a field: it is not blank, and no voice or instruction. -/
def isHeard (line : List Char) : Bool :=
  !(strip line).isEmpty && !Field.voice.begins line && !Field.instruction.begins line

/-- The lines of a header that may write a field. -/
def heard (ls : List (List Char)) : List (List Char) := (ls.take (ls.findIdx beginsBody)).filter isHeard

theorem map_fst_count (x : Except Fault (Header × Nat)) :
    (do
      let (h, n) ← x
      .ok (h, n + 1) : Except Fault (Header × Nat)).map Prod.fst = x.map Prod.fst := by
  cases x <;> rfl

theorem readFrom_of_not_isHeard {line : List Char} (hl : isHeard line = false) (h : Header)
    (rest : List (List Char)) :
    (readFrom h (line :: rest)).map Prod.fst = (readFrom h rest).map Prod.fst := by
  have hfield : ∀ f : Field, (∀ value, h.set f value = .ok h) → f.begins line = true →
      (readFrom h (line :: rest)).map Prod.fst = (readFrom h rest).map Prod.fst := by
    intro f hset hf
    have hvalue : f.value? line = some (strip ((strip line).drop 2)) := if_pos hf
    rw [readFrom, classify_eq_field_iff.2 hvalue]
    dsimp only
    rw [hset, ok_bind]
    exact map_fst_count _
  simp only [isHeard, Bool.and_eq_false_iff, Bool.not_eq_false', List.isEmpty_iff] at hl
  obtain (hblank | hvoice) | hinstruction := hl
  · rw [readFrom, classify_eq_blank_iff.2 hblank]
    exact map_fst_count _
  · exact hfield .voice (fun _ => rfl) hvoice
  · exact hfield .instruction (fun _ => rfl) hinstruction

theorem readFrom_filter (h : Header) (ls : List (List Char)) :
    (readFrom h (ls.filter isHeard)).map Prod.fst = (readFrom h ls).map Prod.fst := by
  induction ls generalizing h with
  | nil => rfl
  | cons line rest ih =>
    cases hl : isHeard line with
    | false => rw [List.filter_cons_of_neg (by simp [hl]), ih, readFrom_of_not_isHeard hl]
    | true =>
      rw [List.filter_cons_of_pos hl, readFrom, readFrom]
      cases Line.classify line with
      | blank =>
        dsimp only
        rw [map_fst_count, map_fst_count, ih]
      | field f value =>
        dsimp only
        cases h.set f value with
        | error e => rfl
        | ok next =>
          rw [ok_bind, ok_bind, map_fst_count, map_fst_count, ih]
      | music => rfl

/-- **Only the lines that are heard matter to a header.** -/
theorem readFrom_heard (h : Header) (ls : List (List Char)) :
    (readFrom h (heard ls)).map Prod.fst = (readFrom h ls).map Prod.fst := by
  rw [heard, readFrom_filter, ← takeWhile_eq_take, readFrom_takeWhile]

theorem read_of_heard {ls ls' : List (List Char)} {header : Header} {n : Nat}
    (h : read ls = .ok (header, n)) (he : heard ls' = heard ls) :
    read ls' = .ok (header, ls'.findIdx beginsBody) := by
  have hsame : (read ls').map Prod.fst = .ok header := by
    rw [read, ← readFrom_heard, he, readFrom_heard, ← read, h]
    rfl
  cases hr : read ls' with
  | error e =>
    rw [hr] at hsame
    cases hsame
  | ok r =>
    obtain ⟨header', n'⟩ := r
    rw [hr] at hsame
    cases hsame
    rw [read_length hr]

/-- **The header that lines are read as, and where it ends.**  It ends at the first line that holds
something and begins with no tag; it says what the lines above state, the last one for each tag; and
any lines of which the same ones are heard are read as the same header. -/
theorem read_states {ls : List (List Char)} {header : Header} {n : Nat}
    (h : read ls = .ok (header, n)) :
    n = ls.findIdx beginsBody ∧ header.States (ls.take n) ∧
      ∀ ls' : List (List Char), heard ls' = heard ls →
        read ls' = .ok (header, ls'.findIdx beginsBody) := by
  have hn := read_length h
  have habove : ls.take n = ls.takeWhile fun line => !endsAt line := by
    rw [hn, takeWhile_eq_take]
  refine ⟨hn, ?_, fun ls' he => read_of_heard h he⟩
  rw [habove]
  refine states_of_readFrom (n := n) (fun line hl => ?_) ?_
  · have hkept := List.mem_takeWhile_imp hl
    rwa [Bool.not_eq_true'] at hkept
  · rw [read, readFrom_takeWhile]
    exact h

/-- Tags that come again, in a line that is indented or states nothing, blank lines and lines that are
not heard, and a field below the line of one letter where the body begins. -/
theorem read_states_repeated :
    let ls := ["X: -7 b", "  T: First ", "", "T:Second", "V:1", "M:", "Q:1/4=90", "Q: 60", "A",
      "K:D"].map String.toList
    let header : Header :=
      { title := "Second", meter := "", tempo := 60, number := some (-7) }
    Header.read ls = .ok (header, 8) ∧ 8 = ls.findIdx beginsBody ∧ header.States (ls.take 8) ∧
      ∀ ls' : List (List Char), heard ls' = heard ls →
        Header.read ls' = .ok (header, ls'.findIdx beginsBody) := by
  intro ls header
  have h : Header.read ls = .ok (header, 8) := by decide +kernel
  exact ⟨h, read_states h⟩

end Header

end Tunebook
