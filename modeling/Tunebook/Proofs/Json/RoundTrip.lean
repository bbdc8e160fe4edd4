import Tunebook.Proofs.Json.Text
import Tunebook.Proofs.Runs

/-!
# Values are read back

The reader undoes the writer, on one line and over several ones.  What the writer puts
between the parts of a value is blank, and what it puts behind a part shows where the part
ends: nothing that may stand there belongs to a number.  A number is read by its text
alone, so a value is read back as it was if the texts of its numbers could be numbers.

The reader spends one step of its budget on each value and on each member.  Its budget is
the length of the text, which is enough, since every step reads a character.

* `IsNumberText`, `isValid`: values whose numbers are texts of numbers.
* `readPlain?_word`, `readPlain?_number`: what is neither quoted nor in brackets.
* `Reads`: with a budget, everything that is short enough is read back.
* `reads_succ_value`, `reads_succ_items`, `reads_succ_fields`: one step of the reader.
* `read?_indented`: **an indented value is read as that value.**
-/

namespace Tunebook.Json

/-! ### What is written of numbers -/

/-- Whether a text may be that of a number: one of three words, or characters of numbers. -/
def IsNumberText (literal : String) : Prop :=
  literal ∈ ["NaN", "Infinity", "-Infinity"] ∨
    literal.toList ≠ [] ∧ ∀ c ∈ literal.toList, isNumberChar c = true

mutual

def IsValid : Json → Prop
  | number literal => IsNumberText literal
  | text w => w.isWhole = true
  | list items => ItemsAreValid items
  | object fields => FieldsAreValid fields
  | _ => True

def ItemsAreValid : List Json → Prop
  | [] => True
  | j :: rest => IsValid j ∧ ItemsAreValid rest

def FieldsAreValid : List (Wording × Json) → Prop
  | [] => True
  | (name, j) :: rest => name.isWhole = true ∧ IsValid j ∧ FieldsAreValid rest

end

/-! ### What stands behind a value -/

-- the equations of the writer and the reader are made here, once for all proofs below
attribute [local simp] render renderItems renderFields readValue? readItems? readFields?

def isStop (c : Char) : Bool := isSpace c || c == ',' || c == ']' || c == '\x7d'

def Stops (behind : List Char) : Prop := ∀ c ∈ behind.head?, isStop c = true

theorem stops_nil : Stops [] := by simp [Stops]

theorem stops_cons {c : Char} (h : isStop c = true) (rest : List Char) : Stops (c :: rest) := by
  simpa [Stops] using h

theorem isStop_cases {c : Char} (h : isStop c = true) :
    c = ' ' ∨ c = '\n' ∨ c = '\t' ∨ c = '\r' ∨ c = ',' ∨ c = ']' ∨ c = '\x7d' := by
  simpa [isStop, isSpace, or_assoc] using h

theorem not_isNumberChar_of_isStop {c : Char} (h : isStop c = true) : isNumberChar c = false := by
  rcases isStop_cases h with rfl | rfl | rfl | rfl | rfl | rfl | rfl <;> decide

theorem lineBreak_isSpace (layout : Layout) : ∀ c ∈ layout.lineBreak, isSpace c = true := by
  cases layout with
  | oneLine => simp [Layout.lineBreak]
  | level n =>
    intro c hc
    simp only [Layout.lineBreak, List.mem_cons, List.mem_replicate] at hc
    rcases hc with rfl | ⟨_, rfl⟩ <;> decide

theorem dropWhile_lineBreak (layout : Layout) (cs : List Char) :
    (layout.lineBreak ++ cs).dropWhile isSpace = cs.dropWhile isSpace :=
  List.dropWhile_append_of_pos (lineBreak_isSpace layout)

theorem stops_lineBreak (layout : Layout) {c : Char} (h : isStop c = true) (rest : List Char) :
    Stops (layout.lineBreak ++ c :: rest) := by
  cases layout with
  | oneLine => exact stops_cons h rest
  | level n => exact stops_cons (by decide) _

theorem stops_renderItems (layout : Layout) (items : List Json) (behind : List Char) :
    Stops (renderItems layout items ++ behind) := by
  cases items with
  | nil =>
    rw [renderItems, List.append_assoc]
    exact stops_lineBreak layout (by decide) behind
  | cons item rest =>
    rw [renderItems]
    exact stops_cons (by decide) _

theorem stops_renderFields (layout : Layout) (fields : List (Wording × Json)) (behind : List Char) :
    Stops (renderFields layout fields ++ behind) := by
  cases fields with
  | nil =>
    rw [renderFields, List.append_assoc]
    exact stops_lineBreak layout (by decide) behind
  | cons field rest =>
    obtain ⟨name, v⟩ := field
    rw [renderFields]
    exact stops_cons (by decide) _

/-! ### Words and numbers -/

theorem readPlain?_word {w : String × Json} (hw : w ∈ words) (behind : List Char) :
    readPlain? (w.1.toList ++ behind) = some (w.2, behind) := by
  simp only [words, List.mem_cons, List.not_mem_nil, or_false] at hw
  rcases hw with rfl | rfl | rfl | rfl | rfl | rfl <;> rfl

theorem dropWord?_of_head {w : Char} {cs : List Char} (h : ∀ c ∈ cs.head?, c ≠ w)
    (word : List Char) : dropWord? (w :: word) cs = none := by
  cases cs with
  | nil => rfl
  | cons c rest => rw [dropWord?, if_neg (Ne.symm (h c rfl))]

theorem dropWord?_eq_none {w : String × Json} (hw : w ∈ words) {literal behind : List Char}
    (hne : literal ≠ []) (hchars : ∀ c ∈ literal, isNumberChar c = true) (hs : Stops behind) :
    dropWord? w.1.toList (literal ++ behind) = none := by
  cases literal with
  | nil => exact absurd rfl hne
  | cons c rest =>
    have hc := hchars c List.mem_cons_self
    have hother : ∀ d : Char, isNumberChar d = false → ∀ x ∈ (c :: rest ++ behind).head?, x ≠ d := by
      rintro d hd x hx rfl
      cases hx
      rw [hc] at hd
      cases hd
    -- a sign may begin the last word, but what stands behind it cannot go on with it
    have hsign : ∀ x ∈ (rest ++ behind).head?, x ≠ 'I' := by
      rintro x hx rfl
      cases rest with
      | nil =>
        have hstop := hs 'I' hx
        exact absurd hstop (by decide)
      | cons d more =>
        cases hx
        have hd := hchars 'I' (List.mem_cons_of_mem c List.mem_cons_self)
        exact absurd hd (by decide)
    simp only [words, List.mem_cons, List.not_mem_nil, or_false] at hw
    rcases hw with rfl | rfl | rfl | rfl | rfl | rfl
    · exact dropWord?_of_head (hother 'n' (by decide)) _
    · exact dropWord?_of_head (hother 't' (by decide)) _
    · exact dropWord?_of_head (hother 'f' (by decide)) _
    · exact dropWord?_of_head (hother 'N' (by decide)) _
    · exact dropWord?_of_head (hother 'I' (by decide)) _
    · show dropWord? ('-' :: 'I' :: ['n', 'f', 'i', 'n', 'i', 't', 'y']) (c :: (rest ++ behind)) = none
      rw [dropWord?]
      split
      · exact dropWord?_of_head hsign _
      · rfl

theorem readPlain?_number {literal behind : List Char} (hne : literal ≠ [])
    (hchars : ∀ c ∈ literal, isNumberChar c = true) (hs : Stops behind) :
    readPlain? (literal ++ behind) = some (number (String.ofList literal), behind) := by
  have hwords : (words.findSome? fun w =>
      (dropWord? w.1.toList (literal ++ behind)).map fun rest => (w.2, rest)) = none := by
    rw [List.findSome?_eq_none_iff]
    intro w hw
    rw [dropWord?_eq_none hw hne hchars hs, Option.map_none]
  obtain ⟨htake, hdrop⟩ := takeWhile_dropWhile_run hchars fun c hc =>
    not_isNumberChar_of_isStop (hs c hc)
  rw [readPlain?, hwords, htake, hdrop]
  cases literal with
  | nil => exact absurd rfl hne
  | cons c rest => rfl

theorem readPlain?_of_isNumberText {literal : String} (h : IsNumberText literal) {behind : List Char}
    (hs : Stops behind) :
    readPlain? (literal.toList ++ behind) = some (number literal, behind) := by
  rcases h with h | ⟨hne, hchars⟩
  · simp only [List.mem_cons, List.not_mem_nil, or_false] at h
    rcases h with rfl | rfl | rfl
    · exact readPlain?_word (w := ("NaN", number "NaN")) (by simp [words]) behind
    · exact readPlain?_word (w := ("Infinity", number "Infinity")) (by simp [words]) behind
    · exact readPlain?_word (w := ("-Infinity", number "-Infinity")) (by simp [words]) behind
  · rw [readPlain?_number hne hchars hs, String.ofList_toList]

/-! ### How a value begins -/

def isPlainStart (c : Char) : Bool := isNumberChar c || "ntfNI".toList.contains c

theorem ne_of_isPlainStart {c d : Char} (h : isPlainStart c = true) (hd : isPlainStart d = false) :
    c ≠ d := by
  rintro rfl
  rw [h] at hd
  cases hd

theorem not_isSpace_of_isPlainStart {c : Char} (h : isPlainStart c = true) : isSpace c = false := by
  cases hs : isSpace c with
  | false => rfl
  | true =>
    simp only [isSpace, Bool.or_eq_true, beq_iff_eq, or_assoc] at hs
    rcases hs with rfl | rfl | rfl | rfl <;> exact absurd h (by decide)

theorem start_of_isNumberText {literal : String} (h : IsNumberText literal) :
    ∃ c more, literal.toList = c :: more ∧ isPlainStart c = true := by
  rcases h with h | ⟨hne, hchars⟩
  · simp only [List.mem_cons, List.not_mem_nil, or_false] at h
    rcases h with rfl | rfl | rfl
    · exact ⟨'N', _, rfl, by decide⟩
    · exact ⟨'I', _, rfl, by decide⟩
    · exact ⟨'-', _, rfl, by decide⟩
  · obtain ⟨c, more, hl⟩ := List.exists_cons_of_ne_nil hne
    have hc : isNumberChar c = true := hchars c (by simp [hl])
    exact ⟨c, more, hl, by simp [isPlainStart, hc]⟩

theorem start_of_isValid {j : Json} (h : IsValid j) (layout : Layout) :
    ∃ c more, render layout j = c :: more ∧ isSpace c = false ∧ c ≠ ']' := by
  cases j with
  | null => exact ⟨'n', _, rfl, by decide, by decide⟩
  | flag b =>
    cases b with
    | true => exact ⟨'t', _, rfl, by decide, by decide⟩
    | false => exact ⟨'f', _, rfl, by decide, by decide⟩
  | number literal =>
    obtain ⟨c, more, hl, hc⟩ := start_of_isNumberText h
    refine ⟨c, more, by rw [render, hl], not_isSpace_of_isPlainStart hc, ?_⟩
    exact ne_of_isPlainStart hc (by decide)
  | text s => exact ⟨'"', _, by rw [render, renderText], by decide, by decide⟩
  | list items =>
    cases items with
    | nil => exact ⟨'[', _, by rw [render], by decide, by decide⟩
    | cons item rest =>
      exact ⟨'[', _, by simp only [render, List.cons_append]; rfl, by decide, by decide⟩
  | object fields =>
    cases fields with
    | nil => exact ⟨'\x7b', _, by rw [render], by decide, by decide⟩
    | cons field rest =>
      exact ⟨'\x7b', _, by simp only [render, List.cons_append]; rfl, by decide, by decide⟩

/-! ### One step of the reader -/

theorem readValue?_plain {c : Char} (h : isPlainStart c = true) (n : Nat) (rest : List Char) :
    readValue? (n + 1) (c :: rest) = readPlain? (c :: rest) := by
  have hspace := not_isSpace_of_isPlainStart h
  have hquote : c ≠ '"' := ne_of_isPlainStart h (by decide)
  have hbracket : c ≠ '[' := ne_of_isPlainStart h (by decide)
  have hbrace : c ≠ '\x7b' := ne_of_isPlainStart h (by decide)
  rw [readValue?, List.dropWhile_cons_of_neg (by simp [hspace])]
  split
  · next hc => exact absurd (List.cons.inj hc).1 hquote
  · next hc => exact absurd (List.cons.inj hc).1 hbracket
  · next hc => exact absurd (List.cons.inj hc).1 hbrace
  · rfl

theorem readValue?_text (s : String) (n : Nat) (behind : List Char) :
    readValue? (n + 1) (renderText (.whole s) ++ behind) = some (text s, behind) := by
  have hread := readString?_escaped s behind
  rw [renderText, List.cons_append, List.append_assoc, readValue?,
    List.dropWhile_cons_of_neg (by decide)]
  show ((readString? ((Wording.whole s).points.flatMap escapedPoint ++ '"' :: behind)).map _) = _
  rw [hread]
  rfl

theorem readValue?_list {n : Nat} {cs : List Char} (h : (cs.dropWhile isSpace).head? ≠ some ']') :
    readValue? (n + 1) ('[' :: cs) = (readItems? n cs).map fun p => (list p.1, p.2) := by
  rw [readValue?, List.dropWhile_cons_of_neg (by decide)]
  simp only
  split
  · next hc =>
    rw [hc] at h
    exact absurd rfl h
  · rfl

theorem readValue?_object {n : Nat} {cs : List Char}
    (h : (cs.dropWhile isSpace).head? ≠ some '\x7d') :
    readValue? (n + 1) ('\x7b' :: cs) = (readFields? n cs).map fun p => (object p.1, p.2) := by
  rw [readValue?, List.dropWhile_cons_of_neg (by decide)]
  simp only
  split
  · next hc =>
    rw [hc] at h
    exact absurd rfl h
  · rfl

theorem readValue?_lineBreak (layout : Layout) (n : Nat) (cs : List Char) :
    readValue? n (layout.lineBreak ++ cs) = readValue? n cs := by
  cases n with
  | zero => rw [readValue?, readValue?]
  | succ n => rw [readValue?, readValue?, dropWhile_lineBreak]

section

variable {n : Nat} {cs rest more behind : List Char}

theorem readItems?_last {item : Json} (hitem : readValue? n cs = some (item, rest))
    (hend : rest.dropWhile isSpace = ']' :: behind) :
    readItems? (n + 1) cs = some ([item], behind) := by
  rw [readItems?, hitem]
  simp only [bind, Option.bind, hend]

theorem readItems?_more {item : Json} {items : List Json}
    (hitem : readValue? n cs = some (item, rest)) (hcomma : rest.dropWhile isSpace = ',' :: more)
    (hitems : readItems? n more = some (items, behind)) :
    readItems? (n + 1) cs = some (item :: items, behind) := by
  rw [readItems?, hitem]
  simp only [bind, Option.bind, hcomma, hitems]

variable {name : Wording} {v : Json} {named colon : List Char}

theorem readFields?_last (hquote : cs.dropWhile isSpace = '"' :: named)
    (hname : readString? named = some (name, colon)) (hcolon : colon.dropWhile isSpace = ':' :: more)
    (hv : readValue? n more = some (v, rest)) (hend : rest.dropWhile isSpace = '\x7d' :: behind) :
    readFields? (n + 1) cs = some ([(name, v)], behind) := by
  rw [readFields?, hquote]
  simp only [bind, Option.bind, hname, hcolon, hv, hend]

theorem readFields?_more {fields : List (Wording × Json)} {others : List Char}
    (hquote : cs.dropWhile isSpace = '"' :: named)
    (hname : readString? named = some (name, colon)) (hcolon : colon.dropWhile isSpace = ':' :: more)
    (hv : readValue? n more = some (v, rest)) (hcomma : rest.dropWhile isSpace = ',' :: others)
    (hfields : readFields? n others = some (fields, behind)) :
    readFields? (n + 1) cs = some ((name, v) :: fields, behind) := by
  rw [readFields?, hquote]
  simp only [bind, Option.bind, hname, hcolon, hv, hcomma, hfields]

end

theorem dropWhile_colon (layout : Layout) (cs : List Char) :
    ∃ more, (layout.colon ++ cs).dropWhile isSpace = ':' :: more ∧
      ∀ n, readValue? n more = readValue? n cs := by
  cases layout with
  | oneLine => exact ⟨cs, List.dropWhile_cons_of_neg (by decide), fun _ => rfl⟩
  | level k =>
    refine ⟨' ' :: cs, List.dropWhile_cons_of_neg (by decide), ?_⟩
    intro n
    have hspace : isSpace ' ' = true := by decide
    cases n with
    | zero => rw [readValue?, readValue?]
    | succ n => rw [readValue?, readValue?, List.dropWhile_cons_of_pos hspace]

/-! ### Reading values -/

/-- With a budget, everything that is short enough is read back, whatever stops it. -/
structure Reads (budget : Nat) : Prop where
  value : ∀ (layout : Layout) {j : Json} {behind : List Char}, IsValid j →
    (render layout j).length < budget → Stops behind →
    readValue? budget (render layout j ++ behind) = some (j, behind)
  items : ∀ (layout : Layout) {item : Json} {rest : List Json} {behind : List Char},
    IsValid item → ItemsAreValid rest →
    (render layout.deeper item ++ renderItems layout rest).length < budget →
    readItems? budget (layout.deeper.lineBreak ++
      (render layout.deeper item ++ (renderItems layout rest ++ behind)))
      = some (item :: rest, behind)
  fields : ∀ (layout : Layout) (name : String) {v : Json} {rest : List (Wording × Json)}
    {behind : List Char}, IsValid v → FieldsAreValid rest →
    (render layout.deeper v ++ renderFields layout rest).length < budget →
    readFields? budget (layout.deeper.lineBreak ++
      (renderText name ++ (layout.colon ++ (render layout.deeper v ++
        (renderFields layout rest ++ behind)))))
      = some ((.whole name, v) :: rest, behind)

/-- A value is read back if its members are, with a smaller budget. -/
theorem reads_succ_value {n : Nat} (ih : Reads n) (layout : Layout) {j : Json} {behind : List Char}
    (hj : IsValid j) (hlen : (render layout j).length < n + 1) (hs : Stops behind) :
    readValue? (n + 1) (render layout j ++ behind) = some (j, behind) := by
  cases j with
  | null =>
    show readValue? (n + 1) ('n' :: (['u', 'l', 'l'] ++ behind)) = _
    rw [readValue?_plain (by decide)]
    exact readPlain?_word (w := ("null", null)) (by simp [words]) behind
  | flag b =>
    cases b with
    | true =>
      show readValue? (n + 1) ('t' :: (['r', 'u', 'e'] ++ behind)) = _
      rw [readValue?_plain (by decide)]
      exact readPlain?_word (w := ("true", flag true)) (by simp [words]) behind
    | false =>
      show readValue? (n + 1) ('f' :: (['a', 'l', 's', 'e'] ++ behind)) = _
      rw [readValue?_plain (by decide)]
      exact readPlain?_word (w := ("false", flag false)) (by simp [words]) behind
  | number literal =>
    obtain ⟨c, more, hl, hc⟩ := start_of_isNumberText hj
    have hread := readPlain?_of_isNumberText hj hs
    rw [hl, List.cons_append] at hread
    rw [render, hl, List.cons_append, readValue?_plain hc, hread]
  | text w =>
    cases w with
    | whole s =>
      rw [render]
      exact readValue?_text s n behind
    | torn t => cases hj
  | list items =>
    cases items with
    | nil =>
      rw [render, List.cons_append, readValue?, List.dropWhile_cons_of_neg (by decide)]
      rfl
    | cons item rest =>
      obtain ⟨hitem, hrest⟩ := hj
      obtain ⟨c, more, hstart, hspace, hbracket⟩ := start_of_isValid hitem layout.deeper
      rw [render] at hlen ⊢
      simp only [List.cons_append, List.append_assoc, List.length_cons, List.length_append] at hlen ⊢
      rw [readValue?_list, ih.items layout hitem hrest (by rw [List.length_append]; omega)]
      · rfl
      · rw [dropWhile_lineBreak, hstart, List.cons_append,
          List.dropWhile_cons_of_neg (by simp [hspace])]
        simpa using hbracket
  | object fields =>
    cases fields with
    | nil =>
      rw [render, List.cons_append, readValue?, List.dropWhile_cons_of_neg (by decide)]
      rfl
    | cons field rest =>
      obtain ⟨name | t, v⟩ := field
      case torn => exact absurd hj.1 Bool.false_ne_true
      obtain ⟨-, hv, hrest⟩ := hj
      rw [render] at hlen ⊢
      simp only [List.cons_append, List.append_assoc, List.length_cons, List.length_append] at hlen ⊢
      rw [readValue?_object, ih.fields layout name hv hrest (by rw [List.length_append]; omega)]
      · rfl
      · rw [dropWhile_lineBreak, renderText, List.cons_append,
          List.dropWhile_cons_of_neg (by decide)]
        simp

theorem renderItems_length_pos (layout : Layout) (items : List Json) :
    0 < (renderItems layout items).length := by
  cases items with
  | nil => simp
  | cons item rest => simp

theorem renderFields_length_pos (layout : Layout) (fields : List (Wording × Json)) :
    0 < (renderFields layout fields).length := by
  cases fields with
  | nil => simp
  | cons field rest => simp

/-- The members of a list are read back one by one, up to the bracket behind the last one. -/
theorem reads_succ_items {n : Nat} (ih : Reads n) (layout : Layout) {item : Json}
    {rest : List Json} {behind : List Char} (hitem : IsValid item) (hrest : ItemsAreValid rest)
    (hlen : (render layout.deeper item ++ renderItems layout rest).length < n + 1) :
    readItems? (n + 1) (layout.deeper.lineBreak ++
      (render layout.deeper item ++ (renderItems layout rest ++ behind)))
      = some (item :: rest, behind) := by
  have hpos := renderItems_length_pos layout rest
  rw [List.length_append] at hlen
  have hread := ih.value layout.deeper hitem (by omega) (stops_renderItems layout rest behind)
  rw [← readValue?_lineBreak layout.deeper] at hread
  cases rest with
  | nil =>
    refine readItems?_last hread ?_
    rw [renderItems, List.append_assoc, dropWhile_lineBreak]
    exact List.dropWhile_cons_of_neg (by decide)
  | cons next others =>
    obtain ⟨hnext, hothers⟩ := hrest
    simp only [renderItems, List.cons_append, List.length_cons, List.length_append] at hlen
    refine readItems?_more hread ?_ (ih.items layout hnext hothers (by
      rw [List.length_append]
      omega))
    simp only [renderItems, List.cons_append, List.append_assoc]
    exact List.dropWhile_cons_of_neg (by decide)

/-- The fields of an object are read back one by one, up to the brace behind the last one. -/
theorem reads_succ_fields {n : Nat} (ih : Reads n) (layout : Layout) (name : String) {v : Json}
    {rest : List (Wording × Json)} {behind : List Char} (hv : IsValid v) (hrest : FieldsAreValid rest)
    (hlen : (render layout.deeper v ++ renderFields layout rest).length < n + 1) :
    readFields? (n + 1) (layout.deeper.lineBreak ++
      (renderText name ++ (layout.colon ++ (render layout.deeper v ++
        (renderFields layout rest ++ behind)))))
      = some ((.whole name, v) :: rest, behind) := by
  have hpos := renderFields_length_pos layout rest
  rw [List.length_append] at hlen
  have hread := ih.value layout.deeper hv (by omega) (stops_renderFields layout rest behind)
  obtain ⟨more, hcolon, hmore⟩ := dropWhile_colon layout
    (render layout.deeper v ++ (renderFields layout rest ++ behind))
  rw [← hmore] at hread
  have hname := readString?_escaped name (layout.colon ++ (render layout.deeper v ++
    (renderFields layout rest ++ behind)))
  have hquote : (layout.deeper.lineBreak ++ (renderText name ++ (layout.colon ++
      (render layout.deeper v ++ (renderFields layout rest ++ behind))))).dropWhile isSpace
      = '"' :: ((Wording.whole name).points.flatMap escapedPoint ++ '"' :: (layout.colon ++
        (render layout.deeper v ++ (renderFields layout rest ++ behind)))) := by
    rw [dropWhile_lineBreak, renderText, List.cons_append, List.append_assoc]
    exact List.dropWhile_cons_of_neg (by decide)
  cases rest with
  | nil =>
    refine readFields?_last hquote hname hcolon hread ?_
    rw [renderFields, List.append_assoc, dropWhile_lineBreak]
    exact List.dropWhile_cons_of_neg (by decide)
  | cons next others =>
    obtain ⟨name' | t, v'⟩ := next
    case torn => exact absurd hrest.1 Bool.false_ne_true
    obtain ⟨-, hv', hothers⟩ := hrest
    simp only [renderFields, List.cons_append, List.length_cons, List.length_append] at hlen
    refine readFields?_more hquote hname hcolon hread ?_ (ih.fields layout name' hv' hothers (by
      rw [List.length_append]
      omega))
    simp only [renderFields, List.cons_append, List.append_assoc]
    exact List.dropWhile_cons_of_neg (by decide)

/-- **With any budget, everything that is short enough is read back.** -/
theorem reads (budget : Nat) : Reads budget := by
  induction budget with
  | zero =>
    constructor
    · intro layout j behind _ hlen
      exact absurd hlen (Nat.not_lt_zero _)
    · intro layout item rest behind _ _ hlen
      exact absurd hlen (Nat.not_lt_zero _)
    · intro layout name v rest behind _ _ hlen
      exact absurd hlen (Nat.not_lt_zero _)
  | succ n ih =>
    exact ⟨reads_succ_value ih, reads_succ_items ih, reads_succ_fields ih⟩

theorem read?_rendered {j : Json} (h : IsValid j) (layout : Layout) :
    read? (String.ofList (render layout j)) = some j := by
  have hread := (reads _).value layout h (Nat.lt_succ_self _) stops_nil
  rw [List.append_nil] at hread
  simp only [read?, String.toList_ofList, hread]
  rfl

/-- **An indented value is read as that value**, and so is a value on one line. -/
theorem read?_indented {j : Json} (h : IsValid j) :
    read? j.indented = some j ∧ read? j.compact = some j :=
  ⟨read?_rendered h (.level 0), read?_rendered h .oneLine⟩

end Tunebook.Json
