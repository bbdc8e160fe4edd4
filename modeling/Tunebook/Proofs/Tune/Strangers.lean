import Tunebook.Proofs.Tune.Fields

/-!
# What the check of a text says

The check looks at three things of a text that is not blank: whether it holds a note letter, whether it
holds the tags of the key and of the meter, and which characters that no music holds stand on the lines
that no tag begins.  These characters are listed with a comma and a blank between them.  Neither is ever
listed itself, so the list can be taken apart again.

* `FirstCome`: some members of a list, each once, in the order in which they first came;
  `firstCome_distinct`: that is what is left without repetitions, by induction on the list from its end.
* `cutAt_joined`: **pieces that were put together with two characters between them are cut apart again.**
* `strangers_eq_untagged`: the characters that are found are those of the lines that no tag begins.
* `checkText_tells`: **what the check of a text says**, and when it says nothing.
-/

namespace Tunebook

/-! ### Two characters next to each other -/

theorem containsPair_cons (a b c : Char) (cs : List Char) :
    containsPair a b (c :: cs) = (c == a && cs.head? == some b || containsPair a b cs) := by
  cases cs with
  | nil => simp [containsPair]
  | cons d rest =>
    rw [containsPair, List.head?_cons]
    rfl

/-- **Two characters stand next to each other where the text of both stands in the text.** -/
theorem containsPair_iff {a b : Char} {cs : List Char} :
    containsPair a b cs = true ↔ [a, b] <:+: cs := by
  induction cs with
  | nil => simp [containsPair]
  | cons c rest ih =>
    have hfront : (c == a && rest.head? == some b) = true ↔ [a, b] <+: c :: rest := by
      cases rest with
      | nil => simp
      | cons d more => simp [@eq_comm _ a c, @eq_comm _ b d]
    rw [containsPair_cons, Bool.or_eq_true, hfront, ih, List.infix_cons_iff]

/-- A text cut wherever two characters stand next to each other, from the left; they belong to no piece. -/
def cutAt (a b : Char) : List Char → List (List Char)
  | [] => [[]]
  | [c] => [[c]]
  | c :: d :: rest =>
    if c = a ∧ d = b then [] :: cutAt a b rest
    else match cutAt a b (d :: rest) with
      | [] => [[c]]
      | piece :: more => (c :: piece) :: more

section

variable {a b : Char}

theorem cutAt_pair (rest : List Char) : cutAt a b (a :: b :: rest) = [] :: cutAt a b rest := by
  rw [cutAt, if_pos ⟨rfl, rfl⟩]

theorem cutAt_cons {c : Char} (hc : c ≠ a) {cs piece : List Char} {more : List (List Char)}
    (h : cutAt a b cs = piece :: more) : cutAt a b (c :: cs) = (c :: piece) :: more := by
  cases cs with
  | nil =>
    cases h
    rfl
  | cons d rest => rw [cutAt, if_neg fun hboth => hc hboth.1, h]

theorem cutAt_of_not_mem {piece : List Char} (h : a ∉ piece) : cutAt a b piece = [piece] := by
  induction piece with
  | nil => rfl
  | cons c rest ih =>
    rw [List.mem_cons, not_or] at h
    exact cutAt_cons (Ne.symm h.1) (ih h.2)

theorem cutAt_append {piece : List Char} (h : a ∉ piece) (rest : List Char) :
    cutAt a b (piece ++ a :: b :: rest) = piece :: cutAt a b rest := by
  induction piece with
  | nil => exact cutAt_pair rest
  | cons c more ih =>
    rw [List.mem_cons, not_or] at h
    exact cutAt_cons (Ne.symm h.1) (ih h.2)

/-- **Pieces that were put together with two characters between them are cut apart again**, if the first
of the two stands in none of them. -/
theorem cutAt_joined {pieces : List (List Char)} (hne : pieces ≠ []) (h : ∀ piece ∈ pieces, a ∉ piece) :
    cutAt a b (joined [a, b] pieces) = pieces := by
  induction pieces with
  | nil => exact absurd rfl hne
  | cons piece rest ih =>
    have hpiece := h piece List.mem_cons_self
    cases rest with
    | nil => exact cutAt_of_not_mem hpiece
    | cons next more =>
      have hrest := ih (by simp) fun p hp => h p (List.mem_cons_of_mem _ hp)
      rw [joined, List.append_assoc]
      show cutAt a b (piece ++ a :: b :: joined [a, b] (next :: more)) = _
      rw [cutAt_append hpiece, hrest]

end

/-! ### Without repetitions -/

/-- The members of a kind of a list, each once, in the order in which they first came. -/
structure FirstCome (p : Char → Bool) (cs found : List Char) : Prop where
  mem_iff : ∀ c, c ∈ found ↔ c ∈ cs ∧ p c = true
  ordered : found.Pairwise fun c d => cs.idxOf c < cs.idxOf d

section

variable {p : Char → Bool} {cs found : List Char}

theorem FirstCome.nodup (h : FirstCome p cs found) : found.Nodup :=
  h.ordered.imp fun hlt heq => by
    rw [heq] at hlt
    exact Nat.lt_irrefl _ hlt

theorem FirstCome.ordered_append (h : FirstCome p cs found) (more : List Char) :
    found.Pairwise fun c d => (cs ++ more).idxOf c < (cs ++ more).idxOf d := by
  refine h.ordered.imp_of_mem fun hc hd hlt => ?_
  rwa [List.idxOf_append_of_mem ((h.mem_iff _).1 hc).1, List.idxOf_append_of_mem ((h.mem_iff _).1 hd).1]

theorem FirstCome.concat_old (h : FirstCome p cs found) {c : Char} (hc : p c = true → c ∈ found) :
    FirstCome p (cs ++ [c]) found where
  mem_iff d := by
    rw [h.mem_iff, List.mem_append, List.mem_singleton]
    constructor
    · rintro ⟨hd, hp⟩
      exact ⟨.inl hd, hp⟩
    · rintro ⟨hd | rfl, hp⟩
      · exact ⟨hd, hp⟩
      · exact (h.mem_iff d).1 (hc hp)
  ordered := h.ordered_append [c]

theorem FirstCome.concat_new (h : FirstCome p cs found) {c : Char} (hp : p c = true) (hc : c ∉ found) :
    FirstCome p (cs ++ [c]) (found ++ [c]) where
  mem_iff d := by
    rw [List.mem_append, h.mem_iff, List.mem_append, List.mem_singleton]
    constructor
    · rintro (⟨hd, hpd⟩ | rfl)
      · exact ⟨.inl hd, hpd⟩
      · exact ⟨.inr rfl, hp⟩
    · rintro ⟨hd | rfl, hpd⟩
      · exact .inl ⟨hd, hpd⟩
      · exact .inr rfl
  ordered := by
    have hnew : c ∉ cs := fun hmem => hc ((h.mem_iff c).2 ⟨hmem, hp⟩)
    refine List.pairwise_append.2 ⟨h.ordered_append [c], List.pairwise_singleton _ _, ?_⟩
    intro d hd e he
    obtain rfl := List.mem_singleton.1 he
    have hmem := ((h.mem_iff d).1 hd).1
    rw [List.idxOf_append_of_mem hmem, List.idxOf_append_of_notMem hnew]
    exact Nat.lt_add_right _ (List.idxOf_lt_length_of_mem hmem)

theorem distinct_concat (cs : List Char) (c : Char) :
    distinct (cs ++ [c]) = if c ∈ distinct cs then distinct cs else distinct cs ++ [c] := by
  rw [distinct, List.foldl_append, ← distinct, List.foldl_cons, List.foldl_nil]
  simp only [List.contains_iff_mem]

/-- **Without repetitions a list has its members in the order in which they first came.** -/
theorem firstCome_distinct (p : Char → Bool) (cs : List Char) :
    FirstCome p cs (distinct (cs.filter p)) := by
  -- from the end, since what comes last does not change which of the others came first
  induction cs using List.reverseRecOn with
  | nil => exact ⟨fun c => by simp [distinct], List.Pairwise.nil⟩
  | append_singleton before c ih =>
    rw [List.filter_append]
    by_cases hp : p c = true
    · rw [List.filter_cons_of_pos hp, List.filter_nil, distinct_concat]
      split
      · next hold => exact ih.concat_old fun _ => hold
      · next hnew => exact ih.concat_new hp hnew
    · rw [List.filter_cons_of_neg hp, List.filter_nil, List.append_nil]
      exact ih.concat_old fun h => absurd h hp

end

/-! ### The lines that are checked -/

theorem filter_joined {p : Char → Bool} (hp : p ' ' = false) (ls : List (List Char)) :
    (joined [' '] ls).filter p = ls.flatMap fun line => line.filter p := by
  induction ls with
  | nil => rfl
  | cons line rest ih =>
    cases rest with
    | nil => simp [joined]
    | cons next more => simp [joined, hp, ih]

def lineStrangers (line : List Char) : List Char :=
  if isMusicLine line then line.filter fun c => !isMusicChar c else []

theorem strangers_eq (cs : List Char) :
    strangers cs = distinct ((lines cs).flatMap lineStrangers) := by
  have hfilter : ∀ ls : List (List Char),
      ((ls.filter isMusicLine).flatMap fun line => line.filter fun c => !isMusicChar c)
        = ls.flatMap lineStrangers := by
    intro ls
    induction ls with
    | nil => rfl
    | cons line rest ih =>
      by_cases hm : isMusicLine line = true
      · simp [lineStrangers, hm, ih]
      · simp [lineStrangers, hm, ih]
  rw [strangers, musicText, filter_joined (by decide), hfilter]

/-- Whether the tag of a field begins a line. -/
def beginsWithTag (line : List Char) : Bool := Field.all.any fun f => f.tag.isPrefixOf line

theorem beginsWithTag_iff {line : List Char} : beginsWithTag line = true ↔ ∃ f : Field, f.tag <+: line := by
  simp [beginsWithTag, Field.mem_all]

theorem isSome_split? (line : List Char) : (Field.split? line).isSome = beginsWithTag line := by
  rw [Bool.eq_iff_iff, beginsWithTag_iff, Option.isSome_iff_exists]
  constructor
  · rintro ⟨⟨f, value⟩, h⟩
    obtain ⟨c, hc, rfl⟩ := tag_of_split? h
    rw [← Field.letter_of_ofLetter? hc]
    exact ⟨f, value, rfl⟩
  · rintro ⟨f, rest, rfl⟩
    exact ⟨(f, rest), split?_tag f.ofLetter?_letter⟩

/-- The lines of a text that no tag begins. -/
def untaggedLines (cs : List Char) : List (List Char) := (lines cs).filter fun line => !beginsWithTag line

theorem lineStrangers_of_untagged {line : List Char} (h : beginsWithTag line = false) :
    lineStrangers line = line.filter fun c => !isMusicChar c := by
  have hnone : (Field.split? line).isNone = true := by
    rw [← Option.not_isSome, isSome_split?, h, Bool.not_false]
  rw [lineStrangers, isMusicLine, hnone, Bool.true_and]
  split
  · rfl
  · next hblank =>
    rw [Bool.not_eq_true, Bool.not_eq_false', allBlank, List.all_eq_true] at hblank
    refine (List.filter_eq_nil_iff.2 fun c hc => ?_).symm
    simp [isMusicChar, hblank c hc]

theorem lineStrangers_of_tagged {line : List Char} (h : beginsWithTag line = true) :
    lineStrangers line = [] := by
  have hsome : (Field.split? line).isNone = false := by
    rw [← Option.not_isSome, isSome_split?, h, Bool.not_true]
  rw [lineStrangers, isMusicLine, hsome, Bool.false_and, if_neg Bool.false_ne_true]

/-- **The characters that are found are those of the lines that no tag begins.** -/
theorem strangers_eq_untagged (cs : List Char) :
    strangers cs = distinct ((untaggedLines cs).flatten.filter fun c => !isMusicChar c) := by
  rw [strangers_eq, untaggedLines]
  congr 1
  induction lines cs with
  | nil => rfl
  | cons line rest ih =>
    rw [List.flatMap_cons, ih]
    cases h : beginsWithTag line with
    | false => simp [h, lineStrangers_of_untagged h]
    | true => simp [h, lineStrangers_of_tagged h]

theorem firstCome_strangers (cs : List Char) :
    FirstCome (fun c => !isMusicChar c) (untaggedLines cs).flatten (strangers cs) := by
  rw [strangers_eq_untagged]
  exact firstCome_distinct _ _

theorem mem_strangers_iff {cs : List Char} {c : Char} : c ∈ strangers cs ↔
    isMusicChar c = false ∧ ∃ line ∈ lines cs, beginsWithTag line = false ∧ c ∈ line := by
  simp [(firstCome_strangers cs).mem_iff, untaggedLines, and_assoc, and_comm]

/-! ### What is said -/

/-- Whether a complaint is the one about characters that no music holds. -/
def isStrangersEntry (entry : String) : Bool :=
  "Invalid characters in notes: ".toList.isPrefixOf entry.toList

theorem isStrangersEntry_strangersText (cs : List Char) : isStrangersEntry (strangersText cs) = true := by
  have htext : (strangersText cs).toList = "Invalid characters in notes: ".toList ++ _ :=
    String.toList_append
  have hprefix : "Invalid characters in notes: ".toList <+: (strangersText cs).toList :=
    ⟨_, htext.symm⟩
  rwa [isStrangersEntry, List.isPrefixOf_iff_prefix]

theorem mem_unless {b : Bool} {complaint entry : String} :
    entry ∈ (if b then [] else [complaint]) ↔ b = false ∧ entry = complaint := by
  cases b <;> simp

theorem unless_eq_nil {b : Bool} {complaint : String} :
    (if b then [] else [complaint]) = [] ↔ b = true := by
  cases b <;> simp

theorem unless_sublist {b : Bool} {complaint : String} :
    (if b then [] else [complaint]).Sublist [complaint] := by
  cases b <;> simp

def otherComplaints : List String :=
  ["No valid notes found (A-G, a-g)", "Missing key/clef field (K:)", "Missing meter field (M:)"]

theorem others_sublist (notes key meter : Bool) :
    ((if notes then [] else ["No valid notes found (A-G, a-g)"])
      ++ (if key then [] else ["Missing key/clef field (K:)"])
      ++ (if meter then [] else ["Missing meter field (M:)"])).Sublist otherComplaints :=
  (unless_sublist.append unless_sublist).append unless_sublist

theorem isStrangersEntry_other : ∀ entry ∈ otherComplaints, isStrangersEntry entry = false := by decide

section

variable {text : String}

theorem checkText_errors (h : allBlank text.toList = false) : (checkText text).errors =
    (if text.toList.any isNoteLetter then [] else ["No valid notes found (A-G, a-g)"])
      ++ (if containsPair 'K' ':' text.toList then [] else ["Missing key/clef field (K:)"])
      ++ (if containsPair 'M' ':' text.toList then [] else ["Missing meter field (M:)"])
      ++ (if (strangers text.toList).isEmpty then [] else [strangersText (strangers text.toList)]) := by
  rw [checkText, h]
  rfl

/-- **The complaint about characters that no music holds is made where there are any**, and it is the only
one of its kind. -/
theorem mem_errors_iff (h : allBlank text.toList = false) {entry : String} :
    entry ∈ (checkText text).errors ∧ isStrangersEntry entry = true ↔
      strangers text.toList ≠ [] ∧ entry = strangersText (strangers text.toList) := by
  rw [checkText_errors h, List.mem_append, mem_unless, List.isEmpty_eq_false_iff]
  constructor
  · rintro ⟨hother | hfound, hentry⟩
    · rw [isStrangersEntry_other entry ((others_sublist _ _ _).subset hother)] at hentry
      cases hentry
    · exact hfound
  · rintro ⟨hne, rfl⟩
    exact ⟨.inr ⟨hne, rfl⟩, isStrangersEntry_strangersText _⟩

theorem nodup_errors (h : allBlank text.toList = false) : (checkText text).errors.Nodup := by
  rw [checkText_errors h]
  refine List.Nodup.sublist ((others_sublist _ _ _).append unless_sublist)
    (List.nodup_append.2 ⟨by decide, List.pairwise_singleton _ _, ?_⟩)
  rintro entry hother _ hlast rfl
  have hentry := isStrangersEntry_other entry hother
  rw [List.mem_singleton.1 hlast, isStrangersEntry_strangersText] at hentry
  cases hentry

/-- **A text is valid where nothing is said of it.** -/
theorem isValid_iff (h : allBlank text.toList = false) : (checkText text).isValid = true ↔
    strangers text.toList = [] ∧ (∃ c ∈ text.toList, isNoteLetter c = true) ∧
      ['K', ':'] <:+: text.toList ∧ ['M', ':'] <:+: text.toList := by
  rw [Report.isValid, List.isEmpty_iff, checkText_errors h, List.append_eq_nil_iff,
    List.append_eq_nil_iff, List.append_eq_nil_iff, unless_eq_nil, unless_eq_nil, unless_eq_nil,
    unless_eq_nil, containsPair_iff, containsPair_iff, List.any_eq_true, List.isEmpty_iff]
  constructor
  · rintro ⟨⟨⟨hnotes, hkey⟩, hmeter⟩, hfound⟩
    exact ⟨hfound, hnotes, hkey, hmeter⟩
  · rintro ⟨hfound, hnotes, hkey, hmeter⟩
    exact ⟨⟨⟨hnotes, hkey⟩, hmeter⟩, hfound⟩

theorem cutAt_strangers (hne : strangers text.toList ≠ []) :
    cutAt ',' ' ' (joined [',', ' '] ((strangers text.toList).map fun c => [c]))
      = (strangers text.toList).map fun c => [c] := by
  refine cutAt_joined (by simpa using hne) fun piece hpiece hcomma => ?_
  obtain ⟨c, hc, rfl⟩ := List.mem_map.1 hpiece
  obtain rfl := List.mem_singleton.1 hcomma
  have hmusic : isMusicChar ',' = true := by decide
  rw [mem_strangers_iff, hmusic] at hc
  cases hc.1

/-- **What the check of a text says.**  It complains about characters that no music holds if such a
character stands on a line that no tag begins.  The complaint lists these characters, each once and in the
order in which they first came, and the list falls apart into them at its commas.  The text is valid if
there is no such complaint, it holds a note letter, and it holds the tags of the key and of the meter. -/
theorem checkText_tells (h : allBlank text.toList = false) :
    ((∃ entry ∈ (checkText text).errors, isStrangersEntry entry = true) ↔
      ∃ line ∈ lines text.toList, beginsWithTag line = false ∧ ∃ c ∈ line, isMusicChar c = false) ∧
    (∃ found, FirstCome (fun c => !isMusicChar c) (untaggedLines text.toList).flatten found ∧
      found.Nodup ∧
      ∀ entry ∈ (checkText text).errors, isStrangersEntry entry = true →
        ∃ listed, entry = "Invalid characters in notes: " ++ String.ofList listed ∧
          cutAt ',' ' ' listed = found.map fun c => [c]) ∧
    (checkText text).errors.Nodup ∧
    ((checkText text).isValid = true ↔
      (¬ ∃ entry ∈ (checkText text).errors, isStrangersEntry entry = true) ∧
      (∃ c ∈ text.toList, isNoteLetter c = true) ∧
      ['K', ':'] <:+: text.toList ∧ ['M', ':'] <:+: text.toList) := by
  have hfirst := firstCome_strangers text.toList
  have hentry : (∃ entry ∈ (checkText text).errors, isStrangersEntry entry = true) ↔
      strangers text.toList ≠ [] := by
    constructor
    · rintro ⟨entry, hmem, hstrangers⟩
      exact ((mem_errors_iff h).1 ⟨hmem, hstrangers⟩).1
    · intro hne
      exact ⟨_, (mem_errors_iff h).2 ⟨hne, rfl⟩⟩
  refine ⟨?_, ⟨_, hfirst, hfirst.nodup, ?_⟩, nodup_errors h, ?_⟩
  · rw [hentry]
    constructor
    · intro hne
      obtain ⟨c, hc⟩ := List.exists_mem_of_ne_nil _ hne
      obtain ⟨hmusic, line, hl, htag, hmem⟩ := mem_strangers_iff.1 hc
      exact ⟨line, hl, htag, c, hmem, hmusic⟩
    · rintro ⟨line, hl, htag, c, hmem, hmusic⟩
      exact List.ne_nil_of_mem (mem_strangers_iff.2 ⟨hmusic, line, hl, htag, hmem⟩)
  · intro entry hmem hstrangers
    obtain ⟨hne, rfl⟩ := (mem_errors_iff h).1 ⟨hmem, hstrangers⟩
    exact ⟨_, rfl, cutAt_strangers hne⟩
  · rw [hentry, not_ne_iff]
    exact isValid_iff h

/-- A tag hides only the line that it begins: behind other characters it is no tag. -/
theorem checkText_tells_tags_within :
    allBlank "chK:\nX: é\nh i M:".toList = false ∧
      (checkText "chK:\nX: é\nh i M:").errors = ["Invalid characters in notes: h, K, :, i, M"] ∧
      ∃ line ∈ lines "chK:\nX: é\nh i M:".toList,
        beginsWithTag line = false ∧ ∃ c ∈ line, isMusicChar c = false := by
  have hfull : allBlank "chK:\nX: é\nh i M:".toList = false := by decide
  have herrors : (checkText "chK:\nX: é\nh i M:").errors
      = ["Invalid characters in notes: h, K, :, i, M"] := by decide
  have hentry : "Invalid characters in notes: h, K, :, i, M"
      ∈ (checkText "chK:\nX: é\nh i M:").errors := by
    rw [herrors]
    exact List.mem_singleton_self _
  exact ⟨hfull, herrors, (checkText_tells hfull).1.1 ⟨_, hentry, by decide⟩⟩

end

end Tunebook
