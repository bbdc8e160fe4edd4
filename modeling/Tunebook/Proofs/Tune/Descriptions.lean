import Tunebook.Midi.Generate
import Tunebook.Proofs.Midi.Tempo
import Tunebook.Proofs.Tune.Numbers
import Tunebook.Proofs.Tune.Outline
import Tunebook.Proofs.Tune.Sections

/-!
# Fields that only describe a tune

Number, title, composer, meter, note length and key of a tune are written down and not played.
Whatever stands behind the tags of such fields in the header, letters of notes, bars, tags or
nothing, the line stays a field with that tag: so the outline of the text is the same, the header
ends where it ended, and the same lines are read as music.

* `Header.readFrom_revalued`: a header with other values, line by line.
* `Tune.read_redescribed`: **what a tune is described as does not sound.**
-/

namespace Tunebook

/-! ### Fields with other values -/

def Field.describes : Field → Bool
  | number | title | composer | meter | noteLength | key => true
  | tempo | voice | instruction => false

theorem ne_tempo_of_describes {f : Field} (describes : f.describes = true) : f ≠ .tempo := by
  rintro rfl
  cases describes

/-- A line and the same line, or the line of a describing field with another value; a number must
be one that can be read. -/
inductive Revalued : List Char → List Char → Prop
  | same (line : List Char) : Revalued line line
  | value {f : Field} {indent value value' : List Char} (describes : f.describes = true)
      (blank : allBlank indent = true)
      (short : f = .number → (leadingDigits value').length ≤ digitLimit) :
      Revalued (indent ++ f.letter :: ':' :: value) (indent ++ f.letter :: ':' :: value')

/-- A text and the same text with other values of some describing fields in its header.  What stands
below the header stays, letter by letter. -/
def Redescribed (text text' : String) : Prop :=
  ∃ above, List.Forall₂ Revalued (headerLines text) above ∧
    lines text'.toList = above ++ (lines text.toList).dropWhile fun line => !Header.endsAt line

theorem classify_tagged {indent : List Char} (h : allBlank indent = true) (f : Field)
    (value : List Char) :
    Line.classify (indent ++ f.letter :: ':' :: value) = .field f (strip value) := by
  rw [classify_congr (strip_append h _)]
  exact classify_of_split? (split?_tag f.ofLetter?_letter)

theorem Revalued.bare_eq {line line' : List Char} (h : Revalued line line') :
    (Line.classify line').bare = (Line.classify line).bare := by
  cases h with
  | same => rfl
  | value describes blank short =>
    rw [classify_tagged blank, classify_tagged blank]
    rfl

theorem Line.eq_blank_of_bare {l : Line} (h : l.bare = .blank) : l = .blank := by
  cases l with
  | blank => rfl
  | field f value => cases h
  | music => cases h

theorem Line.eq_music_of_bare {l : Line} (h : l.bare = .music) : l = .music := by
  cases l with
  | music => rfl
  | field f value => cases h
  | blank => cases h

namespace Header

theorem set_describing {f : Field} {value : List Char} (describes : f.describes = true)
    (short : f = .number → (leadingDigits value).length ≤ digitLimit) (h : Header) :
    ∃ header, h.set f value = .ok header ∧ header.tempo = h.tempo := by
  have hset : ∃ header, h.set f value = .ok header := by
    cases f with
    | number =>
      obtain ⟨n, hn⟩ := (leadingInteger_ok_iff value).2 (short rfl)
      exact ⟨_, bind_eq_ok.2 ⟨n, hn, rfl⟩⟩
    | tempo => cases describes
    | _ => exact ⟨_, rfl⟩
  obtain ⟨header, hset⟩ := hset
  exact ⟨header, hset, tempo_of_set hset (ne_tempo_of_describes describes)⟩

theorem set_of_tempo_eq {h h' header : Header} (e : h'.tempo = h.tempo) {f : Field}
    {value : List Char} (hset : h.set f value = .ok header) :
    ∃ header', h'.set f value = .ok header' ∧ header'.tempo = header.tempo := by
  cases f with
  | number =>
    obtain ⟨n, hn, hset⟩ := bind_eq_ok.1 hset
    cases hset
    exact ⟨_, bind_eq_ok.2 ⟨n, hn, rfl⟩, e⟩
  | tempo =>
    obtain ⟨n, hn, hset⟩ := bind_eq_ok.1 hset
    cases hset
    exact ⟨_, bind_eq_ok.2 ⟨n, hn, rfl⟩, rfl⟩
  | _ =>
    cases hset
    exact ⟨_, rfl, e⟩

theorem set_revalued {line line' : List Char} (hline : Revalued line line') {f : Field}
    {value : List Char} (hk : Line.classify line = .field f value) {h h' h₁ : Header}
    (e : h'.tempo = h.tempo) (hset : h.set f value = .ok h₁) :
    ∃ value' h₁', Line.classify line' = .field f value' ∧ h'.set f value' = .ok h₁' ∧
      h₁'.tempo = h₁.tempo := by
  cases hline with
  | same =>
    obtain ⟨h₁', hset', e'⟩ := set_of_tempo_eq e hset
    exact ⟨value, h₁', hk, hset', e'⟩
  | @value _ indent _ value' describes blank short =>
    rw [classify_tagged blank] at hk
    cases hk
    rw [← leadingDigits_strip] at short
    obtain ⟨h₁', hset', e'⟩ := set_describing describes short h'
    refine ⟨strip value', h₁', classify_tagged blank f value', hset', ?_⟩
    rw [e', e, tempo_of_set hset (ne_tempo_of_describes describes)]

/-- **A header with other values of its describing fields** is read, with its tempo, and ends at the
same line. -/
theorem readFrom_revalued {ls ls' : List (List Char)} (hls : List.Forall₂ Revalued ls ls')
    {h h' header : Header} {n : Nat} (e : h'.tempo = h.tempo)
    (hr : readFrom h ls = .ok (header, n)) :
    ∃ header', readFrom h' ls' = .ok (header', n) ∧ header'.tempo = header.tempo := by
  induction hls generalizing h h' header n with
  | nil =>
    cases hr
    exact ⟨h', rfl, e⟩
  | @cons line line' rest rest' hline _ ih =>
    have hbare := hline.bare_eq
    rw [readFrom] at hr
    cases hk : Line.classify line with
    | blank =>
      rw [hk] at hr hbare
      obtain ⟨⟨header, k⟩, hmore, hr⟩ := bind_eq_ok.1 hr
      cases hr
      obtain ⟨header', hmore', e'⟩ := ih e hmore
      refine ⟨header', ?_, e'⟩
      rw [readFrom, Line.eq_blank_of_bare hbare, hmore']
      rfl
    | field f value =>
      rw [hk] at hr
      obtain ⟨h₁, hset, hr⟩ := bind_eq_ok.1 hr
      obtain ⟨⟨header, k⟩, hmore, hr⟩ := bind_eq_ok.1 hr
      cases hr
      obtain ⟨value', h₁', hk', hset', e₁⟩ := set_revalued hline hk e hset
      obtain ⟨header', hmore', e'⟩ := ih e₁ hmore
      refine ⟨header', ?_, e'⟩
      rw [readFrom, hk']
      exact bind_eq_ok.2 ⟨h₁', hset', bind_eq_ok.2 ⟨(header', k), hmore', rfl⟩⟩
    | music =>
      rw [hk] at hr hbare
      cases hr
      refine ⟨h', ?_, e⟩
      rw [readFrom, Line.eq_music_of_bare hbare]

end Header

theorem headerLines_append (text : String) :
    headerLines text ++ (lines text.toList).dropWhile (fun line => !Header.endsAt line)
      = lines text.toList :=
  List.takeWhile_append_dropWhile

theorem Tune.exists_boundary {text : String} {tune : Tune} (h : Tune.read text = .ok tune) :
    ∃ boundary, Header.read (lines (strip text.toList)) = .ok (tune.header, boundary) := by
  obtain ⟨⟨header, n⟩, hr, h⟩ := bind_eq_ok.1 h
  obtain ⟨notes, _, h⟩ := bind_eq_ok.1 h
  cases h
  exact ⟨n, hr⟩

namespace Redescribed

variable {text text' : String}

theorem lines_revalued (h : Redescribed text text') :
    List.Forall₂ Revalued (lines text.toList) (lines text'.toList) := by
  obtain ⟨above, hrevalued, hlines⟩ := h
  have hsame := headerLines_append text
  generalize (lines text.toList).dropWhile (fun line => !Header.endsAt line) = body at hlines hsame
  rw [hlines, ← hsame]
  exact List.rel_append hrevalued (List.forall₂_same.2 fun line _ => Revalued.same line)

theorem outline_eq (h : Redescribed text text') :
    outline text.toList = outline text'.toList := by
  rw [outline, outline, ← List.forall₂_eq_eq_eq, List.forall₂_map_left_iff,
    List.forall₂_map_right_iff]
  exact h.lines_revalued.imp fun _ _ hline => hline.bare_eq.symm

theorem drop_eq (h : Redescribed text text') {n : Nat} (hn : n = (headerLines text).length) :
    (lines text'.toList).drop n = (lines text.toList).drop n := by
  obtain ⟨above, hrevalued, hlines⟩ := h
  have hsame := headerLines_append text
  generalize (lines text.toList).dropWhile (fun line => !Header.endsAt line) = body at hlines hsame
  have hlength : above.length = n := hrevalued.length_eq.symm.trans hn.symm
  rw [hlines, ← hsame, List.drop_left' hlength, List.drop_left' hn.symm]

end Redescribed

/-- **What a tune is described as does not sound.** -/
theorem Tune.read_redescribed {text text' : String} {tune : Tune}
    (parsed : Tune.read text = .ok tune) (changed : Redescribed text text') :
    ∃ tune', Tune.read text' = .ok tune' ∧ tune'.notes = tune.notes ∧
      tune'.header.tempo = tune.header.tempo ∧
      (∃ boundary, Header.read (lines (strip text.toList)) = .ok (tune.header, boundary) ∧
        Header.read (lines (strip text'.toList)) = .ok (tune'.header, boundary)) ∧
      ∀ settings : Value, generate tune'.score settings = generate tune.score settings ∧
        (∀ instruments, generateMultiTrack tune'.score instruments settings
          = generateMultiTrack tune.score instruments settings) ∧
        (∀ sustain vibrato, generateWithEffects tune'.score sustain vibrato settings
          = generateWithEffects tune.score sustain vibrato settings) ∧
        ∀ title composer, generateWithTexts tune'.score title composer settings
          = generateWithTexts tune.score title composer settings := by
  obtain ⟨boundary, hboundary⟩ := Tune.exists_boundary parsed
  rw [Tune.read_eq] at parsed
  obtain ⟨⟨header, texts⟩, hparts, parsed⟩ := bind_eq_ok.1 parsed
  obtain ⟨notes, hnotes, parsed⟩ := bind_eq_ok.1 parsed
  cases parsed
  obtain ⟨⟨header, n⟩, hread, hparts⟩ := bind_eq_ok.1 hparts
  cases hparts
  obtain ⟨header', hread', htempo⟩ := Header.readFrom_revalued changed.lines_revalued rfl hread
  have hbody := changed.drop_eq (Header.readFrom_length hread)
  have parsed' : Tune.read text' = .ok ⟨header', notes, .of text'.toList⟩ := by
    rw [← hbody] at hnotes
    rw [Tune.read_eq]
    exact bind_eq_ok.2 ⟨_, bind_eq_ok.2 ⟨_, hread', rfl⟩, bind_eq_ok.2 ⟨notes, hnotes, rfl⟩⟩
  obtain ⟨boundary', hboundary'⟩ := Tune.exists_boundary parsed'
  obtain rfl := boundary_congr changed.outline_eq hboundary hboundary'
  have hscore : (⟨header', notes, .of text'.toList⟩ : Tune).score
      = (⟨header, notes, .of text.toList⟩ : Tune).score := by
    rw [Tune.score, Tune.score, htempo]
  refine ⟨_, parsed', rfl, htempo, ⟨boundary, hboundary, hboundary'⟩, fun settings => ?_⟩
  rw [hscore]
  exact ⟨rfl, fun _ => rfl, fun _ _ => rfl, fun _ _ => rfl⟩

/-- A title that looks like music, a number with text behind it and a key without a value. -/
theorem Tune.read_redescribed_music :
    ∃ tune', Tune.read "X:-7 C|\nT:A2%G|\nQ:90\n K:\n^CD2" = .ok tune' ∧
      tune'.notes = [⟨"C", 61, 1, "^", 4⟩, ⟨"D", 62, 2, "", 4⟩] ∧ tune'.header.tempo = 90 ∧
      ∀ settings, generate tune'.score settings
        = generate ⟨.int 90, [⟨.int 61, .int 1⟩, ⟨.int 62, .int 2⟩]⟩ settings := by
  have parsed : Tune.read "X:1\nT:Song\nQ:90\n K:G\n^CD2" = .ok
      { header := { title := "Song", key := "G", tempo := 90, number := some 1 }
        notes := [⟨"C", 61, 1, "^", 4⟩, ⟨"D", 62, 2, "", 4⟩] } := by
    decide +kernel
  have above : headerLines "X:1\nT:Song\nQ:90\n K:G\n^CD2"
      = ["X:1".toList, "T:Song".toList, "Q:90".toList, " K:G".toList] := by
    decide +kernel
  have number : Revalued "X:1".toList "X:-7 C|".toList :=
    @Revalued.value .number [] ['1'] "-7 C|".toList rfl rfl (by decide)
  have title : Revalued "T:Song".toList "T:A2%G|".toList :=
    @Revalued.value .title [] "Song".toList "A2%G|".toList rfl rfl (by decide)
  have key : Revalued " K:G".toList " K:".toList :=
    @Revalued.value .key [' '] ['G'] [] rfl rfl (by decide)
  have changed : Redescribed "X:1\nT:Song\nQ:90\n K:G\n^CD2"
      "X:-7 C|\nT:A2%G|\nQ:90\n K:\n^CD2" := by
    refine ⟨["X:-7 C|".toList, "T:A2%G|".toList, "Q:90".toList, " K:".toList], ?_,
      by decide +kernel⟩
    rw [above]
    exact .cons number (.cons title (.cons (.same _) (.cons key .nil)))
  obtain ⟨tune', hread, hnotes, htempo, _, hsame⟩ := Tune.read_redescribed parsed changed
  exact ⟨tune', hread, hnotes, htempo, fun settings => (hsame settings).1⟩

end Tunebook
