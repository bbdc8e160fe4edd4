import Tunebook.Proofs.Command.Ways

/-!
# What runs write

A run writes its file as a whole or not at all.  Options that ask for files of different kinds are
refused when the arguments are read, so a run that goes on has one kind of file to write, and it has
all bytes of that before it saves any.  Saving is its last stage: a run that ends before, or that is
not able to save, leaves every file as it was.

* `Request.modes_length_le`: what is understood asks for one kind of file at most.
* `Options.Selects`: the bytes that the options ask for; `Options.selects_of_generated`: they are the
  ones that are written.
* `grows_of_not_returns`: **where no file was to be written, or none could be, no file changes.**
* `run_writes`: **a run changes the file that it was asked for, or none.**
-/

namespace Tunebook

namespace Command

/-! ### The kind of file -/

namespace Request

variable {p : Progress} {o : Options}

theorem modes_length_le_of_progress (h : ofProgress p = .ok (perform o)) :
    o.modes.length ≤ 1 := by
  rw [ofProgress] at h
  split at h
  · cases h
  · split at h
    · cases h
    · split at h
      · cases h
      · next hone =>
        cases h
        exact Nat.le_of_not_lt hone

theorem ofLetters_ne_perform (text : List Char) : ofLetters text ≠ .ok (perform o) := by
  intro h
  rw [ofLetters] at h
  split at h
  · cases h
  · cases h

theorem helpWith_ne_perform (attached : Option Attachment) :
    helpWith attached ≠ .ok (perform o) := by
  intro h
  cases attached with
  | none => cases h
  | some a =>
    cases a with
    | value text => cases h
    | letters text => exact ofLetters_ne_perform text h

theorem modes_length_le_of_words {words : List Word}
    (h : ofWordsFrom p words = .ok (perform o)) : o.modes.length ≤ 1 := by
  fun_induction ofWordsFrom p words
  case case1 => exact modes_length_le_of_progress h
  case case2 ih | case3 ih | case4 ih => exact ih h
  case case5 attached _ => exact absurd h (helpWith_ne_perform attached)
  case case6 ih | case8 ih | case9 ih | case11 ih => exact ih h
  case case7 | case10 => cases h

/-- **What is understood asks for one kind of file at most.** -/
theorem modes_length_le {arguments : List String} (h : read arguments = .ok (perform o)) :
    o.modes.length ≤ 1 := by
  obtain ⟨words, _, h⟩ := bind_eq_ok.1 h
  exact modes_length_le_of_words h

end Request

namespace Options

variable {o : Options} {settings : Value} {s : Score} {raw : List UInt8}

/-- The bytes that the options ask for, before they are optimized: each option that asks for a kind of
file asks for these, and without such an option they are those of a plain file. -/
structure Selects (o : Options) (settings : Value) (s : Score) (raw : List UInt8) : Prop where
  tracks : o.instruments ≠ "" →
    generateMultiTrack s (.list o.instrumentList) settings = .ok raw
  effects : o.sustain = true ∨ o.vibrato = true →
    generateWithEffects s (.flag o.sustain) (.flag o.vibrato) settings = .ok raw
  texts : o.title ≠ "" ∨ o.composer ≠ "" →
    generateWithTexts s (.text o.title) (.text o.composer) settings = .ok raw
  plain : o.modes = [] → generate s settings = .ok raw

theorem absent_of_plain (plain : o.modes = []) : o.instruments.isEmpty = true ∧
    (o.sustain || o.vibrato) = false ∧ (o.title.isEmpty && o.composer.isEmpty) = true := by
  rw [modes] at plain
  generalize o.instruments.isEmpty = noTracks at plain ⊢
  generalize (o.sustain || o.vibrato) = effects at plain ⊢
  generalize (o.title.isEmpty && o.composer.isEmpty) = noTexts at plain ⊢
  revert noTracks effects noTexts
  decide

theorem excludes_of_one (one : o.modes.length ≤ 1) :
    (o.instruments.isEmpty = false →
      (o.sustain || o.vibrato) = false ∧ (o.title.isEmpty && o.composer.isEmpty) = true) ∧
    ((o.sustain || o.vibrato) = true → (o.title.isEmpty && o.composer.isEmpty) = true) := by
  rw [modes] at one
  generalize o.instruments.isEmpty = noTracks at one ⊢
  generalize (o.sustain || o.vibrato) = effects at one ⊢
  generalize (o.title.isEmpty && o.composer.isEmpty) = noTexts at one ⊢
  revert noTracks effects noTexts
  decide

/-- **What is written is what the options ask for**, where they ask for one kind of file. -/
theorem selects_of_generated (one : o.modes.length ≤ 1) (h : o.generated settings s = .ok raw) :
    o.Selects settings s raw := by
  obtain ⟨noOther, noTexts⟩ := excludes_of_one one
  rw [generated] at h
  constructor
  case tracks =>
    intro hgiven
    rw [String.isEmpty_eq_false_iff.2 hgiven] at h
    exact h
  case effects =>
    intro hgiven
    have heffects : (o.sustain || o.vibrato) = true := Bool.or_eq_true_iff.2 hgiven
    cases hi : o.instruments.isEmpty with
    | false =>
      rw [(noOther hi).1] at heffects
      cases heffects
    | true =>
      rw [hi, heffects] at h
      exact h
  case texts =>
    intro hgiven
    have htexts : (o.title.isEmpty && o.composer.isEmpty) = false := by
      rw [Bool.and_eq_false_iff, String.isEmpty_eq_false_iff, String.isEmpty_eq_false_iff]
      exact hgiven
    cases hi : o.instruments.isEmpty with
    | false =>
      rw [(noOther hi).2] at htexts
      cases htexts
    | true =>
      cases he : (o.sustain || o.vibrato) with
      | true =>
        rw [noTexts he] at htexts
        cases htexts
      | false =>
        rw [hi, he, htexts] at h
        exact h
  case plain =>
    intro hplain
    obtain ⟨hi, he, ht⟩ := absent_of_plain hplain
    rw [hi, he, ht] at h
    exact h

end Options

/-! ### All or nothing -/

section

variable {site : Site} {arguments : List String}

theorem Made.selects {o : Options} {input : Path} {settings : Mapping} {text : List Char}
    {tune : Tune} {midi : List UInt8} (made : Made site arguments o input settings text tune midi) :
    Tune.read (String.ofList text) = .ok tune ∧
      ∃ raw, o.Selects (.map settings) tune.score raw ∧
        midi = if o.optimize then optimized raw else raw := by
  obtain ⟨hread, _, hwritten⟩ := passage_eq_passed_iff.1 made.passed
  obtain ⟨raw, hraw, h⟩ := bind_eq_ok.1 hwritten
  cases h
  exact ⟨hread, raw, Options.selects_of_generated (Request.modes_length_le made.request) hraw, rfl⟩

/-- **Where no file was to be written, or none could be, no file changes.**  At most there are more
directories. -/
theorem grows_of_not_returns (h : ¬ Returns site arguments) :
    site.files.Grows (run site arguments).files := by
  have w := run_way site arguments
  generalize (run site arguments).ending = e at w
  generalize hfiles : (run site arguments).files = files at w ⊢
  cases w with
  | unsaved made leads known fails => exact Site.grows_of_save fails
  | unwritable made leads fails => exact Site.grows_of_save fails
  | saved made leads saves =>
    exact absurd (returns_iff.2 ⟨_, _, _, _, _, _, _, _, made, leads, saves, hfiles⟩) h
  | _ => exact .refl _

end

/-- **A run changes the file that it was asked for, or none.**  Where it returns, the file at its
target holds all bytes of the kind of file that its options ask for, and every other file is as it
was.  Where it ends in any other way, every file is as it was. -/
theorem run_writes (site : Site) (arguments : List String) :
    let files := (run site arguments).files
    (Returns site arguments → ∃ o input settings text tune midi raw target place,
      Made site arguments o input settings text tune midi ∧
      Tune.read (String.ofList text) = .ok tune ∧
      o.Selects (.map settings) tune.score raw ∧
      midi = (if o.optimize then optimized raw else raw) ∧
      o.target site input = .ok target ∧
      (site.withFiles files).locate (.ofText target.text) = .ok place ∧
      files.file? place = some midi ∧
      ∀ other, other ≠ place → files.file? other = site.files.file? other) ∧
    (¬ Returns site arguments → ∀ place, files.file? place = site.files.file? place) := by
  intro files
  constructor
  · intro h
    obtain ⟨o, input, settings, text, tune, midi, target, after, made, leads, saves, hfiles⟩ :=
      returns_iff.1 h
    obtain ⟨hread, raw, selects, hmidi⟩ := made.selects
    obtain ⟨place, hplace, hfile, hothers⟩ := Site.exists_place_of_save saves
    obtain rfl : files = after := hfiles
    exact ⟨o, input, settings, text, tune, midi, raw, target, place, made, hread, selects, hmidi,
      leads, hplace, hfile, hothers⟩
  · intro h place
    exact (grows_of_not_returns h).file?_eq place

end Command

end Tunebook
