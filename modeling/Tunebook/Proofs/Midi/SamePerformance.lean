import Tunebook.Proofs.Midi.Performance

/-!
# All files play the same

`Performance.lean` has one equation for each kind of file.  Here they are compared: the kinds fail
together, but for a torn text, which only the file that holds it cannot write, and what is read back
of them differs by the layout alone.

* `tornFault?_textMessages`, `wordings_ensemble`: the texts of the layouts.
* `generateWithEffects_eq_error_iff`, `generateWithTexts_eq_error_iff`, `generateMultiTrack_eq_error_iff`:
  where the kinds fail, by the plain one.
* `files_play_same`: **all files of a score play the same performance**, and where the plain one
  fails so do the others.
* `torn_text_fails_alone`: **a torn text can be the only reason to fail.**
-/

namespace Tunebook

/-! ### The number of tracks -/

theorem Performance.length_ensemble (p : Performance) (names : List Wording) :
    (p.ensemble names).length = names.length := by
  cases names with
  | nil => rfl
  | cons first rest =>
    rw [Performance.ensemble, List.length_cons, List.length_cons, List.length_map]

theorem length_orUsual {names : List Wording} (few : names.length ≤ 32767) :
    (orUsual names).length ≤ 32767 := by
  rw [orUsual]
  split
  · decide
  · exact few

/-! ### The texts of the tracks -/

theorem wordings_controllers (c : Channel) (sustain vibrato : Bool) :
    Track.wordings (controllers c sustain vibrato) = [] := by
  cases sustain <;> cases vibrato <;> rfl

theorem tornFault?_textMessages (content : Option Wording) :
    tornFault? (Track.wordings (textMessages content)) = tornFault? content.toList := by
  cases content with
  | none => rfl
  | some w =>
    rw [textMessages]
    split
    · next h =>
      subst h
      rfl
    · rfl

theorem wordings_ensemble {p : Performance} (h : Track.wordings p.notes = []) (names : List Wording) :
    (p.ensemble names).flatMap Track.wordings = names := by
  have hfollowing : ∀ name, Track.wordings (p.following name) = [name] := fun name =>
    congrArg (name :: ·) h
  cases names with
  | nil => rfl
  | cons first rest =>
    have hleading : Track.wordings (p.leading first) = [first] := congrArg (first :: ·) h
    rw [Performance.ensemble, List.flatMap_cons, List.flatMap_map, hleading]
    simp only [hfollowing, List.flatMap_singleton', List.singleton_append]

theorem tornFault?_orUsual (names : List Wording) : tornFault? (orUsual names) = tornFault? names := by
  cases names with
  | nil => rfl
  | cons name rest => rfl

/-! ### Where files fail -/

section

variable {s : Score} {settings : Value} (shortPlain : generate s settings ≠ .error .chunkTooLong)

include shortPlain

/-- A file with effects fails where the plain file does. -/
theorem generateWithEffects_eq_error_iff {sustain vibrato : Bool}
    (short : generateWithEffects s (.flag sustain) (.flag vibrato) settings ≠ .error .chunkTooLong)
    (f : Fault) :
    generateWithEffects s (.flag sustain) (.flag vibrato) settings = .error f ↔
      generate s settings = .error f := by
  have hnone : ∀ resolution p, s.performance settings .null resolution = .ok p →
      tornFault? ([p.head ++ controllers p.channel sustain vibrato ++ p.notes].flatMap Track.wordings)
        = none := fun _ p hp => by
    rw [List.flatMap_singleton, Track.wordings_append, Track.wordings_append, wordings_controllers,
      wordings_of_performance hp]
    rfl
  have h := Score.file_eq_error_iff (generateWithEffects_eq s settings sustain vibrato)
    (fun _ => by rw [List.length_singleton]; omega) short shortPlain hnone f
  exact h.trans (or_iff_left nofun)

/-- A file with texts fails where the plain file does, or at the first torn text. -/
theorem generateWithTexts_eq_error_iff {title composer : Option Wording}
    (short : generateWithTexts s (optionalText title) (optionalText composer) settings
      ≠ .error .chunkTooLong) (f : Fault) :
    generateWithTexts s (optionalText title) (optionalText composer) settings = .error f ↔
      generate s settings = .error f ∨ (∃ bytes, generate s settings = .ok bytes) ∧
        tornFault? (title.toList ++ composer.toList) = some f := by
  refine Score.file_eq_error_iff (generateWithTexts_eq s settings title composer)
    (fun _ => by rw [List.length_singleton]; omega) short shortPlain (fun _ p hp => ?_) f
  rw [List.flatMap_singleton, Track.wordings_append, Track.wordings_append, tornFault?_append,
    tornFault?_append, tornFault?_textMessages, tornFault?_textMessages, wordings_track hp,
    ← tornFault?_append]
  exact Option.or_none

/-- A file of several tracks fails where the plain file does, or at the first torn name. -/
theorem generateMultiTrack_eq_error_iff (named : NamesInstrument settings) {names : List Wording}
    (few : names.length ≤ 32767)
    (short : generateMultiTrack s (.list (names.map .ofWording)) settings ≠ .error .chunkTooLong)
    (f : Fault) :
    generateMultiTrack s (.list (names.map .ofWording)) settings = .error f ↔
      generate s settings = .error f ∨ (∃ bytes, generate s settings = .ok bytes) ∧
        tornFault? names = some f := by
  have many : ∀ p : Performance, (p.ensemble (orUsual names)).length ≤ 32767 := fun p => by
    rw [p.length_ensemble]
    exact length_orUsual few
  refine Score.file_eq_error_iff (generateMultiTrack_eq s named names) many short shortPlain
    (fun _ p hp => ?_) f
  rw [wordings_ensemble (wordings_of_performance hp), tornFault?_orUsual]

end

/-- Where the plain file is written and no text is torn, another file does not fail either. -/
theorem ne_error_of_whole {plain made : Except Fault (List UInt8)} {texts : List Wording}
    {bytes : List UInt8} (hmade : ∀ f, made = .error f ↔
      plain = .error f ∨ (∃ bytes, plain = .ok bytes) ∧ tornFault? texts = some f)
    (h : plain = .ok bytes) (whole : ∀ w ∈ texts, w.isWhole = true) (f : Fault) :
    made ≠ .error f := by
  intro hf
  rw [hmade, tornFault?_eq_none.2 whole, h] at hf
  rcases hf with hf | ⟨_, hf⟩
  · cases hf
  · cases hf

/-! ### The comparison -/

/-- **All files of a score play the same performance.**  Whatever the score holds and whatever the
settings say, as long as an instrument in them is a text: a file with effects, one with texts and
one with a track for each of several instruments fail where the plain file does, and for the same
reason.  The latter two fail in one more case, where the first torn text among theirs is the reason.
Else they hold what the plain file holds, with the controllers between the head and the notes, with
the texts that are not empty in front, or once for each instrument, where only the first track sets
the tempo.  No track is to be too long for its chunk. -/
theorem files_play_same (s : Score) {settings : Value} (sustain vibrato : Bool)
    (title composer : Option Wording) (names : List Wording)
    (named : NamesInstrument settings) (few : names.length ≤ 32767)
    (short : ∀ file ∈
      [generate s settings, generateWithEffects s (.flag sustain) (.flag vibrato) settings,
        generateWithTexts s (optionalText title) (optionalText composer) settings,
        generateMultiTrack s (.list (names.map .ofWording)) settings], file ≠ .error .chunkTooLong) :
    let plain := generate s settings
    let withEffects := generateWithEffects s (.flag sustain) (.flag vibrato) settings
    let withTexts := generateWithTexts s (optionalText title) (optionalText composer) settings
    let withTracks := generateMultiTrack s (.list (names.map .ofWording)) settings
    let texts := title.toList ++ composer.toList
    (∀ f, withEffects = .error f ↔ plain = .error f) ∧
    (∀ f, withTexts = .error f ↔
      plain = .error f ∨ (∃ bytes, plain = .ok bytes) ∧ tornFault? texts = some f) ∧
    (∀ f, withTracks = .error f ↔
      plain = .error f ∨ (∃ bytes, plain = .ok bytes) ∧ tornFault? names = some f) ∧
    (sustain = false → vibrato = false → withEffects = plain) ∧
    (textMessages title = [] → textMessages composer = [] → withTexts = plain) ∧
    ∀ bytes, plain = .ok bytes → ∃ (resolution : Nat) (p : Performance),
      (∀ t ∈ p.notes, t.message.isOfNote = true) ∧
      readFile? bytes = some
        { format := 0, resolution, tracks := [{ messages := p.head ++ p.notes, last := 0 }] } ∧
      (∃ bytes', withEffects = .ok bytes' ∧ readFile? bytes' = some
        { format := 0, resolution,
          tracks := [{ messages := p.head ++ controllers p.channel sustain vibrato ++ p.notes,
                       last := 0 }] }) ∧
      ((∀ w ∈ texts, w.isWhole = true) → ∃ bytes', withTexts = .ok bytes' ∧ readFile? bytes' = some
        { format := 0, resolution,
          tracks := [{ messages := textMessages title ++ textMessages composer
                         ++ (p.head ++ p.notes),
                       last := 0 }] }) ∧
      ((∀ w ∈ names, w.isWhole = true) → ∃ bytes', withTracks = .ok bytes' ∧ readFile? bytes' = some
        { format := 1, resolution,
          tracks := (p.ensemble (orUsual names)).map fun t => { messages := t, last := 0 } }) := by
  intro plain withEffects withTexts withTracks texts
  have hplain : plain = _ := generate_eq s settings
  have heffects : withEffects = _ := generateWithEffects_eq s settings sustain vibrato
  have htexts : withTexts = _ := generateWithTexts_eq s settings title composer
  have htracks : withTracks = _ := generateMultiTrack_eq s named names
  obtain ⟨shortPlain, shortEffects, shortTexts, shortTracks⟩ :
      plain ≠ .error .chunkTooLong ∧ withEffects ≠ .error .chunkTooLong ∧
        withTexts ≠ .error .chunkTooLong ∧ withTracks ≠ .error .chunkTooLong := by
    simpa only [List.forall_mem_cons, List.not_mem_nil, false_implies, implies_true, and_true]
      using short
  have endEffects := generateWithEffects_eq_error_iff shortPlain shortEffects
  have endTexts := generateWithTexts_eq_error_iff shortPlain shortTexts
  have endTracks := generateMultiTrack_eq_error_iff shortPlain named few shortTracks
  refine ⟨endEffects, endTexts, endTracks, ?_, ?_, ?_⟩
  · intro hs hv
    rw [heffects, hplain, hs, hv]
    simp only [controllers, Bool.false_eq_true, if_false, List.append_nil]
    rfl
  · intro ht hc
    rw [htexts, hplain, ht, hc]
    rfl
  · intro bytes h
    -- the other files do not fail either, so each of them is its layout of `p`
    have hnone : ∀ f, withEffects ≠ .error f := fun f hf =>
      nomatch h.symm.trans ((endEffects f).1 hf)
    obtain ⟨resolution, p, hr, hp, hback⟩ := Score.file_eq_ok (hplain.symm.trans h)
    exact ⟨resolution, p, isOfNote_of_performance hp, hback,
      Score.file_of_performance heffects hr hp hnone,
      fun whole => Score.file_of_performance htexts hr hp (ne_error_of_whole endTexts h whole),
      fun whole => Score.file_of_performance htracks hr hp (ne_error_of_whole endTracks h whole)⟩

/-- Two notes of a flute on channel 3, with both effects, with a title and no composer, and on two
instruments. -/
theorem files_play_same_flute :
    let score : Score := ⟨.int 90, [⟨.int 60, .int 2⟩, ⟨.int 62, .int 1⟩]⟩
    let settings : Value := .map [(.text "instrument", .text "flute"), (.text "channel", .int 3)]
    ∃ (bytes effects texts tracks : List UInt8) (resolution : Nat) (p : Performance),
      generate score settings = .ok bytes ∧
      readFile? bytes = some ⟨0, resolution, [⟨p.head ++ p.notes, 0⟩]⟩ ∧
      generateWithEffects score (.flag true) (.flag true) settings = .ok effects ∧
      readFile? effects
        = some ⟨0, resolution, [⟨p.head ++ controllers p.channel true true ++ p.notes, 0⟩]⟩ ∧
      generateWithTexts score (.text "Air") .null settings = .ok texts ∧
      readFile? texts = some ⟨0, resolution, [⟨⟨0, .text "Air"⟩ :: (p.head ++ p.notes), 0⟩]⟩ ∧
      generateMultiTrack score (.list [.text "violin", .text "flute"]) settings = .ok tracks ∧
      readFile? tracks
        = some ⟨1, resolution, [⟨p.leading "violin", 0⟩, ⟨p.following "flute", 0⟩]⟩ := by
  intro score settings
  have named : NamesInstrument settings := by
    intro v hv
    cases hv
    exact .inr ⟨.whole "flute", rfl⟩
  have written : ∃ bytes, generate score settings = .ok bytes := by
    have hsome : (generate score settings).isOk = true := by decide +kernel
    cases h : generate score settings with
    | ok bytes => exact ⟨bytes, rfl⟩
    | error f =>
      rw [h] at hsome
      cases hsome
  obtain ⟨bytes, hbytes⟩ := written
  obtain ⟨_, _, _, _, _, h⟩ := files_play_same score true true (some (.whole "Air")) none
    [.whole "violin", .whole "flute"] named (by decide) (by decide +kernel)
  obtain ⟨resolution, p, _, hback, ⟨effects, he, heback⟩, htexts, htracks⟩ := h bytes hbytes
  obtain ⟨texts, ht, htback⟩ := htexts (by decide)
  obtain ⟨tracks, hs, hsback⟩ := htracks (by decide)
  exact ⟨bytes, effects, texts, tracks, resolution, p, hbytes, hback, he, heback, ht, htback, hs,
    hsback⟩

/-- **A torn text can be the only reason to fail**: the plain file of a note is written, but neither
the file with a torn title nor the one for an instrument with that name. -/
theorem torn_text_fails_alone :
    let score : Score := ⟨.int 120, [⟨.int 60, .int 1⟩]⟩
    let torn : Value := .ofWording (.ofPoints [.ofCode 0xd800])
    ((generate score .null).isOk = true) ∧
      generateWithTexts score torn .null .null = .error (.unencodable [0xd800] 0) ∧
      generateMultiTrack score (.list [torn]) .null = .error (.unencodable [0xd800] 0) := by
  decide +kernel

end Tunebook
