import Tunebook.Conversion.Files
import Tunebook.Proofs.Conversion.Gate
import Tunebook.Proofs.FileTree.Refusals

/-!
# How the other conversions end

Besides the conversion with gates there are one for several instruments, one with effects, one of a
file, and the saving of a file.  Each guards its stages, so a stage that fails becomes a result
that says so, with one message.

What stands outside the guarded stages is not kept back.  Instruments are enumerated before the
stages begin, and those that cannot be enumerated are a fault.  Reading and saving keep back what a
file system refuses, and a path that no file system is asked about is not refused.

* `Result.Reports`: what a result says of the stages that made it.
* `Site.FileEnds`, `Site.SaveEnds`: how the conversion of a file and a save end.
* `entries_end`: **every entry ends in a result or a report, except for these faults.**
* `faults_escape`: each of the three can be met.
-/

namespace Tunebook

namespace Result

def FailedWith (r : Result) (error message : String) : Prop :=
  r.success = false ∧ r.midi = none ∧ r.error = some error ∧ r.details = [message]

/-- A result of stages without gates: it holds their file, or says what went wrong. -/
def Reports (r : Result) (outcome : Except Fault (List UInt8)) : Prop :=
  (∃ midi, outcome = .ok midi ∧ r.Succeeded ∧ r.midi = some midi) ∨
    ∃ f, outcome = .error f ∧ r.FailedWith conversionFailed f.message

theorem failedWith_failure (c : Clock) (error message : String) :
    (failure c error [message]).FailedWith error message := ⟨rfl, rfl, rfl, rfl⟩

theorem reports_ofOutcome (c : Clock) (outcome : Except Fault (List UInt8 × Mapping)) :
    (ofOutcome c outcome).Reports (outcome >>= fun made => .ok made.1) := by
  cases outcome with
  | ok made => exact .inl ⟨made.1, rfl, ⟨rfl, rfl, rfl, rfl⟩, rfl⟩
  | error f => exact .inr ⟨f, rfl, failedWith_failure c _ _⟩

end Result

/-- The file of a text that is read as a tune, without gates. -/
def ungated (text : Source) (written : Score → Except Fault (List UInt8)) :
    Except Fault (List UInt8) := do
  let tune ← Tune.ofSource text
  written tune.score

theorem ungated_eq (text : Source) (written : Score → Except Fault (List UInt8))
    (told : Tune → Mapping) :
    ((do
      let tune ← Tune.ofSource text
      let midi ← written tune.score
      .ok (midi, told tune)) >>= fun made : List UInt8 × Mapping => .ok made.1)
      = ungated text written := by
  rw [ungated, bind_assoc]
  refine bind_congr fun tune => ?_
  rw [bind_assoc]
  cases written tune.score <;> rfl

/-- How the conversion for several instruments ends: with instruments that cannot be enumerated, or
with a result. -/
inductive MultiTrackEnds (text : Source) (instruments settings : Value) : Except Fault Result → Prop
  | notIterable : instruments.isGiven = true → instruments.members? = none →
      MultiTrackEnds text instruments settings (.error (.notIterable instruments.kind))
  | reported {names : List Value} {r : Result} : instrumentNames instruments = .ok names →
      r.Reports (ungated text fun s => generateMultiTrack s (.list names) settings) →
      MultiTrackEnds text instruments settings (.ok r)

theorem instrumentNames_eq_error_iff {instruments : Value} {f : Fault} :
    instrumentNames instruments = .error f ↔
      (instruments.isGiven = true ∧ instruments.members? = none) ∧
        f = .notIterable instruments.kind := by
  rw [instrumentNames]
  constructor
  · intro h
    split at h
    · next hgiven =>
      split at h
      · cases h
      · next hmembers =>
        cases h
        exact ⟨⟨hgiven, hmembers⟩, rfl⟩
    · cases h
  · rintro ⟨⟨hgiven, hmembers⟩, rfl⟩
    rw [if_pos hgiven, hmembers]

theorem MultiTrackEnds.returns_iff {text : Source} {instruments settings : Value} {x : Except Fault Result}
    (h : MultiTrackEnds text instruments settings x) :
    (∃ r, x = .ok r) ↔ ¬ (instruments.isGiven = true ∧ instruments.members? = none) := by
  cases h with
  | notIterable hgiven hmembers =>
    constructor
    · rintro ⟨r, h⟩
      cases h
    · intro hnone
      exact absurd ⟨hgiven, hmembers⟩ hnone
  | reported hnames _ =>
    refine ⟨fun _ hbare => ?_, fun _ => ⟨_, rfl⟩⟩
    rw [instrumentNames_eq_error_iff.2 ⟨hbare, rfl⟩] at hnames
    cases hnames

theorem convertMultiTrack_ends (c : Clock) (text : Source) (instruments settings : Value) :
    MultiTrackEnds text instruments settings (convertMultiTrack c text instruments settings) := by
  cases hnames : instrumentNames instruments with
  | error f =>
    obtain ⟨⟨hgiven, hmembers⟩, rfl⟩ := instrumentNames_eq_error_iff.1 hnames
    rw [convertMultiTrack, hnames]
    exact .notIterable hgiven hmembers
  | ok names =>
    rw [convertMultiTrack, hnames, ok_bind]
    refine .reported hnames ?_
    rw [← ungated_eq text _ fun tune => tune.metadata ++
      [(.text "instruments", .list names), (.text "track_count", .int names.length)]]
    exact Result.reports_ofOutcome c _

theorem convertWithEffects_reports (c : Clock) (text : Source) (sustain vibrato settings : Value) :
    (convertWithEffects c text sustain vibrato settings).Reports
      (ungated text fun s => generateWithEffects s sustain vibrato settings) := by
  rw [← ungated_eq text _ fun tune => tune.metadata ++
    [(.text "effects", .map [(.text "sustain", sustain), (.text "vibrato", vibrato)])]]
  exact Result.reports_ofOutcome c _

namespace Site

/-- How the conversion of a file ends: at a path that no file has, with a file that cannot be read
and a history as it was, or like the conversion of its text. -/
inductive FileEnds (s : Site) (h : History) (c : Clock) (path : String) (settings : Value) :
    Except Fault (History × Result) → Prop
  | noPath : '\x00' ∈ path.toList → FileEnds s h c path settings (.error .nulInPath)
  | unreadable {f : Fault} {r : Result} : '\x00' ∉ path.toList →
      s.readText (.ofText path) = .error f → f.IsRefusal ∨ f.IsUndecodable →
      r.FailedWith unreadableFile f.message → FileEnds s h c path settings (.ok (h, r))
  | converted {text : List Char} : '\x00' ∉ path.toList →
      s.readText (.ofText path) = .ok text →
      FileEnds s h c path settings
        (.ok (h.convert c (.text (String.ofList text)) (.flag false) settings))

/-- How a save ends: at a path that no file has, refused with at most new directories, or with the
bytes where the path leads. -/
inductive SaveEnds (s : Site) (path : String) (bytes : List UInt8) :
    FileTree × Except Fault Saved → Prop
  | noPath {files : FileTree} : s.MeetsNul (.ofText path) → s.files.Grows files →
      SaveEnds s path bytes (files, .error .nulInPath)
  | refused {files : FileTree} {f : Fault} : ¬ s.MeetsNul (.ofText path) → f.IsRefusal →
      s.files.Grows files → SaveEnds s path bytes (files, .ok (.refused [f.message]))
  | written {files : FileTree} : ¬ s.MeetsNul (.ofText path) →
      (s.withFiles files).read (.ofText path) = .ok bytes →
      SaveEnds s path bytes (files, .ok .written)

theorem FileEnds.returns_iff {s : Site} {h : History} {c : Clock} {path : String}
    {settings : Value} {x : Except Fault (History × Result)} (hx : s.FileEnds h c path settings x) :
    (∃ r, x = .ok r) ↔ '\x00' ∉ path.toList := by
  cases hx with
  | noPath hnul =>
    constructor
    · rintro ⟨r, h⟩
      cases h
    · intro hnone
      exact absurd hnul hnone
  | unreadable hnone _ _ _ => exact ⟨fun _ => hnone, fun _ => ⟨_, rfl⟩⟩
  | converted hnone _ => exact ⟨fun _ => hnone, fun _ => ⟨_, rfl⟩⟩

theorem SaveEnds.returns_iff {s : Site} {path : String} {bytes : List UInt8}
    {x : FileTree × Except Fault Saved} (hx : s.SaveEnds path bytes x) :
    (∃ saved, x.2 = .ok saved) ↔ ¬ s.MeetsNul (.ofText path) := by
  cases hx with
  | noPath hmeets _ =>
    constructor
    · rintro ⟨saved, h⟩
      cases h
    · intro hnone
      exact absurd hmeets hnone
  | refused hnone _ _ => exact ⟨fun _ => hnone, fun _ => ⟨_, rfl⟩⟩
  | written hnone _ => exact ⟨fun _ => hnone, fun _ => ⟨_, rfl⟩⟩

theorem convertFile_ends (s : Site) (h : History) (c : Clock) (path : String) (settings : Value) :
    s.FileEnds h c path settings (s.convertFile h c path settings) := by
  by_cases hnul : '\x00' ∈ path.toList
  · rw [convertFile, readText_of_hasNul ((Path.hasNul_ofText path).2 hnul)]
    exact .noPath hnul
  · have hp : (Path.ofText path).hasNul = false :=
      Bool.eq_false_iff.2 fun hp => hnul ((Path.hasNul_ofText path).1 hp)
    rw [convertFile]
    split
    · next text hread => exact .converted hnul hread
    · next hread =>
      rcases readText_eq_error hp hread with hrefused | ⟨_, _, _, e⟩
      · exact absurd hrefused not_isRefusal_nulInPath
      · cases e
    · next f _ hread =>
      exact .unreadable hnul hread (readText_eq_error hp hread)
        (Result.failedWith_failure c unreadableFile f.message)

theorem saveTune_ends (s : Site) (path : String) (bytes : List UInt8) :
    s.SaveEnds path bytes (s.saveTune path bytes) := by
  have hfault := @save_eq_nulInPath_iff s (.ofText path) bytes
  rw [saveTune]
  split
  · next files hsave =>
    refine .written (fun hmeets => ?_) (read_of_save hsave)
    rw [← hfault, hsave] at hmeets
    cases hmeets
  · next files hsave =>
    refine .noPath ?_ (grows_of_save hsave)
    rw [← hfault, hsave]
  · next files f known hsave =>
    refine .refused (fun hmeets => ?_) (isRefusal_of_save (by rw [hsave]) known) (grows_of_save hsave)
    rw [← hfault, hsave] at hmeets
    cases hmeets
    exact known rfl

end Site

/-- **Every entry ends in a result or a report**, whatever it is given, except where instruments
cannot be enumerated and where a path holds the character zero.  A result without gates tells of all
its stages, a file that cannot be read leaves the history as it was, and a save that is refused
changes no file. -/
theorem entries_end (s : Site) (h : History) (c : Clock)
    (text : Source) (instruments sustain vibrato settings : Value) (path : String) (bytes : List UInt8) :
    ((∃ r, convertMultiTrack c text instruments settings = .ok r) ↔
        ¬ (instruments.isGiven = true ∧ instruments.members? = none)) ∧
      ((∃ r, s.convertFile h c path settings = .ok r) ↔ '\x00' ∉ path.toList) ∧
      ((∃ saved, (s.saveTune path bytes).2 = .ok saved) ↔ ¬ s.MeetsNul (.ofText path)) ∧
      MultiTrackEnds text instruments settings (convertMultiTrack c text instruments settings) ∧
      (convertWithEffects c text sustain vibrato settings).Reports
        (ungated text fun score => generateWithEffects score sustain vibrato settings) ∧
      s.FileEnds h c path settings (s.convertFile h c path settings) ∧
      s.SaveEnds path bytes (s.saveTune path bytes) := by
  have hmulti := convertMultiTrack_ends c text instruments settings
  have heffects := convertWithEffects_reports c text sustain vibrato settings
  have hfile := s.convertFile_ends h c path settings
  have hsave := s.saveTune_ends path bytes
  exact ⟨hmulti.returns_iff, hfile.returns_iff, hsave.returns_iff, hmulti, heffects, hfile, hsave⟩

/-- Instruments that are a number, and paths that hold the character zero. -/
theorem faults_escape :
    (¬ ∀ (c : Clock) (text : Source) (instruments settings : Value),
      ∃ r, convertMultiTrack c text instruments settings = .ok r) ∧
    (¬ ∀ (s : Site) (h : History) (c : Clock) (path : String) (settings : Value),
      ∃ r, s.convertFile h c path settings = .ok r) ∧
    ¬ ∀ (s : Site) (path : String) (bytes : List UInt8),
      ∃ saved, (s.saveTune path bytes).2 = .ok saved := by
  refine ⟨fun h => ?_, fun h => ?_, fun h => ?_⟩
  · obtain ⟨r, hr⟩ := h {} (.text "K:C\nC") (.int 5) .null
    cases hr
  · obtain ⟨r, hr⟩ := h {} {} {} "a\x00b.abc" .null
    have hends : Site.convertFile {} {} {} "a\x00b.abc" .null = .error .nulInPath := by
      rw [Site.convertFile, Site.readText_of_hasNul (by decide)]
    rw [hends] at hr
    cases hr
  · obtain ⟨saved, hsaved⟩ := h {} "a\x00b.mid" []
    have hsave : Site.saveTune {} "a\x00b.mid" [] = ({}, .error .nulInPath) := by decide +kernel
    rw [hsave] at hsaved
    cases hsaved

end Tunebook
