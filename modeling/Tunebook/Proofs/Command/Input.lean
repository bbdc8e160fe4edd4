import Tunebook.Proofs.Command.Writes
import Tunebook.Proofs.FileTree.Resolved
import Tunebook.Proofs.Text.Lines
import Tunebook.Proofs.Text.Utf8
import Tunebook.Proofs.Tune.Sections

/-!
# What runs do to their input

A run that is not told where to save its file saves it beside its input, under the name of the input
with the suffix of a file of music.  Input and target are both resolved, so they are one file exactly
where the name of the input has that suffix already, and then a run that returns has replaced its
input.  What it finds there afterwards is never what stood there before, since no file of music passes
for the text of a tune.

* `not_valid_of_file`: no file of music is a text that the first gate lets pass.
* `run_keeps_input`: **a run keeps its input, unless that has the suffix of its own target.**
* `input_replaced`: a tune in a file with that suffix is lost.
-/

namespace Tunebook

/-! ### Files of music and texts of tunes -/

def LeadsToFile (x : Except Fault (List UInt8)) : Prop :=
  ∀ bytes, x = .ok bytes → ∃ rest, bytes = 0x4d :: 0x54 :: rest

theorem LeadsToFile.bind {α : Type} {x : Except Fault α} {f : α → Except Fault (List UInt8)}
    (h : ∀ a, LeadsToFile (f a)) : LeadsToFile (x >>= f) := by
  intro bytes hbytes
  obtain ⟨a, _, hbytes⟩ := bind_eq_ok.1 hbytes
  exact h a bytes hbytes

theorem leadsToFile_fileBytes (format : FileFormat) (resolution : Int) (tracks : List Track) :
    LeadsToFile (fileBytes format resolution tracks) := by
  intro bytes h
  obtain ⟨_, _, _, header, _, _, _, _, hheader, _, rfl⟩ := fileBytes_eq_ok h
  rw [chunk] at hheader
  split at hheader
  · cases hheader
    exact ⟨_, rfl⟩
  · cases hheader

theorem leadsToFile_singleTrack (events : List Event) (resolution : Int) :
    LeadsToFile (singleTrack events resolution) :=
  .bind fun _ => leadsToFile_fileBytes _ _ _

theorem Command.Options.leadsToFile_generated (o : Options) (settings : Value) (s : Score) :
    LeadsToFile (o.generated settings s) := by
  rw [generated]
  split
  · exact .bind fun _ => .bind fun _ => .bind fun _ => leadsToFile_fileBytes _ _ _
  · split
    · exact .bind fun _ => .bind fun _ => .bind fun _ => .bind fun _ => .bind fun _ =>
        leadsToFile_fileBytes _ _ _
    · split
      · exact .bind fun _ => .bind fun _ => leadsToFile_singleTrack _ _
      · exact .bind fun _ => .bind fun _ => leadsToFile_singleTrack _ _

theorem Command.Options.leadsToFile_written (o : Options) (settings : Value) (s : Score) :
    LeadsToFile (o.written settings s) := by
  intro midi h
  obtain ⟨raw, hraw, h⟩ := bind_eq_ok.1 h
  cases h
  rw [optimized, ite_self]
  exact o.leadsToFile_generated settings s raw hraw

theorem decodeText_of_file {rest : List UInt8} {cs : List Char}
    (h : decodeText (0x4d :: 0x54 :: rest) = .ok cs) : ∃ more, cs = 'M' :: 'T' :: more := by
  have hfirst := @decodeFrom_one 0 0x4d (0x54 :: rest) (by decide)
  have hsecond := @decodeFrom_one 1 0x54 rest (by decide)
  rw [decodeText, show (0x4d : UInt8) = .ofNat 0x4d from rfl, hfirst,
    show (0x54 : UInt8) = .ofNat 0x54 from rfl, hsecond] at h
  cases hmore : decodeFrom 2 rest with
  | error f =>
    rw [hmore] at h
    cases h
  | ok more =>
    rw [hmore] at h
    cases h
    exact ⟨more, rfl⟩

theorem isMusicLine_of_file (line : List Char) : isMusicLine ('M' :: 'T' :: line) = true := by
  have hsplit : Field.split? ('M' :: 'T' :: line) = none := by
    rw [Field.split?.eq_def]
    split
    · next h => cases h
    · rfl
  rw [isMusicLine, hsplit]
  rfl

/-- No file of music passes for a tune: its first line is neither a field nor music. -/
theorem not_valid_of_file (more : List Char) :
    (checkInput (.text (String.ofList ('M' :: 'T' :: more)))).isValid = false := by
  rw [Bool.eq_false_iff]
  intro hvalid
  rw [checkInput] at hvalid
  split at hvalid
  · cases hvalid
  · obtain ⟨line, others, hlines⟩ := List.exists_cons_of_ne_nil (lines_ne_nil more)
    have hfirst : lines ('M' :: 'T' :: more) = ('M' :: 'T' :: line) :: others :=
      lines_cons (by decide) (lines_cons (by decide) hlines)
    have hmem : 'M' :: 'T' :: line ∈ lines (String.ofList ('M' :: 'T' :: more)).toList := by
      rw [String.toList_ofList, hfirst]
      exact List.mem_cons_self
    have hmusic := isMusicChar_of_valid hvalid hmem (isMusicLine_of_file line) 'T'
      (List.mem_cons_of_mem _ List.mem_cons_self)
    exact absurd hmusic (by decide)

namespace Command

variable {site : Site} {arguments : List String} {o : Options} {input : Path} {settings : Mapping}
  {text : List Char} {tune : Tune} {midi content : List UInt8}

/-- **What a run makes of its input is not what stands there.** -/
theorem Made.ne_content (made : Made site arguments o input settings text tune midi)
    (readable : site.read input = .ok content) : midi ≠ content := by
  rintro rfl
  obtain ⟨_, _, hwritten⟩ := passage_eq_passed_iff.1 made.passed
  obtain ⟨rest, rfl⟩ := o.leadsToFile_written _ _ _ hwritten
  obtain ⟨bytes, hread, hdecoded⟩ := bind_eq_ok.1 made.readable
  obtain rfl := Except.ok.inj (readable.symm.trans hread)
  obtain ⟨cs, hcs, htext⟩ := bind_eq_ok.1 hdecoded
  obtain ⟨more, rfl⟩ := decodeText_of_file hcs
  have accepted := made.accepted
  obtain rfl : 'M' :: 'T' :: withLineFeeds more = text := Except.ok.inj htext
  rw [not_valid_of_file] at accepted
  cases accepted

/-! ### Input and target -/

/-- Arguments that, if they are understood, name an input and do not say where the file is saved. -/
def Beside (site : Site) (arguments : List String) (input : Path) : Prop :=
  ∀ o, Request.read arguments = .ok (.perform o) → o.output = "" ∧ inputPath site o = .ok input

theorem resolved_of_inputPath (here : site.here.Proper) (h : inputPath site o = .ok input) :
    input.Resolved := by
  obtain ⟨text, _, h⟩ := bind_eq_ok.1 h
  exact Site.resolved_of_pathOf here h

theorem resolved_target (h : input.Resolved) : (input.withSuffix ".mid").Resolved :=
  h.withSuffix (by decide) (by decide)

theorem target_eq_self_iff (named : input.names ≠ []) :
    input.withSuffix ".mid" = input ↔ input.EndsWith ".mid" :=
  @Path.withSuffix_eq_self_iff input ".mid" ['m', 'i', 'd'] rfl (by decide) (by decide) named

theorem saved_beside (here : site.here.Proper)
    (beside : Beside site arguments input)
    (returns : Returns site arguments) :
    input.Resolved ∧ ∃ o settings text tune midi,
      Made site arguments o input settings text tune midi ∧
      site.save (input.withSuffix ".mid") midi = ((run site arguments).files, none) := by
  obtain ⟨o, input', settings, text, tune, midi, target, files, made, leads, saves, rfl⟩ :=
    returns_iff.1 returns
  obtain ⟨houtput, hinput⟩ := beside o made.request
  obtain rfl := Except.ok.inj (made.path.symm.trans hinput)
  have resolved := resolved_of_inputPath here hinput
  rw [Options.target, if_pos (String.isEmpty_iff.2 houtput)] at leads
  obtain rfl := Except.ok.inj leads
  rw [(resolved_target resolved).ofText_text] at saves
  exact ⟨resolved, o, settings, text, tune, midi, made, saves⟩

theorem read_of_save_beside (resolved : input.Resolved) (readable : site.read input = .ok content)
    (apart : ¬ input.EndsWith ".mid") {files : FileTree}
    (saves : site.save (input.withSuffix ".mid") midi = (files, none)) :
    (site.withFiles files).read input = .ok content := by
  refine Site.read_of_save_other saves readable ?_
  intro hsame
  obtain ⟨place, hplace, _, _⟩ := Site.exists_place_of_save saves
  have hpath := Site.eq_of_locate_eq (resolved_target resolved) resolved hplace (hsame ▸ hplace)
  exact apart ((target_eq_self_iff (Site.names_ne_nil_of_read resolved readable)).1 hpath)

/-- **A run keeps its input, unless that has the suffix of its own target.**  In a run that is not told
where to save its file, the input is afterwards what it was before, except where its name has the
suffix of a file of music already and the run returns.  Then it is that file, and never what it was. -/
theorem run_keeps_input (here : site.here.Proper)
    (beside : Beside site arguments input)
    (readable : site.read input = .ok content) :
    let after := site.withFiles (run site arguments).files
    (after.read input = .ok content ↔ ¬ (Returns site arguments ∧ input.EndsWith ".mid")) ∧
    (Returns site arguments → input.EndsWith ".mid" → ∃ o settings text tune midi,
      Made site arguments o input settings text tune midi ∧ after.read input = .ok midi) := by
  intro after
  have lost : Returns site arguments → input.EndsWith ".mid" → ∃ o settings text tune midi,
      Made site arguments o input settings text tune midi ∧ after.read input = .ok midi := by
    intro returns suffix
    obtain ⟨resolved, o, settings, text, tune, midi, made, saves⟩ := saved_beside here beside returns
    rw [(target_eq_self_iff (Site.names_ne_nil_of_read resolved readable)).2 suffix] at saves
    exact ⟨o, settings, text, tune, midi, made, Site.read_of_save saves⟩
  refine ⟨⟨?_, ?_⟩, lost⟩
  · rintro hkept ⟨returns, suffix⟩
    obtain ⟨o, settings, text, tune, midi, made, hmidi⟩ := lost returns suffix
    exact made.ne_content readable (Except.ok.inj (hmidi.symm.trans hkept))
  · intro apart
    by_cases returns : Returns site arguments
    · obtain ⟨resolved, o, settings, text, tune, midi, made, saves⟩ :=
        saved_beside here beside returns
      exact read_of_save_beside resolved readable (fun suffix => apart ⟨returns, suffix⟩) saves
    · exact Site.read_of_grows (grows_of_not_returns returns) readable

/-- Capitals are another suffix. -/
theorem run_keeps_input_capitals :
    let content := encodeText "M:4/4\nK:C\nC".toList
    let site : Site := {
      files := ⟨[(["tunes"], .directory), (["tunes", "a.b.MID"], .file content)]⟩
      here := ["tunes"] }
    let outcome := run site ["--in", "a.b.MID"]
    outcome.ending = .status 0 ∧
      (site.withFiles outcome.files).read ⟨"/", ["tunes", "a.b.MID"]⟩ = .ok content := by
  intro content site outcome
  have request : Request.read ["--in", "a.b.MID"] = .ok (.perform { input := some "a.b.MID" }) := by
    decide +kernel
  have keeps := @run_keeps_input site ["--in", "a.b.MID"] ⟨"/", ["tunes", "a.b.MID"]⟩ content
    (by decide)
    (by
      intro o ho
      cases request.symm.trans ho
      exact ⟨rfl, by decide +kernel⟩)
    (by decide +kernel)
  refine ⟨by decide +kernel, keeps.1.2 ?_⟩
  rintro ⟨_, suffix⟩
  exact absurd ((target_eq_self_iff (by decide)).2 suffix) (by decide +kernel)

/-- A tune whose file has the suffix of a file of music is lost. -/
theorem input_replaced :
    ¬ ∀ (site : Site) (arguments : List String) (input : Path) (content : List UInt8),
      site.here.Proper →
      Beside site arguments input →
      site.read input = .ok content →
      (site.withFiles (run site arguments).files).read input = .ok content := by
  intro h
  have request : Request.read ["--in", "t.mid"] = .ok (.perform { input := some "t.mid" }) := by
    decide +kernel
  have kept := h { files := ⟨[(["t.mid"], .file (encodeText "M:4/4\nK:C\nC".toList))]⟩ }
    ["--in", "t.mid"] ⟨"/", ["t.mid"]⟩ (encodeText "M:4/4\nK:C\nC".toList) (by decide)
    (by
      intro o ho
      cases request.symm.trans ho
      exact ⟨rfl, by decide +kernel⟩)
    (by decide +kernel)
  exact absurd kept (by decide +kernel)

end Command

end Tunebook
