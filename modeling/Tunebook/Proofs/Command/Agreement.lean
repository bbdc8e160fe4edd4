import Tunebook.Command.Run
import Tunebook.Proofs.Conversion.Gate
import Tunebook.Proofs.FileTree.Seek
import Tunebook.Proofs.FileTree.Write

/-!
# The command and the conversion agree

A run of the command goes through the stages of a conversion on its own, between a file that it
reads and one that it saves.  Both have the same first gate and the same `passage` behind it, so the
cases of a conversion are the cases of a run.  What is left to the run are the files: the way to the
text, and the way of what is saved back to a reader.

* `perform_eq`: a run whose input can be read goes on with its text.
* `EndsAs`: what a run leads to where a conversion has a result.
* `examine_endsAs`: **behind the text a run and a conversion judge alike.**
* `run_endsAs_convert`: **the command and the conversion agree.**
-/

namespace Tunebook

namespace Command

variable {site : Site} {o : Options} {input : Path} {text : List Char} {settings : Mapping}

/-! ### The way to the text -/

/-- **A run whose input can be read goes on with its text**, and only prints something more. -/
theorem perform_eq (found : inputPath site o = .ok input)
    (readable : site.readText input = .ok text)
    (loads : site.loadSettings o.config "" = .ok settings) :
    perform site o = .behind [remark ("infile = " ++ input.text)] []
      (examine site o (.map settings) input (.text (String.ofList text))) := by
  obtain ⟨e, hseek⟩ := Site.seek_of_readText readable
  have hfind : findInput site o = .ok (input, true) := by
    rw [findInput, found, ok_bind, hseek]
    rfl
  rw [perform, hfind]
  dsimp only
  rw [loads]
  dsimp only
  rw [proceed, readable]

/-! ### The end of a run -/

theorem deliver_of_writable {target : Path} (ht : o.target site input = .ok target)
    (writable : site.Writable (.ofText target.text)) (tune : Tune) (midi : List UInt8) :
    (deliver site o input tune midi).ending = .status 0 ∧
      (site.withFiles (deliver site o input tune midi).files).read (.ofText target.text)
        = .ok midi := by
  obtain ⟨files, hsave⟩ := Site.save_of_writable writable midi
  have hdeliver : deliver site o input tune midi
      = ⟨files, [remark ("midi -> " ++ target.text), summary tune], [], .status 0⟩ := by
    rw [deliver, ht]
    dsimp only
    rw [Site.saveTune, hsave]
  rw [hdeliver]
  exact ⟨rfl, Site.read_of_save hsave⟩

/-- A run ends as a conversion does: what a conversion succeeds with is in the file that the run
saves, and what stops a conversion stops the run before it saves anything. -/
structure EndsAs (site : Site) (o : Options) (input : Path) (outcome : Outcome) (r : Result) :
    Prop where
  saved : r.success = true → ∀ target, o.target site input = .ok target →
    site.Writable (.ofText target.text) → ∃ midi, r.midi = some midi ∧
      outcome.ending = .status 0 ∧
      (site.withFiles outcome.files).read (.ofText target.text) = .ok midi
  refused : r.error = some invalidInput ∨ r.error = some invalidStructure →
    outcome.ending = .status 1 ∧ outcome.files = site.files
  failed : r.error = some conversionFailed →
    outcome.ending = .status 2 ∧ outcome.files = site.files

section

variable {outcome : Outcome} {r : Result} {c : Clock} {details : List String}

theorem EndsAs.behind (h : EndsAs site o input outcome r) (output errors : List String) :
    EndsAs site o input (outcome.behind output errors) r where
  saved := h.saved
  refused := h.refused
  failed := h.failed

theorem EndsAs.timed (h : EndsAs site o input outcome r) (c : Clock) :
    EndsAs site o input outcome (r.timed c) := by
  rw [Result.timed_eq]
  exact ⟨h.saved, h.refused, h.failed⟩

theorem endsAs_refused {error : String} (he : error ≠ conversionFailed)
    (hend : outcome.ending = .status 1) (hfiles : outcome.files = site.files) :
    EndsAs site o input outcome (.failure c error details) where
  saved h := by cases h
  refused _ := ⟨hend, hfiles⟩
  failed h := absurd (Option.some.inj h) he

theorem endsAs_failed (hend : outcome.ending = .status 2) (hfiles : outcome.files = site.files) :
    EndsAs site o input outcome (.failure c conversionFailed details) where
  saved h := by cases h
  refused h := by
    rcases h with h | h
    · exact absurd (Option.some.inj h).symm invalidInput_ne_conversionFailed
    · exact absurd (Option.some.inj h).symm invalidStructure_ne_conversionFailed
  failed _ := ⟨hend, hfiles⟩

theorem endsAs_delivered (tune : Tune) (midi : List UInt8) :
    EndsAs site o input (deliver site o input tune midi)
      ⟨true, some midi, none, [], tune.metadata, c.timestamp⟩ where
  saved _ target ht writable := by
    obtain ⟨hend, hread⟩ := deliver_of_writable ht writable tune midi
    exact ⟨midi, rfl, hend, hread⟩
  refused h := by
    rcases h with h | h
    · cases h
    · cases h
  failed h := by cases h

end

/-- **Behind the text a run and a conversion judge alike**, stage by stage. -/
theorem examine_endsAs (c : Clock) (hv : o.validateOnly = false) (plain : o.modes = [])
    (settings : Value) (text : Source) :
    EndsAs site o input (examine site o settings input text)
      (convertUntimed c text (.flag o.optimize) settings) := by
  have hwritten : o.written settings = plainFile (Value.flag o.optimize).isGiven settings :=
    Options.written_eq_plainFile plain settings
  rw [examine, hv]
  refine EndsAs.behind ?_ _ _
  rw [if_neg Bool.false_ne_true]
  rcases convertUntimed_cases c text (.flag o.optimize) settings with
    ⟨hinvalid, hr⟩ | ⟨hvalid, hpassage⟩
  · rw [hr, hinvalid]
    exact endsAs_refused invalidInput_ne_conversionFailed rfl rfl
  · rw [hvalid, Bool.not_true, if_neg Bool.false_ne_true, play, hwritten]
    rcases hpassage with ⟨tune, midi, hp, hr⟩ | ⟨complaints, hp, hr⟩ | ⟨f, hp, hr⟩
    · rw [hr, hp]
      exact endsAs_delivered tune midi
    · rw [hr, hp]
      exact endsAs_refused invalidStructure_ne_conversionFailed rfl rfl
    · rw [hr, hp]
      exact endsAs_failed rfl rfl

theorem examine_validateOnly (hv : o.validateOnly = true) (settings : Value) (text : Source) :
    (examine site o settings input text).ending = .status 0 ↔ (checkInput text).isValid = true := by
  rw [examine, hv]
  cases (checkInput text).isValid with
  | true => exact ⟨fun _ => rfl, fun _ => rfl⟩
  | false => exact iff_of_false (fun h => by cases h) Bool.false_ne_true

/-- **The command and the conversion agree.**  A run whose input is a readable file and whose
settings can be loaded, and which asks for no other kind of file, ends as the conversion of the
input's text does.  If it is only to check its input, its status tells whether that is valid. -/
theorem run_endsAs_convert (c : Clock) {arguments : List String}
    (request : Request.read arguments = .ok (.perform o))
    (found : inputPath site o = .ok input) (readable : site.readText input = .ok text)
    (loads : site.loadSettings o.config "" = .ok settings) :
    let content : Source := .text (String.ofList text)
    (o.validateOnly = false → o.modes = [] → EndsAs site o input (run site arguments)
      (convert c content (.flag o.optimize) (.map settings))) ∧
    (o.validateOnly = true →
      ((run site arguments).ending = .status 0 ↔ (checkInput content).isValid = true)) := by
  intro content
  have hrun : run site arguments = .behind [remark ("infile = " ++ input.text)] []
      (examine site o (.map settings) input content) := by
    rw [run, request]
    exact perform_eq found readable loads
  rw [hrun]
  constructor
  · intro hv plain
    exact ((examine_endsAs c hv plain _ _).timed c).behind _ _
  · intro hv
    exact examine_validateOnly hv _ _

/-- A tune with the line ends of another system, with settings of its own, saved in a directory that
is not there yet. -/
theorem run_endsAs_convert_tune :
    let site : Site := { files := ⟨[
      (["t.abc"], .file (encodeText "M:4/4\r\nK:C\r\nC2".toList)),
      (["c.yaml"], .file (encodeText "velocity: 64".toList))]⟩ }
    let outcome := run site
      ["--in", "t.abc", "--out", "out/t.mid", "--config", "c.yaml", "--optimize"]
    ∃ settings midi, site.loadSettings "c.yaml" "" = .ok settings ∧
      (convert {} (.text "M:4/4\nK:C\nC2") (.flag true) (.map settings)).midi = some midi ∧
      outcome.ending = .status 0 ∧
      (site.withFiles outcome.files).read (.ofText "/out/t.mid") = .ok midi := by
  intro site outcome
  have hsuccess : (site.loadSettings "c.yaml" "" >>= fun settings =>
      .ok (convert {} (.text "M:4/4\nK:C\nC2") (.flag true) (.map settings)).success)
        = .ok true := by
    decide +kernel
  obtain ⟨settings, loads, hsuccess⟩ := bind_eq_ok.1 hsuccess
  have success := Except.ok.inj hsuccess
  obtain ⟨agrees, _⟩ := @run_endsAs_convert site
    { input := some "t.abc", output := "out/t.mid", config := "c.yaml", optimize := true }
    ⟨"/", ["t.abc"]⟩ "M:4/4\nK:C\nC2".toList settings {}
    ["--in", "t.abc", "--out", "out/t.mid", "--config", "c.yaml", "--optimize"]
    (by decide +kernel) (by decide +kernel) (by decide +kernel) loads
  rw [String.ofList_toList] at agrees
  obtain ⟨midi, hmidi, hend, hread⟩ := (agrees rfl rfl).saved success ⟨"/", ["out", "t.mid"]⟩
    (by decide +kernel) (by decide +kernel)
  exact ⟨settings, midi, loads, hmidi, hend, hread⟩

end Command

end Tunebook
