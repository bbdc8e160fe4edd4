import Tunebook.Proofs.Command.Ways
import Tunebook.Proofs.Settings.Files

/-!
# How runs end

A run of the command ends with a status, or a fault escapes from it.  A complaint about its arguments
and a stage that fails are status 2; an input that is missing, or that a gate refuses, and a file that
cannot be saved are status 1.  What lies between the stages that are guarded lets faults through: a
path that cannot be formed or is too long, settings with a value that does not exist, and an input that
is a directory or no text.

* `Escapes`, `Declines`, `Fails`: the causes of a fault, of status 1 and of status 2.
* `ending_iff`: **a run ends with a status of 0, 1 or 2 exactly where nothing escapes**, and each of
  the others has these causes and no more.
* `undecodable_escapes`: an input that is no text lets a fault through.
-/

namespace Tunebook

namespace Command

/-! ### The causes -/

/-- The faults that nothing in a run catches. -/
inductive Escapes (site : Site) (arguments : List String) : Fault → Prop
  | input {o : Options} {f : Fault} (request : Request.read arguments = .ok (.perform o))
      (fails : inputPath site o = .error f) : Escapes site arguments f
  | longInput {o : Options} {input : Path} (request : Request.read arguments = .ok (.perform o))
      (path : inputPath site o = .ok input)
      (long : site.locate input = .error (.refused .nameTooLong (quoted input.text))) :
      Escapes site arguments (.refused .nameTooLong (quoted input.text))
  | longSettings {o : Options} {input : Path} {e : Entry}
      (request : Request.read arguments = .ok (.perform o)) (path : inputPath site o = .ok input)
      (stands : site.entry input = .ok e)
      (long : site.locate (site.settingsPath o.config)
        = .error (.refused .nameTooLong (quoted (site.settingsPath o.config).text))) :
      Escapes site arguments (.refused .nameTooLong (quoted (site.settingsPath o.config).text))
  | settings {o : Options} {input : Path} {e : Entry} {text : List Char} {f : Fault}
      (request : Request.read arguments = .ok (.perform o)) (path : inputPath site o = .ok input)
      (stands : site.entry input = .ok e)
      (readable : site.readText (site.settingsPath o.config) = .ok text)
      (fails : Yaml.load text = .error (.fault f)) : Escapes site arguments f
  | directory {o : Options} {input : Path} {settings : Mapping}
      (request : Request.read arguments = .ok (.perform o)) (path : inputPath site o = .ok input)
      (stands : site.entry input = .ok .directory)
      (loads : site.loadSettings o.config "" = .ok settings) :
      Escapes site arguments (.refused .isDirectory (quoted input.text))
  | undecodable {o : Options} {input : Path} {settings : Mapping} {content : List UInt8} {f : Fault}
      (request : Request.read arguments = .ok (.perform o)) (path : inputPath site o = .ok input)
      (stands : site.entry input = .ok (.file content))
      (loads : site.loadSettings o.config "" = .ok settings)
      (fails : decodeText content = .error f) : Escapes site arguments f
  | output {o : Options} {input : Path} {settings : Mapping} {text : List Char} {tune : Tune}
      {midi : List UInt8} {f : Fault} (made : Made site arguments o input settings text tune midi)
      (asked : o.output.isEmpty = false) (fails : site.pathOf o.output = .error f) :
      Escapes site arguments f
  | unwritable {o : Options} {input target : Path} {settings : Mapping} {text : List Char}
      {tune : Tune} {midi : List UInt8} {files : FileTree}
      (made : Made site arguments o input settings text tune midi)
      (leads : o.target site input = .ok target)
      (fails : site.save (.ofText target.text) midi = (files, some .nulInPath)) :
      Escapes site arguments .nulInPath

/-- What ends a run with status 1: an input that is missing, a text or a tune that a gate refuses, a
file that cannot be saved. -/
inductive Declines (site : Site) (arguments : List String) : Prop
  | missing {o : Options} {input : Path} (request : Request.read arguments = .ok (.perform o))
      (path : inputPath site o = .ok input) (absent : site.seek input = .ok none)
  | invalid {o : Options} {input : Path} {settings : Mapping} {text : List Char}
      (opened : Opened site arguments o input settings text)
      (rejected : (checkInput (.text (String.ofList text))).isValid = false)
  | refused {o : Options} {input : Path} {settings : Mapping} {text : List Char} {report : Report}
      (admitted : Admitted site arguments o input settings text)
      (rejected : TonesRefused (.text (String.ofList text)) report)
  | unsaved {o : Options} {input target : Path} {settings : Mapping} {text : List Char} {tune : Tune}
      {midi : List UInt8} {files : FileTree} {f : Fault}
      (made : Made site arguments o input settings text tune midi)
      (leads : o.target site input = .ok target) (known : f ≠ .nulInPath)
      (fails : site.save (.ofText target.text) midi = (files, some f))

/-- What ends a run with status 2: arguments that are not understood, and a stage that fails. -/
inductive Fails (site : Site) (arguments : List String) : Prop
  | usage {c : Complaint} (complains : Request.read arguments = .error c)
  | stage {o : Options} {input : Path} {settings : Mapping} {text : List Char} {f : Fault}
      (admitted : Admitted site arguments o input settings text)
      (fails : passage (.text (String.ofList text)) (o.written (.map settings)) = .error f)

section

variable {site : Site} {arguments : List String} {f : Fault}

theorem target_eq_error_iff {o : Options} {input : Path} : o.target site input = .error f ↔
    o.output.isEmpty = false ∧ site.pathOf o.output = .error f := by
  rw [Options.target]
  cases o.output.isEmpty with
  | true =>
    constructor
    · intro h
      cases h
    · intro h
      cases h.1
  | false =>
    rw [if_neg Bool.false_ne_true]
    exact ⟨fun h => ⟨rfl, h⟩, fun h => h.2⟩

theorem ending_eq_of_way {e : Ending} {files : FileTree} (w : Way site arguments e files) :
    (run site arguments).ending = e := (way_iff.1 w).1

/-- **The faults that escape**, and no others. -/
theorem ending_eq_fault_iff : (run site arguments).ending = .fault f ↔ Escapes site arguments f := by
  constructor
  · intro h
    obtain ⟨files, w⟩ := exists_way_of_ending h
    cases w with
    | unnamed request fails => exact .input request fails
    | unfollowed request path fails =>
      obtain ⟨rfl, long⟩ := Site.seek_eq_error_iff.1 fails
      exact .longInput request path long
    | unset request path stands fails =>
      rw [Site.seek_eq_some_iff] at stands
      rcases Site.loadSettings_eq_error_iff.1 fails with long | ⟨text, readable, fails⟩
      · obtain ⟨rfl, long⟩ := Site.seek_eq_error_iff.1 long
        exact .longSettings request path stands long
      · exact .settings request path stands readable fails
    | unread request path stands loads fails =>
      rcases (Site.readText_eq_error_iff stands).1 fails with ⟨rfl, rfl⟩ | ⟨content, rfl, fails⟩
      · exact .directory request path (Site.seek_eq_some_iff.1 stands) loads
      · exact .undecodable request path (Site.seek_eq_some_iff.1 stands) loads fails
    | astray made fails =>
      obtain ⟨asked, fails⟩ := target_eq_error_iff.1 fails
      exact .output made asked fails
    | unwritable made leads fails => exact .unwritable made leads fails
  · intro h
    cases h with
    | input request fails => exact ending_eq_of_way (.unnamed request fails)
    | longInput request path long =>
      exact ending_eq_of_way (.unfollowed request path (Site.seek_eq_error_iff.2 ⟨rfl, long⟩))
    | longSettings request path stands long =>
      have fails := Site.loadSettings_eq_error_iff.2 (.inl (Site.seek_eq_error_iff.2 ⟨rfl, long⟩))
      exact ending_eq_of_way (.unset request path (Site.seek_eq_some_iff.2 stands) fails)
    | settings request path stands readable fails =>
      have fails := Site.loadSettings_eq_error_iff.2 (.inr ⟨_, readable, fails⟩)
      exact ending_eq_of_way (.unset request path (Site.seek_eq_some_iff.2 stands) fails)
    | directory request path stands loads =>
      have stands := Site.seek_eq_some_iff.2 stands
      have fails := (Site.readText_eq_error_iff stands).2 (.inl ⟨rfl, rfl⟩)
      exact ending_eq_of_way (.unread request path stands loads fails)
    | undecodable request path stands loads fails =>
      have stands := Site.seek_eq_some_iff.2 stands
      have fails := (Site.readText_eq_error_iff stands).2 (.inr ⟨_, rfl, fails⟩)
      exact ending_eq_of_way (.unread request path stands loads fails)
    | output made asked fails =>
      exact ending_eq_of_way (.astray made (target_eq_error_iff.2 ⟨asked, fails⟩))
    | unwritable made leads fails => exact ending_eq_of_way (.unwritable made leads fails)

theorem ending_eq_one_iff : (run site arguments).ending = .status 1 ↔ Declines site arguments := by
  constructor
  · intro h
    obtain ⟨files, w⟩ := exists_way_of_ending h
    generalize he : Ending.status 1 = e at w
    cases w with
    | missing request path absent => exact .missing request path absent
    | @checked o input settings text opened checks =>
      cases hvalid : (checkInput (.text (String.ofList text))).isValid with
      | false => exact .invalid opened hvalid
      | true =>
        rw [hvalid] at he
        cases he
    | invalid opened writes rejected => exact .invalid opened rejected
    | refused admitted stops =>
      obtain ⟨report, rejected, _⟩ := passage_eq_refused_iff.1 stops
      exact .refused admitted rejected
    | unsaved made leads known fails => exact .unsaved made leads known fails
    | _ => cases he
  · intro h
    cases h with
    | missing request path absent => exact ending_eq_of_way (.missing request path absent)
    | @invalid o input settings text opened rejected =>
      cases hv : o.validateOnly with
      | true =>
        have hend := ending_eq_of_way (.checked opened hv)
        rw [rejected] at hend
        exact hend
      | false => exact ending_eq_of_way (.invalid opened hv rejected)
    | refused admitted rejected =>
      exact ending_eq_of_way (.refused admitted (passage_eq_refused_iff.2 ⟨_, rejected, rfl⟩))
    | unsaved made leads known fails => exact ending_eq_of_way (.unsaved made leads known fails)

theorem ending_eq_two_iff : (run site arguments).ending = .status 2 ↔ Fails site arguments := by
  constructor
  · intro h
    obtain ⟨files, w⟩ := exists_way_of_ending h
    generalize he : Ending.status 2 = e at w
    cases w with
    | misread complains => exact .usage complains
    | failed admitted fails => exact .stage admitted fails
    | checked opened checks =>
      split at he
      · cases he
      · cases he
    | _ => cases he
  · intro h
    cases h with
    | usage complains => exact ending_eq_of_way (.misread complains)
    | stage admitted fails => exact ending_eq_of_way (.failed admitted fails)

theorem code_le_two {code : Nat} (h : (run site arguments).ending = .status code) : code ≤ 2 := by
  obtain ⟨files, w⟩ := exists_way_of_ending h
  generalize he : Ending.status code = e at w
  cases w with
  | checked opened checks =>
    cases he
    split
    · omega
    · omega
  | _ => cases he <;> decide

end

/-- **How runs end.**  A run ends with a status of 0, 1 or 2 exactly where no fault escapes from it.
Which faults escape, and what leads to the statuses 1 and 2, is known case by case. -/
theorem ending_iff (site : Site) (arguments : List String) :
    ((∃ code ≤ 2, (run site arguments).ending = .status code) ↔ ∀ f, ¬ Escapes site arguments f) ∧
    (∀ f, (run site arguments).ending = .fault f ↔ Escapes site arguments f) ∧
    ((run site arguments).ending = .status 1 ↔ Declines site arguments) ∧
    ((run site arguments).ending = .status 2 ↔ Fails site arguments) := by
  refine ⟨?_, fun f => ending_eq_fault_iff, ending_eq_one_iff, ending_eq_two_iff⟩
  constructor
  · rintro ⟨code, _, h⟩ f hf
    rw [ending_eq_fault_iff.2 hf] at h
    cases h
  · intro h
    cases hend : (run site arguments).ending with
    | status code => exact ⟨code, code_le_two hend, rfl⟩
    | fault f => exact absurd (ending_eq_fault_iff.1 hend) (h f)

/-- An octet that begins no character lets a fault escape. -/
theorem undecodable_escapes :
    ¬ ∀ (site : Site) (arguments : List String),
      ∃ code ≤ 2, (run site arguments).ending = .status code := by
  intro h
  obtain ⟨code, _, hcode⟩ := h { files := ⟨[(["t.abc"], .file [0xff])]⟩ } ["--in", "t.abc"]
  have hfault : (run { files := ⟨[(["t.abc"], .file [0xff])]⟩ } ["--in", "t.abc"]).ending
      = .fault (.undecodable [0xff] 0 "invalid start byte") := by
    decide +kernel
  rw [hfault] at hcode
  cases hcode

end Command

end Tunebook
