import Tunebook.Proofs.Command.Agreement
import Tunebook.Proofs.FileTree.Frame

/-!
# The ways of a run

A run of the command passes one stage after another, and each of them may be its last.  `Way` has a
constructor for each stage at which a run may end, with what the stages before it came to.  Every run
takes one of these ways (`exists_way`), and a way says how the run ends and which files it leaves
(`Way.effect_eq`), so that nothing else has to follow the stages.

* `Opened`, `Admitted`, `Made`: how far a run comes.
* `way_iff`: **the ways are what runs do.**
* `Returns`: whether a run wrote the file that it was asked for; `returns_iff`: it did where nothing
  kept it from saving.
-/

namespace Tunebook

theorem Site.saveTune_of_refused {s : Site} {path : String} {content : List UInt8}
    {files : FileTree} {f : Fault} (h : s.save (.ofText path) content = (files, some f))
    (known : f ≠ .nulInPath) :
    s.saveTune path content = (files, .ok (.refused [f.message])) := by
  rw [saveTune]
  split
  · next e =>
    rw [h] at e
    cases e
  · next e =>
    rw [h] at e
    cases e
    exact absurd rfl known
  · next e =>
    rw [h] at e
    cases e
    rfl

namespace Command

/-! ### How far a run comes -/

/-- A run comes to the text of its input. -/
structure Opened (site : Site) (arguments : List String) (o : Options) (input : Path)
    (settings : Mapping) (text : List Char) : Prop where
  request : Request.read arguments = .ok (.perform o)
  path : inputPath site o = .ok input
  loads : site.loadSettings o.config "" = .ok settings
  readable : site.readText input = .ok text

/-- A run is to write a file, and the first gate lets its text pass. -/
structure Admitted (site : Site) (arguments : List String) (o : Options) (input : Path)
    (settings : Mapping) (text : List Char) : Prop
    extends Opened site arguments o input settings text where
  writes : o.validateOnly = false
  accepted : (checkInput (.text (String.ofList text))).isValid = true

/-- A run has the file of its tune, and what is left is to save it. -/
structure Made (site : Site) (arguments : List String) (o : Options) (input : Path)
    (settings : Mapping) (text : List Char) (tune : Tune) (midi : List UInt8) : Prop
    extends Admitted site arguments o input settings text where
  passed : passage (.text (String.ofList text)) (o.written (.map settings))
    = .ok (.passed tune midi)

/-- The ways of a run, each with its end and with the files afterwards. -/
inductive Way (site : Site) (arguments : List String) : Ending → FileTree → Prop
  | misread {c : Complaint} (complains : Request.read arguments = .error c) :
      Way site arguments (.status 2) site.files
  | help (request : Request.read arguments = .ok .help) :
      Way site arguments (.status 0) site.files
  | unnamed {o : Options} {f : Fault} (request : Request.read arguments = .ok (.perform o))
      (fails : inputPath site o = .error f) :
      Way site arguments (.fault f) site.files
  | unfollowed {o : Options} {input : Path} {f : Fault}
      (request : Request.read arguments = .ok (.perform o)) (path : inputPath site o = .ok input)
      (fails : site.seek input = .error f) :
      Way site arguments (.fault f) site.files
  | missing {o : Options} {input : Path} (request : Request.read arguments = .ok (.perform o))
      (path : inputPath site o = .ok input) (absent : site.seek input = .ok none) :
      Way site arguments (.status 1) site.files
  | unset {o : Options} {input : Path} {e : Entry} {f : Fault}
      (request : Request.read arguments = .ok (.perform o)) (path : inputPath site o = .ok input)
      (stands : site.seek input = .ok (some e))
      (fails : site.loadSettings o.config "" = .error f) :
      Way site arguments (.fault f) site.files
  | unread {o : Options} {input : Path} {e : Entry} {settings : Mapping} {f : Fault}
      (request : Request.read arguments = .ok (.perform o)) (path : inputPath site o = .ok input)
      (stands : site.seek input = .ok (some e))
      (loads : site.loadSettings o.config "" = .ok settings)
      (fails : site.readText input = .error f) :
      Way site arguments (.fault f) site.files
  | checked {o : Options} {input : Path} {settings : Mapping} {text : List Char}
      (opened : Opened site arguments o input settings text) (checks : o.validateOnly = true) :
      Way site arguments
        (.status (if (checkInput (.text (String.ofList text))).isValid then 0 else 1)) site.files
  | invalid {o : Options} {input : Path} {settings : Mapping} {text : List Char}
      (opened : Opened site arguments o input settings text) (writes : o.validateOnly = false)
      (rejected : (checkInput (.text (String.ofList text))).isValid = false) :
      Way site arguments (.status 1) site.files
  | refused {o : Options} {input : Path} {settings : Mapping} {text : List Char}
      {complaints : List String} (admitted : Admitted site arguments o input settings text)
      (stops : passage (.text (String.ofList text)) (o.written (.map settings))
        = .ok (.refused complaints)) :
      Way site arguments (.status 1) site.files
  | failed {o : Options} {input : Path} {settings : Mapping} {text : List Char} {f : Fault}
      (admitted : Admitted site arguments o input settings text)
      (fails : passage (.text (String.ofList text)) (o.written (.map settings)) = .error f) :
      Way site arguments (.status 2) site.files
  | astray {o : Options} {input : Path} {settings : Mapping} {text : List Char} {tune : Tune}
      {midi : List UInt8} {f : Fault} (made : Made site arguments o input settings text tune midi)
      (fails : o.target site input = .error f) :
      Way site arguments (.fault f) site.files
  | unsaved {o : Options} {input target : Path} {settings : Mapping} {text : List Char} {tune : Tune}
      {midi : List UInt8} {files : FileTree} {f : Fault}
      (made : Made site arguments o input settings text tune midi)
      (leads : o.target site input = .ok target) (known : f ≠ .nulInPath)
      (fails : site.save (.ofText target.text) midi = (files, some f)) :
      Way site arguments (.status 1) files
  | unwritable {o : Options} {input target : Path} {settings : Mapping} {text : List Char}
      {tune : Tune} {midi : List UInt8} {files : FileTree}
      (made : Made site arguments o input settings text tune midi)
      (leads : o.target site input = .ok target)
      (fails : site.save (.ofText target.text) midi = (files, some .nulInPath)) :
      Way site arguments (.fault .nulInPath) files
  | saved {o : Options} {input target : Path} {settings : Mapping} {text : List Char} {tune : Tune}
      {midi : List UInt8} {files : FileTree}
      (made : Made site arguments o input settings text tune midi)
      (leads : o.target site input = .ok target)
      (saves : site.save (.ofText target.text) midi = (files, none)) :
      Way site arguments (.status 0) files

section

variable {site : Site} {arguments : List String} {o : Options} {input target : Path}
  {settings : Mapping} {text : List Char} {tune : Tune} {midi : List UInt8} {files : FileTree}
  {f : Fault}

/-! ### Every run takes a way -/

theorem exists_way_of_made (made : Made site arguments o input settings text tune midi) :
    ∃ e files, Way site arguments e files := by
  cases ht : o.target site input with
  | error f => exact ⟨_, _, .astray made ht⟩
  | ok target =>
    cases hsave : site.save (.ofText target.text) midi with
    | mk files fault =>
      cases fault with
      | none => exact ⟨_, _, .saved made ht hsave⟩
      | some f =>
        by_cases hf : f = .nulInPath
        · rw [hf] at hsave
          exact ⟨_, _, .unwritable made ht hsave⟩
        · exact ⟨_, _, .unsaved made ht hf hsave⟩

theorem exists_way_of_opened (opened : Opened site arguments o input settings text) :
    ∃ e files, Way site arguments e files := by
  cases hv : o.validateOnly with
  | true => exact ⟨_, _, .checked opened hv⟩
  | false =>
    cases hvalid : (checkInput (.text (String.ofList text))).isValid with
    | false => exact ⟨_, _, .invalid opened hv hvalid⟩
    | true =>
      have admitted : Admitted site arguments o input settings text := ⟨opened, hv, hvalid⟩
      cases hp : passage (.text (String.ofList text)) (o.written (.map settings)) with
      | error f => exact ⟨_, _, .failed admitted hp⟩
      | ok p =>
        cases p with
        | refused complaints => exact ⟨_, _, .refused admitted hp⟩
        | passed tune midi => exact exists_way_of_made ⟨admitted, hp⟩

/-- **Every run takes a way.** -/
theorem exists_way (site : Site) (arguments : List String) :
    ∃ e files, Way site arguments e files := by
  cases hr : Request.read arguments with
  | error c => exact ⟨_, _, .misread hr⟩
  | ok r =>
    cases r with
    | help => exact ⟨_, _, .help hr⟩
    | perform o =>
      cases hi : inputPath site o with
      | error f => exact ⟨_, _, .unnamed hr hi⟩
      | ok input =>
        cases hs : site.seek input with
        | error f => exact ⟨_, _, .unfollowed hr hi hs⟩
        | ok found =>
          cases found with
          | none => exact ⟨_, _, .missing hr hi hs⟩
          | some e =>
            cases hl : site.loadSettings o.config "" with
            | error f => exact ⟨_, _, .unset hr hi hs hl⟩
            | ok settings =>
              cases ht : site.readText input with
              | error f => exact ⟨_, _, .unread hr hi hs hl ht⟩
              | ok text => exact exists_way_of_opened ⟨hr, hi, hl, ht⟩

/-! ### What a way leads to -/

/-- What is left of a run once its lines are read: how it ended, and the files. -/
def Outcome.effect (r : Outcome) : Ending × FileTree := (r.ending, r.files)

theorem run_of_request (h : Request.read arguments = .ok (.perform o)) (site : Site) :
    run site arguments = perform site o := by
  rw [run, h]

theorem findInput_of_seek (path : inputPath site o = .ok input) {found : Option Entry}
    (h : site.seek input = .ok found) : findInput site o = .ok (input, found.isSome) := by
  rw [findInput, path, ok_bind, h, ok_bind]

theorem findInput_eq_error (h : inputPath site o = .error f ∨
    ∃ input, inputPath site o = .ok input ∧ site.seek input = .error f) :
    findInput site o = .error f := by
  rcases h with h | ⟨input, path, h⟩
  · rw [findInput, h]
    rfl
  · rw [findInput, path, ok_bind, h]
    rfl

theorem effect_behind (output errors : List String) (r : Outcome) :
    (r.behind output errors).effect = r.effect := rfl

theorem Opened.effect_eq (h : Opened site arguments o input settings text) :
    (run site arguments).effect
      = (examine site o (.map settings) input (.text (String.ofList text))).effect := by
  rw [run_of_request h.request, perform_eq h.path h.readable h.loads, effect_behind]

theorem Admitted.effect_eq (h : Admitted site arguments o input settings text) :
    (run site arguments).effect
      = (play site o (.map settings) input (.text (String.ofList text))).effect := by
  rw [h.toOpened.effect_eq, examine, effect_behind, h.writes, h.accepted,
    if_neg Bool.false_ne_true, Bool.not_true, if_neg Bool.false_ne_true]

theorem Made.effect_eq (h : Made site arguments o input settings text tune midi) :
    (run site arguments).effect = (deliver site o input tune midi).effect := by
  rw [h.toAdmitted.effect_eq, play, h.passed]

/-- **A way says how the run ends and which files it leaves.** -/
theorem Way.effect_eq {e : Ending} (w : Way site arguments e files) :
    (run site arguments).effect = (e, files) := by
  cases w with
  | misread complains =>
    rw [run, complains]
    rfl
  | help request =>
    rw [run, request]
    rfl
  | unnamed request fails =>
    rw [run_of_request request, perform, findInput_eq_error (.inl fails)]
    rfl
  | unfollowed request path fails =>
    rw [run_of_request request, perform, findInput_eq_error (.inr ⟨_, path, fails⟩)]
    rfl
  | missing request path absent =>
    rw [run_of_request request, perform, findInput_of_seek path absent]
    rfl
  | unset request path stands fails =>
    rw [run_of_request request, perform, findInput_of_seek path stands]
    dsimp only [Option.isSome]
    rw [fails]
    rfl
  | unread request path stands loads fails =>
    rw [run_of_request request, perform, findInput_of_seek path stands]
    dsimp only [Option.isSome]
    rw [loads]
    dsimp only
    rw [proceed, fails]
    rfl
  | checked opened checks =>
    rw [opened.effect_eq, examine, effect_behind, checks, if_pos rfl]
    rfl
  | invalid opened writes rejected =>
    rw [opened.effect_eq, examine, effect_behind, writes, rejected, if_neg Bool.false_ne_true,
      Bool.not_false, if_pos rfl]
    rfl
  | refused admitted stops =>
    rw [admitted.effect_eq, play, stops]
    rfl
  | failed admitted fails =>
    rw [admitted.effect_eq, play, fails]
    rfl
  | astray made fails =>
    rw [made.effect_eq, deliver, fails]
    rfl
  | unsaved made leads known fails =>
    rw [made.effect_eq, deliver, leads]
    dsimp only
    rw [Site.saveTune_of_refused fails known]
    rfl
  | unwritable made leads fails =>
    rw [made.effect_eq, deliver, leads]
    dsimp only
    rw [Site.saveTune, fails]
    rfl
  | saved made leads saves =>
    rw [made.effect_eq, deliver, leads]
    dsimp only
    rw [Site.saveTune, saves]
    rfl

/-- **The ways are what runs do.** -/
theorem way_iff {e : Ending} : Way site arguments e files ↔
    (run site arguments).ending = e ∧ (run site arguments).files = files := by
  constructor
  · intro w
    exact Prod.ext_iff.1 w.effect_eq
  · rintro ⟨rfl, rfl⟩
    obtain ⟨e, files, w⟩ := exists_way site arguments
    obtain ⟨rfl, rfl⟩ := Prod.ext_iff.1 w.effect_eq
    exact w

theorem run_way (site : Site) (arguments : List String) :
    Way site arguments (run site arguments).ending (run site arguments).files :=
  way_iff.2 ⟨rfl, rfl⟩

theorem exists_way_of_ending {e : Ending} (h : (run site arguments).ending = e) :
    ∃ files, Way site arguments e files := ⟨_, way_iff.2 ⟨h, rfl⟩⟩

/-! ### Runs that write their file -/

/-- A run that is to write a file ends well.  Every other run ends by a status of its own, the one
for help and the one that tells that an input is valid included, or by a fault. -/
def Returns (site : Site) (arguments : List String) : Prop :=
  ∃ o, Request.read arguments = .ok (.perform o) ∧ o.validateOnly = false ∧
    (run site arguments).ending = .status 0

/-- **A run ends well exactly where it saves its file.** -/
theorem returns_iff : Returns site arguments ↔
    ∃ o input settings text tune midi target files,
      Made site arguments o input settings text tune midi ∧ o.target site input = .ok target ∧
      site.save (.ofText target.text) midi = (files, none) ∧
      (run site arguments).files = files := by
  constructor
  · rintro ⟨o, request, writes, h⟩
    have w := way_iff.2 ⟨h, rfl⟩
    generalize (run site arguments).files = files at w
    generalize he : Ending.status 0 = e at w
    cases w with
    | help hr => cases request.symm.trans hr
    | checked opened checks =>
      cases request.symm.trans opened.request
      rw [checks] at writes
      cases writes
    | saved made leads saves => exact ⟨_, _, _, _, _, _, _, _, made, leads, saves, rfl⟩
    | _ => cases he
  · rintro ⟨o, input, settings, text, tune, midi, target, files, made, leads, saves, _⟩
    exact ⟨o, made.request, made.writes, (way_iff.1 (.saved made leads saves)).1⟩

end

end Command

end Tunebook
