import Tunebook.Proofs.FileTree.Seek
import Tunebook.Proofs.Settings.Merge
import Tunebook.Proofs.Yaml.Loading
import Tunebook.Settings.Load

/-!
# Settings from files

A file that is no settings is an empty layer: one that is missing, a directory, no text, no YAML text, or
a text whose value is no mapping.  Two causes are not passed over: a path that is too long to be looked
for, and a text of which a part has no value.

* `LayerEnds`, `Site.readLayer_eq_iff`: **how reading a file as a layer ends, and why.**
* `Site.readLayer_eq_error_iff`, `Site.loadSettings_eq_error_iff`: the faults that escape.
* `names_prefix_mergeLayer`: merging takes no usual setting away.
* `Site.settings_end`: **settings hold every usual name wherever they are loaded, and they are loaded
  unless such a fault escapes.**
* `Site.layer_escapes`: a day that does not exist lets a fault escape.
-/

namespace Tunebook

/-- How reading the file at a path as a layer ends. -/
inductive LayerEnds (s : Site) (path : String) : Except Fault Mapping → Prop
  | missing (nothing : s.seek (.ofText path) = .ok none) : LayerEnds s path (.ok [])
  | directory (stands : s.seek (.ofText path) = .ok (some .directory)) : LayerEnds s path (.ok [])
  | undecodable {content : List UInt8} {f : Fault}
      (stands : s.seek (.ofText path) = .ok (some (.file content)))
      (fails : decodeText content = .error f) : LayerEnds s path (.ok [])
  | malformed {text : List Char} (reads : s.readText (.ofText path) = .ok text)
      (fails : Yaml.load text = .error .malformed) : LayerEnds s path (.ok [])
  | foreign {text : List Char} {v : Value} (reads : s.readText (.ofText path) = .ok text)
      (loads : Yaml.load text = .ok v) (noMapping : v.isMapping = false) : LayerEnds s path (.ok [])
  | settings {text : List Char} {v : Value} {entries : Mapping} (reads : s.readText (.ofText path) = .ok text)
      (loads : Yaml.load text = .ok v) (mapping : v.entries? = some entries) : LayerEnds s path (.ok entries)
  | valueless {text : List Char} {f : Fault} (reads : s.readText (.ofText path) = .ok text)
      (fails : Yaml.load text = .error (.fault f)) : LayerEnds s path (.error f)
  | tooLong {f : Fault} (fails : s.seek (.ofText path) = .error f) : LayerEnds s path (.error f)

theorem asLayer_of_not_isMapping {v : Value} (h : v.isMapping = false) : v.asLayer = [] := by
  cases v with
  | map entries => cases h
  | _ => rfl

namespace Site

variable {s : Site} {path : String} {r : Except Fault Mapping} {f : Fault}

theorem readLayer_of_readText {text : List Char} (h : s.readText (.ofText path) = .ok text) :
    s.readLayer path = layerOfText text := by
  obtain ⟨e, hs⟩ := seek_of_readText h
  cases e with
  | directory =>
    have hno := (readText_eq_error_iff hs).2 (.inl ⟨rfl, rfl⟩)
    rw [h] at hno
    cases hno
  | file content =>
    rw [readLayer, hs, ok_bind]
    dsimp only
    rw [h]

theorem readLayer_of_layerEnds (h : LayerEnds s path r) : s.readLayer path = r := by
  cases h with
  | missing nothing =>
    rw [readLayer, nothing]
    rfl
  | directory stands =>
    rw [readLayer, stands]
    rfl
  | undecodable stands fails =>
    have hno := (readText_eq_error_iff stands).2 (.inr ⟨_, rfl, fails⟩)
    rw [readLayer, stands, ok_bind]
    dsimp only
    rw [hno]
  | malformed reads fails => rw [readLayer_of_readText reads, layerOfText_of_malformed fails]
  | foreign reads loads noMapping =>
    rw [readLayer_of_readText reads, layerOfText, loads]
    exact congrArg _ (asLayer_of_not_isMapping noMapping)
  | settings reads loads mapping =>
    rw [readLayer_of_readText reads, layerOfText, loads]
    dsimp only
    rw [Value.asLayer, mapping, Option.getD_some]
  | valueless reads fails => rw [readLayer_of_readText reads, layerOfText, fails]
  | tooLong fails =>
    rw [readLayer, fails]
    rfl

theorem layerEnds_of_readText {text : List Char} (reads : s.readText (.ofText path) = .ok text) :
    LayerEnds s path (layerOfText text) := by
  rw [layerOfText]
  cases loads : Yaml.load text with
  | ok v =>
    cases hv : v.isMapping with
    | false =>
      have hend := LayerEnds.foreign reads loads hv
      rwa [← asLayer_of_not_isMapping hv] at hend
    | true =>
      cases v with
      | map entries => exact .settings reads loads rfl
      | _ => cases hv
  | error e =>
    cases e with
    | malformed => exact .malformed reads loads
    | fault f => exact .valueless reads loads

theorem layerEnds_readLayer (s : Site) (path : String) : LayerEnds s path (s.readLayer path) := by
  cases hs : s.seek (.ofText path) with
  | error f =>
    rw [readLayer, hs]
    exact .tooLong hs
  | ok found =>
    cases hr : s.readText (.ofText path) with
    | ok text =>
      rw [readLayer_of_readText hr]
      exact layerEnds_of_readText hr
    | error f =>
      cases found with
      | none =>
        rw [readLayer, hs]
        exact .missing hs
      | some e =>
        cases e with
        | directory =>
          rw [readLayer, hs]
          exact .directory hs
        | file content =>
          rw [readLayer, hs, ok_bind]
          dsimp only
          rw [hr]
          obtain ⟨hno, _⟩ | ⟨content', he, hd⟩ := (readText_eq_error_iff hs).1 hr
          · cases hno
          · cases he
            exact .undecodable hs hd

/-- **The ways in which reading a layer ends are these, each for its own cause.** -/
theorem readLayer_eq_iff : s.readLayer path = r ↔ LayerEnds s path r := by
  constructor
  · rintro rfl
    exact layerEnds_readLayer s path
  · exact readLayer_of_layerEnds

/-- **A layer cannot be read where its path is too long, or where a part of its text has no value.** -/
theorem readLayer_eq_error_iff : s.readLayer path = .error f ↔
    s.seek (.ofText path) = .error f ∨
      ∃ text, s.readText (.ofText path) = .ok text ∧ Yaml.load text = .error (.fault f) := by
  rw [readLayer_eq_iff]
  constructor
  · intro h
    cases h with
    | valueless reads fails => exact .inr ⟨_, reads, fails⟩
    | tooLong fails => exact .inl fails
  · rintro (fails | ⟨text, reads, fails⟩)
    · exact .tooLong fails
    · exact .valueless reads fails

theorem category_of_readLayer (h : s.readLayer path = .error f) :
    f = .refused .nameTooLong (quoted (Path.ofText path).text) ∨ f.category ∈ Yaml.loadCategories := by
  obtain fails | ⟨text, _, fails⟩ := readLayer_eq_error_iff.1 h
  · exact .inl (seek_eq_error_iff.1 fails).1
  · exact .inr (Yaml.category_of_load fails)

theorem isClosed_readLayer {layer : Mapping} (h : s.readLayer path = .ok layer) : layer.IsClosed := by
  have hends := readLayer_eq_iff.1 h
  cases hends with
  | settings reads loads mapping => exact Value.isClosed_of_entries? (Yaml.isClosed_of_load loads) mapping
  | _ => exact nofun

/-! ### All layers -/

def settingsPath (s : Site) (user : String) : Path :=
  .ofText (if user.isEmpty then s.ownSettings else user)

end Site

theorem isClosed_usualSettings : usualSettings.IsClosed := Value.entriesClosed_iff.1 rfl

namespace Site

variable {s : Site} {path user shared : String} {f : Fault}

theorem isClosed_defaultLayer {layer : Mapping} (h : s.defaultLayer shared = .ok layer) : layer.IsClosed := by
  rw [defaultLayer] at h
  split at h
  · cases h
    exact isClosed_usualSettings
  · exact isClosed_readLayer h

theorem exists_mergeLayer_usualSettings {layer : Mapping} (h : layer.IsClosed) :
    ∃ base, mergeLayer usualSettings layer = .ok base ∧ base.IsClosed := by
  cases hm : mergeLayer usualSettings layer with
  | ok base => exact ⟨base, rfl, isClosed_mergeInto isClosed_usualSettings h hm⟩
  | error f =>
    obtain ⟨-, hendless⟩ := (mergeLayer_eq_error_iff isClosed_usualSettings h).1 hm
    exact absurd hendless (not_endless_of_entriesMappings isClosed_usualSettings h rfl)

theorem mergeLayers_usualSettings (layer own : Mapping) :
    mergeLayers [usualSettings, layer, own] = mergeLayer usualSettings layer >>= fun base => mergeLayer base own := by
  have husual : mergeLayer [] usualSettings = .ok usualSettings := rfl
  simp only [mergeLayers, List.foldlM_cons, List.foldlM_nil, husual, ok_bind, bind_pure]

theorem loadSettings_eq_ok {settings : Mapping} : s.loadSettings user shared = .ok settings ↔
    ∃ layer own base, s.defaultLayer shared = .ok layer ∧ s.userLayer user = .ok own ∧
      mergeLayer usualSettings layer = .ok base ∧ mergeLayer base own = .ok settings := by
  simp only [loadSettings, bind_eq_ok, mergeLayers_usualSettings]
  constructor
  · rintro ⟨layer, hl, own, ho, base, hb, hm⟩
    exact ⟨layer, own, base, hl, ho, hb, hm⟩
  · rintro ⟨layer, own, base, hl, ho, hb, hm⟩
    exact ⟨layer, hl, own, ho, base, hb, hm⟩

/-- **Settings fail to load as the first layer does that fails**, or because merging the user's layer with those
below it does not end. -/
theorem loadSettings_eq_error : s.loadSettings user shared = .error f ↔
    s.defaultLayer shared = .error f ∨
      ∃ layer, s.defaultLayer shared = .ok layer ∧
        (s.userLayer user = .error f ∨
          ∃ own base, s.userLayer user = .ok own ∧ mergeLayer usualSettings layer = .ok base ∧
            f = .endlessMerge ∧ Endless base own) := by
  rw [loadSettings, bind_eq_error]
  refine or_congr_right (exists_congr fun layer => and_congr_right fun hl => ?_)
  have hlayer := isClosed_defaultLayer hl
  obtain ⟨base, hmerged, hbase⟩ := exists_mergeLayer_usualSettings hlayer
  rw [bind_eq_error]
  refine or_congr_right ⟨?_, ?_⟩
  · rintro ⟨own, ho, h⟩
    rw [mergeLayers_usualSettings, hmerged, ok_bind] at h
    exact ⟨own, base, ho, hmerged, (mergeLayer_eq_error_iff hbase (isClosed_readLayer ho)).1 h⟩
  · rintro ⟨own, base', ho, hb, hf⟩
    cases hmerged.symm.trans hb
    refine ⟨own, ho, ?_⟩
    rw [mergeLayers_usualSettings, hmerged, ok_bind]
    exact (mergeLayer_eq_error_iff hbase (isClosed_readLayer ho)).2 hf

/-- **Settings cannot be loaded where their path is too long, or where a part of them has no value.**
A file that is missing, that is no text, or that is no settings is passed over. -/
theorem loadSettings_eq_error_iff : s.loadSettings user "" = .error f ↔
    s.seek (s.settingsPath user) = .error f ∨
      ∃ text, s.readText (s.settingsPath user) = .ok text ∧ Yaml.load text = .error (.fault f) := by
  have hshared : s.defaultLayer "" = .ok usualSettings := rfl
  have husual : mergeLayer usualSettings usualSettings = .ok usualSettings := rfl
  rw [loadSettings_eq_error, hshared, or_iff_right nofun]
  constructor
  · rintro ⟨layer, hl, h | ⟨own, base, ho, hb, -, hendless⟩⟩
    · exact readLayer_eq_error_iff.1 h
    · cases hl
      cases husual.symm.trans hb
      exact absurd hendless
        (not_endless_of_entriesMappings isClosed_usualSettings (isClosed_readLayer ho) rfl)
  · intro h
    exact ⟨_, rfl, .inl (readLayer_eq_error_iff.2 h)⟩

end Site

theorem names_prefix_mergeLayer {base later merged : Mapping} (h : mergeLayer base later = .ok merged) :
    Mapping.names base <+: Mapping.names merged := by
  have keeps : ∀ m : Mapping, Mapping.names base <+: Mapping.names m → ∀ k v : Value,
      Mapping.names base <+: Mapping.names (Mapping.insert k v m) :=
    fun m hm k v => hm.trans (Mapping.names_prefix_insert k v m)
  exact mergeInto_invariant (P := fun m => Mapping.names base <+: Mapping.names m)
    (fun m hm e _ v _ => keeps m hm e.1 v) (List.prefix_refl _) h

namespace Site

variable {s : Site}

theorem names_of_loadSettings {user shared : String} {settings : Mapping}
    (h : s.loadSettings user shared = .ok settings) :
    Mapping.names usualSettings <+: Mapping.names settings := by
  obtain ⟨layer, own, base, -, -, hb, hm⟩ := loadSettings_eq_ok.1 h
  exact (names_prefix_mergeLayer hb).trans (names_prefix_mergeLayer hm)

/-- **Where settings come from files, these are all that can happen.**  Each file is a layer as `LayerEnds`
says; what escapes is a path that is too long or is filed under seven categories; settings are loaded
exactly where both layers are read and merging them ends, and then every usual name is among theirs. -/
theorem settings_end (s : Site) :
    (∀ path r, s.readLayer path = r ↔ LayerEnds s path r) ∧
    (∀ path f, s.readLayer path = .error f →
      f = .refused .nameTooLong (quoted (Path.ofText path).text) ∨ f.category ∈ Yaml.loadCategories) ∧
    (∀ user shared f, s.loadSettings user shared = .error f ↔
      s.defaultLayer shared = .error f ∨
        ∃ layer, s.defaultLayer shared = .ok layer ∧
          (s.userLayer user = .error f ∨
            ∃ own base, s.userLayer user = .ok own ∧ mergeLayer usualSettings layer = .ok base ∧
              f = .endlessMerge ∧ Endless base own)) ∧
    ∀ user shared settings, s.loadSettings user shared = .ok settings →
      Mapping.names usualSettings <+: Mapping.names settings :=
  ⟨fun _ _ => readLayer_eq_iff, fun _ _ => category_of_readLayer,
    fun _ _ _ => loadSettings_eq_error, fun _ _ _ => names_of_loadSettings⟩

/-- A day that does not exist lets a fault escape where a file should be an empty layer. -/
theorem layer_escapes : ¬ ∀ (s : Site) (path : String), ∃ layer, s.readLayer path = .ok layer := by
  intro h
  let s : Site := { files := ⟨[(["c.yaml"], .file (encodeText "velocity: 2020-13-45".toList))]⟩ }
  obtain ⟨layer, hlayer⟩ := h s "c.yaml"
  have hfault : s.readLayer "c.yaml" = .error .monthOutOfRange := by
    refine readLayer_eq_error_iff.2 (.inr ⟨"velocity: 2020-13-45".toList, ?_, ?_⟩)
    · decide +kernel
    · exact Yaml.fault?_eq_some_iff.1 (by decide +kernel)
  rw [hlayer] at hfault
  cases hfault

end Site

end Tunebook
