import Tunebook.Proofs.FileTree.Frame
import Tunebook.Proofs.Text.Lines

/-!
# What goes wrong with files

A file system is asked about a path, and it may refuse: the answer names a reason and the path.
One kind of path never comes so far, since no name holds the character zero; there the fault is
another one.  So whatever is done with a path without that character succeeds or is refused.

* `Path.hasNul_ofText`: the paths that the file system is not asked about, by their texts.
* `Site.isRefusal_of_read`, `Site.isRefusal_of_makeDirectories`, `Site.isRefusal_of_write`: what is
  done with the others is refused at most.
* `Site.readText_eq_error`: **a text cannot be read where its path is refused or its octets are no
  text.**
* `Site.isRefusal_of_save`, `Site.save_eq_nulInPath_iff`: **a save is refused, or a name holds zero.**
-/

namespace Tunebook

/-! ### Paths that no file has -/

namespace Path

/-- **A path holds the character zero exactly where its text does.** -/
theorem hasNul_ofText (text : String) : (Path.ofText text).hasNul = true ↔ '\x00' ∈ text.toList := by
  simp only [hasNul, ofText, List.any_eq_true, List.mem_map, List.mem_filter, List.contains_iff_mem]
  constructor
  · rintro ⟨_, ⟨piece, ⟨hpiece, _⟩, rfl⟩, hnul⟩
    rw [String.toList_ofList] at hnul
    have hsub := (@sublist_joined ['/'] piece _ hpiece).subset hnul
    rwa [joined_pieces] at hsub
  · intro h
    have hslash : '\x00' ≠ '/' := by decide
    obtain ⟨piece, hpiece, hnul⟩ := mem_pieces_of_mem hslash h
    refine ⟨_, ⟨piece, ⟨hpiece, decide_eq_true ⟨List.ne_nil_of_mem hnul, ?_⟩⟩, rfl⟩, ?_⟩
    · rintro rfl
      exact absurd hnul (by decide)
    · rw [String.toList_ofList]
      exact hnul

theorem hasNul_parent {p : Path} (h : p.hasNul = false) : p.parent.hasNul = false := by
  rw [hasNul, List.any_eq_false] at h ⊢
  exact fun name hname => h name (List.dropLast_subset _ hname)

end Path

/-! ### Refusals -/

def Fault.IsRefusal (f : Fault) : Prop := ∃ why shown, f = .refused why shown

def Fault.IsUndecodable (f : Fault) : Prop :=
  ∃ octets position reason, f = .undecodable octets position reason

theorem not_isRefusal_nulInPath : ¬ Fault.nulInPath.IsRefusal := by
  rintro ⟨_, _, h⟩
  cases h

theorem isUndecodable_of_decodeFrom {position : Nat} {bytes : List UInt8} {f : Fault}
    (h : decodeFrom position bytes = .error f) : f.IsUndecodable := by
  fun_induction decodeFrom position bytes with
  | case1 position => cases h
  | case2 position b rest hb =>
    cases h
    exact ⟨_, _, _, rfl⟩
  | case3 position b rest count low high hb taken hfull ih =>
    rcases bind_eq_error.1 h with h | ⟨more, _, h⟩
    · exact ih h
    · cases h
  | case4 position b rest count low high hb taken hshort hends =>
    cases h
    exact ⟨_, _, _, rfl⟩
  | case5 position b rest count low high hb taken hshort hends =>
    cases h
    exact ⟨_, _, _, rfl⟩

namespace Site

variable {s : Site} {p : Path} {f : Fault} {content : List UInt8}

theorem isRefusal_of_about {α : Type} {x : Except Refusal α} (h : about p x = .error f) :
    f.IsRefusal := by
  cases x with
  | ok a => cases h
  | error why =>
    cases h
    exact ⟨why, _, rfl⟩

theorem locate_of_hasNul (hp : p.hasNul = true) : s.locate p = .error .nulInPath := by
  rw [locate, if_pos hp]

theorem isRefusal_of_locate (hp : p.hasNul = false) (h : s.locate p = .error f) :
    f.IsRefusal := by
  rw [locate, if_neg (by rw [hp]; exact Bool.false_ne_true)] at h
  split at h
  · exact isRefusal_of_about h
  · exact isRefusal_of_about h

theorem isRefusal_of_locate_bind {α : Type} {ask : Place → Except Refusal α}
    (hp : p.hasNul = false) (h : (s.locate p >>= fun place => about p (ask place)) = .error f) :
    f.IsRefusal := by
  rcases bind_eq_error.1 h with h | ⟨place, _, h⟩
  · exact isRefusal_of_locate hp h
  · exact isRefusal_of_about h

theorem isRefusal_of_read (hp : p.hasNul = false) (h : s.read p = .error f) : f.IsRefusal := by
  rcases bind_eq_error.1 h with h | ⟨e, _, h⟩
  · exact isRefusal_of_locate_bind hp h
  · cases e with
    | file content => cases h
    | directory => exact isRefusal_of_about h

theorem isRefusal_of_makeDirectory (hp : p.hasNul = false) (h : s.makeDirectory p = .error f) :
    f.IsRefusal := isRefusal_of_locate_bind hp h

theorem isRefusal_of_write (hp : p.hasNul = false) (h : s.write p content = .error f) :
    f.IsRefusal := isRefusal_of_locate_bind hp h

theorem isRefusal_of_ensureDirectory (hp : p.hasNul = false)
    (h : (s.ensureDirectory p).2 = some f) : f.IsRefusal := by
  rw [ensureDirectory] at h
  split at h
  · cases h
  · next hmake =>
    split at h
    · cases h
    · cases h
      exact isRefusal_of_makeDirectory hp hmake

/-- **Directories are made or refused**, at every path without the character zero. -/
theorem isRefusal_of_makeDirectories (hp : p.hasNul = false)
    (h : (s.makeDirectories p).2 = some f) : f.IsRefusal := by
  fun_induction makeDirectories s p with
  | case1 p shown hmake hnames => exact isRefusal_of_ensureDirectory hp h
  | case2 p shown hmake hnames _ files f' habove ih =>
    cases h
    exact ih (Path.hasNul_parent hp) (by rw [habove])
  | case3 p shown hmake hnames _ files habove ih => exact isRefusal_of_ensureDirectory hp h
  | case4 p hmake => exact isRefusal_of_ensureDirectory hp h

theorem makeDirectories_of_hasNul (hp : p.hasNul = true) :
    s.makeDirectories p = (s.files, some .nulInPath) := by
  have hmake : s.makeDirectory p = .error .nulInPath := by
    rw [makeDirectory, locate_of_hasNul hp]
    rfl
  have hseek : s.seek p = .ok none := by
    rw [seek, entry, locate_of_hasNul hp]
    rfl
  rw [makeDirectories.eq_def, hmake]
  dsimp only
  rw [ensureDirectory, hmake]
  dsimp only
  rw [hseek]

/-! ### Texts and saves -/

theorem readText_of_hasNul (hp : p.hasNul = true) : s.readText p = .error .nulInPath := by
  rw [readText, read, entry, locate_of_hasNul hp]
  rfl

/-- **A text cannot be read where its path is refused or its octets are no text**, if it has a path
at all. -/
theorem readText_eq_error (hp : p.hasNul = false) (h : s.readText p = .error f) :
    f.IsRefusal ∨ f.IsUndecodable := by
  rcases bind_eq_error.1 h with h | ⟨content, _, h⟩
  · exact .inl (isRefusal_of_read hp h)
  · rcases bind_eq_error.1 h with h | ⟨cs, _, h⟩
    · exact .inr (isUndecodable_of_decodeFrom h)
    · cases h

/-- A save comes as far as a name that holds the character zero. -/
def MeetsNul (s : Site) (p : Path) : Prop :=
  p.hasNul = true ∧ (p.parent.hasNul = true ∨ (s.makeDirectories p.parent).2 = none)

theorem isRefusal_of_save (h : (s.save p content).2 = some f) (known : f ≠ .nulInPath) :
    f.IsRefusal := by
  rw [save] at h
  split at h
  · next above f' habove =>
    cases h
    cases hp : p.parent.hasNul with
    | true =>
      rw [makeDirectories_of_hasNul hp] at habove
      cases habove
      exact absurd rfl known
    | false => exact isRefusal_of_makeDirectories hp (by rw [habove])
  · next above habove =>
    split at h
    · cases h
    · next hwrite =>
      cases h
      cases hp : p.hasNul with
      | true =>
        rw [write, locate_of_hasNul hp] at hwrite
        cases hwrite
        exact absurd rfl known
      | false => exact isRefusal_of_write hp hwrite

/-- **A save fails at the character zero where it comes so far**, and is refused at most otherwise. -/
theorem save_eq_nulInPath_iff : (s.save p content).2 = some .nulInPath ↔ s.MeetsNul p := by
  constructor
  · intro h
    rw [save] at h
    split at h
    · next above f habove =>
      cases h
      have hparent : p.parent.hasNul = true := by
        by_contra hp
        have hrefused := isRefusal_of_makeDirectories (s := s) (Bool.eq_false_iff.2 hp)
          (by rw [habove])
        exact not_isRefusal_nulInPath hrefused
      refine ⟨?_, .inl hparent⟩
      by_contra hp
      rw [Path.hasNul_parent (Bool.eq_false_iff.2 hp)] at hparent
      cases hparent
    · next above habove =>
      split at h
      · cases h
      · next hwrite =>
        cases h
        refine ⟨?_, .inr (by rw [habove])⟩
        by_contra hp
        exact not_isRefusal_nulInPath (isRefusal_of_write (Bool.eq_false_iff.2 hp) hwrite)
  · rintro ⟨hp, hparent | habove⟩
    · rw [save, makeDirectories_of_hasNul hparent]
    · obtain ⟨above, hmade⟩ : ∃ above, s.makeDirectories p.parent = (above, none) :=
        ⟨_, Prod.ext rfl habove⟩
      rw [save, hmade]
      dsimp only
      rw [write, locate_of_hasNul hp]
      rfl

end Site

end Tunebook
