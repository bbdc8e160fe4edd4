import Tunebook.Proofs.FileTree.Write

/-!
# What a save leaves as it was

A file is saved in two steps: the directories above it are made, and the file is put in its place.
The first step only adds directories where nothing stood, and stops with what it has made when one of
them cannot be made.  So a save that is refused leaves every file as it was, and one that succeeds
leaves every other file as it was.

* `FileTree.Grows`: the one tree is the other with more directories.
* `Site.grows_makeDirectories`: making directories only adds directories, refused or not.
* `Site.grows_of_save`: **a refused save changes no file.**
* `Site.exists_place_of_save`: **a save changes the file at its place and no other.**
* `Site.locate_of_save`: paths lead where they led.
-/

namespace Tunebook

namespace FileTree

variable {t t' t'' : FileTree} {place other : Place}

/-- All that stands in a tree stands in another one, and what stands only there is a directory. -/
def Grows (t t' : FileTree) : Prop :=
  ∀ place, t'.get? place = t.get? place ∨
    t.get? place = none ∧ t'.get? place = some .directory

theorem Grows.refl (t : FileTree) : t.Grows t := fun _ => .inl rfl

theorem Grows.trans (h : t.Grows t') (h' : t'.Grows t'') : t.Grows t'' := by
  intro place
  rcases h' place with e' | ⟨hnone, hdir⟩
  · rw [e']
    exact h place
  · rcases h place with e | ⟨_, hdir'⟩
    · exact .inr ⟨e ▸ hnone, hdir⟩
    · rw [hdir'] at hnone
      cases hnone

theorem Grows.get?_eq_some (h : t.Grows t') {e : Entry} (he : t.get? place = some e) :
    t'.get? place = some e := by
  rcases h place with e' | ⟨hnone, _⟩
  · rw [e', he]
  · rw [he] at hnone
    cases hnone

theorem Grows.file?_eq (h : t.Grows t') (place : Place) : t'.file? place = t.file? place := by
  unfold file?
  rcases h place with e | ⟨hnone, hdir⟩
  · rw [e]
  · rw [hnone, hdir]

theorem grows_put (h : t.get? place = none) : t.Grows (t.put place .directory) := by
  intro other
  by_cases e : other = place
  · subst e
    have hbelow : other ≠ [] := by
      rintro rfl
      cases h
    exact .inr ⟨h, get?_put_self hbelow t .directory⟩
  · exact .inl (get?_put_other e t .directory)

theorem file?_put_self (h : place ≠ []) (content : List UInt8) :
    (t.put place (.file content)).file? place = some content := by
  rw [file?, get?_put_self h]

theorem file?_put_other (h : other ≠ place) (e : Entry) :
    (t.put place e).file? other = t.file? other := by
  rw [file?, get?_put_other h, file?]

end FileTree

namespace Site

variable {s : Site} {p q : Path} {content : List UInt8} {files : FileTree} {f : Fault}

theorem read_eq_ok_iff : s.read p = .ok content ↔
    ∃ place, s.locate p = .ok place ∧ s.files.file? place = some content := by
  constructor
  · intro h
    obtain ⟨e, he, h⟩ := bind_eq_ok.1 h
    obtain ⟨place, hplace, he⟩ := bind_eq_ok.1 he
    refine ⟨place, hplace, ?_⟩
    have he := about_eq_ok.1 he
    rw [FileTree.file?]
    cases e with
    | directory => cases about_eq_ok.1 h
    | file old =>
      cases h
      cases hget : s.files.get? place with
      | none =>
        rw [hget] at he
        cases he
      | some e =>
        rw [hget] at he
        cases he
        rfl
  · rintro ⟨place, hplace, hfile⟩
    rw [FileTree.file?] at hfile
    split at hfile
    · next old hget =>
      cases hfile
      have he : s.entry p = .ok (.file content) := by
        refine bind_eq_ok.2 ⟨place, hplace, about_eq_ok.2 ?_⟩
        rw [hget]
      rw [read, he]
      rfl
    · cases hfile

theorem locate_of_grows (h : s.files.Grows files) {place : Place} (hp : s.locate p = .ok place) :
    (s.withFiles files).locate p = .ok place :=
  locate_of_directories (fun _ => h.get?_eq_some) hp

/-! ### Directories -/

theorem grows_of_makeDirectory (h : s.makeDirectory p = .ok files) : s.files.Grows files := by
  obtain ⟨place, _, h⟩ := bind_eq_ok.1 h
  have h := about_eq_ok.1 h
  split at h
  · cases h
  · next hnone =>
    cases h
    exact FileTree.grows_put hnone

theorem grows_ensureDirectory (s : Site) (p : Path) : s.files.Grows (s.ensureDirectory p).1 := by
  rw [ensureDirectory]
  split
  · next h => exact grows_of_makeDirectory h
  · split
    · exact .refl _
    · exact .refl _

/-- **Making directories only adds directories**, also where one of them is refused. -/
theorem grows_makeDirectories (s : Site) (p : Path) : s.files.Grows (s.makeDirectories p).1 := by
  fun_induction makeDirectories s p with
  | case1 p shown hmake hnames => exact grows_ensureDirectory s p
  | case2 p shown hmake hnames _ files f habove ih =>
    rw [habove] at ih
    exact ih
  | case3 p shown hmake hnames _ files habove ih =>
    rw [habove] at ih
    exact ih.trans (grows_ensureDirectory (s.withFiles files) p)
  | case4 p hmake => exact grows_ensureDirectory s p

/-! ### Files -/

/-- **A refused save changes no file**, and at most adds directories. -/
theorem grows_of_save (h : s.save p content = (files, some f)) : s.files.Grows files := by
  have hgrows := grows_makeDirectories s p.parent
  rw [save] at h
  split at h
  · next habove =>
    cases h
    rw [habove] at hgrows
    exact hgrows
  · next above habove =>
    rw [habove] at hgrows
    split at h
    · cases h
    · cases h
      exact hgrows

theorem save_eq_put (h : s.save p content = (files, none)) :
    ∃ above place, s.files.Grows above ∧ (s.withFiles above).locate p = .ok place ∧
      above.get? place ≠ some .directory ∧ files = above.put place (.file content) := by
  obtain ⟨above, habove, hwrite⟩ := save_eq_ok h
  obtain ⟨place, hplace, hfile, hput⟩ := write_eq_ok hwrite
  have hgrows := grows_makeDirectories s p.parent
  rw [habove] at hgrows
  exact ⟨above, place, hgrows, hplace, hfile, hput⟩

/-- **A save changes the file at its place and no other.** -/
theorem exists_place_of_save (h : s.save p content = (files, none)) :
    ∃ place, (s.withFiles files).locate p = .ok place ∧ files.file? place = some content ∧
      ∀ other, other ≠ place → files.file? other = s.files.file? other := by
  obtain ⟨above, place, hgrows, hplace, hfile, rfl⟩ := save_eq_put h
  have hbelow : place ≠ [] := by
    rintro rfl
    exact hfile rfl
  refine ⟨place, ?_, FileTree.file?_put_self hbelow content, ?_⟩
  · exact locate_put (s := s.withFiles above) hfile _ hplace
  · intro other hother
    rw [FileTree.file?_put_other hother, hgrows.file?_eq]

/-- Paths lead where they led before the save. -/
theorem locate_of_save (h : s.save p content = (files, none)) {place : Place}
    (hq : s.locate q = .ok place) : (s.withFiles files).locate q = .ok place := by
  obtain ⟨above, target, hgrows, _, hfile, rfl⟩ := save_eq_put h
  exact locate_put (s := s.withFiles above) hfile _ (locate_of_grows hgrows hq)

theorem read_of_save_other (h : s.save p content = (files, none)) {old : List UInt8}
    (hq : s.read q = .ok old) (hne : (s.withFiles files).locate p ≠ (s.withFiles files).locate q) :
    (s.withFiles files).read q = .ok old := by
  obtain ⟨place, hplace, _, hothers⟩ := exists_place_of_save h
  obtain ⟨held, hheld, hold⟩ := read_eq_ok_iff.1 hq
  have hstill := locate_of_save h hheld
  refine read_eq_ok_iff.2 ⟨held, hstill, ?_⟩
  have hother : held ≠ place := by
    rintro rfl
    exact hne (hplace.trans hstill.symm)
  show files.file? held = some old
  rw [hothers held hother, hold]

theorem read_of_grows (h : s.files.Grows files) (hp : s.read p = .ok content) :
    (s.withFiles files).read p = .ok content := by
  obtain ⟨place, hplace, hfile⟩ := read_eq_ok_iff.1 hp
  refine read_eq_ok_iff.2 ⟨place, locate_of_grows h hplace, ?_⟩
  show files.file? place = some content
  rw [h.file?_eq, hfile]

end Site

end Tunebook
