import Tunebook.FileTree.Basic
import Tunebook.Proofs.Stage

/-!
# What was written is read

A file that was written is found again by the path by which it was written.  The path is followed
once more in the new tree, and there it could only be led astray where the new file stands.  But it
passes directories alone, and a file is never put where a directory stood.

* `FileTree.walk_of_directories`: **a path passes directories alone.**
* `Site.locate_put`: a new file stands in the way of no path that could be followed before.
* `Site.read_of_write`, `Site.read_of_save`: **what was written or saved is read**, exactly.
* `Site.save_of_writable`: whether a file can be saved does not depend on its content.
-/

namespace Tunebook

namespace FileTree

variable {t t' : FileTree} {target : Place}

/-- **A path passes directories alone**, so it leads where it led in every tree that has them all. -/
theorem walk_of_directories
    (h : ∀ place, t.get? place = some .directory → t'.get? place = some .directory)
    {start place : Place} {names : List String} (hw : t.walk start names = .ok place) :
    t'.walk start names = .ok place := by
  induction names generalizing start with
  | nil => exact hw
  | cons name rest ih =>
    rw [walk] at hw ⊢
    split at hw
    · cases hw
    · next hname =>
      rw [if_neg hname]
      split at hw
      · next hlast =>
        rw [if_pos hlast]
        exact hw
      · next hmore =>
        rw [if_neg hmore]
        split at hw
        · cases hw
        · cases hw
        · next hdirectory =>
          rw [h _ hdirectory]
          exact ih hw

theorem get?_put_directory (hfile : t.get? target ≠ some .directory) (entry : Entry) {place : Place}
    (h : t.get? place = some .directory) : (t.put target entry).get? place = some .directory := by
  have hother : place ≠ target := by
    rintro rfl
    exact hfile h
  rw [get?_put_other hother, h]

end FileTree

namespace Site

variable {s : Site} {p : Path} {content : List UInt8} {files : FileTree}

theorem about_eq_ok {α : Type} {x : Except Refusal α} {a : α} :
    about p x = .ok a ↔ x = .ok a := by
  cases x with
  | error why => exact ⟨nofun, nofun⟩
  | ok b =>
    rw [about, Except.ok.injEq, Except.ok.injEq]

theorem locate_of_directories
    (h : ∀ place, s.files.get? place = some .directory → files.get? place = some .directory)
    {place : Place} (hp : s.locate p = .ok place) : (s.withFiles files).locate p = .ok place := by
  rw [locate] at hp ⊢
  split at hp
  · cases hp
  · next hnul =>
    rw [if_neg hnul]
    split at hp
    · cases hp
    · next hlong =>
      rw [if_neg hlong]
      exact about_eq_ok.2 (FileTree.walk_of_directories h (about_eq_ok.1 hp))

/-- **A new file stands in the way of no path** that could be followed before. -/
theorem locate_put {place target : Place} (hfile : s.files.get? target ≠ some .directory)
    (entry : Entry) (h : s.locate p = .ok place) :
    (s.withFiles (s.files.put target entry)).locate p = .ok place :=
  locate_of_directories (fun _ => FileTree.get?_put_directory hfile entry) h

theorem write_eq_ok (h : s.write p content = .ok files) :
    ∃ place, s.locate p = .ok place ∧ s.files.get? place ≠ some .directory ∧
      files = s.files.put place (.file content) := by
  obtain ⟨place, hplace, h⟩ := bind_eq_ok.1 h
  have h := about_eq_ok.1 h
  split at h
  · cases h
  · next hfile =>
    cases h
    exact ⟨place, hplace, hfile, rfl⟩

/-- **What was written is read.** -/
theorem read_of_write (h : s.write p content = .ok files) :
    (s.withFiles files).read p = .ok content := by
  obtain ⟨place, hplace, hfile, rfl⟩ := write_eq_ok h
  have hbelow : place ≠ [] := by
    rintro rfl
    exact hfile rfl
  have hentry : (s.withFiles (s.files.put place (.file content))).entry p
      = .ok (.file content) := by
    refine bind_eq_ok.2 ⟨place, locate_put hfile _ hplace, about_eq_ok.2 ?_⟩
    dsimp only [withFiles]
    rw [FileTree.get?_put_self hbelow]
  rw [read, hentry]
  rfl

theorem save_eq_ok (h : s.save p content = (files, none)) :
    ∃ above, s.makeDirectories p.parent = (above, none) ∧
      (s.withFiles above).write p content = .ok files := by
  rw [save] at h
  split at h
  · cases h
  · next above habove =>
    refine ⟨above, habove, ?_⟩
    split at h
    · next hwrite =>
      cases h
      exact hwrite
    · cases h

/-- **What was saved is read.** -/
theorem read_of_save (h : s.save p content = (files, none)) :
    (s.withFiles files).read p = .ok content := by
  obtain ⟨above, _, h⟩ := save_eq_ok h
  have hread : ((s.withFiles above).withFiles files).read p = .ok content := read_of_write h
  exact hread

/-- A path at which a file can be saved. -/
def Writable (s : Site) (p : Path) : Prop := (s.save p []).2 = none

instance (s : Site) (p : Path) : Decidable (s.Writable p) :=
  inferInstanceAs (Decidable ((s.save p []).2 = none))

/-- Whether a file can be saved does not depend on its content. -/
theorem save_of_writable (h : s.Writable p) (content : List UInt8) :
    ∃ files, s.save p content = (files, none) := by
  obtain ⟨above, habove, hwrite⟩ := save_eq_ok (Prod.ext rfl h : s.save p [] = (_, none))
  obtain ⟨place, hplace, hfile, _⟩ := write_eq_ok hwrite
  have hwritten : (s.withFiles above).write p content
      = .ok (above.put place (.file content)) := by
    refine bind_eq_ok.2 ⟨place, hplace, about_eq_ok.2 ?_⟩
    split
    · next hdirectory => exact absurd hdirectory hfile
    · rfl
  refine ⟨above.put place (.file content), ?_⟩
  rw [save, habove]
  dsimp only
  rw [hwritten]

end Site

end Tunebook
