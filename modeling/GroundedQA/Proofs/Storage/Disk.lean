import GroundedQA.Storage.Disk
import GroundedQA.Proofs.Failure
/-!
# What the operations on a disk do

Where a path leads depends only on which places are directories (`locate_iff`), and putting, moving
and removing files leaves that as it is (`SameDirectories`). `write_iff` and `rename_iff` say when an
operation succeeds and what it does then.
-/

namespace GroundedQA.Storage

namespace Disk

/-- Two disks have the same directories. -/
def SameDirectories (disk disk' : Disk) : Prop :=
  ∀ place, disk.find? place = some .directory ↔ disk'.find? place = some .directory

theorem SameDirectories.trans {a b c : Disk} (h : a.SameDirectories b) (h' : b.SameDirectories c) :
    a.SameDirectories c := fun place => (h place).trans (h' place)

/-! ## Paths -/

theorem checkDirectory_iff {disk : Disk} {place : Place} {u : Unit} :
    disk.checkDirectory place = .ok u ↔ disk.find? place = some .directory := by
  unfold checkDirectory
  split <;> simp_all

theorem walk_iff {disk disk' : Disk} (h : disk.SameDirectories disk') (here : Place) (names : List String)
    (place : Place) : disk.walk here names = .ok place ↔ disk'.walk here names = .ok place := by
  induction names generalizing here with
  | nil => rfl
  | cons name names ih =>
    simp only [walk, bind_eq_ok, checkDirectory_iff, h here, ih]

/-- A path leads to the same place wherever the directories are the same. -/
theorem locate_iff {disk disk' : Disk} (h : disk.SameDirectories disk') (path : String) (place : Place) :
    disk.locate path = .ok place ↔ disk'.locate path = .ok place := by
  simp only [locate, bind_eq_ok, walk_iff h]

/-! ## Files -/

theorem ne_nil_of_not_directory {disk : Disk} {place : Place} (h : disk.find? place ≠ some .directory) : place ≠ [] := by
  rintro rfl
  exact h (find?_root disk)

theorem find?_empty {place : Place} (h : place ≠ []) : empty.find? place = none := by
  rw [find?, if_neg h]
  rfl

theorem find?_insert_self {disk : Disk} {place : Place} (h : disk.find? place ≠ some .directory) (entry : Entry) :
    (disk.insert place entry).find? place = some entry := by
  rw [find?_insert disk (ne_nil_of_not_directory h), if_pos rfl]

/-- Putting a file where no directory is leaves the directories as they are. -/
theorem SameDirectories.insert {disk : Disk} {place : Place} (h : disk.find? place ≠ some .directory)
    (content : ByteArray) : disk.SameDirectories (disk.insert place (.file content)) := by
  intro other
  rw [find?_insert disk (ne_nil_of_not_directory h)]
  split
  next heq => simp [heq, h]
  next => rfl

/-- So does removing what is no directory. -/
theorem SameDirectories.erase {disk : Disk} {place : Place} (h : disk.find? place ≠ some .directory) :
    disk.SameDirectories (disk.erase place) := by
  intro other
  rw [find?_erase disk (ne_nil_of_not_directory h)]
  split
  next heq => simp [heq, h]
  next => rfl

/-- A path can be given a file: it leads somewhere, and no directory is there. -/
def TakesFile (disk : Disk) (path : String) (place : Place) : Prop :=
  disk.locate path = .ok place ∧ disk.find? place ≠ some .directory

theorem takesFile_iff {disk disk' : Disk} (h : disk.SameDirectories disk') (path : String) (place : Place) :
    disk.TakesFile path place ↔ disk'.TakesFile path place := by
  unfold TakesFile
  rw [locate_iff h, ne_eq, h place]

theorem file_or_none {disk : Disk} {place : Place} (h : disk.find? place ≠ some .directory) :
    disk.find? place = none ∨ ∃ content, disk.find? place = some (.file content) := by
  cases hentry : disk.find? place with
  | none => exact .inl rfl
  | some entry =>
    cases entry with
    | file content => exact .inr ⟨content, rfl⟩
    | directory => exact absurd hentry h

/-- A file is written exactly where there is room for one. -/
theorem write_iff {disk disk' : Disk} {path : String} {content : ByteArray} :
    disk.write path content = .ok disk' ↔ ∃ place, disk.TakesFile path place ∧ disk' = disk.insert place (.file content) := by
  unfold write TakesFile
  simp only [bind_eq_ok]
  constructor
  · rintro ⟨place, hlocate, h⟩
    have hfree : disk.find? place ≠ some .directory := by
      intro hdirectory
      rw [hdirectory] at h
      cases h
    refine ⟨place, ⟨hlocate, hfree⟩, ?_⟩
    rcases file_or_none hfree with hentry | ⟨old, hentry⟩
    · rw [hentry] at h
      exact (Except.ok.inj h).symm
    · rw [hentry] at h
      exact (Except.ok.inj h).symm
  · rintro ⟨place, ⟨hlocate, hfree⟩, rfl⟩
    refine ⟨place, hlocate, ?_⟩
    rcases file_or_none hfree with hentry | ⟨old, hentry⟩
    · rw [hentry]
      rfl
    · rw [hentry]
      rfl

/-- A file is moved exactly when it is there and the target has room for one. -/
theorem rename_iff {disk disk' : Disk} {source target : String} :
    disk.rename source target = .ok disk' ↔
      ∃ old new content, disk.locate source = .ok old ∧ disk.find? old = some (.file content) ∧
        disk.TakesFile target new ∧ disk' = (disk.erase old).insert new (.file content) := by
  unfold rename TakesFile
  simp only [bind_eq_ok]
  constructor
  · rintro ⟨old, hold, new, hnew, h⟩
    refine ⟨old, new, ?_⟩
    split at h
    case h_1 content hfile hfree | h_2 content _ hfile hfree =>
      refine ⟨content, hold, hfile, ⟨hnew, ?_⟩, ?_⟩
      · simp [hfree]
      · exact (Except.ok.inj h).symm
    all_goals cases h
  · rintro ⟨old, new, content, hold, hfile, ⟨hnew, hfree⟩, rfl⟩
    refine ⟨old, hold, new, hnew, ?_⟩
    rw [hfile]
    rcases file_or_none hfree with hentry | ⟨replaced, hentry⟩
    · rw [hentry]
      rfl
    · rw [hentry]
      rfl

end Disk

end GroundedQA.Storage
