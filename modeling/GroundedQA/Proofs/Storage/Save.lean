import GroundedQA.Storage.Save
import GroundedQA.Proofs.Storage.Disk
/-!
# What a save does

Whether a save goes through depends on the disk, the path and the name of the temporary file only, not
on what is saved (`save_iff`). After one that did, the path holds the content (`read_save`).
-/

namespace GroundedQA.Storage

namespace Save

/-! ## Runs -/

theorem run_finished {save : Save} {result : Except FileFault Unit} (h : save.stage = .finished result)
    (disk : Disk) : save.run disk = (result, disk) := by
  rw [run]
  split
  next heq => rw [h] at heq; cases heq; rfl
  next heq => rw [h] at heq; cases heq

/-- A step that the disk grants. -/
theorem run_advance {save : Save} {disk disk' : Disk} {stage : Stage} (hopen : result? save.stage = none)
    (h : save.advance disk = .ok (stage, disk')) : save.run disk = ({ save with stage } : Save).run disk' := by
  rw [run]
  split
  next heq => rw [hopen] at heq; cases heq
  next => rw [step]; simp only [h]

/-- A step that the disk cannot do. -/
theorem run_fault {save : Save} {disk : Disk} {fault : FileFault} (hopen : result? save.stage = none)
    (h : save.advance disk = .error fault) :
    save.run disk = ({ save with stage := recover fault save.stage } : Save).run disk := by
  rw [run]
  split
  next heq => rw [hopen] at heq; cases heq
  next => rw [step]; simp only [h]

variable (target temporary : String) (content : ByteArray)

theorem makeDirectories_cons (disk : Disk) (here : Place) (name : String) (names : List String) :
    disk.makeDirectories here (name :: names) =
      match enterDirectory disk here name with
      | .ok (place, disk) => disk.makeDirectories place names
      | .error fault => (disk, .error fault) := rfl

/-- The directories are made as `makeDirectories` makes them. -/
theorem run_enter (here : Place) (names : List String) (disk : Disk) :
    run ⟨target, temporary, content, .enter here names⟩ disk =
      match disk.makeDirectories here names with
      | (disk, .ok ()) => run ⟨target, temporary, content, .create⟩ disk
      | (disk, .error fault) => (.error fault, disk) := by
  induction names generalizing here disk with
  | nil => exact run_advance rfl rfl
  | cons name names ih =>
    rw [makeDirectories_cons]
    cases h : enterDirectory disk here name with
    | ok made =>
      obtain ⟨place, disk'⟩ := made
      dsimp only
      rw [← ih]
      exact run_advance rfl (by simp only [advance, h]; rfl)
    | error fault =>
      have hfault : advance ⟨target, temporary, content, .enter here (name :: names)⟩ disk = .error fault := by
        simp only [advance, h]
        rfl
      rw [run_fault rfl hfault, run_finished rfl]

/-- A save that has failed stays failed, whether the temporary file can be taken away or not. -/
theorem run_discard (fault : FileFault) (disk : Disk) :
    (run ⟨target, temporary, content, .discard fault⟩ disk).1 = .error fault := by
  cases h : disk.remove temporary with
  | ok disk' =>
    have hdone : advance ⟨target, temporary, content, .discard fault⟩ disk = .ok (.finished (.error fault), disk') := by
      simp only [advance, h]
      rfl
    rw [run_advance rfl hdone, run_finished rfl]
  | error fault' =>
    have hfault : advance ⟨target, temporary, content, .discard fault⟩ disk = .error fault' := by
      simp only [advance, h]
      rfl
    rw [run_fault rfl hfault, run_finished rfl]

/-- When a stage after the directories meets a fault, the save fails with it. -/
theorem run_fault_discard {stage : Stage} {disk : Disk} {fault : FileFault} (hopen : result? stage = none)
    (hrecover : recover fault stage = .discard fault)
    (h : advance ⟨target, temporary, content, stage⟩ disk = .error fault) :
    (run ⟨target, temporary, content, stage⟩ disk).1 = .error fault := by
  rw [run_fault hopen h]
  dsimp only
  rw [hrecover, run_discard]

/-! ## The temporary file -/

/-- The disk with the content in the temporary file. -/
def withTemporary (disk : Disk) (place : Place) (content : ByteArray) : Disk :=
  (disk.insert place (.file .empty)).insert place (.file content)

theorem sameDirectories_withTemporary {disk : Disk} {place : Place} (h : disk.find? place ≠ some .directory) :
    disk.SameDirectories (withTemporary disk place content) := by
  have hempty := Disk.SameDirectories.insert h .empty
  exact hempty.trans (.insert (fun hd => h ((hempty place).2 hd)) content)

theorem find?_withTemporary {disk : Disk} {place : Place} (h : disk.find? place ≠ some .directory) :
    (withTemporary disk place content).find? place = some (.file content) :=
  Disk.find?_insert_self (fun hd => h ((Disk.SameDirectories.insert h .empty place).2 hd)) _

variable {target temporary content}

/-- Once there is room for the temporary file, the content gets into it. -/
theorem run_create {disk : Disk} {place : Place} (h : disk.TakesFile temporary place) :
    run ⟨target, temporary, content, .create⟩ disk =
      run ⟨target, temporary, content, .rename⟩ (withTemporary disk place content) := by
  have hcreate : disk.write temporary .empty = .ok (disk.insert place (.file .empty)) :=
    Disk.write_iff.2 ⟨place, h, rfl⟩
  have hwrite : (disk.insert place (.file .empty)).write temporary content = .ok (withTemporary disk place content) :=
    Disk.write_iff.2 ⟨place, (Disk.takesFile_iff (.insert h.2 _) ..).1 h, rfl⟩
  -- The file is made empty, filled and flushed.
  rw [run_advance rfl (by simp only [advance, hcreate]; rfl)]
  rw [run_advance rfl (by simp only [advance, hwrite]; rfl)]
  exact run_advance rfl rfl

/-! ## The target -/

/-- The disk with the content at the target, and no temporary file. -/
def withTarget (disk : Disk) (temporary target : Place) (content : ByteArray) : Disk :=
  ((withTemporary disk temporary content).erase temporary).insert target (.file content)

theorem rename_withTemporary {disk : Disk} {old new : Place} (hold : disk.TakesFile temporary old)
    (hnew : disk.TakesFile target new) :
    (withTemporary disk old content).rename temporary target = .ok (withTarget disk old new content) := by
  have hsame := sameDirectories_withTemporary content hold.2
  refine Disk.rename_iff.2 ⟨old, new, content, ?_, find?_withTemporary content hold.2, ?_, rfl⟩
  · exact (Disk.locate_iff hsame ..).1 hold.1
  · exact (Disk.takesFile_iff hsame ..).1 hnew

/-- With room for both files, the save goes through. -/
theorem run_create_ok {disk : Disk} {old new : Place} (hold : disk.TakesFile temporary old)
    (hnew : disk.TakesFile target new) :
    run ⟨target, temporary, content, .create⟩ disk = (.ok (), withTarget disk old new content) := by
  rw [run_create hold, run_advance rfl (by simp only [advance, rename_withTemporary hold hnew]; rfl), run_finished rfl]

/-- Only with room for both files does it go through. -/
theorem takesFile_of_run_create {disk : Disk} (h : (run ⟨target, temporary, content, .create⟩ disk).1 = .ok ()) :
    ∃ old new, disk.TakesFile temporary old ∧ disk.TakesFile target new := by
  cases hcreate : disk.write temporary .empty with
  | error fault =>
    rw [run_fault_discard target temporary content rfl rfl (by simp only [advance, hcreate]; rfl)] at h
    cases h
  | ok disk' =>
    -- What could be made can be filled, so only the move is left to fail.
    obtain ⟨old, hold, -⟩ := Disk.write_iff.1 hcreate
    rw [run_create hold] at h
    cases hrename : (withTemporary disk old content).rename temporary target with
    | error fault =>
      rw [run_fault_discard target temporary content rfl rfl (by simp only [advance, hrename]; rfl)] at h
      cases h
    | ok disk' =>
      obtain ⟨-, new, -, -, -, hnew, -⟩ := Disk.rename_iff.1 hrename
      exact ⟨old, new, hold, (Disk.takesFile_iff (sameDirectories_withTemporary content hold.2) ..).2 hnew⟩

theorem sameDirectories_erase_temporary {disk : Disk} {place : Place} (h : disk.find? place ≠ some .directory) :
    disk.SameDirectories ((withTemporary disk place content).erase place) := by
  have hsame := sameDirectories_withTemporary content h
  exact hsame.trans (.erase fun hd => h ((hsame place).2 hd))

/-- Afterwards the content is at the target. -/
theorem takesFile_withTarget {disk : Disk} {old new : Place} (hold : disk.find? old ≠ some .directory)
    (hnew : disk.TakesFile target new) :
    (withTarget disk old new content).locate target = .ok new ∧
      (withTarget disk old new content).find? new = some (.file content) := by
  have hsame : disk.SameDirectories ((withTemporary disk old content).erase old) := sameDirectories_erase_temporary hold
  have hfree := ((Disk.takesFile_iff hsame ..).1 hnew).2
  exact ⟨(Disk.locate_iff (hsame.trans (.insert hfree content)) ..).1 hnew.1, Disk.find?_insert_self hfree _⟩

/-- What a save needs of a disk: the directories above the path can be made, which gives the disk
`ready`, and that has room for the temporary file and for the target. -/
structure Ready (disk : Disk) (path : String) (id : Uuid) (ready : Disk) (old new : Place) : Prop where
  parent : parentSteps path ≠ [] → Disk.checkPath (parentPath path) = .ok ()
  directories : disk.makeDirectories [] (parentSteps path) = (ready, .ok ())
  temporary : ready.TakesFile (temporaryPath path id) old
  target : ready.TakesFile path new

/-- A save begins with the directories, if the path of the parent can be followed at all. -/
theorem run_start {disk : Disk} {path : String} {id : Uuid}
    (h : parentSteps path ≠ [] → Disk.checkPath (parentPath path) = .ok ()) :
    (start path id content).run disk =
      run ⟨path, temporaryPath path id, content, .enter [] (parentSteps path)⟩ disk := by
  unfold start
  split
  next hnil => rw [hnil, run_enter]; rfl
  next hsteps => rw [h hsteps]

end Save

namespace Disk

variable {disk : Disk} {path : String} {id : Uuid} {content : ByteArray}

/-- A save at the path would go through. -/
def Accepts (disk : Disk) (path : String) (id : Uuid) : Prop :=
  ∃ ready old new, Save.Ready disk path id ready old new

theorem save_of_ready {ready : Disk} {old new : Place} (h : Save.Ready disk path id ready old new) :
    disk.save path id content = (.ok (), Save.withTarget ready old new content) := by
  unfold save
  rw [Save.run_start h.parent, Save.run_enter, h.directories]
  exact Save.run_create_ok h.temporary h.target

theorem accepts_of_save (h : (disk.save path id content).1 = .ok ()) : disk.Accepts path id := by
  unfold save at h
  have hparent : Save.parentSteps path ≠ [] → checkPath (Save.parentPath path) = .ok () := by
    intro hsteps
    cases hcheck : checkPath (Save.parentPath path) with
    | ok u => rfl
    | error fault =>
      rw [Save.start, if_neg hsteps, hcheck, Save.run_finished rfl] at h
      cases h
  -- The directories come before all else, and without them there is no save.
  rw [Save.run_start hparent, Save.run_enter] at h
  cases hmake : disk.makeDirectories [] (Save.parentSteps path) with
  | mk ready result =>
    rw [hmake] at h
    cases result with
    | error fault => cases h
    | ok u =>
      obtain ⟨old, new, hold, hnew⟩ := Save.takesFile_of_run_create h
      exact ⟨ready, old, new, hparent, hmake, hold, hnew⟩

/-- Whether a save goes through does not depend on what is saved. -/
theorem save_iff : (disk.save path id content).1 = .ok () ↔ disk.Accepts path id := by
  constructor
  · exact accepts_of_save
  · rintro ⟨ready, old, new, h⟩
    rw [save_of_ready h]

/-- After a save that went through, the path names a file with the content. -/
theorem find?_save (h : disk.Accepts path id) :
    ∃ place, (disk.save path id content).2.locate path = .ok place ∧
      (disk.save path id content).2.find? place = some (.file content) := by
  obtain ⟨ready, old, new, hready⟩ := h
  rw [save_of_ready hready]
  exact ⟨new, Save.takesFile_withTarget hready.temporary.2 hready.target⟩

theorem occupied_save (h : disk.Accepts path id) : (disk.save path id content).2.occupied path = .ok true := by
  obtain ⟨place, hlocate, hfile⟩ := find?_save h
  rw [occupied, hlocate]
  dsimp only
  rw [hfile]
  rfl

theorem read_save (h : disk.Accepts path id) : (disk.save path id content).2.read path = .ok content := by
  obtain ⟨place, hlocate, hfile⟩ := find?_save h
  rw [read, hlocate]
  simp only [bind, Except.bind]
  rw [hfile]
  rfl

end Disk

end GroundedQA.Storage
