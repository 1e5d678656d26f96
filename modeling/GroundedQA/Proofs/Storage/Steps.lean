import GroundedQA.Proofs.Storage.Places
/-!
# What one step of a save does

`Move` lists all that a step may do, whether the disk grants it, refuses it or cannot do it (`step_moves`). Each
move keeps what is known of the temporary file in the stage of the save (`Tidy`), and leaves every file but that
and the target as it is (`Move.frame`); only the move that ends the save well changes the target
(`Move.target_eq`, `Move.read_target`).
-/

namespace GroundedQA.Storage.Save

open Disk

/-- What a step may do: the stage that follows and the disk as it is then. -/
inductive Move (save : Save) (disk : Disk) (answer : Answer) : Stage → Disk → Prop
  /-- A directory is there now, or all of them are. -/
  | enter {here here' : Place} {names names' : List String} {disk' : Disk} (hstage : save.stage = .enter here names)
      (hfiles : ∀ place, disk'.file? place = disk.file? place) (hgrows : disk.Grows disk') :
    Move save disk answer (.enter here' names') disk'
  | entered {here : Place} (hstage : save.stage = .enter here []) : Move save disk answer .create disk
  /-- A directory cannot be made, which ends the save. -/
  | lost {here : Place} {names : List String} {fault : FileFault} (hstage : save.stage = .enter here names) :
    Move save disk answer (.finished (.error fault)) disk
  | create {disk' : Disk} (hstage : save.stage = .create) (hwrite : disk.write save.temporary .empty = .ok disk') :
    Move save disk answer .write disk'
  | write {disk' : Disk} (hstage : save.stage = .write) (hwrite : disk.write save.temporary save.content = .ok disk') :
    Move save disk answer .sync disk'
  /-- A refused write has left something in the file. -/
  | part {content : ByteArray} {fault : FileFault} {disk' : Disk} (hstage : save.stage = .write)
      (hwrite : disk.write save.temporary content = .ok disk') :
    Move save disk answer (.discard fault) disk'
  | sync (hstage : save.stage = .sync) : Move save disk answer .rename disk
  | rename {disk' : Disk} (hstage : save.stage = .rename) (hrename : disk.rename save.temporary save.target = .ok disk') :
    Move save disk answer (.finished (.ok ())) disk'
  | fail {fault : FileFault} (hstage : save.stage ∈ [.create, .write, .sync, .rename]) :
    Move save disk answer (.discard fault) disk
  | remove {fault : FileFault} {disk' : Disk} (hstage : save.stage = .discard fault)
      (hremove : disk.remove save.temporary = .ok disk') :
    Move save disk answer (.finished (.error fault)) disk'
  /-- The disk refuses to remove the temporary file. -/
  | keep {fault : FileFault} {written : ℕ} (hstage : save.stage = .discard fault) (hanswer : answer = .refused written) :
    Move save disk answer (.finished (.error fault)) disk
  /-- There is no temporary file to remove. -/
  | miss {fault cause : FileFault} (hstage : save.stage = .discard fault)
      (hremove : disk.remove save.temporary = .error cause) :
    Move save disk answer (.finished (.error fault)) disk
  | rest {result : Except FileFault Unit} (hstage : save.stage = .finished result) :
    Move save disk answer (.finished result) disk

theorem enterDirectory_keeps {disk disk' : Disk} {here place : Place} {name : String}
    (h : enterDirectory disk here name = .ok (place, disk')) :
    (∀ other, disk'.file? other = disk.file? other) ∧ disk.Grows disk' := by
  unfold enterDirectory at h
  obtain ⟨there, -, h⟩ := bind_eq_ok.1 h
  obtain ⟨made, hmake, h⟩ := bind_eq_ok.1 h
  cases h
  exact makeDirectory_keeps hmake

/-- A step that is refused. -/
theorem refused_moves (save : Save) (written : ℕ) (disk : Disk) :
    Move save disk (.refused written) (recover .refused save.stage) (save.leavings written disk) := by
  unfold leavings
  cases hstage : save.stage with
  | enter here names => exact .lost hstage
  | write =>
    dsimp only [recover]
    cases hwrite : disk.write save.temporary (save.content.extract 0 written) with
    | ok disk' => exact .part hstage hwrite
    | error fault => exact .fail (by simp [hstage])
  | create | sync | rename => exact .fail (by simp [hstage])
  | discard fault => exact .keep hstage rfl
  | finished result => exact .rest hstage

/-- A step that is granted. -/
theorem granted_moves (save : Save) (disk : Disk) :
    match save.advance disk with
    | .ok (stage, disk') => Move save disk .granted stage disk'
    | .error fault => Move save disk .granted (recover fault save.stage) disk := by
  unfold advance
  cases hstage : save.stage with
  | enter here names =>
    cases names with
    | nil => exact .entered hstage
    | cons name names =>
      dsimp only
      cases hmake : enterDirectory disk here name with
      | error fault => exact .lost hstage
      | ok made =>
        obtain ⟨place, disk'⟩ := made
        obtain ⟨hfiles, hgrows⟩ := enterDirectory_keeps hmake
        exact .enter hstage hfiles hgrows
  | create =>
    dsimp only
    cases hwrite : disk.write save.temporary .empty with
    | error fault => exact .fail (by simp [hstage])
    | ok disk' => exact .create hstage hwrite
  | write =>
    dsimp only
    cases hwrite : disk.write save.temporary save.content with
    | error fault => exact .fail (by simp [hstage])
    | ok disk' => exact .write hstage hwrite
  | sync => exact .sync hstage
  | rename =>
    dsimp only
    cases hrename : disk.rename save.temporary save.target with
    | error fault => exact .fail (by simp [hstage])
    | ok disk' => exact .rename hstage hrename
  | discard fault =>
    dsimp only
    cases hremove : disk.remove save.temporary with
    | error cause => exact .miss hstage hremove
    | ok disk' => exact .remove hstage hremove
  | finished result => exact .rest hstage

theorem step_moves (save : Save) (answer : Answer) (disk : Disk) :
    Move save disk answer (save.step answer disk).1.stage (save.step answer disk).2 := by
  unfold step
  cases answer with
  | refused written => exact refused_moves save written disk
  | granted =>
    have hmove := granted_moves save disk
    dsimp only
    cases hadvance : save.advance disk with
    | error fault =>
      rw [hadvance] at hmove
      exact hmove
    | ok next =>
      rw [hadvance] at hmove
      exact hmove

theorem step_eq (save : Save) (answer : Answer) (disk : Disk) :
    (save.step answer disk).1 = { save with stage := (save.step answer disk).1.stage } := by
  unfold step
  cases answer with
  | refused written => rfl
  | granted => cases save.advance disk <;> rfl

/-- A save that has ended stays as it is. -/
theorem Move.eq_of_finished {save : Save} {disk disk' : Disk} {answer : Answer} {stage : Stage}
    {result : Except FileFault Unit} (h : Move save disk answer stage disk') (hdone : save.stage = .finished result) :
    stage = .finished result ∧ disk' = disk := by
  cases h with
  | rest hstage =>
    rw [hdone] at hstage
    exact ⟨hstage.symm, rfl⟩
  | fail hstage => simp [hdone] at hstage
  | _ hstage =>
    rw [hdone] at hstage
    cases hstage

/-! ## What a move leaves as it is -/

section Effects

variable {save : Save} {disk disk' : Disk} {answer : Answer} {stage : Stage}
variable (hne : placeOf save.temporary ≠ placeOf save.target)
include hne

theorem Move.grows (h : Move save disk answer stage disk') : disk.Grows disk' := by
  cases h with
  | enter hstage hfiles hgrows => exact hgrows
  | create hstage hwrite | write hstage hwrite | part hstage hwrite => exact (write_sets hwrite).2.2
  | rename hstage hrename =>
    obtain ⟨-, -, -, -, hgrows⟩ := rename_sets hne hrename
    exact hgrows
  | remove hstage hremove => exact (remove_sets hremove).2
  | entered | lost | sync | fail | keep | miss | rest => exact .refl _

/-- Files other than the temporary file and the target stay. -/
theorem Move.frame (h : Move save disk answer stage disk') {place : Place} (htemporary : place ≠ placeOf save.temporary)
    (htarget : place ≠ placeOf save.target) : disk'.file? place = disk.file? place := by
  cases h with
  | enter hstage hfiles hgrows => exact hfiles place
  | create hstage hwrite | write hstage hwrite | part hstage hwrite => exact (write_sets hwrite).2.1.2 place htemporary
  | rename hstage hrename =>
    obtain ⟨-, -, -, hothers, -⟩ := rename_sets hne hrename
    exact hothers place htemporary htarget
  | remove hstage hremove => exact (remove_sets hremove).1.2 place htemporary
  | entered | lost | sync | fail | keep | miss | rest => rfl

/-- So does the target, unless the temporary file is moved there. -/
theorem Move.target_eq (h : Move save disk answer stage disk')
    (hopen : save.stage = .rename → stage ≠ .finished (.ok ())) :
    disk'.contentAt? save.target = disk.contentAt? save.target := by
  cases h with
  | enter hstage hfiles hgrows => exact hfiles _
  | create hstage hwrite | write hstage hwrite | part hstage hwrite => exact (write_sets hwrite).2.1.2 _ hne.symm
  | rename hstage hrename => exact absurd rfl (hopen hstage)
  | remove hstage hremove => exact (remove_sets hremove).1.2 _ hne.symm
  | entered | lost | sync | fail | keep | miss | rest => rfl

end Effects

/-! ## The temporary file -/

/-- What is known of the temporary file in each stage, when `left` is a reason for which one may be there although
none should be. Where one may be that is to be removed, its path can be followed. -/
def Tidy (left : Prop) (save : Save) (disk : Disk) : Prop :=
  match save.stage with
  | .enter .. | .create | .finished (.error _) => left ∨ disk.contentAt? save.temporary = none
  | .write | .discard _ => left ∨ disk.contentAt? save.temporary = none ∨ disk.Leads save.temporary
  | .sync | .rename => disk.Leads save.temporary ∧ disk.contentAt? save.temporary = some save.content
  | .finished (.ok ()) => disk.contentAt? save.temporary = none

/-- The disk refuses to remove the temporary file of the save. -/
def RefusesRemoval (save : Save) (answer : Answer) : Prop :=
  (∃ fault, save.stage = .discard fault) ∧ ∃ written, answer = .refused written

section Tidiness

variable {save : Save} {disk disk' : Disk} {answer : Answer} {stage : Stage} {left left' : Prop}

/-- What is known stays known when the temporary file and the directories stay. -/
theorem Tidy.mono (h : Tidy left save disk) (hleft : left → left')
    (hcontent : disk'.contentAt? save.temporary = disk.contentAt? save.temporary) (hgrows : disk.Grows disk') :
    Tidy left' save disk' := by
  unfold Tidy at h ⊢
  rw [hcontent]
  cases hstage : save.stage with
  | enter | create =>
    rw [hstage] at h
    exact h.imp_left hleft
  | write | discard =>
    rw [hstage] at h
    exact h.imp hleft (Or.imp_right hgrows.leads)
  | sync | rename =>
    rw [hstage] at h
    exact h.imp_left hgrows.leads
  | finished result =>
    rw [hstage] at h
    cases result with
    | ok u => exact h
    | error fault => exact h.imp_left hleft

/-- What is known before a save begins to remove the temporary file: it is not there, or its path can be followed. -/
theorem Tidy.before_discard (h : Tidy left save disk) (hstage : save.stage ∈ [.create, .write, .sync, .rename]) :
    left ∨ disk.contentAt? save.temporary = none ∨ disk.Leads save.temporary := by
  unfold Tidy at h
  simp only [List.mem_cons, List.not_mem_nil, or_false] at hstage
  rcases hstage with hstage | hstage | hstage | hstage
  · rw [hstage] at h
    exact h.imp_right .inl
  · rwa [hstage] at h
  · rw [hstage] at h
    exact .inr (.inr h.1)
  · rw [hstage] at h
    exact .inr (.inr h.1)

theorem Move.tidy (hne : placeOf save.temporary ≠ placeOf save.target) (h : Move save disk answer stage disk')
    (ht : Tidy left save disk) : Tidy (left ∨ save.RefusesRemoval answer) { save with stage } disk' := by
  cases h with
  | enter hstage hfiles hgrows =>
    rw [Tidy, hstage] at ht
    exact ht.imp .inl fun hnone => (hfiles _).trans hnone
  | entered hstage | lost hstage =>
    rw [Tidy, hstage] at ht
    exact ht.imp_left .inl
  | create hstage hwrite =>
    obtain ⟨hleads, -, hgrows⟩ := write_sets hwrite
    exact .inr (.inr (hgrows.leads hleads))
  | write hstage hwrite =>
    obtain ⟨hleads, hsets, hgrows⟩ := write_sets hwrite
    exact ⟨hgrows.leads hleads, hsets.1⟩
  | part hstage hwrite =>
    obtain ⟨hleads, -, hgrows⟩ := write_sets hwrite
    exact .inr (.inr (hgrows.leads hleads))
  | sync hstage =>
    rw [Tidy, hstage] at ht
    exact ht
  | rename hstage hrename => exact (rename_sets hne hrename).2.1
  | fail hstage => exact (ht.before_discard hstage).imp_left .inl
  | remove hstage hremove => exact .inr (remove_sets hremove).1.1
  | keep hstage hanswer => exact .inl (.inr ⟨⟨_, hstage⟩, _, hanswer⟩)
  | miss hstage hremove =>
    rw [Tidy, hstage] at ht
    rcases ht with hleft | hnone | hleads
    · exact .inl (.inl hleft)
    · exact .inr hnone
    · exact .inr (contentAt?_of_remove_eq_error hleads hremove)
  | rest hstage =>
    rw [Tidy, hstage] at ht
    rename_i result
    cases result with
    | ok u => exact ht
    | error fault => exact ht.imp_left .inl

/-- The move that ends a save well puts the content at the target. -/
theorem Move.read_target (hne : placeOf save.temporary ≠ placeOf save.target) (ht : Tidy left save disk)
    (h : Move save disk answer (.finished (.ok ())) disk') (hopen : save.stage ≠ .finished (.ok ())) :
    disk'.read save.target = .ok save.content := by
  cases h with
  | rename hstage hrename =>
    rw [Tidy, hstage] at ht
    obtain ⟨htarget, -, hleads, -, -⟩ := rename_sets hne hrename
    exact read_iff.2 ⟨hleads, htarget.trans ht.2⟩
  | rest hstage => exact absurd hstage hopen

end Tidiness

end GroundedQA.Storage.Save
