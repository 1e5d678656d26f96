import GroundedQA.Proofs.Storage.Save
import GroundedQA.Proofs.Storage.Steps
import Mathlib.Data.List.Induction
import Mathlib.Logic.Function.Basic
/-!
# Saves to one path at the same time

Any number of saves to one path take turns, each turn one step of one save, and the disk may refuse any step. A
save that gets no more turns has been stopped where it was. `Consistent` is what every turn keeps
(`Consistent.act`), so it holds after every schedule (`consistent_after`): the target has what it had at first, or
all that one of the saves that went through has written.
-/

namespace GroundedQA.Storage

open Disk Save

/-- The save has gone through. -/
def Save.Succeeded (save : Save) : Prop :=
  save.stage = .finished (.ok ())

theorem Save.succeeded_iff {save : Save} : save.Succeeded ↔ result? save.stage = some (.ok ()) := by
  unfold Save.Succeeded
  cases save.stage <;> simp [result?]

instance (save : Save) : Decidable save.Succeeded := decidable_of_iff _ succeeded_iff.symm

/-- A disk, and saves that use it. -/
structure SharedDisk (ι : Type) where
  disk : Disk
  saves : ι → Save

/-- Whose turn it is, one after the other, and what the disk answers. -/
abbrev Schedule (ι : Type) := List (ι × Answer)

namespace SharedDisk

variable {ι : Type} [DecidableEq ι]

/-- Saves to one path, before the first turn. -/
def start (disk : Disk) (path : String) (ids : ι → Uuid) (contents : ι → ByteArray) : SharedDisk ι :=
  ⟨disk, fun i => Save.start path (ids i) (contents i)⟩

/-- A turn of save `i`. -/
def act (shared : SharedDisk ι) (i : ι) (answer : Answer) : SharedDisk ι :=
  ⟨((shared.saves i).step answer shared.disk).2,
    Function.update shared.saves i ((shared.saves i).step answer shared.disk).1⟩

def after (shared : SharedDisk ι) (schedule : Schedule ι) : SharedDisk ι :=
  schedule.foldl (fun shared turn => shared.act turn.1 turn.2) shared

/-- In one of the turns the disk has refused to remove the temporary file of save `i`. -/
def RefusedRemoval (shared : SharedDisk ι) (schedule : Schedule ι) (i : ι) : Prop :=
  ∃ earlier answer later, schedule = earlier ++ (i, answer) :: later ∧
    ((shared.after earlier).saves i).RefusesRemoval answer

theorem after_append (shared : SharedDisk ι) (earlier later : Schedule ι) :
    shared.after (earlier ++ later) = (shared.after earlier).after later :=
  List.foldl_append

theorem after_concat (shared : SharedDisk ι) (schedule : Schedule ι) (i : ι) (answer : Answer) :
    shared.after (schedule ++ [(i, answer)]) = (shared.after schedule).act i answer :=
  after_append shared schedule [(i, answer)]

theorem saves_act_self (shared : SharedDisk ι) (i : ι) (answer : Answer) :
    (shared.act i answer).saves i =
      { shared.saves i with stage := ((shared.saves i).step answer shared.disk).1.stage } := by
  show Function.update shared.saves i ((shared.saves i).step answer shared.disk).1 i = _
  rw [Function.update_self]
  exact step_eq ..

theorem saves_act_of_ne (shared : SharedDisk ι) {i j : ι} (h : j ≠ i) (answer : Answer) :
    (shared.act i answer).saves j = shared.saves j :=
  Function.update_of_ne h ..

theorem act_moves (shared : SharedDisk ι) (i : ι) (answer : Answer) :
    Move (shared.saves i) shared.disk answer ((shared.act i answer).saves i).stage (shared.act i answer).disk := by
  rw [saves_act_self]
  exact step_moves ..

/-- A save that has gone through stays so. -/
theorem succeeded_act {shared : SharedDisk ι} {i j : ι} {answer : Answer} (h : (shared.saves j).Succeeded) :
    ((shared.act i answer).saves j).Succeeded := by
  by_cases hij : j = i
  · subst hij
    exact ((shared.act_moves j answer).eq_of_finished h).1
  · rwa [saves_act_of_ne shared hij]

/-! ## What every turn keeps -/

/-- What is true of a disk with saves to `path` on it, which was the disk `before` at first; `left i` is a reason for
which the temporary file of a failed save may be there. -/
structure Consistent (before : Disk) (path : String) (ids : ι → Uuid) (contents : ι → ByteArray) (left : ι → Prop)
    (shared : SharedDisk ι) : Prop where
  target_eq : ∀ i, (shared.saves i).target = path
  temporary_eq : ∀ i, (shared.saves i).temporary = temporaryPath path (ids i)
  content_eq : ∀ i, (shared.saves i).content = contents i
  tidy : ∀ i, Tidy (left i) (shared.saves i) shared.disk
  unchanged : (∀ i, ¬(shared.saves i).Succeeded) → shared.disk.contentAt? path = before.contentAt? path
  complete : (∃ i, (shared.saves i).Succeeded) →
    ∃ i, (shared.saves i).Succeeded ∧ shared.disk.read path = .ok (contents i)

namespace Consistent

variable {before : Disk} {path : String} {ids : ι → Uuid} {contents : ι → ByteArray} {left : ι → Prop}
  {shared : SharedDisk ι}

section

variable (h : Consistent before path ids contents left shared)
include h

omit [DecidableEq ι] in
theorem temporary_ne (i : ι) : placeOf (shared.saves i).temporary ≠ placeOf (shared.saves i).target := by
  rw [h.temporary_eq, h.target_eq]
  exact placeOf_temporaryPath_ne path _

theorem grows (i : ι) (answer : Answer) : shared.disk.Grows (shared.act i answer).disk :=
  (shared.act_moves i answer).grows (h.temporary_ne i)

/-- A turn of one save does not touch the temporary file of another. -/
theorem contentAt?_temporary_act (hids : Function.Injective ids) {i j : ι} (hij : j ≠ i) (answer : Answer) :
    (shared.act i answer).disk.contentAt? (temporaryPath path (ids j)) =
      shared.disk.contentAt? (temporaryPath path (ids j)) := by
  refine (shared.act_moves i answer).frame (h.temporary_ne i) ?_ ?_
  · rw [h.temporary_eq]
    exact fun heq => hij (hids (placeOf_temporaryPath_injective path heq))
  · rw [h.target_eq]
    exact placeOf_temporaryPath_ne path _

/-- A turn leaves the target as it is, unless with it the save goes through. -/
theorem contentAt?_act {i : ι} {answer : Answer}
    (hopen : ((shared.act i answer).saves i).Succeeded → (shared.saves i).Succeeded) :
    (shared.act i answer).disk.contentAt? path = shared.disk.contentAt? path := by
  have hmove := shared.act_moves i answer
  rw [← h.target_eq i]
  refine hmove.target_eq (h.temporary_ne i) fun hrename hfinished => ?_
  have hdone := hopen hfinished
  rw [Save.Succeeded, hrename] at hdone
  cases hdone

/-- A save that goes through has all of its content at the target then. -/
theorem read_act {i : ι} {answer : Answer} (hopen : ¬(shared.saves i).Succeeded)
    (hdone : ((shared.act i answer).saves i).Succeeded) : (shared.act i answer).disk.read path = .ok (contents i) := by
  have hmove := shared.act_moves i answer
  rw [Save.Succeeded] at hdone
  rw [hdone] at hmove
  rw [← h.target_eq i, ← h.content_eq i]
  exact hmove.read_target (h.temporary_ne i) (h.tidy i) hopen

theorem tidy_act (hids : Function.Injective ids) (i : ι) (answer : Answer) (j : ι) :
    Tidy (left j ∨ j = i ∧ (shared.saves i).RefusesRemoval answer) ((shared.act i answer).saves j)
      (shared.act i answer).disk := by
  by_cases hij : j = i
  · subst hij
    have htidy := (shared.act_moves j answer).tidy (h.temporary_ne j) (h.tidy j)
    rw [saves_act_self] at htidy ⊢
    exact htidy.mono (Or.imp_right fun hrefused => ⟨rfl, hrefused⟩) rfl (.refl _)
  · rw [shared.saves_act_of_ne hij]
    refine (h.tidy j).mono .inl ?_ (h.grows i answer)
    rw [h.temporary_eq]
    exact h.contentAt?_temporary_act hids hij answer

/-- Every turn keeps it, and one in which the removal of a temporary file is refused is a reason for that file. -/
theorem act (hids : Function.Injective ids) (i : ι) (answer : Answer) :
    Consistent before path ids contents (fun j => left j ∨ j = i ∧ (shared.saves i).RefusesRemoval answer)
      (shared.act i answer) := by
  -- Nothing but its stage changes of a save.
  have hsame (j : ι) : ((shared.act i answer).saves j).target = (shared.saves j).target ∧
      ((shared.act i answer).saves j).temporary = (shared.saves j).temporary ∧
      ((shared.act i answer).saves j).content = (shared.saves j).content := by
    by_cases hij : j = i
    · rw [hij, saves_act_self]
      exact ⟨rfl, rfl, rfl⟩
    · rw [saves_act_of_ne shared hij]
      exact ⟨rfl, rfl, rfl⟩
  refine ⟨fun j => (hsame j).1.trans (h.target_eq j), fun j => (hsame j).2.1.trans (h.temporary_eq j),
    fun j => (hsame j).2.2.trans (h.content_eq j), h.tidy_act hids i answer, fun hnone => ?_, fun hsome => ?_⟩
  · rw [h.contentAt?_act fun hdone => absurd hdone (hnone i)]
    exact h.unchanged fun j hdone => hnone j (succeeded_act hdone)
  · by_cases hnew : ((shared.act i answer).saves i).Succeeded ∧ ¬(shared.saves i).Succeeded
    · exact ⟨i, hnew.1, h.read_act hnew.2 hnew.1⟩
    · have hopen : ((shared.act i answer).saves i).Succeeded → (shared.saves i).Succeeded :=
        fun hdone => by_contra fun hbefore => hnew ⟨hdone, hbefore⟩
      -- The turn has added no success, so there was one before, and the target has not changed.
      have hbefore : ∃ j, (shared.saves j).Succeeded := by
        obtain ⟨j, hj⟩ := hsome
        by_cases hij : j = i
        · exact ⟨j, by rw [hij] at hj ⊢; exact hopen hj⟩
        · exact ⟨j, by rwa [saves_act_of_ne shared hij] at hj⟩
      obtain ⟨j, hj, hread⟩ := h.complete hbefore
      obtain ⟨hleads, hcontent⟩ := read_iff.1 hread
      exact ⟨j, succeeded_act hj, read_iff.2 ⟨(h.grows i answer).leads hleads, (h.contentAt?_act hopen).trans hcontent⟩⟩

end

end Consistent

theorem tidy_start (disk : Disk) (path : String) (id : Uuid) (content : ByteArray) :
    Tidy (disk.contentAt? (temporaryPath path id) ≠ none) (Save.start path id content) disk := by
  have hnone : disk.contentAt? (temporaryPath path id) ≠ none ∨ disk.contentAt? (temporaryPath path id) = none :=
    (em _).symm
  unfold Tidy Save.start
  dsimp only
  split_ifs
  · exact hnone
  · cases checkPath (parentPath path) <;> exact hnone

theorem not_succeeded_start (path : String) (id : Uuid) (content : ByteArray) : ¬(Save.start path id content).Succeeded := by
  unfold Save.Succeeded Save.start
  dsimp only
  split_ifs
  · simp
  · cases checkPath (parentPath path) <;> simp

variable (disk : Disk) (path : String) {ids : ι → Uuid} (contents : ι → ByteArray)

omit [DecidableEq ι] in
theorem consistent_start (ids : ι → Uuid) : Consistent disk path ids contents
    (fun i => disk.contentAt? (temporaryPath path (ids i)) ≠ none) (start disk path ids contents) where
  target_eq _ := rfl
  temporary_eq _ := rfl
  content_eq _ := rfl
  tidy i := tidy_start disk path (ids i) (contents i)
  unchanged _ := rfl
  complete hsome := by
    obtain ⟨i, hi⟩ := hsome
    exact absurd hi (not_succeeded_start path (ids i) (contents i))

theorem refusedRemoval_concat {shared : SharedDisk ι} {schedule : Schedule ι} {i j : ι} {answer : Answer}
    (h : shared.RefusedRemoval schedule j ∨ j = i ∧ ((shared.after schedule).saves i).RefusesRemoval answer) :
    shared.RefusedRemoval (schedule ++ [(i, answer)]) j := by
  rcases h with ⟨earlier, refusal, later, hschedule, hrefused⟩ | ⟨rfl, hrefused⟩
  · exact ⟨earlier, refusal, later ++ [(i, answer)], by simp [hschedule], hrefused⟩
  · exact ⟨schedule, answer, [], rfl, hrefused⟩

/-- After every schedule this is true, when a temporary file may be left behind for two reasons: there was one at
first, or its removal has been refused. -/
theorem consistent_after (hids : Function.Injective ids) (schedule : Schedule ι) :
    Consistent disk path ids contents
      (fun i => disk.contentAt? (temporaryPath path (ids i)) ≠ none ∨
        (start disk path ids contents).RefusedRemoval schedule i)
      ((start disk path ids contents).after schedule) := by
  induction schedule using List.reverseRecOn with
  | nil =>
    have h := consistent_start disk path contents ids
    exact { h with tidy := fun i => (h.tidy i).mono .inl rfl (.refl _) }
  | append_singleton schedule turn ih =>
    obtain ⟨i, answer⟩ := turn
    have h := ih.act hids i answer
    rw [after_concat]
    refine { h with tidy := fun j => (h.tidy j).mono (fun hleft => ?_) rfl (.refl _) }
    rcases hleft with (hthere | hrefused) | hrefused
    · exact .inl hthere
    · exact .inr (refusedRemoval_concat (.inl hrefused))
    · exact .inr (refusedRemoval_concat (.inr hrefused))

/-! ## A save on its own -/

theorem run_eq_of_result? {save : Save} {result : Except FileFault Unit} (h : result? save.stage = some result) (disk : Disk) :
    save.stage = .finished result ∧ save.run disk = (result, disk) := by
  cases hstage : save.stage with
  | finished ended =>
    rw [hstage] at h
    cases h
    exact ⟨rfl, run_finished hstage disk⟩
  | _ =>
    rw [hstage] at h
    cases h

/-- To run a save is to give it turns, each of them granted, until it has ended. -/
theorem exists_after_eq_run (shared : SharedDisk ι) (i : ι) :
    ∃ n, let done := shared.after (List.replicate n (i, .granted))
      (done.saves i).stage = .finished ((shared.saves i).run shared.disk).1 ∧
        done.disk = ((shared.saves i).run shared.disk).2 := by
  induction hn : remaining (shared.saves i).stage using Nat.strongRecOn generalizing shared with
  | ind n ih =>
    subst hn
    cases hopen : result? (shared.saves i).stage with
    | some result =>
      obtain ⟨hstage, hrun⟩ := run_eq_of_result? hopen shared.disk
      rw [hrun]
      exact ⟨0, hstage, rfl⟩
    | none =>
      have hless := remaining_step (remaining_pos hopen) .granted shared.disk
      have hact : (shared.act i .granted).saves i = ((shared.saves i).step .granted shared.disk).1 :=
        Function.update_self ..
      have hrun : (shared.saves i).run shared.disk =
          ((shared.act i .granted).saves i).run (shared.act i .granted).disk := by
        rw [hact, run]
        split
        next heq => rw [hopen] at heq; cases heq
        next => rfl
      rw [← hact] at hless
      obtain ⟨n, hstage, hdisk⟩ := ih _ hless (shared.act i .granted) rfl
      rw [hrun]
      exact ⟨n + 1, hstage, hdisk⟩

end SharedDisk

end GroundedQA.Storage
