import GroundedQA.Index.File
import GroundedQA.Proofs.Storage.SharedDisk
/-!
# Saving indexes atomically

Whatever the disk refuses, wherever a save is stopped and in whatever order several saves take their steps, the
file they save to holds what it held before or all of one index (`saves_atomic`).
-/

namespace GroundedQA.VectorIndex

open Storage

variable {σ ι : Type} [DecidableEq ι]

/-- Saves of indexes to one path, after any turns. As long as none has gone through, the path has what it had; then
it has all of an index whose save went through. A save that went through leaves no temporary file, and neither does
one that failed, unless the file was there before or its removal was refused. A turn leaves the temporary files of
the other saves as they are, and the path too, unless with it the save goes through; then the path has all of that
index. A save on its own is such turns, all granted. -/
theorem saves_atomic (disk : Disk) (path : String) {ids : ι → Uuid} (hids : Function.Injective ids)
    (indexes : ι → VectorIndex σ) (schedule : Schedule ι) :
    let content i := (indexes i).toFile.encode
    let temporary i := Save.temporaryPath path (ids i)
    let first := SharedDisk.start disk path ids content
    let now := first.after schedule
    ((∀ i, ¬(now.saves i).Succeeded) → now.disk.contentAt? path = disk.contentAt? path) ∧
    ((∃ i, (now.saves i).Succeeded) → ∃ i, (now.saves i).Succeeded ∧ now.disk.read path = .ok (content i)) ∧
    (∀ i, (now.saves i).Succeeded → now.disk.contentAt? (temporary i) = none) ∧
    (∀ i fault, (now.saves i).stage = .finished (.error fault) → disk.contentAt? (temporary i) = none →
      ¬first.RefusedRemoval schedule i → now.disk.contentAt? (temporary i) = none) ∧
    (∀ i answer, let next := now.act i answer
      (∀ j, j ≠ i → next.disk.contentAt? (temporary j) = now.disk.contentAt? (temporary j)) ∧
      (((next.saves i).Succeeded → (now.saves i).Succeeded) → next.disk.contentAt? path = now.disk.contentAt? path) ∧
      (¬(now.saves i).Succeeded → (next.saves i).Succeeded → next.disk.read path = .ok (content i))) ∧
    ∀ i, ∃ turns result, let done := first.after (List.replicate turns (i, .granted))
      (done.saves i).stage = .finished result ∧
        (indexes i).save disk path (ids i) = (liftFile result, done.disk) := by
  intro content temporary first now
  have h := SharedDisk.consistent_after disk path content hids schedule
  refine ⟨h.unchanged, h.complete, fun i hdone => ?_, fun i fault hfailed hfresh hremoved => ?_,
    fun i answer => ⟨fun j hij => h.contentAt?_temporary_act hids hij answer, h.contentAt?_act, h.read_act⟩, fun i => ?_⟩
  · have htidy := h.tidy i
    rw [Save.Tidy, hdone, h.temporary_eq] at htidy
    exact htidy
  · have htidy := h.tidy i
    rw [Save.Tidy, hfailed, h.temporary_eq] at htidy
    exact htidy.resolve_left fun hleft => hleft.elim (fun hthere => hthere hfresh) hremoved
  · obtain ⟨turns, hstage, hdisk⟩ := first.exists_after_eq_run i
    refine ⟨turns, _, hstage, ?_⟩
    rw [hdisk]
    rfl

/-- An index without records, whose vectors have one component or two. -/
def rival (i : Bool) : VectorIndex Unit :=
  .new (.oneByOne (if i then 1 else 2) fun _ => pure [])

def rivalId (i : Bool) : Uuid := if i then ⟨1⟩ else ⟨2⟩

/-- The first save is refused a part of its write, and removes the file while the second goes on. -/
def rivalry : Schedule Bool :=
  [(false, .granted), (true, .granted), (false, .refused 3), (true, .granted), (false, .granted), (true, .granted),
    (true, .granted)]

def rivals : SharedDisk Bool := .start .empty "index.json" rivalId fun i => (rival i).toFile.encode

theorem not_refusedRemoval_rivalry : ¬rivals.RefusedRemoval rivalry false := by
  rintro ⟨earlier, answer, later, hrivalry, ⟨fault, hstage⟩, written, rfl⟩
  have hturn : rivalry[earlier.length]? = some (false, .refused written) := by simp [hrivalry]
  have hlength : earlier.length < 7 := (List.getElem?_eq_some_iff.1 hturn).1
  have hearlier : earlier = rivalry.take earlier.length := by simp [hrivalry]
  -- The disk refuses only in the third turn, which is a write.
  rw [hearlier] at hstage
  generalize earlier.length = n at hturn hlength hstage
  match n, hlength with
  | 2, _ => cases hstage
  | 0, _ | 1, _ | 3, _ | 4, _ | 5, _ | 6, _ => simp [rivalry] at hturn

theorem saves_atomic_rivals :
    Function.Injective rivalId ∧
    ((rivals.after rivalry).saves false).stage = .finished (.error .refused) ∧
    ((rivals.after rivalry).saves true).Succeeded ∧
    (rivals.after rivalry).disk.read "index.json" = .ok (rival true).toFile.encode ∧
    ∀ i, (rivals.after rivalry).disk.contentAt? (Save.temporaryPath "index.json" (rivalId i)) = none := by
  have hids : Function.Injective rivalId := by
    show ∀ i j, rivalId i = rivalId j → i = j
    decide
  have hfailed : ((rivals.after rivalry).saves false).stage = .finished (.error .refused) := rfl
  have hdone : ((rivals.after rivalry).saves true).Succeeded := by decide +kernel
  obtain ⟨-, hcomplete, hmoved, hremoved, -, -⟩ := saves_atomic .empty "index.json" hids rival rivalry
  refine ⟨hids, hfailed, hdone, ?_, fun i => ?_⟩
  · obtain ⟨i, hi, hread⟩ := hcomplete ⟨true, hdone⟩
    cases i with
    | true => exact hread
    | false => cases hfailed.symm.trans hi
  · cases i with
    | true => exact hmoved true hdone
    | false => exact hremoved false _ hfailed rfl not_refusedRemoval_rivalry

end GroundedQA.VectorIndex
