import GroundedQA.Proofs.Failure
import Mathlib.Order.WellFounded
/-!
# Tasks

Work on a shared state can be taken step by step, with steps of others in between. A `Task` is such work: each step
changes the state and goes on with what it saw. Taken without a break it is work like any other (`Task.run`). With
steps of others in between it ends with one of the results that it may end with (`Task.MayEnd`), and a task that is
`Settled` has one such result only.
-/

namespace GroundedQA

/-- Work that is taken step by step; it may stop to let others go on after each. -/
inductive Task (σ α : Type) : Type where
  | done (result : α)
  /-- One step: what it does to the state, and how it goes on after the state that it saw. -/
  | step (act : σ → σ) (next : σ → Task σ α)

variable {σ α β γ : Type}

namespace Task

/-- All steps without a break. -/
def run : Task σ α → StateM σ α
  | done result => pure result
  | step act next => fun s => (next s).run (act s)

/-- One task after the other. -/
def bind : Task σ α → (α → Task σ β) → Task σ β
  | done result, f => f result
  | step act next, f => step act fun s => (next s).bind f

instance : Monad (Task σ) where
  pure := done
  bind := bind

/-- Work in a single step. -/
def once (work : StateM σ α) : Task σ α :=
  step (fun s => (work.run s).2) fun s => done (work.run s).1

theorem bind_done (task : Task σ α) : task.bind done = task := by
  induction task with
  | done result => rfl
  | step act next ih => simp only [bind, ih]

theorem bind_bind (task : Task σ α) (f : α → Task σ β) (g : β → Task σ γ) :
    (task.bind f).bind g = task.bind fun a => (f a).bind g := by
  induction task with
  | done result => rfl
  | step act next ih => simp only [bind, ih]

instance : LawfulMonad (Task σ) :=
  LawfulMonad.mk' (Task σ) bind_done (fun _ _ => rfl) bind_bind

/-! ## Without a break -/

@[simp] theorem run_pure (result : α) (s : σ) : (pure result : Task σ α).run.run s = (result, s) := rfl

theorem run_once (work : StateM σ α) (s : σ) : (once work).run.run s = work.run s := rfl

theorem run_bind (task : Task σ α) (f : α → Task σ β) (s : σ) :
    (task >>= f).run.run s = (f (task.run.run s).1).run.run (task.run.run s).2 := by
  induction task generalizing s with
  | done result => rfl
  | step act next ih => exact ih s (act s)

theorem map_done (f : α → β) (result : α) : f <$> (done result : Task σ α) = done (f result) := rfl

theorem map_step (f : α → β) (act : σ → σ) (next : σ → Task σ α) :
    f <$> step act next = step act fun s => f <$> next s := rfl

theorem map_eq_done {f : α → β} {task : Task σ α} {result : β} (h : f <$> task = done result) :
    ∃ first, task = done first ∧ f first = result := by
  cases task with
  | done first =>
    rw [map_done] at h
    exact ⟨first, rfl, Task.done.inj h⟩
  | step act next => cases h

theorem map_eq_step {f : α → β} {task : Task σ α} {act : σ → σ} {next : σ → Task σ β} (h : f <$> task = step act next) :
    ∃ later, task = step act later ∧ next = fun s => f <$> later s := by
  cases task with
  | done first => cases h
  | step act' later =>
    rw [map_step] at h
    obtain ⟨rfl, rfl⟩ := Task.step.inj h
    exact ⟨later, rfl, rfl⟩

theorem run_map (f : α → β) (task : Task σ α) (s : σ) :
    (f <$> task).run.run s = (f (task.run.run s).1, (task.run.run s).2) := by
  rw [map_eq_pure_bind, run_bind, run_pure]

/-- Tasks that do some work, one after the other, do all of it. -/
theorem run_mapM {f : α → Task σ β} {work : α → StateM σ β} (h : ∀ x s, (f x).run.run s = (work x).run s)
    (xs : List α) (s : σ) : (xs.mapM f).run.run s = (xs.mapM work).run s := by
  induction xs generalizing s with
  | nil => rfl
  | cons x xs ih =>
    rw [List.mapM_cons, List.mapM_cons, run_bind, h, run_bind, ih]
    rfl

/-! ## Whatever the others do -/

/-- The task ends with the result if it sees certain states. -/
inductive MayEnd (result : α) : Task σ α → Prop
  | done : MayEnd result (done result)
  | step {act : σ → σ} {next : σ → Task σ α} (s : σ) (h : MayEnd result (next s)) : MayEnd result (step act next)

theorem mayEnd_done_iff {first result : α} : (done first : Task σ α).MayEnd result ↔ result = first := by
  constructor
  · intro h
    cases h
    rfl
  · rintro rfl
    exact .done

theorem mayEnd_step_iff {act : σ → σ} {next : σ → Task σ α} {result : α} :
    (step act next).MayEnd result ↔ ∃ s, (next s).MayEnd result := by
  constructor
  · intro h
    cases h with
    | step s h => exact ⟨s, h⟩
  · rintro ⟨s, h⟩
    exact .step s h

/-- Two tasks, one after the other, end with what the second may end with after the first. -/
theorem mayEnd_bind_iff {task : Task σ α} {f : α → Task σ β} {last : β} :
    (task >>= f).MayEnd last ↔ ∃ result, task.MayEnd result ∧ (f result).MayEnd last := by
  induction task with
  | done first =>
    show (f first).MayEnd last ↔ _
    simp [mayEnd_done_iff]
  | step act next ih =>
    show (step act fun s => next s >>= f).MayEnd last ↔ _
    simp only [mayEnd_step_iff, ih]
    constructor
    · rintro ⟨s, result, hresult, hlast⟩
      exact ⟨result, ⟨s, hresult⟩, hlast⟩
    · rintro ⟨result, ⟨s, hresult⟩, hlast⟩
      exact ⟨s, result, hresult, hlast⟩

theorem mayEnd_map_iff {task : Task σ α} {f : α → β} {last : β} :
    (f <$> task).MayEnd last ↔ ∃ result, task.MayEnd result ∧ last = f result := by
  rw [map_eq_pure_bind, mayEnd_bind_iff]
  refine exists_congr fun result => and_congr_right fun _ => ?_
  exact mayEnd_done_iff

/-- The task ends with the result whatever states it sees. -/
inductive Settled (result : α) : Task σ α → Prop
  | done : Settled result (done result)
  | step {act : σ → σ} {next : σ → Task σ α} (h : ∀ s, Settled result (next s)) : Settled result (step act next)

theorem Settled.run_fst {result : α} {task : Task σ α} (h : task.Settled result) (s : σ) :
    (task.run.run s).1 = result := by
  induction h generalizing s with
  | done => rfl
  | @step act next _ ih => exact ih s (act s)

theorem Settled.eq_of_mayEnd {result last : α} {task : Task σ α} (h : task.Settled result) (hlast : task.MayEnd last) :
    last = result := by
  induction hlast with
  | done =>
    cases h
    rfl
  | step s _ ih =>
    cases h with
    | step hnext => exact ih (hnext s)

theorem settled_pure (result : α) : (pure result : Task σ α).Settled result := .done

theorem Settled.bind {result : α} {last : β} {task : Task σ α} {f : α → Task σ β} (h : task.Settled result)
    (hf : (f result).Settled last) : (task >>= f).Settled last := by
  induction h with
  | done => exact hf
  | step _ ih => exact .step ih

theorem Settled.map {result : α} {task : Task σ α} (h : task.Settled result) (f : α → β) :
    (f <$> task).Settled (f result) := by
  rw [map_eq_pure_bind]
  exact h.bind (settled_pure _)

theorem exists_settled_mapM {f : α → Task σ β} {xs : List α} (h : ∀ x ∈ xs, ∃ result, (f x).Settled result) :
    ∃ results, (xs.mapM f).Settled results := by
  induction xs with
  | nil => exact ⟨[], .done⟩
  | cons x xs ih =>
    obtain ⟨result, hresult⟩ := h x List.mem_cons_self
    obtain ⟨results, hresults⟩ := ih fun y hy => h y (List.mem_cons_of_mem _ hy)
    rw [List.mapM_cons]
    exact ⟨result :: results, hresult.bind (hresults.bind (settled_pure _))⟩

/-- Work whose result does not depend on the state is settled when it is taken in one step. -/
theorem settled_once {work : StateM σ α} {result : α} (h : ∀ s, (work.run s).1 = result) : (once work).Settled result :=
  .step fun s => h s ▸ .done

/-! ## An end in sight -/

/-- The task is what is left of another after its first step. -/
inductive Follows : Task σ α → Task σ α → Prop
  | step (act : σ → σ) (next : σ → Task σ α) (s : σ) : Follows (next s) (step act next)

/-- No task goes on for ever. -/
theorem wellFounded_follows : WellFounded (@Follows σ α) := by
  refine ⟨fun task => ?_⟩
  induction task with
  | done result => exact ⟨_, fun _ h => nomatch h⟩
  | step act next ih =>
    refine ⟨_, fun later h => ?_⟩
    cases h with
    | step _ _ s => exact ih s

end Task

/-- Some work taken step by step. -/
structure Stepwise (work : StateM σ α) where
  task : Task σ α
  run_task : ∀ s, task.run.run s = work.run s

/-- The work in a single step. -/
def Stepwise.once (work : StateM σ α) : Stepwise work := ⟨.once work, Task.run_once work⟩

end GroundedQA
