import GroundedQA.Proofs.Concurrency.Tasks
import Mathlib.Logic.Hydra
import Mathlib.Logic.Relation
/-!
# Tasks side by side

A buffer takes up tasks in their order, so many at a time, lets the steps of those it took up come in any order, and
gives their results in the order of the tasks; after a result that stops it, it is left alone. However the steps come,
it ends (`Buffer.exists_finishes`), and has then given each task's result in its place, all of them or up to one that
stops it (`Buffer.Finishes.forall₂_mayEnd`). Tasks that go on to change their results take the same courses as before
(`Buffer.finishes_map_iff`). With one task at a time a buffer does what the tasks do one after the other
(`Buffer.finishes_one`).
-/

namespace GroundedQA

/-- Tasks on a shared state: those that are under way or done, and those that wait for their turn. The results of the
first of them have been given. -/
structure Buffer (σ α : Type) where
  given : List α
  running : List (Task σ α)
  waiting : List (Task σ α)
  shared : σ

namespace Buffer

variable {σ α β : Type} {limit : ℕ} {stops : α → Bool} {b b' last : Buffer σ α}

/-- Nothing is done yet. -/
def ofTasks (tasks : List (Task σ α)) (shared : σ) : Buffer σ α := ⟨[], [], tasks, shared⟩

/-- What may happen next when up to `limit` tasks may be under way or done with their results not given. -/
inductive Move (limit : ℕ) : Buffer σ α → Buffer σ α → Prop
  /-- The first task that waits is taken up. -/
  | start {given running task waiting shared} (room : running.length < limit) :
    Move limit ⟨given, running, task :: waiting, shared⟩ ⟨given, running ++ [task], waiting, shared⟩
  /-- Any task under way takes a step. -/
  | advance {given before act next after waiting shared} :
    Move limit ⟨given, before ++ .step act next :: after, waiting, shared⟩
      ⟨given, before ++ next shared :: after, waiting, act shared⟩
  /-- The first task is done, and its result is given. -/
  | give {given result running waiting shared} :
    Move limit ⟨given, .done result :: running, waiting, shared⟩ ⟨given ++ [result], running, waiting, shared⟩

/-- None of the results stops the buffer. -/
def Open (stops : α → Bool) (b : Buffer σ α) : Prop := ∀ result ∈ b.given, stops result = false

/-- The steps of a buffer that is left alone after a result that stops it. -/
def Step (limit : ℕ) (stops : α → Bool) (b b' : Buffer σ α) : Prop := b.Open stops ∧ b.Move limit b'

/-- Some steps bring the buffer to its end. -/
structure Finishes (limit : ℕ) (stops : α → Bool) (b last : Buffer σ α) : Prop where
  steps : Relation.ReflTransGen (Step limit stops) b last
  stuck : ∀ next, ¬Step limit stops last next

/-- The tasks whose results are not given. -/
def tasks (b : Buffer σ α) : List (Task σ α) := b.running ++ b.waiting

theorem tasks_start (given : List α) (running waiting : List (Task σ α)) (task : Task σ α) (shared : σ) :
    (⟨given, running ++ [task], waiting, shared⟩ : Buffer σ α).tasks =
      (⟨given, running, task :: waiting, shared⟩ : Buffer σ α).tasks := by
  simp [tasks]

/-! ## Room -/

theorem Move.running_le (h : Move limit b b') (hroom : b.running.length ≤ limit) : b'.running.length ≤ limit := by
  cases h with
  | start room => simpa [Nat.add_one_le_iff] using room
  | advance => simpa using hroom
  | give => exact Nat.le_of_succ_le hroom

/-- Never more than `limit` tasks are taken up without their results given. -/
theorem running_le_of_steps {tasks : List (Task σ α)} {shared : σ}
    (h : Relation.ReflTransGen (Step limit stops) (ofTasks tasks shared) b) : b.running.length ≤ limit := by
  induction h with
  | refl => exact Nat.zero_le _
  | tail _ hstep ih => exact hstep.2.running_le ih

/-! ## Every course ends -/

theorem exists_move (hlimit : 0 < limit) (h : b.tasks ≠ []) : ∃ b', Move limit b b' := by
  obtain ⟨given, running, waiting, shared⟩ := b
  cases running with
  | nil =>
    cases waiting with
    | nil => exact absurd rfl h
    | cons task waiting => exact ⟨_, .start hlimit⟩
  | cons task running =>
    cases task with
    | done result => exact ⟨_, .give⟩
    | step act next => exact ⟨_, @Move.advance _ _ limit given [] act next running waiting shared⟩

theorem Move.tasks_ne_nil (h : Move limit b b') : b.tasks ≠ [] := by
  cases h <;> simp [tasks]

theorem coe_append_cons (before after : List (Task σ α)) (task : Task σ α) :
    ((before ++ task :: after : List (Task σ α)) : Multiset (Task σ α)) = ↑(before ++ after) + {task} := by
  rw [add_comm, Multiset.singleton_add, Multiset.cons_coe, Multiset.coe_eq_coe]
  exact List.perm_middle

/-- A move takes a step of a task or drops it, or else it takes one up. -/
theorem Move.descends (h : Move limit b b') :
    Prod.Lex (Relation.CutExpand Task.Follows) (· < ·) ((b'.tasks : Multiset (Task σ α)), b'.waiting.length)
      ((b.tasks : Multiset (Task σ α)), b.waiting.length) := by
  cases h with
  | start room =>
    -- The tasks are the same, but one less of them waits.
    rw [tasks_start]
    exact .right _ (Nat.lt_succ_self _)
  | @advance given before act next after waiting shared =>
    refine .left _ _ ?_
    unfold tasks
    rw [List.append_assoc, List.append_assoc, List.cons_append, List.cons_append, coe_append_cons, coe_append_cons]
    exact Relation.cutExpand_add_single _ (.step act next shared)
  | @give given result running waiting shared =>
    refine .left _ _ ⟨0, .done result, by simp, ?_⟩
    rw [add_zero, add_comm]
    rfl

/-- No course of moves goes on for ever. -/
theorem wellFounded_move : WellFounded fun b' b : Buffer σ α => Move limit b b' :=
  Subrelation.wf (fun h => h.descends)
    (InvImage.wf (fun b : Buffer σ α => ((b.tasks : Multiset (Task σ α)), b.waiting.length))
      (WellFounded.prod_lex Task.wellFounded_follows.cutExpand wellFounded_lt))

/-- Whatever a buffer has done so far, it comes to an end. -/
theorem exists_finishes (limit : ℕ) (stops : α → Bool) (b : Buffer σ α) : ∃ last, Finishes limit stops b last := by
  induction b using (@wellFounded_move σ α limit).induction with
  | _ b ih =>
    by_cases hstuck : ∀ next, ¬Step limit stops b next
    · exact ⟨b, .refl, hstuck⟩
    · obtain ⟨next, hstep⟩ := not_forall_not.1 hstuck
      obtain ⟨last, hlast⟩ := ih next hstep.2
      exact ⟨last, .head hstep hlast.steps, hlast.stuck⟩

theorem Finishes.stopped_or_empty (h : Finishes limit stops b last) (hlimit : 0 < limit) :
    (∃ result ∈ last.given, stops result) ∨ last.tasks = [] := by
  by_cases hopen : last.Open stops
  · refine .inr ?_
    by_contra hne
    obtain ⟨next, hnext⟩ := exists_move hlimit hne
    exact h.stuck next ⟨hopen, hnext⟩
  · simp only [Open, not_forall, Bool.not_eq_false] at hopen
    obtain ⟨result, hmem, hstops⟩ := hopen
    exact .inl ⟨result, hmem, hstops⟩

/-! ## Each result in its place -/

theorem forall₂_replace {R : α → β → Prop} {xs : List α} {y y' : β} {before after : List β}
    (hy : ∀ x, R x y → R x y') (h : List.Forall₂ R xs (before ++ y :: after)) :
    List.Forall₂ R xs (before ++ y' :: after) := by
  induction before generalizing xs with
  | nil =>
    cases h with
    | cons hx hxs => exact .cons (hy _ hx) hxs
  | cons z before ih =>
    cases h with
    | cons hx hxs => exact .cons hx (ih hxs)

/-- Each item stands for the task in its place, with all that the task may still end with; a result that is given
is a task that is done. -/
def Keeps (R : β → α → Prop) (items : List β) (b : Buffer σ α) : Prop :=
  List.Forall₂ (fun item task => ∀ result, task.MayEnd result → R item result) items (b.given.map Task.done ++ b.tasks)

variable {R : β → α → Prop} {items : List β}

theorem Keeps.move (h : Keeps R items b) (hmove : Move limit b b') : Keeps R items b' := by
  unfold Keeps at h ⊢
  cases hmove with
  | start room => rwa [tasks_start]
  | @advance given before act next after waiting shared =>
    unfold tasks at h ⊢
    rw [List.append_assoc, List.cons_append, ← List.append_assoc] at h ⊢
    exact forall₂_replace (fun item hitem result hresult => hitem result (.step shared hresult)) h
  | give =>
    rwa [List.map_append, List.append_assoc]

theorem Keeps.steps (h : Keeps R items b) (hsteps : Relation.ReflTransGen (Step limit stops) b b') :
    Keeps R items b' := by
  induction hsteps with
  | refl => exact h
  | tail _ hstep ih => exact ih.move hstep.2

/-- When a buffer ends, it has given what the tasks may end with, in their order: of all tasks, or up to a result that
stops it. -/
theorem Finishes.forall₂_mayEnd {xs : List β} {task : β → Task σ α} {shared : σ} (hlimit : 0 < limit)
    (hR : ∀ x ∈ xs, ∀ result, (task x).MayEnd result → R x result)
    (h : Finishes limit stops (ofTasks (xs.map task) shared) last) :
    ∃ first rest, xs = first ++ rest ∧ List.Forall₂ R first last.given ∧
      (rest = [] ∨ ∃ result ∈ last.given, stops result) := by
  have hstart : Keeps R xs (ofTasks (xs.map task) shared) := by
    show List.Forall₂ _ xs (xs.map task)
    rwa [List.forall₂_map_right_iff, List.forall₂_same]
  have hlast : Keeps R xs last := hstart.steps h.steps
  have hfirst := List.forall₂_take_append _ _ _ hlast
  have hrest := List.forall₂_drop_append _ _ _ hlast
  rw [List.forall₂_map_right_iff] at hfirst
  refine ⟨_, _, (List.take_append_drop _ xs).symm, hfirst.imp fun item result hitem => hitem result .done, ?_⟩
  rcases h.stopped_or_empty hlimit with hstopped | hempty
  · exact .inr hstopped
  · rw [hempty, List.forall₂_nil_right_iff] at hrest
    exact .inl hrest

theorem Finishes.mayEnd_of_mem {xs : List β} {task : β → Task σ α} {shared : σ} (hlimit : 0 < limit)
    (h : Finishes limit stops (ofTasks (xs.map task) shared) last) {result : α} (hresult : result ∈ last.given) :
    ∃ x ∈ xs, (task x).MayEnd result := by
  obtain ⟨first, rest, rfl, hfirst, -⟩ :=
    h.forall₂_mayEnd (R := fun x result => (task x).MayEnd result) hlimit fun _ _ _ hmay => hmay
  obtain ⟨x, hx, hmay⟩ := exists_of_mem_forall₂ hfirst hresult
  exact ⟨x, List.mem_append_left _ hx, hmay⟩

/-- A buffer that ends has given no more results than there are tasks, and one for each if none of them stops it. -/
theorem Finishes.length_given {tasks : List (Task σ α)} {shared : σ} (hlimit : 0 < limit)
    (h : Finishes limit stops (ofTasks tasks shared) last) :
    last.given.length ≤ tasks.length ∧ (last.Open stops → last.given.length = tasks.length) := by
  rw [← List.map_id tasks] at h
  obtain ⟨first, rest, rfl, hfirst, hend⟩ := h.forall₂_mayEnd (R := fun _ _ => True) hlimit fun _ _ _ _ => trivial
  rw [← hfirst.length_eq, List.length_append]
  refine ⟨Nat.le_add_right .., fun hopen => ?_⟩
  rcases hend with rfl | ⟨result, hresult, hstops⟩
  · rfl
  · rw [hopen result hresult] at hstops
    cases hstops

/-- When a buffer of settled tasks ends, it has given their results in order, all of them or up to one that stops it. -/
theorem Finishes.exists_rest {xs : List β} {task : β → Task σ α} {outcome : β → α} {shared : σ} (hlimit : 0 < limit)
    (hsettled : ∀ x ∈ xs, (task x).Settled (outcome x))
    (h : Finishes limit stops (ofTasks (xs.map task) shared) last) :
    ∃ rest, xs.map outcome = last.given ++ rest ∧ (rest = [] ∨ ∃ result ∈ last.given, stops result) := by
  obtain ⟨first, rest, rfl, hfirst, hend⟩ := h.forall₂_mayEnd (R := fun x result => outcome x = result) hlimit
    fun x hx result hresult => ((hsettled x hx).eq_of_mayEnd hresult).symm
  refine ⟨rest.map outcome, ?_, hend.imp_left fun hrest => by rw [hrest, List.map_nil]⟩
  rw [← List.forall₂_map_left_iff, List.forall₂_eq_eq_eq] at hfirst
  rw [List.map_append, hfirst]

/-! ## Tasks that change their results -/

/-- The buffer with all results, given and to come, changed. -/
def map (f : α → β) (b : Buffer σ α) : Buffer σ β :=
  ⟨b.given.map f, b.running.map (f <$> ·), b.waiting.map (f <$> ·), b.shared⟩

section Map

variable {f : α → β} {stopping : β → Bool} {c : Buffer σ β}

theorem Move.map (h : Move limit b b') : Move limit (b.map f) (b'.map f) := by
  cases h with
  | start room =>
    unfold Buffer.map
    rw [List.map_append]
    exact .start (by simpa using room)
  | advance =>
    unfold Buffer.map
    rw [List.map_append, List.map_append]
    exact .advance
  | give =>
    unfold Buffer.map
    rw [List.map_append]
    exact .give

/-- It makes no other moves. -/
theorem exists_move_of_map (h : Move limit (b.map f) c) : ∃ b', Move limit b b' ∧ c = b'.map f := by
  obtain ⟨given, running, waiting, shared⟩ := b
  generalize hb : Buffer.map f ⟨given, running, waiting, shared⟩ = mapped at h
  cases h with
  | @start given' running' task' waiting' shared' room =>
    obtain ⟨rfl, rfl, hwaiting, rfl⟩ := Buffer.mk.inj hb
    obtain ⟨task, waiting, rfl, rfl, rfl⟩ := List.map_eq_cons_iff.1 hwaiting
    refine ⟨_, .start (by simpa using room), ?_⟩
    simp [Buffer.map]
  | @advance given' before' act next' after' waiting' shared' =>
    obtain ⟨rfl, hrunning, rfl, rfl⟩ := Buffer.mk.inj hb
    obtain ⟨before, rest, rfl, rfl, hrest⟩ := List.map_eq_append_iff.1 hrunning
    obtain ⟨task, after, rfl, htask, rfl⟩ := List.map_eq_cons_iff.1 hrest
    obtain ⟨next, rfl, rfl⟩ := Task.map_eq_step htask
    refine ⟨_, .advance, ?_⟩
    simp [Buffer.map]
  | @give given' result' running' waiting' shared' =>
    obtain ⟨rfl, hrunning, rfl, rfl⟩ := Buffer.mk.inj hb
    obtain ⟨task, running, rfl, htask, rfl⟩ := List.map_eq_cons_iff.1 hrunning
    obtain ⟨result, rfl, rfl⟩ := Task.map_eq_done htask
    refine ⟨_, .give, ?_⟩
    simp [Buffer.map]

theorem open_map_iff : (b.map f).Open stopping ↔ b.Open (stopping ∘ f) := by
  simp [Open, Buffer.map]

theorem step_map_iff :
    Step limit stopping (b.map f) c ↔ ∃ b', Step limit (stopping ∘ f) b b' ∧ c = b'.map f := by
  constructor
  · rintro ⟨hopen, hmove⟩
    obtain ⟨b', hb', rfl⟩ := exists_move_of_map hmove
    exact ⟨b', ⟨open_map_iff.1 hopen, hb'⟩, rfl⟩
  · rintro ⟨b', ⟨hopen, hmove⟩, rfl⟩
    exact ⟨open_map_iff.2 hopen, hmove.map⟩

theorem steps_map_iff : Relation.ReflTransGen (Step limit stopping) (b.map f) c ↔
    ∃ b', Relation.ReflTransGen (Step limit (stopping ∘ f)) b b' ∧ c = b'.map f := by
  constructor
  · intro h
    induction h with
    | refl => exact ⟨b, .refl, rfl⟩
    | tail _ hstep ih =>
      obtain ⟨b', hb', rfl⟩ := ih
      obtain ⟨b'', hb'', rfl⟩ := step_map_iff.1 hstep
      exact ⟨b'', hb'.tail hb'', rfl⟩
  · rintro ⟨b', hb', rfl⟩
    exact hb'.lift _ fun _ _ hstep => step_map_iff.2 ⟨_, hstep, rfl⟩

/-- The courses are those of the tasks before the change, with the results changed. -/
theorem finishes_map_iff : Finishes limit stopping (b.map f) c ↔
    ∃ last, Finishes limit (stopping ∘ f) b last ∧ c = last.map f := by
  constructor
  · rintro ⟨hsteps, hstuck⟩
    obtain ⟨last, hlast, rfl⟩ := steps_map_iff.1 hsteps
    exact ⟨last, ⟨hlast, fun next hnext => hstuck _ (step_map_iff.2 ⟨next, hnext, rfl⟩)⟩, rfl⟩
  · rintro ⟨last, ⟨hsteps, hstuck⟩, rfl⟩
    refine ⟨steps_map_iff.2 ⟨last, hsteps, rfl⟩, fun next hnext => ?_⟩
    obtain ⟨b', hb', -⟩ := step_map_iff.1 hnext
    exact hstuck b' hb'

end Map

section Items

variable {γ : Type} {xs : List γ} {task : γ → Task σ α} {change : γ → α → β} {stopping : β → Bool} {shared : σ}
  {changed : Buffer σ β}

/-- The tasks with the items that they are for beside their results. -/
def labelled (xs : List γ) (task : γ → Task σ α) (shared : σ) : Buffer σ (γ × α) :=
  ofTasks (xs.map fun x => (x, ·) <$> task x) shared

theorem map_labelled (f : γ × α → β) :
    (labelled xs task shared).map f = ofTasks (xs.map fun x => (fun result => f (x, result)) <$> task x) shared := by
  simp [labelled, ofTasks, Buffer.map]

theorem map_snd_labelled : (labelled xs task shared).map Prod.snd = ofTasks (xs.map task) shared := by
  simp [map_labelled]

/-- Each label stays with its result. -/
theorem Finishes.given_eq_zip {last : Buffer σ (γ × α)} {stops : γ × α → Bool} (hlimit : 0 < limit)
    (h : Finishes limit stops (labelled xs task shared) last) : last.given = xs.zip (last.given.map Prod.snd) := by
  obtain ⟨first, rest, rfl, hfirst, -⟩ :=
    h.forall₂_mayEnd (R := fun x result => x = result.1) hlimit fun x _ result hresult => by
      obtain ⟨_, -, rfl⟩ := Task.mayEnd_map_iff.1 hresult
      rfl
  rw [← List.forall₂_map_right_iff, List.forall₂_eq_eq_eq] at hfirst
  have hlength : first.length = (last.given.map Prod.snd).length := by rw [hfirst, List.length_map, List.length_map]
  rw [← List.append_nil (last.given.map Prod.snd), List.zip_append hlength, List.zip_nil_right, List.append_nil, hfirst]
  exact (List.zip_unzip last.given).symm.trans (by rw [List.unzip_eq_map])

theorem Finishes.given_map_eq {last : Buffer σ (γ × α)} {stops : γ × α → Bool} (hlimit : 0 < limit)
    (h : Finishes limit stops (labelled xs task shared) last) :
    (last.map fun labelled => change labelled.1 labelled.2).given =
      List.zipWith change xs (last.map Prod.snd).given := by
  show last.given.map _ = _
  rw [h.given_eq_zip hlimit, List.map_zip_eq_zipWith]
  rfl

/-- A result stops the rest by itself, whatever its label. -/
theorem stops_labelled (hstops : ∀ x result, stopping (change x result) = stops result) :
    (stopping ∘ fun labelled : γ × α => change labelled.1 labelled.2) = stops ∘ Prod.snd :=
  funext fun labelled => hstops labelled.1 labelled.2

/-- A course of tasks whose results are changed, each in the way of its item, is a course of the tasks. -/
theorem Finishes.exists_unchanged (hlimit : 0 < limit) (hstops : ∀ x result, stopping (change x result) = stops result)
    (h : Finishes limit stopping (ofTasks (xs.map fun x => change x <$> task x) shared) changed) :
    ∃ last, Finishes limit stops (ofTasks (xs.map task) shared) last ∧
      changed.given = List.zipWith change xs last.given ∧ changed.shared = last.shared := by
  rw [← map_labelled fun labelled => change labelled.1 labelled.2] at h
  obtain ⟨last, hlast, rfl⟩ := finishes_map_iff.1 h
  rw [stops_labelled hstops] at hlast
  refine ⟨last.map Prod.snd, ?_, hlast.given_map_eq hlimit, rfl⟩
  rw [← map_snd_labelled]
  exact finishes_map_iff.2 ⟨last, hlast, rfl⟩

/-- Every course of the tasks can be taken with the results changed. -/
theorem Finishes.exists_changed (hlimit : 0 < limit) (hstops : ∀ x result, stopping (change x result) = stops result)
    (h : Finishes limit stops (ofTasks (xs.map task) shared) last) :
    ∃ changed, Finishes limit stopping (ofTasks (xs.map fun x => change x <$> task x) shared) changed ∧
      changed.given = List.zipWith change xs last.given ∧ changed.shared = last.shared := by
  rw [← map_snd_labelled] at h
  obtain ⟨last, hlast, rfl⟩ := finishes_map_iff.1 h
  rw [← stops_labelled hstops] at hlast
  refine ⟨last.map fun labelled => change labelled.1 labelled.2, ?_, hlast.given_map_eq hlimit, rfl⟩
  rw [← map_labelled fun labelled => change labelled.1 labelled.2]
  exact finishes_map_iff.2 ⟨last, hlast, rfl⟩

end Items

/-! ## One task at a time -/

/-- The results of tasks that are taken one after the other, up to one that stops them, and what they leave. -/
def inTurn (stops : α → Bool) : List (Task σ α) → σ → List α × σ
  | [], s => ([], s)
  | task :: tasks, s =>
    let (result, s) := task.run.run s
    if stops result then ([result], s)
    else
      let (results, s) := inTurn stops tasks s
      (result :: results, s)

/-- Where a buffer with one task at a time will end. -/
def destination (stops : α → Bool) (b : Buffer σ α) : List α × σ :=
  if b.given.any stops then (b.given, b.shared)
  else ((inTurn stops b.tasks b.shared).map (b.given ++ ·) id)

theorem destination_of_open (h : b.Open stops) :
    b.destination stops = (inTurn stops b.tasks b.shared).map (b.given ++ ·) id := by
  have hgiven : ¬b.given.any stops := by simpa [Open] using h
  rw [destination, if_neg hgiven]

theorem Step.destination_eq (h : Step 1 stops b b') (hroom : b.running.length ≤ 1) :
    b'.destination stops = b.destination stops := by
  obtain ⟨hopen, hmove⟩ := h
  rw [destination_of_open hopen]
  cases hmove with
  | start room =>
    rw [← tasks_start]
    exact destination_of_open hopen
  | @advance given before act next after waiting shared =>
    have hlength : before.length + (after.length + 1) ≤ 1 := by simpa using hroom
    obtain rfl := List.length_eq_zero_iff.1 (show before.length = 0 by omega)
    obtain rfl := List.length_eq_zero_iff.1 (show after.length = 0 by omega)
    exact destination_of_open hopen
  | @give given result running waiting shared =>
    have hfirst : inTurn stops (.done result :: (running ++ waiting)) shared =
        if stops result then ([result], shared)
        else (inTurn stops (running ++ waiting) shared).map (result :: ·) id := rfl
    unfold tasks
    rw [List.cons_append, hfirst]
    by_cases hstops : stops result
    · rw [if_pos hstops, destination, if_pos (by simp [hstops])]
      rfl
    · have hopen' : (⟨given ++ [result], running, waiting, shared⟩ : Buffer σ α).Open stops :=
        List.forall_mem_append.2 ⟨hopen, by simpa using hstops⟩
      rw [if_neg hstops, destination_of_open hopen']
      simp [tasks, Prod.map]

/-- One task at a time is one after the other. -/
theorem finishes_one {tasks : List (Task σ α)} {shared : σ} (h : Finishes 1 stops (ofTasks tasks shared) last) :
    inTurn stops tasks shared = (last.given, last.shared) := by
  -- The destination stays the same with each step, and at the end it is where the buffer is.
  have hsteps : ∀ b, Relation.ReflTransGen (Step 1 stops) (ofTasks tasks shared) b →
      b.destination stops = (ofTasks tasks shared).destination stops := by
    intro b hb
    induction hb with
    | refl => rfl
    | tail hbefore hstep ih => rw [hstep.destination_eq (running_le_of_steps hbefore), ih]
  have hstart : (ofTasks tasks shared).destination stops = inTurn stops tasks shared := by
    rw [destination_of_open (by simp [Open, ofTasks])]
    rfl
  rw [← hstart, ← hsteps last h.steps, destination]
  split
  · rfl
  next hany =>
    have hempty : last.tasks = [] := (h.stopped_or_empty Nat.one_pos).resolve_left (by simpa using hany)
    rw [hempty]
    simp [inTurn]

/-- Tasks that do some work, one after the other, do all of it. -/
theorem inTurn_eq_mapM {task : β → Task σ α} {work : β → StateM σ α} (h : ∀ x s, (task x).run.run s = (work x).run s)
    (xs : List β) (s : σ) : inTurn (fun _ => false) (xs.map task) s = (xs.mapM work).run s := by
  induction xs generalizing s with
  | nil => rfl
  | cons x xs ih =>
    rw [List.map_cons, inTurn, h, List.mapM_cons]
    simp only [Bool.false_eq_true, if_false, ih]
    rfl

end Buffer

/-! ## Results that may be failures -/

section Failures

variable {ε α : Type}

/-- All results, or the first failure among them. -/
def gathered (results : List (Except ε α)) : Except ε (List α) := results.mapM id

def isFailure (result : Except ε α) : Bool := !result.isOk

theorem gathered_ok_cons (x : α) (results : List (Except ε α)) :
    gathered (.ok x :: results) = (gathered results).map (x :: ·) := by
  unfold gathered
  rw [List.mapM_cons]
  cases results.mapM id <;> rfl

theorem gathered_error_cons (e : ε) (results : List (Except ε α)) :
    gathered (.error e :: results) = .error e := by
  unfold gathered
  rw [List.mapM_cons]
  rfl

theorem gathered_map_ok (xs : List α) : gathered (xs.map (.ok : α → Except ε α)) = .ok xs := by
  induction xs with
  | nil => rfl
  | cons x xs ih => rw [List.map_cons, gathered_ok_cons, ih]; rfl

theorem gathered_of_failure (xs : List α) (e : ε) (rest : List (Except ε α)) :
    gathered (xs.map .ok ++ .error e :: rest) = .error e := by
  induction xs with
  | nil => exact gathered_error_cons e rest
  | cons x xs ih => rw [List.map_cons, List.cons_append, gathered_ok_cons, ih]; rfl

/-- Results are all there, or else there is a first failure. -/
theorem ok_or_failure (results : List (Except ε α)) :
    (∃ xs : List α, results = xs.map .ok) ∨ ∃ (xs : List α) (e : ε) (rest : List (Except ε α)),
      results = xs.map .ok ++ .error e :: rest := by
  induction results with
  | nil => exact .inl ⟨[], rfl⟩
  | cons result results ih =>
    cases result with
    | error e => exact .inr ⟨[], e, results, rfl⟩
    | ok x =>
      rcases ih with ⟨xs, rfl⟩ | ⟨xs, e, rest, rfl⟩
      · exact .inl ⟨x :: xs, rfl⟩
      · exact .inr ⟨x :: xs, e, rest, rfl⟩

theorem gathered_eq_ok {results : List (Except ε α)} {xs : List α} (h : gathered results = .ok xs) :
    results = xs.map .ok := by
  rcases ok_or_failure results with ⟨ys, rfl⟩ | ⟨ys, e, rest, rfl⟩
  · rw [gathered_map_ok] at h
    cases h
    rfl
  · rw [gathered_of_failure] at h
    cases h

theorem gathered_eq_error {results : List (Except ε α)} {e : ε} (h : gathered results = .error e) :
    ∃ (xs : List α) (rest : List (Except ε α)), results = xs.map .ok ++ .error e :: rest := by
  rcases ok_or_failure results with ⟨ys, rfl⟩ | ⟨ys, e, rest, rfl⟩
  · rw [gathered_map_ok] at h
    cases h
  · rw [gathered_of_failure] at h
    cases h
    exact ⟨ys, rest, rfl⟩

/-- Nothing that comes after a failure matters. -/
theorem gathered_append {given : List (Except ε α)} (h : ∃ result ∈ given, isFailure result)
    (rest : List (Except ε α)) : gathered (given ++ rest) = gathered given := by
  rcases ok_or_failure given with ⟨xs, rfl⟩ | ⟨xs, e, after, rfl⟩
  · obtain ⟨result, hmem, hfailure⟩ := h
    obtain ⟨x, -, rfl⟩ := List.mem_map.1 hmem
    cases hfailure
  · rw [List.append_assoc, List.cons_append, gathered_of_failure, gathered_of_failure]

end Failures

namespace Buffer

variable {σ τ ε α β : Type}

/-- Tasks that do some work that may fail, one after the other up to a failure, do all of it. -/
theorem mapM_eq_inTurn {task : α → Task σ (Except ε β)} {work : α → ExceptT ε (StateM τ) β} (around : σ → τ)
    (h : ∀ x s, (work x).run.run (around s) = ((task x).run.run s).map id around) (xs : List α) (s : σ) :
    (xs.mapM work).run.run (around s) = (inTurn isFailure (xs.map task) s).map gathered around := by
  induction xs generalizing s with
  | nil => rfl
  | cons x xs ih =>
    rw [List.mapM_cons, run_bind, h, List.map_cons, inTurn]
    cases (task x).run.run s with
    | mk result s =>
      cases result with
      | error e => rfl
      | ok y =>
        have hgoesOn : isFailure (.ok y : Except ε β) = false := rfl
        simp only [Prod.map, id, hgoesOn, Bool.false_eq_true, if_false]
        rw [run_bind, ih, gathered_ok_cons]
        simp only [Prod.map]
        cases gathered (inTurn isFailure (xs.map task) s).1 <;> rfl

end Buffer

end GroundedQA
