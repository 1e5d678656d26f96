import GroundedQA.Proofs.Evaluation.Run
/-!
# What an evaluator remembers

Calls to an evaluator come in any order, with any arguments, and between two of them anything may happen to the
index and the providers. Each step of a call counts as completed when it gives a result rather than a failure
(`stepsDone`). A step that fails changes no state, and one that is completed sets its own (`LeadsTo`); put together,
the state after any history of calls is that of the step that was completed last (`state_history`).
-/

namespace GroundedQA

open Storage

variable {σ β γ : Type}

namespace Evaluator

/-! ## Calls -/

/-- A call to an evaluator. -/
inductive Request
  | loadDataset (disk : Disk) (path : String)
  | prepareData (samples : List Sample)
  | evaluate (stamp : Stamp) (batch : Batch)
  | generateReport (result : EvaluationResult Float)
  | run (stamp : Stamp) (disk : Disk) (path : String)

/-- What a call does, whatever it gives back. -/
def perform (evaluator : Evaluator σ Float) : Request → EvaluationStep σ Unit
  | .loadDataset disk path => discard (loadDataset disk path)
  | .prepareData samples => discard (evaluator.prepareData samples)
  | .evaluate stamp batch => discard (evaluator.evaluate stamp batch)
  | .generateReport result => discard (generateReport result)
  | .run stamp disk path => discard (evaluator.run stamp disk path)

/-- The steps that are completed when a step is tried, and after it, if it gives something, what `rest` makes
of that: none if it fails. -/
def stepsDone (state : EvaluatorState) (step : EvaluationStep σ β)
    (rest : β → Evaluation.Session σ → List EvaluatorState) (session : Evaluation.Session σ) : List EvaluatorState :=
  match step.run.run session with
  | (.ok b, session) => state :: rest b session
  | (.error _, _) => []

/-- The steps that a call completes, in their order. -/
def completed (evaluator : Evaluator σ Float) : Request → Evaluation.Session σ → List EvaluatorState
  | .loadDataset disk path => stepsDone .datasetLoaded (loadDataset disk path) fun _ _ => []
  | .prepareData samples => stepsDone .dataPrepared (evaluator.prepareData samples) fun _ _ => []
  | .evaluate stamp batch => stepsDone .evaluated (evaluator.evaluate stamp batch) fun _ _ => []
  | .generateReport result => stepsDone .reportGenerated (generateReport result) fun _ _ => []
  | .run stamp disk path =>
    stepsDone .datasetLoaded (loadDataset disk path) fun samples =>
      stepsDone .dataPrepared (evaluator.prepareData samples) fun batch =>
        stepsDone .evaluated (evaluator.evaluate stamp batch) fun result =>
          stepsDone .reportGenerated (generateReport result) fun _ _ => []

end Evaluator

/-! ## Steps -/

namespace Engine

variable {engine : Engine σ} {world last : World σ} {samples : List Sample}

theorem AnsweredInTurn.index_eq {records : List EvaluationRecord}
    (h : engine.AnsweredInTurn world samples records last) : last.index = world.index := by
  induction h with
  | nil => rfl
  | @cons world _ _ sample _ _ _ hquery _ ih =>
    have hindex := engine.query_index sample.question world
    rw [hquery] at hindex
    exact ih.trans hindex

theorem FailsInTurn.index_eq {e : RetrievalError} (h : engine.FailsInTurn world samples e last) :
    last.index = world.index := by
  induction h with
  | @here world _ sample _ _ hquery =>
    have hindex := engine.query_index sample.question world
    rwa [hquery] at hindex
  | @later world _ _ sample _ _ _ hquery _ ih =>
    have hindex := engine.query_index sample.question world
    rw [hquery] at hindex
    exact ih.trans hindex

end Engine

namespace Evaluator

/-- A step sets a state when it succeeds, and none when it fails; in neither case does it change the index. -/
def LeadsTo (state : EvaluatorState) (step : EvaluationStep σ β) : Prop :=
  ∀ session, (step.run.run session).2.world.index = session.world.index ∧
    match step.run.run session with
    | (.ok _, session') => session'.state = state
    | (.error _, session') => session'.state = session.state

theorem loadDataset_leadsTo (disk : Disk) (path : String) :
    LeadsTo .datasetLoaded (loadDataset disk path : EvaluationStep σ (List Sample)) := by
  intro session
  unfold loadDataset
  cases Dataset.load disk path with
  | error e => exact ⟨rfl, rfl⟩
  | ok samples => exact ⟨rfl, rfl⟩

theorem prepareData_leadsTo {α : Type} (evaluator : Evaluator σ α) (samples : List Sample) :
    LeadsTo .dataPrepared (evaluator.prepareData samples) := by
  intro session
  obtain ⟨state, world⟩ := session
  by_cases hne : samples = []
  · subst hne
    exact ⟨rfl, rfl⟩
  rw [evaluator.prepareData_run hne]
  rcases evaluator.engine.answered_or_fails samples world with ⟨records, last, hanswered⟩ | ⟨e, last, hfails⟩
  · rw [evaluator.mapM_answer_of_answered hanswered]
    exact ⟨hanswered.index_eq, rfl⟩
  · rw [evaluator.mapM_answer_of_fails hfails]
    exact ⟨hfails.index_eq, rfl⟩

theorem evaluate_leadsTo {α : Type} [Scalar α] (evaluator : Evaluator σ α) (stamp : Stamp) (batch : Batch) :
    LeadsTo .evaluated (evaluator.evaluate stamp batch) := by
  intro session
  rw [evaluator.evaluate_run]
  split <;> exact ⟨rfl, rfl⟩

theorem generateReport_leadsTo (result : EvaluationResult Float) :
    LeadsTo .reportGenerated (generateReport result : EvaluationStep σ String) :=
  fun _ => ⟨rfl, rfl⟩

/-! ## Calls and the steps that they complete -/

/-- What a call does to the state is told by the steps that it completes: the last of them sets it. -/
def Tracks (work : EvaluationStep σ β) (done : Evaluation.Session σ → List EvaluatorState) : Prop :=
  ∀ session, (work.run.run session).2.world.index = session.world.index ∧
    (work.run.run session).2.state = (done session).getLast?.getD session.state

theorem tracks_pure (b : β) : Tracks (pure b : EvaluationStep σ β) fun _ => [] :=
  fun _ => ⟨rfl, rfl⟩

/-- A step and what is done after it. -/
theorem LeadsTo.tracks_bind {state : EvaluatorState} {step : EvaluationStep σ β} {work : β → EvaluationStep σ γ}
    {done : β → Evaluation.Session σ → List EvaluatorState} (hstep : LeadsTo state step)
    (hwork : ∀ b, Tracks (work b) (done b)) : Tracks (step >>= work) (stepsDone state step done) := by
  intro session
  have hled := hstep session
  rw [run_bind, stepsDone]
  cases hrun : step.run.run session with
  | mk result between =>
    rw [hrun] at hled
    cases result with
    | error e => exact hled
    | ok b =>
      obtain ⟨hindex, hstate⟩ := hwork b between
      refine ⟨hindex.trans hled.1, ?_⟩
      rw [hstate, List.getLast?_cons, hled.2]
      rfl

theorem LeadsTo.tracks {state : EvaluatorState} {step : EvaluationStep σ β} (h : LeadsTo state step) :
    Tracks (discard step) (stepsDone state step fun _ _ => []) :=
  h.tracks_bind fun _ => tracks_pure ()

theorem Tracks.discard {work : EvaluationStep σ β} {done : Evaluation.Session σ → List EvaluatorState}
    (h : Tracks work done) : Tracks (discard work) done := by
  intro session
  rw [run_discard]
  exact h session

/-- The state after a call is that of the last step that the call completes. -/
theorem perform_tracks (evaluator : Evaluator σ Float) (request : Request) :
    Tracks (evaluator.perform request) (evaluator.completed request) := by
  cases request with
  | loadDataset disk path => exact (loadDataset_leadsTo disk path).tracks
  | prepareData samples => exact (evaluator.prepareData_leadsTo samples).tracks
  | evaluate stamp batch => exact (evaluator.evaluate_leadsTo stamp batch).tracks
  | generateReport result => exact (generateReport_leadsTo result).tracks
  | run stamp disk path =>
    refine Tracks.discard ?_
    refine (loadDataset_leadsTo disk path).tracks_bind fun samples => ?_
    refine (evaluator.prepareData_leadsTo samples).tracks_bind fun batch => ?_
    refine (evaluator.evaluate_leadsTo stamp batch).tracks_bind fun result => ?_
    exact (generateReport_leadsTo result).tracks_bind fun report => tracks_pure _

/-- A call that is one step completes nothing when it fails. -/
theorem completed_of_error {evaluator : Evaluator σ Float} {request : Request} {session : Evaluation.Session σ}
    {e : EvaluationError} (hstep : ∀ stamp disk path, request ≠ .run stamp disk path)
    (h : ((evaluator.perform request).run.run session).1 = .error e) : evaluator.completed request session = [] := by
  have hfails {β : Type} (state : EvaluatorState) (step : EvaluationStep σ β)
      (h : ((discard step).run.run session).1 = .error e) : stepsDone state step (fun _ _ => []) session = [] := by
    rw [run_discard] at h
    unfold stepsDone
    cases hrun : step.run.run session with
    | mk result between =>
      rw [hrun] at h
      cases result with
      | error e => rfl
      | ok b => cases h
  cases request with
  | run stamp disk path => exact absurd rfl (hstep stamp disk path)
  | _ => exact hfails _ _ h

/-- How a run fails: at one of its first three steps, with the state of the step before that. -/
inductive RunFails (evaluator : Evaluator σ Float) (stamp : Stamp) (disk : Disk) (path : String)
    (session : Evaluation.Session σ) (e : EvaluationError) : Evaluation.Session σ → Prop
  | loading (h : Dataset.load disk path = .error e) : RunFails evaluator stamp disk path session e session
  | preparing {samples last} (hload : Dataset.load disk path = .ok samples)
      (h : (evaluator.prepareData samples).run.run { session with state := .datasetLoaded } = (.error e, last))
      (hstate : last.state = .datasetLoaded) : RunFails evaluator stamp disk path session e last
  | evaluating {samples batch between last} (hload : Dataset.load disk path = .ok samples)
      (hprepare : (evaluator.prepareData samples).run.run { session with state := .datasetLoaded } = (.ok batch, between))
      (h : (evaluator.evaluate stamp batch).run.run between = (.error e, last)) (hstate : last.state = .dataPrepared) :
      RunFails evaluator stamp disk path session e last

theorem runFails_of_run {evaluator : Evaluator σ Float} {stamp : Stamp} {disk : Disk} {path : String}
    {session last : Evaluation.Session σ} {e : EvaluationError}
    (h : (evaluator.run stamp disk path).run.run session = (.error e, last)) :
    evaluator.RunFails stamp disk path session e last := by
  cases hload : Dataset.load disk path with
  | error cause =>
    rw [evaluator.run_of_load_error stamp session hload] at h
    cases h
    exact .loading hload
  | ok samples =>
    rw [evaluator.run_of_load stamp session hload] at h
    have hprepared := (evaluator.prepareData_leadsTo samples { session with state := .datasetLoaded }).2
    split at h
    next cause between hprepare =>
      cases h
      rw [hprepare] at hprepared
      exact .preparing hload hprepare hprepared
    next batch between hprepare =>
      rw [hprepare] at hprepared
      have hevaluated := (evaluator.evaluate_leadsTo stamp batch between).2
      split at h
      next cause after hevaluate =>
        cases h
        rw [hevaluate] at hevaluated
        exact .evaluating hload hprepare hevaluate (hevaluated.trans hprepared)
      next => cases h

theorem runFails_of_perform {evaluator : Evaluator σ Float} {stamp : Stamp} {disk : Disk} {path : String}
    {session : Evaluation.Session σ} {e : EvaluationError}
    (h : ((evaluator.perform (.run stamp disk path)).run.run session).1 = .error e) :
    evaluator.RunFails stamp disk path session e ((evaluator.perform (.run stamp disk path)).run.run session).2 := by
  have hdiscard : (evaluator.perform (.run stamp disk path)).run.run session =
      (((evaluator.run stamp disk path).run.run session).1.map fun _ => (),
        ((evaluator.run stamp disk path).run.run session).2) := run_discard ..
  rw [hdiscard] at h ⊢
  cases hrun : (evaluator.run stamp disk path).run.run session with
  | mk result last =>
    rw [hrun] at h
    cases result with
    | ok _ => cases h
    | error cause =>
      cases h
      exact runFails_of_run hrun

/-! ## Histories -/

/-- A call and the world that it finds: what became of the index and the providers before it is left open. -/
structure Turn (σ : Type) where
  world : World σ
  request : Request

/-- An evaluator in use, with the steps that it has completed so far. -/
structure Course (σ : Type) where
  evaluator : Evaluator σ Float
  session : Evaluation.Session σ
  completed : List EvaluatorState

namespace Course

def start (evaluator : Evaluator σ Float) (world : World σ) : Course σ :=
  ⟨evaluator, ⟨.idle, world⟩, []⟩

/-- What a call finds. -/
def before (course : Course σ) (turn : Turn σ) : Evaluation.Session σ :=
  { course.session with world := turn.world }

def take (course : Course σ) (turn : Turn σ) : Course σ :=
  { course with
    session := ((course.evaluator.perform turn.request).run.run (course.before turn)).2
    completed := course.completed ++ course.evaluator.completed turn.request (course.before turn) }

/-- The state is that of the step completed last. -/
def Remembers (course : Course σ) : Prop :=
  course.session.state = course.completed.getLast?.getD .idle

theorem Remembers.take {course : Course σ} (h : course.Remembers) (turn : Turn σ) : (course.take turn).Remembers := by
  obtain ⟨-, hstate⟩ := course.evaluator.perform_tracks turn.request (course.before turn)
  have hbefore : (course.before turn).state = course.completed.getLast?.getD .idle := h
  unfold Remembers Course.take
  dsimp only
  rw [hstate, hbefore, List.getLast?_append]
  cases (course.evaluator.completed turn.request (course.before turn)).getLast? <;> rfl

theorem remembers_start (evaluator : Evaluator σ Float) (world : World σ) : (start evaluator world).Remembers := rfl

theorem remembers_foldl {course : Course σ} (h : course.Remembers) (history : List (Turn σ)) :
    (history.foldl take course).Remembers := by
  induction history generalizing course with
  | nil => exact h
  | cons turn history ih => exact ih (h.take turn)

theorem evaluator_foldl (course : Course σ) (history : List (Turn σ)) :
    (history.foldl take course).evaluator = course.evaluator := by
  induction history generalizing course with
  | nil => rfl
  | cons turn history ih => exact ih (course.take turn)

end Course

/-- After any history of calls the evaluator has the parts and the settings that it had, and its state is that of
the step completed last. The next call leaves the index as it finds it. If it fails before a step is completed it
leaves the state too, and a call that is one step completes nothing when it fails; a run that fails has the state
of the last step before the one that failed. -/
theorem state_history (evaluator : Evaluator σ Float) (world : World σ) (history : List (Turn σ)) :
    let course := history.foldl Course.take (.start evaluator world)
    course.evaluator = evaluator ∧
    course.session.state = course.completed.getLast?.getD .idle ∧
    ∀ turn : Turn σ,
      let before := course.before turn
      let outcome := (evaluator.perform turn.request).run.run before
      outcome.2.world.index = turn.world.index ∧
      (evaluator.completed turn.request before = [] → outcome.2.state = course.session.state) ∧
      ∀ e, outcome.1 = .error e →
        (∀ stamp disk path, turn.request = .run stamp disk path → evaluator.RunFails stamp disk path before e outcome.2) ∧
        ((∀ stamp disk path, turn.request ≠ .run stamp disk path) → outcome.2.state = course.session.state) := by
  intro course
  refine ⟨Course.evaluator_foldl _ history, Course.remembers_foldl (Course.remembers_start evaluator world) history, ?_⟩
  rintro ⟨found, request⟩ before outcome
  obtain ⟨hindex, hstate⟩ := evaluator.perform_tracks request before
  have hkept (hnone : evaluator.completed request before = []) : outcome.2.state = course.session.state := by
    rw [hnone] at hstate
    exact hstate
  refine ⟨hindex, hkept, fun e he => ⟨fun stamp disk path hrequest => ?_, fun hstep => ?_⟩⟩
  · subst hrequest
    exact runFails_of_perform he
  · exact hkept (completed_of_error hstep he)

/-- An index in which there is nothing to be found. -/
def atNothing : World Unit := ⟨.new VectorIndex.axes.embedder, ()⟩

theorem query_atNothing : (compass.engine.query northward.question).run.run atNothing = (.error .emptyIndex, atNothing) := by
  rw [Engine.query_run, if_neg (by decide +kernel), VectorIndex.search_run, if_neg compass.engine.retriever.k_pos.ne',
    if_neg (by decide +kernel), if_pos (by rfl)]

/-- After a report a call without samples fails and changes nothing, and a run over an index without records
fails at its second step. -/
theorem state_history_reported :
    let course := [Turn.mk atAxes.world (.generateReport (.ofRecords noon [] []))].foldl Course.take
      (.start compass atAxes.world)
    let unasked := (compass.perform (.prepareData [])).run.run (course.before ⟨atAxes.world, .prepareData []⟩)
    let asked := (compass.perform (.run noon northwardDisk "north.json")).run.run
      (course.before ⟨atNothing, .run noon northwardDisk "north.json"⟩)
    course.session.state = .reportGenerated ∧ unasked.1 = .error .noSamples ∧ unasked.2.state = .reportGenerated ∧
      asked.1 = .error (.retrieval .emptyIndex) ∧ asked.2.state = .datasetLoaded ∧
      compass.RunFails noon northwardDisk "north.json" ⟨.reportGenerated, atNothing⟩ (.retrieval .emptyIndex) asked.2 := by
  intro course unasked asked
  obtain ⟨-, hstate, hcalls⟩ := state_history compass atAxes.world
    [⟨atAxes.world, .generateReport (.ofRecords noon [] [])⟩]
  obtain ⟨-, -, hunasked⟩ := hcalls ⟨atAxes.world, .prepareData []⟩
  obtain ⟨-, -, hasked⟩ := hcalls ⟨atNothing, .run noon northwardDisk "north.json"⟩
  have hrun : asked = (.error (.retrieval .emptyIndex), ⟨.datasetLoaded, atNothing⟩) := by
    have hfails : compass.engine.FailsInTurn atNothing [northward] .emptyIndex atNothing := .here query_atNothing
    show (discard (compass.run noon northwardDisk "north.json")).run.run ⟨.reportGenerated, atNothing⟩ = _
    rw [run_discard, compass.run_of_fails noon ⟨.reportGenerated, atNothing⟩ standsAt_northwardDisk hfails]
    rfl
  have hfailed : asked.1 = .error (.retrieval .emptyIndex) := congrArg Prod.fst hrun
  exact ⟨hstate, rfl, (hunasked .noSamples rfl).2 (by rintro _ _ _ ⟨⟩), hfailed,
    congrArg (fun outcome => outcome.2.state) hrun, (hasked _ hfailed).1 noon northwardDisk "north.json" rfl⟩

end Evaluator

end GroundedQA
