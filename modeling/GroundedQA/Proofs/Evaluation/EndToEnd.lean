import GroundedQA.Proofs.Evaluation.Concurrency
/-!
# From a dataset to a report

A run of all four steps has as many samples under way at once as the settings say, and then as many records; what it
may come to, and the session that it leaves, is `Evaluator.RunsTo`. With one at a time it is the run that takes them
one after the other (`Evaluator.runsTo_iff_run`), and with providers and metrics that are settled it comes to the same
with any number (`Evaluator.RunsTo.exists_run_eq`). Whatever the providers do, the results of the queries stay with
their samples, and since no question of a dataset is blank no query is refused for its input
(`Evaluator.runsTo_dataset`).
-/

namespace GroundedQA

open Storage

variable {σ α : Type}

/-! ## Queries side by side -/

/-- What may go wrong in a query that is well put. -/
def RetrievalError.IsLate (e : RetrievalError) : Prop :=
  e.kind = .uninitialized ∨ e.kind = .externalProvider ∨ e.kind = .dimensionMismatch

theorem isLate_of_checkVector {dimensions : ℕ} {vector : Embedding} {e : RetrievalError}
    (h : checkVector dimensions vector = .error e) : e.IsLate := by
  unfold checkVector at h
  split at h
  · cases h
    exact .inr (.inr rfl)
  split at h
  · cases h
    exact .inr (.inl rfl)
  · cases h

theorem RetrievalError.IsLate.not_blamesInput {e : RetrievalError} (h : e.IsLate) :
    ¬(EvaluationError.retrieval e).BlamesInput := by
  rcases h with h | h | h <;> simp [EvaluationError.BlamesInput, EvaluationError.kind, h]

/-- Whatever happens between their steps, the calls fail only as calls to a provider do. -/
structure Engine.Pace.OnlyProviderErrors {engine : Engine σ} {embedder : Embedder σ} (pace : engine.Pace embedder) :
    Prop where
  embed : ∀ text e, (pace.embed text).task.MayEnd (.error e) → e.kind = .externalProvider
  complete : ∀ prompt e, (pace.complete prompt).task.MayEnd (.error e) → e.kind = .externalProvider

/-- The responses that the questions of some samples may get, and the providers after them, when the queries have up
to `limit` questions under way at once and their steps come in some order. -/
def Engine.Pace.Answers {engine : Engine σ} {index : VectorIndex σ} (pace : engine.Pace index.embedder) (limit : ℕ)
    (providers : σ) (samples : List Sample) (responses : List Response) (left : σ) : Prop :=
  ∃ last, Buffer.Finishes limit isFailure
      (.ofTasks (samples.map fun sample => pace.queryTask sample.question) providers) last ∧
    last.given = responses.map .ok ∧ last.shared = left

namespace Engine.Pace

variable {engine : Engine σ} {index : VectorIndex σ} {pace : engine.Pace index.embedder}

/-- A query that is well put fails only for an empty index, a provider or the length of an embedding. -/
theorem OnlyProviderErrors.isLate (h : pace.OnlyProviderErrors) {question : String} (hquestion : ¬Text.blank question)
    {e : RetrievalError} (hend : (pace.queryTask question).MayEnd (.error e)) : e.IsLate := by
  unfold queryTask at hend
  rw [if_neg hquestion] at hend
  split at hend
  · cases Task.mayEnd_done_iff.1 hend
    exact .inl rfl
  obtain ⟨embedded, hembedded, hrest⟩ := Task.mayEnd_bind_iff.1 hend
  cases embedded with
  | error cause =>
    cases Task.mayEnd_done_iff.1 hrest
    exact .inr (.inl (h.embed _ _ hembedded))
  | ok vector =>
    unfold VectorIndex.found at hrest
    dsimp only [Except.bind] at hrest
    cases hcheck : checkVector index.dimensions vector with
    | error cause =>
      rw [hcheck] at hrest
      cases Task.mayEnd_done_iff.1 hrest
      exact isLate_of_checkVector hcheck
    | ok u =>
      rw [hcheck] at hrest
      obtain ⟨completed, hcompleted, hresponse⟩ := Task.mayEnd_map_iff.1 hrest
      cases completed with
      | error cause =>
        cases hresponse
        exact .inr (.inl (h.complete _ _ hcompleted))
      | ok answer => cases hresponse

end Engine.Pace

/-! ## The steps, and what they leave -/

namespace Evaluator

/-- What preparing may come to, and the session that it leaves, with as many samples under way at once as the settings
say. -/
inductive Prepares (evaluator : Evaluator σ α) (session : Evaluation.Session σ)
    (pace : evaluator.engine.Pace session.world.index.embedder) :
    List Sample → Except EvaluationError Batch → Evaluation.Session σ → Prop
  | refused : Prepares evaluator session pace [] (.error .noSamples) session
  | failed {samples : List Sample} {last : Buffer σ (Except EvaluationError EvaluationRecord)} {e : EvaluationError}
      (ne_nil : samples ≠ [])
      (finishes : Buffer.Finishes evaluator.settings.concurrency isFailure
        (.ofTasks (samples.map (answerTask pace)) session.world.providers) last)
      (fails : gathered last.given = .error e) :
    Prepares evaluator session pace samples (.error e) (session.withProviders last.shared)
  | prepared {samples : List Sample} {last : Buffer σ (Except EvaluationError EvaluationRecord)}
      {records : List EvaluationRecord} (ne_nil : samples ≠ [])
      (finishes : Buffer.Finishes evaluator.settings.concurrency isFailure
        (.ofTasks (samples.map (answerTask pace)) session.world.providers) last)
      (succeeds : gathered last.given = .ok records) :
    Prepares evaluator session pace samples (.ok ⟨records⟩)
      ⟨.dataPrepared, ⟨session.world.index, last.shared⟩⟩

/-- What evaluating may come to, and the session that it leaves, with as many records under way at once as the settings
say. -/
inductive Evaluates [Scalar α] (evaluator : Evaluator σ α) (session : Evaluation.Session σ) (scoring : Metric.Pace σ α)
    (stamp : Stamp) : Batch → Except EvaluationError (EvaluationResult α) → Evaluation.Session σ → Prop
  | refused : Evaluates evaluator session scoring stamp ⟨[]⟩ (.error .noRecords) session
  | evaluated {batch : Batch} {last : Buffer σ (ScoredRecord α)} (ne_nil : batch.records ≠ [])
      (finishes : Buffer.Finishes evaluator.settings.concurrency (fun _ => false)
        (.ofTasks (batch.records.map (evaluator.metrics.scoreTask scoring)) session.world.providers) last) :
    Evaluates evaluator session scoring stamp batch (.ok (.ofRecords stamp evaluator.metrics.names last.given))
      ⟨.evaluated, ⟨session.world.index, last.shared⟩⟩

/-- What a run of all four steps may come to, and the session that it leaves. -/
inductive RunsTo (evaluator : Evaluator σ Float) (session : Evaluation.Session σ)
    (pace : evaluator.engine.Pace session.world.index.embedder) (scoring : Metric.Pace σ Float) (stamp : Stamp)
    (disk : Disk) (path : String) :
    Except EvaluationError (EvaluationResult Float × String) → Evaluation.Session σ → Prop
  | unloaded {e : EvaluationError} (hload : Dataset.load disk path = .error e) :
    RunsTo evaluator session pace scoring stamp disk path (.error e) session
  | unprepared {samples : List Sample} {e : EvaluationError} {last : Evaluation.Session σ}
      (hload : Dataset.load disk path = .ok samples)
      (hprepares : evaluator.Prepares ⟨.datasetLoaded, session.world⟩ pace samples (.error e) last) :
    RunsTo evaluator session pace scoring stamp disk path (.error e) last
  | unscored {samples : List Sample} {batch : Batch} {e : EvaluationError} {between last : Evaluation.Session σ}
      (hload : Dataset.load disk path = .ok samples)
      (hprepares : evaluator.Prepares ⟨.datasetLoaded, session.world⟩ pace samples (.ok batch) between)
      (hevaluates : evaluator.Evaluates between scoring stamp batch (.error e) last) :
    RunsTo evaluator session pace scoring stamp disk path (.error e) last
  | reported {samples : List Sample} {batch : Batch} {result : EvaluationResult Float}
      {between last : Evaluation.Session σ} (hload : Dataset.load disk path = .ok samples)
      (hprepares : evaluator.Prepares ⟨.datasetLoaded, session.world⟩ pace samples (.ok batch) between)
      (hevaluates : evaluator.Evaluates between scoring stamp batch (.ok result) last) :
    RunsTo evaluator session pace scoring stamp disk path (.ok (result, result.report))
      ⟨.reportGenerated, last.world⟩

section Steps

variable {evaluator : Evaluator σ α} {session last : Evaluation.Session σ}
  {pace : evaluator.engine.Pace session.world.index.embedder} {samples : List Sample}

theorem exists_prepares (evaluator : Evaluator σ α) (session : Evaluation.Session σ)
    (pace : evaluator.engine.Pace session.world.index.embedder) (samples : List Sample) :
    ∃ result last, evaluator.Prepares session pace samples result last := by
  by_cases hsamples : samples = []
  · subst hsamples
    exact ⟨_, _, .refused⟩
  obtain ⟨last, hlast⟩ := Buffer.exists_finishes evaluator.settings.concurrency isFailure
    (.ofTasks (samples.map (answerTask pace)) session.world.providers)
  cases hgathered : gathered last.given with
  | error e => exact ⟨_, _, .failed hsamples hlast hgathered⟩
  | ok records => exact ⟨_, _, .prepared hsamples hlast hgathered⟩

/-- The result is one that preparing may come to with that many at once. -/
theorem Prepares.preparesTo {result : Except EvaluationError Batch}
    (h : evaluator.Prepares session pace samples result last) :
    PreparesTo pace evaluator.settings.concurrency samples result := by
  cases h with
  | refused => exact .refused
  | failed hsamples hfinishes hfails =>
    have hcollected := PreparesTo.collected hsamples hfinishes
    rwa [hfails] at hcollected
  | prepared hsamples hfinishes hsucceeds =>
    have hcollected := PreparesTo.collected hsamples hfinishes
    rwa [hsucceeds] at hcollected

/-- One sample at a time is one after the other. -/
theorem Prepares.run_eq {result : Except EvaluationError Batch} (hone : evaluator.settings.concurrency = 1)
    (h : evaluator.Prepares session pace samples result last) :
    (evaluator.prepareData samples).run.run session = (result, last) := by
  have hturn := Buffer.mapM_eq_inTurn session.withProviders (answerTask_run pace) samples session.world.providers
  have hsession : session.withProviders session.world.providers = session := rfl
  rw [hsession] at hturn
  cases h with
  | refused => rfl
  | failed hsamples hfinishes hfails =>
    rw [hone] at hfinishes
    rw [evaluator.prepareData_run hsamples, hturn, Buffer.finishes_one hfinishes]
    simp only [Prod.map, hfails]
  | prepared hsamples hfinishes hsucceeds =>
    rw [hone] at hfinishes
    rw [evaluator.prepareData_run hsamples, hturn, Buffer.finishes_one hfinishes]
    simp only [Prod.map, hsucceeds]
    rfl

theorem Prepares.exists_run_eq {result : Except EvaluationError Batch}
    (h : evaluator.Prepares session pace samples result last) (hlimit : 0 < evaluator.settings.concurrency)
    (hpace : pace.Settled) : ∃ last', (evaluator.prepareData samples).run.run session = (result, last') :=
  ⟨_, Prod.ext ((preparesTo_iff hpace hlimit).1 h.preparesTo).symm rfl⟩

/-- What preparing fails with comes from a query of a sample. -/
theorem Prepares.exists_mayEnd {e : EvaluationError} (hlimit : 0 < evaluator.settings.concurrency)
    (hsamples : samples ≠ []) (h : evaluator.Prepares session pace samples (.error e) last) :
    ∃ sample ∈ samples, ∃ cause, (pace.queryTask sample.question).MayEnd (.error cause) ∧ e = .retrieval cause := by
  cases h with
  | refused => exact absurd rfl hsamples
  | failed _ hfinishes hfails =>
    obtain ⟨_, _, hgiven⟩ := gathered_eq_error hfails
    obtain ⟨sample, hsample, hend⟩ := hfinishes.mayEnd_of_mem hlimit
      (hgiven ▸ List.mem_append_right _ List.mem_cons_self)
    obtain ⟨outcome, houtcome, herror⟩ := Task.mayEnd_map_iff.1 hend
    obtain ⟨cause, hcause, rfl⟩ := mapError_eq_error.1 herror.symm
    cases outcome with
    | error cause' =>
      cases hcause
      exact ⟨sample, hsample, cause, houtcome, rfl⟩
    | ok response => cases hcause

end Steps

/-! ## Each response with its sample -/

/-- What the outcome of the query for a sample is for the evaluation. -/
def recorded (sample : Sample) (outcome : Except RetrievalError Response) : Except EvaluationError EvaluationRecord :=
  (outcome.map sample.answered).mapError .retrieval

theorem answerTask_eq {evaluator : Evaluator σ α} {session : Evaluation.Session σ}
    (pace : evaluator.engine.Pace session.world.index.embedder) :
    answerTask pace = fun sample => recorded sample <$> pace.queryTask sample.question := rfl

theorem isFailure_recorded (sample : Sample) (outcome : Except RetrievalError Response) :
    isFailure (recorded sample outcome) = isFailure outcome := by
  cases outcome <;> rfl

theorem zipWith_recorded_ok (samples : List Sample) (responses : List Response) :
    List.zipWith recorded samples (responses.map .ok) = (List.zipWith Sample.answered samples responses).map .ok := by
  rw [List.zipWith_map_right, List.map_zipWith]
  rfl

/-- Only responses make records. -/
theorem exists_responses {samples : List Sample} {outcomes : List (Except RetrievalError Response)}
    {records : List EvaluationRecord} (hlength : outcomes.length ≤ samples.length)
    (h : List.zipWith recorded samples outcomes = records.map .ok) :
    ∃ responses : List Response, outcomes = responses.map .ok := by
  induction outcomes generalizing samples records with
  | nil => exact ⟨[], rfl⟩
  | cons outcome outcomes ih =>
    cases samples with
    | nil => cases hlength
    | cons sample samples =>
      cases records with
      | nil => cases h
      | cons record records =>
        obtain ⟨hfirst, hrest⟩ := List.cons.inj h
        obtain ⟨responses, rfl⟩ := ih (Nat.le_of_succ_le_succ hlength) hrest
        cases outcome with
        | error e => cases hfirst
        | ok response => exact ⟨response :: responses, rfl⟩

section Preparing

variable {evaluator : Evaluator σ α} {session last : Evaluation.Session σ}
  {pace : evaluator.engine.Pace session.world.index.embedder} {samples : List Sample}

/-- When preparing succeeds, each sample is recorded with the response that its question got. -/
theorem Prepares.answers {batch : Batch} (hlimit : 0 < evaluator.settings.concurrency)
    (h : evaluator.Prepares session pace samples (.ok batch) last) :
    ∃ responses, pace.Answers evaluator.settings.concurrency session.world.providers samples responses
        last.world.providers ∧
      responses.length = samples.length ∧ batch.records = List.zipWith Sample.answered samples responses := by
  cases h with
  | @prepared _ collected records hsamples hfinishes hsucceeds =>
    rw [answerTask_eq] at hfinishes
    obtain ⟨queried, hqueried, hgiven, hshared⟩ := hfinishes.exists_unchanged hlimit isFailure_recorded
    obtain ⟨hle, hall⟩ := hqueried.length_given hlimit
    rw [List.length_map] at hle hall
    rw [gathered_eq_ok hsucceeds] at hgiven
    obtain ⟨responses, hresponses⟩ := exists_responses hle hgiven.symm
    refine ⟨responses, ⟨queried, hqueried, hresponses, hshared.symm⟩, ?_, ?_⟩
    · rw [hresponses, List.length_map] at hall
      refine hall fun result hresult => ?_
      rw [hresponses] at hresult
      obtain ⟨response, -, rfl⟩ := List.mem_map.1 hresult
      rfl
    · rw [hresponses, zipWith_recorded_ok] at hgiven
      exact (List.map_injective_iff.2 fun _ _ => Except.ok.inj) hgiven

/-- When all questions get a response in some course, preparing succeeds in it. -/
theorem prepares_of_answers {responses : List Response} {left : σ} (hlimit : 0 < evaluator.settings.concurrency)
    (hsamples : samples ≠ [])
    (h : pace.Answers evaluator.settings.concurrency session.world.providers samples responses left) :
    evaluator.Prepares session pace samples (.ok ⟨List.zipWith Sample.answered samples responses⟩)
      ⟨.dataPrepared, ⟨session.world.index, left⟩⟩ := by
  obtain ⟨queried, hqueried, hgiven, rfl⟩ := h
  obtain ⟨collected, hcollected, hrecorded, hshared⟩ := hqueried.exists_changed hlimit isFailure_recorded
  rw [← answerTask_eq] at hcollected
  rw [← hshared]
  refine .prepared hsamples hcollected ?_
  rw [hrecorded, hgiven, zipWith_recorded_ok, gathered_map_ok]

end Preparing

/-! ## Scoring -/

section Scoring

variable [Scalar α] {evaluator : Evaluator σ α} {session last : Evaluation.Session σ} {scoring : Metric.Pace σ α}
  {stamp : Stamp} {batch : Batch}

theorem exists_evaluates (evaluator : Evaluator σ α) (session : Evaluation.Session σ) (scoring : Metric.Pace σ α)
    (stamp : Stamp) (batch : Batch) : ∃ result last, evaluator.Evaluates session scoring stamp batch result last := by
  obtain ⟨records⟩ := batch
  by_cases hrecords : records = []
  · subst hrecords
    exact ⟨_, _, .refused⟩
  · obtain ⟨last, hlast⟩ := Buffer.exists_finishes evaluator.settings.concurrency (fun _ => false)
      (.ofTasks (records.map (evaluator.metrics.scoreTask scoring)) session.world.providers)
    exact ⟨_, _, .evaluated hrecords hlast⟩

/-- The result is one that evaluating may come to with that many at once. -/
theorem Evaluates.evaluatesTo {result : Except EvaluationError (EvaluationResult α)}
    (h : evaluator.Evaluates session scoring stamp batch result last) :
    evaluator.EvaluatesTo scoring session evaluator.settings.concurrency stamp batch result := by
  cases h with
  | refused => exact .refused
  | evaluated hrecords hfinishes => exact .collected hrecords hfinishes

/-- One record at a time is one after the other. -/
theorem Evaluates.run_eq {result : Except EvaluationError (EvaluationResult α)}
    (hone : evaluator.settings.concurrency = 1) (h : evaluator.Evaluates session scoring stamp batch result last) :
    (evaluator.evaluate stamp batch).run.run session = (result, last) := by
  cases h with
  | refused => rfl
  | @evaluated _ collected hrecords hfinishes =>
    have hrun := Buffer.inTurn_eq_mapM (evaluator.metrics.scoreTask_run scoring) batch.records session.world.providers
    rw [hone] at hfinishes
    rw [Buffer.finishes_one hfinishes] at hrun
    rw [evaluate_run, if_neg hrecords, MetricSet.scored, ← hrun]

theorem Evaluates.exists_run_eq {result : Except EvaluationError (EvaluationResult α)}
    (h : evaluator.Evaluates session scoring stamp batch result last) (hlimit : 0 < evaluator.settings.concurrency)
    (hscoring : scoring.Settled evaluator.metrics) (session' : Evaluation.Session σ) :
    ∃ last', (evaluator.evaluate stamp batch).run.run session' = (result, last') := by
  obtain ⟨result', last', h'⟩ := evaluator.exists_evaluates session' scoring stamp batch
  have hsame : result' = result := by
    by_cases hrecords : batch.records = []
    · rw [evaluatesTo_nil hrecords h.evaluatesTo, evaluatesTo_nil hrecords h'.evaluatesTo]
    · rw [eq_of_evaluatesTo hscoring hlimit hrecords h.evaluatesTo,
        eq_of_evaluatesTo hscoring hlimit hrecords h'.evaluatesTo]
      congr 2
      exact List.map_congr_left fun record _ => MetricSet.alone_congr hscoring _ _ record
  exact ⟨_, Prod.ext (((evaluatesTo_iff hscoring hlimit).1 h'.evaluatesTo).symm.trans hsame) rfl⟩

/-- Records that are scored stay the same, in their order. -/
theorem Evaluates.records_eq {result : EvaluationResult α} (hlimit : 0 < evaluator.settings.concurrency)
    (h : evaluator.Evaluates session scoring stamp batch (.ok result) last) :
    result.perSample.map (·.record) = batch.records := by
  cases h with
  | @evaluated _ collected hrecords hfinishes =>
    show collected.given.map (·.record) = batch.records
    obtain ⟨first, rest, hbatch, hfirst, rfl | ⟨_, -, hstops⟩⟩ :=
      hfinishes.forall₂_mayEnd (R := fun record scored => record = scored.record) hlimit fun record _ scored hend => by
        obtain ⟨entries, -, rfl⟩ := Task.mayEnd_map_iff.1 hend
        rfl
    · rw [← List.forall₂_map_right_iff, List.forall₂_eq_eq_eq] at hfirst
      rw [hbatch, List.append_nil, hfirst]
    · cases hstops

/-- Only an empty batch is refused. -/
theorem Evaluates.eq_nil {e : EvaluationError}
    (h : evaluator.Evaluates session scoring stamp batch (.error e) last) : batch.records = [] := by
  cases h with
  | refused => rfl

end Scoring

/-! ## Whole runs -/

section Runs

variable {evaluator : Evaluator σ Float} {session last : Evaluation.Session σ}
  {pace : evaluator.engine.Pace session.world.index.embedder} {scoring : Metric.Pace σ Float} {stamp : Stamp}
  {disk : Disk} {path : String} {outcome : Except EvaluationError (EvaluationResult Float × String)}

/-- However the steps come, a run ends. -/
theorem exists_runsTo (evaluator : Evaluator σ Float) (session : Evaluation.Session σ)
    (pace : evaluator.engine.Pace session.world.index.embedder) (scoring : Metric.Pace σ Float) (stamp : Stamp)
    (disk : Disk) (path : String) :
    ∃ outcome last, evaluator.RunsTo session pace scoring stamp disk path outcome last := by
  cases hload : Dataset.load disk path with
  | error e => exact ⟨_, _, .unloaded hload⟩
  | ok samples =>
    obtain ⟨prepared, between, hprepares⟩ :=
      evaluator.exists_prepares ⟨.datasetLoaded, session.world⟩ pace samples
    cases prepared with
    | error e => exact ⟨_, _, .unprepared hload hprepares⟩
    | ok batch =>
      obtain ⟨evaluated, last, hevaluates⟩ := evaluator.exists_evaluates between scoring stamp batch
      cases evaluated with
      | error e => exact ⟨_, _, .unscored hload hprepares hevaluates⟩
      | ok result => exact ⟨_, _, .reported hload hprepares hevaluates⟩

theorem RunsTo.run_eq (hone : evaluator.settings.concurrency = 1)
    (h : evaluator.RunsTo session pace scoring stamp disk path outcome last) :
    (evaluator.run stamp disk path).run.run session = (outcome, last) := by
  cases h with
  | unloaded hload => exact evaluator.run_of_load_error stamp session hload
  | unprepared hload hprepares => rw [evaluator.run_of_load stamp session hload, hprepares.run_eq hone]
  | unscored hload hprepares hevaluates | reported hload hprepares hevaluates =>
    rw [evaluator.run_of_load stamp session hload, hprepares.run_eq hone]
    dsimp only
    rw [hevaluates.run_eq hone]

/-- With one at a time there is one course, and it is the run that takes one after the other. -/
theorem runsTo_iff_run (hone : evaluator.settings.concurrency = 1) :
    evaluator.RunsTo session pace scoring stamp disk path outcome last ↔
      (evaluator.run stamp disk path).run.run session = (outcome, last) := by
  refine ⟨fun h => h.run_eq hone, fun h => ?_⟩
  obtain ⟨outcome', last', h'⟩ := evaluator.exists_runsTo session pace scoring stamp disk path
  cases (h'.run_eq hone).symm.trans h
  exact h'

/-- With providers and metrics that are settled, every course of a run comes to what `run` comes to. -/
theorem RunsTo.exists_run_eq (hlimit : 0 < evaluator.settings.concurrency) (hpace : pace.Settled)
    (hscoring : scoring.Settled evaluator.metrics)
    (h : evaluator.RunsTo session pace scoring stamp disk path outcome last) :
    ∃ last', (evaluator.run stamp disk path).run.run session = (outcome, last') := by
  cases h with
  | unloaded hload => exact ⟨_, evaluator.run_of_load_error stamp session hload⟩
  | unprepared hload hprepares =>
    obtain ⟨between, hprepared⟩ := hprepares.exists_run_eq hlimit hpace
    rw [evaluator.run_of_load stamp session hload, hprepared]
    exact ⟨_, rfl⟩
  | unscored hload hprepares hevaluates | reported hload hprepares hevaluates =>
    obtain ⟨between, hprepared⟩ := hprepares.exists_run_eq hlimit hpace
    obtain ⟨last', hevaluated⟩ := hevaluates.exists_run_eq hlimit hscoring between
    rw [evaluator.run_of_load stamp session hload, hprepared]
    dsimp only
    rw [hevaluated]
    exact ⟨_, rfl⟩

theorem runsTo_of_load_error {e : EvaluationError} (hload : Dataset.load disk path = .error e) :
    evaluator.RunsTo session pace scoring stamp disk path outcome last ↔ outcome = .error e ∧ last = session := by
  constructor
  · intro h
    cases h with
    | unloaded h =>
      cases hload.symm.trans h
      exact ⟨rfl, rfl⟩
    | unprepared h | unscored h | reported h => cases hload.symm.trans h
  · rintro ⟨rfl, rfl⟩
    exact .unloaded hload

/-- There are records to score: as many as there are samples. -/
theorem Prepares.batch_ne_nil {samples : List Sample} {batch : Batch} (hlimit : 0 < evaluator.settings.concurrency)
    (hsamples : samples ≠ []) (h : evaluator.Prepares session pace samples (.ok batch) last) : batch.records ≠ [] := by
  obtain ⟨responses, -, hlength, hrecords⟩ := h.answers hlimit
  rw [hrecords, ← List.length_pos_iff, List.length_zipWith, hlength, Nat.min_self, List.length_pos_iff]
  exact hsamples

/-- What a run fails with comes from loading or from a query that is well put. -/
theorem RunsTo.not_blamesInput (hlimit : 0 < evaluator.settings.concurrency) (hpace : pace.OnlyProviderErrors)
    {e : EvaluationError} (h : evaluator.RunsTo session pace scoring stamp disk path (.error e) last) :
    ¬e.BlamesInput := by
  cases h with
  | unloaded hload => exact Dataset.not_blamesInput_of_load hload
  | unprepared hload hprepares =>
    have hdataset := Dataset.load_eq_ok.1 hload
    obtain ⟨sample, hsample, cause, hend, rfl⟩ := hprepares.exists_mayEnd hlimit hdataset.ne_nil
    exact (hpace.isLate (hdataset.question_filled hsample) hend).not_blamesInput
  | unscored hload hprepares hevaluates =>
    have hrecords := hprepares.batch_ne_nil hlimit (Dataset.load_eq_ok.1 hload).ne_nil
    exact absurd hevaluates.eq_nil hrecords

/-- A run that succeeds on a dataset recorded each sample with the response that its question got. -/
theorem RunsTo.answers {samples : List Sample} {result : EvaluationResult Float} {text : String}
    (hlimit : 0 < evaluator.settings.concurrency) (hload : Dataset.load disk path = .ok samples)
    (h : evaluator.RunsTo session pace scoring stamp disk path (.ok (result, text)) last) :
    (∃ responses left, pace.Answers evaluator.settings.concurrency session.world.providers samples responses left ∧
      responses.length = samples.length ∧
      result.perSample.map (·.record) = List.zipWith Sample.answered samples responses) ∧ text = result.report := by
  cases h with
  | reported hload' hprepares hevaluates =>
    cases hload.symm.trans hload'
    obtain ⟨responses, hanswers, hlength, hrecords⟩ := hprepares.answers hlimit
    exact ⟨⟨responses, _, hanswers, hlength, (hevaluates.records_eq hlimit).trans hrecords⟩, rfl⟩

theorem RunsTo.sampleCount_eq {result : EvaluationResult Float} {text : String}
    (h : evaluator.RunsTo session pace scoring stamp disk path (.ok (result, text)) last) :
    result.sampleCount = result.perSample.length := by
  cases h with
  | reported _ _ hevaluates =>
    cases hevaluates with
    | evaluated => rfl

theorem exists_runsTo_of_answers {samples : List Sample} {responses : List Response} {left : σ}
    (hlimit : 0 < evaluator.settings.concurrency) (hload : Dataset.load disk path = .ok samples)
    (hanswers : pace.Answers evaluator.settings.concurrency session.world.providers samples responses left) :
    ∃ result last, evaluator.RunsTo session pace scoring stamp disk path (.ok (result, result.report)) last ∧
      result.perSample.map (·.record) = List.zipWith Sample.answered samples responses := by
  have hsamples := (Dataset.load_eq_ok.1 hload).ne_nil
  have hprepares : evaluator.Prepares ⟨.datasetLoaded, session.world⟩ pace samples
      (.ok ⟨List.zipWith Sample.answered samples responses⟩) ⟨.dataPrepared, ⟨session.world.index, left⟩⟩ :=
    prepares_of_answers hlimit hsamples hanswers
  obtain ⟨evaluated, last, hevaluates⟩ := evaluator.exists_evaluates ⟨.dataPrepared, ⟨session.world.index, left⟩⟩
    scoring stamp ⟨List.zipWith Sample.answered samples responses⟩
  cases evaluated with
  | error e => exact absurd hevaluates.eq_nil (hprepares.batch_ne_nil hlimit hsamples)
  | ok result => exact ⟨result, _, .reported hload hprepares hevaluates, hevaluates.records_eq hlimit⟩

end Runs

/-- An evaluator that was built has at least one sample under way at a time. -/
theorem concurrency_pos_of_build [Scalar α] {engine : Option (Engine σ)} {metrics : Option (MetricSet σ α)}
    {judge : Option (LanguageModel σ × Embedder σ)} {settings : EvaluationSettings} {evaluator : Evaluator σ α}
    (h : build engine metrics judge settings = .ok evaluator) : 0 < evaluator.settings.concurrency := by
  obtain ⟨u, hcheck, hparts⟩ := bind_eq_ok.1 h
  obtain ⟨part, -, hfilled⟩ := bind_eq_ok.1 hparts
  have hsettings : evaluator.settings = settings := by
    dsimp only at hfilled
    split at hfilled
    · cases hfilled
      rfl
    · cases hfilled
  rw [hsettings]
  by_contra hzero
  rw [EvaluationSettings.check, if_pos (Nat.eq_zero_of_not_pos hzero)] at hcheck
  cases hcheck

/-- Without a dataset a run ends as loading does and leaves all as it was. With providers that fail only as providers
it never fails for its input. When it succeeds on a dataset, each sample has its entry in the result, in its place,
with the response that its question got among the others that were asked; the text is the report on the result. It
succeeds when all questions get a response. All this is so however many samples are under way at once, and in
whatever order their steps come; with one at a time there is one course, which is `run`. -/
theorem runsTo_dataset {engine : Option (Engine σ)} {metrics : Option (MetricSet σ Float)}
    {judge : Option (LanguageModel σ × Embedder σ)} {settings : EvaluationSettings} {evaluator : Evaluator σ Float}
    (hbuild : build engine metrics judge settings = .ok evaluator) {session : Evaluation.Session σ}
    {pace : evaluator.engine.Pace session.world.index.embedder} (hpace : pace.OnlyProviderErrors)
    (scoring : Metric.Pace σ Float) (stamp : Stamp) (disk : Disk) (path : String) :
    ((∀ samples, ¬Dataset.StandsAt disk path samples) →
      ∃ e, Dataset.load disk path = .error e ∧ ∀ outcome last,
        evaluator.RunsTo session pace scoring stamp disk path outcome last ↔ outcome = .error e ∧ last = session) ∧
    (∀ e last, evaluator.RunsTo session pace scoring stamp disk path (.error e) last → ¬e.BlamesInput) ∧
    (∀ samples, Dataset.StandsAt disk path samples →
      (∀ result text last, evaluator.RunsTo session pace scoring stamp disk path (.ok (result, text)) last →
        result.sampleCount = samples.length ∧ result.perSample.length = samples.length ∧
        (∃ responses left,
          pace.Answers evaluator.settings.concurrency session.world.providers samples responses left ∧
          responses.length = samples.length ∧
          result.perSample.map (·.record) = List.zipWith Sample.answered samples responses) ∧
        text = result.report) ∧
      ∀ responses left,
        pace.Answers evaluator.settings.concurrency session.world.providers samples responses left →
        ∃ result last, evaluator.RunsTo session pace scoring stamp disk path (.ok (result, result.report)) last ∧
          result.perSample.map (·.record) = List.zipWith Sample.answered samples responses) ∧
    (∃ outcome last, evaluator.RunsTo session pace scoring stamp disk path outcome last) ∧
    (evaluator.settings.concurrency = 1 → ∀ outcome last,
      evaluator.RunsTo session pace scoring stamp disk path outcome last ↔
        (evaluator.run stamp disk path).run.run session = (outcome, last)) := by
  have hlimit := concurrency_pos_of_build hbuild
  refine ⟨?_, ?_, ?_, evaluator.exists_runsTo session pace scoring stamp disk path, fun hone _ _ => runsTo_iff_run hone⟩
  · intro hnone
    cases hload : Dataset.load disk path with
    | error e => exact ⟨e, rfl, fun outcome last => runsTo_of_load_error hload⟩
    | ok samples => exact absurd (Dataset.load_eq_ok.1 hload) (hnone samples)
  · intro e last h
    exact h.not_blamesInput hlimit hpace
  · intro samples hdataset
    have hload := Dataset.load_eq_ok.2 hdataset
    constructor
    · intro result text last h
      obtain ⟨⟨responses, left, hanswers, hlength, hrecords⟩, htext⟩ := h.answers hlimit hload
      have hentries : result.perSample.length = samples.length := by
        rw [← List.length_map (f := (·.record)), hrecords, List.length_zipWith, hlength, Nat.min_self]
      exact ⟨h.sampleCount_eq.trans hentries, hentries, ⟨responses, left, hanswers, hlength, hrecords⟩, htext⟩
    · intro responses left hanswers
      exact exists_runsTo_of_answers hlimit hload hanswers

/-- Two samples, and a disk with a dataset of them. -/
def poles : List Sample := [northward, ⟨"Which way is down?", "South.", none⟩]

def polesDisk : Disk := ⟨[(["poles.json"], .file (Dataset.toJson poles).render.toUTF8)]⟩

/-- The answer depends on how many were given before. -/
def replyAfter (calls : ℕ) : String := if calls = 0 then "first" else "later"

/-- An engine whose model counts its calls, and two samples under way at once. -/
def numbering : Evaluator ℕ Float where
  engine := ⟨⟨2, Nat.two_pos⟩, ⟨fun _ => ExceptT.mk fun calls => (.ok (replyAfter calls), calls + 1)⟩, .standard⟩
  metrics := ⟨[⟨"brevity", fun _ => pure 1⟩], by simp⟩
  settings := { concurrency := 2 }

/-- Before any call, over an index of three records. -/
def unasked : Evaluation.Session ℕ :=
  ⟨.idle, ⟨⟨.oneByOne 2 fun _ => pure [0, 1], 2, VectorIndex.axes.records⟩, 0⟩⟩

/-- Each call is one step. -/
def callByCall : numbering.engine.Pace unasked.world.index.embedder := ⟨fun _ => .once _, fun _ => .once _⟩

/-- The response with an answer and the best records for a vector. -/
def responseWith (question answer : String) : Response :=
  let chunks := (rank unasked.world.index.records [0, 1] 2).map (·.chunk)
  ⟨question, answer, chunks.map (·.text), chunks⟩

theorem queryTask_numbering (question : String) (h : ¬Text.blank question) :
    callByCall.queryTask question =
      .step id fun _ => .step (· + 1) fun calls => .done (.ok (responseWith question (replyAfter calls))) := by
  have hvector : checkVector 2 [0, 1] = .ok () := by decide +kernel
  have hfound : unasked.world.index.found 2 (.ok [0, 1]) = .ok (rank unasked.world.index.records [0, 1] 2) := by
    show (checkVector 2 [0, 1]).map (fun _ => rank unasked.world.index.records [0, 1] 2) = _
    rw [hvector]
    rfl
  have hpopulated : unasked.world.index.records.isEmpty = false := by decide +kernel
  rw [Engine.Pace.queryTask, if_neg h, hpopulated, if_neg Bool.false_ne_true]
  show Task.step _ (fun _ => callByCall.respondTask question (unasked.world.index.found 2 (.ok [0, 1]))) = _
  rw [hfound]
  rfl

/-- The question that is taken up second is the first to be answered. -/
theorem answers_poles : callByCall.Answers 2 0 poles
    [responseWith "Which way is up?" "later", responseWith "Which way is down?" "first"] 2 := by
  have hup := queryTask_numbering "Which way is up?" (by decide +kernel)
  have hdown := queryTask_numbering "Which way is down?" (by decide +kernel)
  have htasks : (poles.map fun sample => callByCall.queryTask sample.question) =
      [callByCall.queryTask "Which way is up?", callByCall.queryTask "Which way is down?"] := rfl
  rw [hup, hdown] at htasks
  unfold Engine.Pace.Answers
  rw [htasks]
  have hopen : ∀ given : List (Except RetrievalError Response), given.all (·.isOk) →
      ∀ result ∈ given, isFailure result = false := by
    intro given h result hresult
    simpa [isFailure] using List.all_eq_true.1 h result hresult
  refine ⟨⟨[.ok _, .ok _], [], [], 2⟩, ⟨?_, ?_⟩, rfl, rfl⟩
  · refine .head ⟨hopen _ rfl, .start (by decide)⟩ ?_
    refine .head ⟨hopen _ rfl, .start (by decide)⟩ ?_
    refine .head ⟨hopen _ rfl, @Buffer.Move.advance ℕ _ 2 [] [] _ _ _ [] 0⟩ ?_
    refine .head ⟨hopen _ rfl, @Buffer.Move.advance ℕ _ 2 [] [_] _ _ [] [] 0⟩ ?_
    refine .head ⟨hopen _ rfl, @Buffer.Move.advance ℕ _ 2 [] [_] _ _ [] [] 0⟩ ?_
    refine .head ⟨hopen _ rfl, @Buffer.Move.advance ℕ _ 2 [] [] _ _ _ [] 1⟩ ?_
    refine .head ⟨hopen _ rfl, .give⟩ ?_
    exact .head ⟨hopen _ rfl, .give⟩ .refl
  · rintro next ⟨-, hmove⟩
    exact hmove.tasks_ne_nil rfl

theorem standsAt_polesDisk : Dataset.StandsAt polesDisk "poles.json" poles := by
  have hfile : polesDisk.read "poles.json" = .ok (Dataset.toJson poles).render.toUTF8 := rfl
  exact .intro hfile (Json.fromUTF8?_toUTF8 _) (Json.parse?_render _) (Dataset.readable_toJson _)
    (Dataset.isDataset_toJson (by decide) (by decide +kernel))

theorem runsTo_dataset_poles :
    build (some numbering.engine) (some numbering.metrics) none numbering.settings = .ok numbering ∧
    callByCall.OnlyProviderErrors ∧
    (∀ samples, ¬Dataset.StandsAt polesDisk "absent.json" samples) ∧
    (∃ e, numbering.RunsTo unasked callByCall (fun _ _ => .once _) noon polesDisk "absent.json" (.error e) unasked ∧
      ¬e.BlamesInput) ∧
    ∃ result last,
      numbering.RunsTo unasked callByCall (fun _ _ => .once _) noon polesDisk "poles.json"
        (.ok (result, result.report)) last ∧
      result.sampleCount = 2 ∧ result.perSample.length = 2 ∧
      result.perSample.map (·.record.question) = ["Which way is up?", "Which way is down?"] ∧
      result.perSample.map (·.record.answer) = ["later", "first"] := by
  have hbuild : build (some numbering.engine) (some numbering.metrics) none numbering.settings = .ok numbering := rfl
  have hpace : callByCall.OnlyProviderErrors := by
    constructor
    · intro text e h
      obtain ⟨s, hdone⟩ := Task.mayEnd_step_iff.1 h
      cases Task.mayEnd_done_iff.1 hdone
    · intro prompt e h
      obtain ⟨s, hdone⟩ := Task.mayEnd_step_iff.1 h
      cases Task.mayEnd_done_iff.1 hdone
  have habsent : ∀ samples, ¬Dataset.StandsAt polesDisk "absent.json" samples := by
    intro samples h
    cases Dataset.load_eq_ok.2 h
  obtain ⟨hunloaded, hlate, -⟩ := runsTo_dataset hbuild hpace (fun _ _ => .once _) noon polesDisk "absent.json"
  obtain ⟨e, -, hruns⟩ := hunloaded habsent
  have hrun := (hruns _ _).2 ⟨rfl, rfl⟩
  obtain ⟨-, -, hdatasets, -⟩ := runsTo_dataset hbuild hpace (fun _ _ => .once _) noon polesDisk "poles.json"
  obtain ⟨hentries, hsucceeds⟩ := hdatasets poles standsAt_polesDisk
  obtain ⟨result, last, hresult, hrecords⟩ := hsucceeds _ _ answers_poles
  obtain ⟨hcount, hlength, -⟩ := hentries result _ last hresult
  have hfield (field : EvaluationRecord → String) : result.perSample.map (fun scored => field scored.record) =
      (List.zipWith Sample.answered poles [responseWith "Which way is up?" "later",
        responseWith "Which way is down?" "first"]).map field := by
    rw [← hrecords, List.map_map]
    rfl
  exact ⟨hbuild, hpace, habsent, ⟨e, hrun, hlate e _ hrun⟩, result, last, hresult, hcount, hlength,
    hfield (·.question), hfield (·.answer)⟩

end Evaluator

end GroundedQA
