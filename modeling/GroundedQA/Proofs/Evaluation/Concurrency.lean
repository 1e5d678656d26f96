import GroundedQA.Proofs.Answering.Calls
import GroundedQA.Proofs.Concurrency.Buffer
import GroundedQA.Proofs.Evaluation.Run
/-!
# Samples side by side

An evaluation may have several samples under way at once, as many as its settings say, whose calls to the providers
then come in any order. With one at a time it is the evaluation that takes them one after the other
(`Evaluator.eq_of_preparesTo_one`, `Evaluator.eq_of_evaluatesTo_one`). When what the providers and the metrics give
depends on what they are asked alone, so it is with any number of them, whatever the order
(`Evaluator.concurrency_irrelevant`).
-/

namespace GroundedQA

variable {σ α : Type}

/-! ## A query, step by step -/

/-- How the calls of an engine and of an embedder are taken step by step. -/
structure Engine.Pace (engine : Engine σ) (embedder : Embedder σ) where
  embed : ∀ text, Stepwise (embedder.embed text).run
  complete : ∀ prompt, Stepwise (engine.model.complete prompt).run

/-- What the providers give depends on what they are asked, and not on what they are asked in between. -/
structure Engine.Pace.Settled {engine : Engine σ} {embedder : Embedder σ} (pace : engine.Pace embedder) : Prop where
  embed : ∀ text, ∃ outcome, (pace.embed text).task.Settled outcome
  complete : ∀ prompt, ∃ outcome, (pace.complete prompt).task.Settled outcome

/-- What is found for a text whose embedding is there. -/
def VectorIndex.found (index : VectorIndex σ) (k : ℕ) (embedded : Except RetrievalError Embedding) :
    Except RetrievalError (List Hit) :=
  embedded.bind fun vector => (checkVector index.dimensions vector).map fun _ => rank index.records vector k

namespace Engine.Pace

variable {engine : Engine σ} {index : VectorIndex σ} (pace : engine.Pace index.embedder)

/-- The rest of a query, after the retrieval. -/
def respondTask (question : String) : Except RetrievalError (List Hit) → Task σ (Except RetrievalError Response)
  | .error e => pure (.error e)
  | .ok hits => (Except.map fun answer => ⟨question, answer, (hits.map (·.chunk)).map (·.text), hits.map (·.chunk)⟩) <$>
    (pace.complete (engine.prompt question hits)).task

/-- A query on an index that stays as it is. -/
def queryTask (question : String) : Task σ (Except RetrievalError Response) :=
  if Text.blank question then pure (.error .blankQuestion)
  else if index.records.isEmpty then pure (.error .emptyIndex)
  else (pace.embed question).task >>= fun embedded => pace.respondTask question (index.found engine.retriever.k embedded)

theorem respondTask_run (question : String) (hits : List Hit) (s : σ) :
    (engine.respond question hits).run.run ⟨index, s⟩ =
      ((pace.respondTask question (.ok hits)).run.run s).map id (World.mk index) := by
  rw [respondTask, Task.run_map, (pace.complete _).run_task, prompt, respond_run]
  dsimp only
  cases (engine.model.complete _).run.run s with
  | mk result s => cases result <;> rfl

/-- Taken without a break it is the query. -/
theorem queryTask_run (question : String) (s : σ) :
    (engine.query question).run.run ⟨index, s⟩ = ((pace.queryTask question).run.run s).map id (World.mk index) := by
  rw [query_run, VectorIndex.search_run, if_neg engine.retriever.k_pos.ne', queryTask]
  by_cases hblank : Text.blank question
  · rw [if_pos hblank, if_pos hblank]
    rfl
  rw [if_neg hblank, if_neg hblank, if_neg hblank]
  dsimp only
  by_cases hempty : index.records.isEmpty
  · rw [if_pos hempty, if_pos hempty]
    rfl
  rw [if_neg hempty, if_neg hempty, Task.run_bind, (pace.embed question).run_task]
  cases (index.embedder.embed question).run.run s with
  | mk embedded s =>
    cases embedded with
    | error e => rfl
    | ok vector =>
      dsimp only [VectorIndex.found, Except.bind]
      cases checkVector index.dimensions vector with
      | error e => rfl
      | ok u => exact pace.respondTask_run question _ s

theorem exists_settled_queryTask (h : pace.Settled) (question : String) :
    ∃ outcome, (pace.queryTask question).Settled outcome := by
  unfold queryTask
  split
  · exact ⟨_, .done⟩
  split
  · exact ⟨_, .done⟩
  obtain ⟨embedded, hembed⟩ := h.embed question
  cases hfound : index.found engine.retriever.k embedded with
  | error e => exact ⟨_, hembed.bind (by rw [hfound]; exact .done)⟩
  | ok hits =>
    obtain ⟨completed, hcomplete⟩ := h.complete (engine.prompt question hits)
    exact ⟨_, hembed.bind (by rw [hfound]; exact hcomplete.map _)⟩

end Engine.Pace

/-! ## Answering samples -/

/-- The session with the providers in another state. -/
def Evaluation.Session.withProviders (session : Evaluation.Session σ) (providers : σ) : Evaluation.Session σ :=
  ⟨session.state, ⟨session.world.index, providers⟩⟩

namespace Evaluator

variable {evaluator : Evaluator σ α} {session : Evaluation.Session σ} {n : ℕ}
  {pace : evaluator.engine.Pace session.world.index.embedder}

/-- Has a question answered, step by step. -/
def answerTask (pace : evaluator.engine.Pace session.world.index.embedder) (sample : Sample) :
    Task σ (Except EvaluationError EvaluationRecord) :=
  (fun result => (result.map sample.answered).mapError .retrieval) <$> pace.queryTask sample.question

theorem answerTask_run (pace : evaluator.engine.Pace session.world.index.embedder) (sample : Sample) (s : σ) :
    (evaluator.answer sample).run.run (session.withProviders s) =
      ((answerTask pace sample).run.run s).map id session.withProviders := by
  have hquery := pace.queryTask_run sample.question s
  rw [answer_run, answerTask, Task.run_map]
  dsimp only [Evaluation.Session.withProviders]
  rw [hquery]
  cases (pace.queryTask sample.question).run.run s with
  | mk result s => cases result <;> rfl

/-- What having a question answered comes to, when nothing else is asked. -/
def alone (evaluator : Evaluator σ α) (session : Evaluation.Session σ) (sample : Sample) :
    Except EvaluationError EvaluationRecord :=
  ((evaluator.answer sample).run.run session).1

theorem settled_answerTask (h : pace.Settled) (sample : Sample) :
    (answerTask pace sample).Settled (evaluator.alone session sample) := by
  obtain ⟨outcome, houtcome⟩ := pace.exists_settled_queryTask h sample.question
  have hsettled := houtcome.map fun result => (result.map sample.answered).mapError EvaluationError.retrieval
  have halone : evaluator.alone session sample = ((answerTask pace sample).run.run session.world.providers).1 :=
    congrArg Prod.fst (answerTask_run pace sample session.world.providers)
  rw [halone]
  exact hsettled.run_fst _ ▸ hsettled

/-- What preparing comes to when up to `n` samples are under way at once, with their steps in some order. -/
inductive PreparesTo (pace : evaluator.engine.Pace session.world.index.embedder) (n : ℕ) :
    List Sample → Except EvaluationError Batch → Prop
  | refused : PreparesTo pace n [] (.error .noSamples)
  | collected {samples : List Sample} {last : Buffer σ (Except EvaluationError EvaluationRecord)} (ne_nil : samples ≠ [])
    (finishes : Buffer.Finishes n isFailure (.ofTasks (samples.map (answerTask pace)) session.world.providers) last) :
    PreparesTo pace n samples ((gathered last.given).map Batch.mk)

theorem preparesTo_nil {result : Except EvaluationError Batch} (h : PreparesTo pace n [] result) :
    result = .error .noSamples := by
  cases h with
  | refused => rfl
  | collected hne => exact absurd rfl hne

theorem exists_preparesTo (pace : evaluator.engine.Pace session.world.index.embedder) (n : ℕ) (samples : List Sample) :
    ∃ result, PreparesTo pace n samples result := by
  by_cases hsamples : samples = []
  · subst hsamples
    exact ⟨_, .refused⟩
  · obtain ⟨last, hlast⟩ := Buffer.exists_finishes n isFailure
      (.ofTasks (samples.map (answerTask pace)) session.world.providers)
    exact ⟨_, .collected hsamples hlast⟩

/-- One sample at a time is one after the other, whatever the providers do. -/
theorem eq_of_preparesTo_one {samples : List Sample} {result : Except EvaluationError Batch}
    (h : PreparesTo pace 1 samples result) : result = ((evaluator.prepareData samples).run.run session).1 := by
  cases h with
  | refused => rfl
  | @collected _ last hsamples hfinishes =>
    have hrun := Buffer.mapM_eq_inTurn session.withProviders (answerTask_run pace) samples session.world.providers
    rw [Buffer.finishes_one hfinishes] at hrun
    have hsession : session.withProviders session.world.providers = session := rfl
    rw [evaluator.prepareData_run hsamples, ← hsession, hrun]
    simp only [Prod.map]
    cases gathered last.given <;> rfl

/-- With providers that are settled, preparing comes to the outcomes of the samples. -/
theorem eq_of_preparesTo (h : pace.Settled) (hn : 0 < n) {samples : List Sample} (hsamples : samples ≠ [])
    {result : Except EvaluationError Batch} (hresult : PreparesTo pace n samples result) :
    result = (gathered (samples.map (evaluator.alone session))).map Batch.mk := by
  cases hresult with
  | refused => exact absurd rfl hsamples
  | @collected _ last _ hfinishes =>
    obtain ⟨rest, houtcomes, hrest⟩ := hfinishes.exists_rest hn fun sample _ => settled_answerTask h sample
    rw [houtcomes]
    rcases hrest with rfl | hfailure
    · rw [List.append_nil]
    · rw [gathered_append hfailure]

theorem gathered_alone (h : pace.Settled) (hn : 0 < n) {samples : List Sample} (hsamples : samples ≠ [])
    {result : Except EvaluationError Batch} (hresult : PreparesTo pace n samples result) :
    gathered (samples.map (evaluator.alone session)) = result.map Batch.records := by
  rw [eq_of_preparesTo h hn hsamples hresult]
  cases gathered (samples.map (evaluator.alone session)) <;> rfl

/-- The records of samples that were all answered are their own. -/
theorem forall₂_alone {samples : List Sample} {records : List EvaluationRecord}
    (h : gathered (samples.map (evaluator.alone session)) = .ok records) :
    List.Forall₂ (fun sample record => evaluator.alone session sample = .ok record) samples records := by
  have hsame : List.Forall₂ (· = ·) (samples.map (evaluator.alone session)) (records.map .ok) := by
    rw [gathered_eq_ok h, List.forall₂_eq_eq_eq]
  rwa [List.forall₂_map_left_iff, List.forall₂_map_right_iff] at hsame

/-- A failure is that of the first sample that fails. -/
theorem exists_failing {samples : List Sample} {e : EvaluationError}
    (h : gathered (samples.map (evaluator.alone session)) = .error e) :
    ∃ before sample after, samples = before ++ sample :: after ∧ evaluator.alone session sample = .error e ∧
      ∀ earlier ∈ before, ∃ record, evaluator.alone session earlier = .ok record := by
  obtain ⟨records, rest, hresults⟩ := gathered_eq_error h
  obtain ⟨before, others, rfl, hbefore, hothers⟩ := List.map_eq_append_iff.1 hresults
  obtain ⟨sample, after, rfl, hsample, -⟩ := List.map_eq_cons_iff.1 hothers
  refine ⟨before, sample, after, rfl, hsample, fun earlier hmem => ?_⟩
  obtain ⟨record, -, hrecord⟩ := List.mem_map.1 (hbefore ▸ List.mem_map_of_mem hmem)
  exact ⟨record, hrecord.symm⟩

theorem preparesTo_iff (h : pace.Settled) (hn : 0 < n) {samples : List Sample} {result : Except EvaluationError Batch} :
    PreparesTo pace n samples result ↔ result = ((evaluator.prepareData samples).run.run session).1 := by
  have hunique : ∀ {result}, PreparesTo pace n samples result →
      result = ((evaluator.prepareData samples).run.run session).1 := by
    intro result hresult
    by_cases hsamples : samples = []
    · subst hsamples
      exact preparesTo_nil hresult
    · obtain ⟨single, hsingle⟩ := exists_preparesTo pace 1 samples
      rw [← eq_of_preparesTo_one hsingle, eq_of_preparesTo h hn hsamples hresult,
        eq_of_preparesTo h Nat.one_pos hsamples hsingle]
  refine ⟨hunique, ?_⟩
  rintro rfl
  obtain ⟨result, hresult⟩ := exists_preparesTo pace n samples
  exact hunique hresult ▸ hresult

end Evaluator

/-! ## Scoring records -/

/-- How the scoring of records is taken step by step. -/
abbrev Metric.Pace (σ α : Type) := ∀ (metric : Metric σ α) (record : EvaluationRecord), Stepwise (metric.score record).run

/-- What the metrics give depends on the record, and not on what is scored in between. -/
def Metric.Pace.Settled (pace : Metric.Pace σ α) (set : MetricSet σ α) : Prop :=
  ∀ metric ∈ set.metrics, ∀ record, ∃ outcome, (pace metric record).task.Settled outcome

namespace MetricSet

variable [Scalar α] (set : MetricSet σ α) (pace : Metric.Pace σ α)

/-- The entry of a metric for a record, step by step. -/
def entryTask (record : EvaluationRecord) (metric : Metric σ α) : Task σ (String × α) :=
  (fun outcome => (metric.name, countedScore outcome)) <$> (pace metric record).task

/-- Scores a record by the metrics one after the other, step by step. -/
def scoreTask (record : EvaluationRecord) : Task σ (ScoredRecord α) :=
  (fun entries => ⟨record, .ofList entries⟩) <$> set.metrics.mapM (entryTask pace record)

theorem scoreTask_run (record : EvaluationRecord) (s : σ) :
    (set.scoreTask pace record).run.run s = (set.scoreRecord record).run s := by
  have hentry (metric : Metric σ α) (s : σ) : (entryTask pace record metric).run.run s =
      (do return (metric.name, ← metric.scoreCounted record) : StateM σ (String × α)).run s := by
    rw [entryTask, Task.run_map, (pace metric record).run_task]
    rfl
  rw [scoreTask, Task.run_map, Task.run_mapM hentry]
  rfl

variable {set pace}

theorem exists_settled_entryTask (h : pace.Settled set) (record : EvaluationRecord) {metric : Metric σ α}
    (hmetric : metric ∈ set.metrics) : ∃ entry, (entryTask pace record metric).Settled entry := by
  obtain ⟨outcome, houtcome⟩ := h metric hmetric record
  exact ⟨_, houtcome.map _⟩

theorem exists_settled_scoreTask (h : pace.Settled set) (record : EvaluationRecord) :
    ∃ scored, (set.scoreTask pace record).Settled scored := by
  obtain ⟨entries, hentries⟩ := Task.exists_settled_mapM fun _ hmetric => exists_settled_entryTask h record hmetric
  exact ⟨_, hentries.map _⟩

/-- The scores of a record, when nothing else is scored. -/
def alone (set : MetricSet σ α) (providers : σ) (record : EvaluationRecord) : ScoredRecord α :=
  ((set.scoreRecord record).run providers).1

theorem settled_scoreTask (h : pace.Settled set) (providers : σ) (record : EvaluationRecord) :
    (set.scoreTask pace record).Settled (set.alone providers record) := by
  obtain ⟨scored, hscored⟩ := exists_settled_scoreTask h record
  rw [alone, ← set.scoreTask_run pace]
  exact hscored.run_fst providers ▸ hscored

/-- What settled metrics give is the same whatever the providers have come to. -/
theorem alone_congr (h : pace.Settled set) (providers providers' : σ) (record : EvaluationRecord) :
    set.alone providers record = set.alone providers' record := by
  have hrun := (settled_scoreTask h providers record).run_fst providers'
  rw [set.scoreTask_run] at hrun
  exact hrun.symm

end MetricSet

namespace Evaluator

variable [Scalar α] {evaluator : Evaluator σ α} {pace : Metric.Pace σ α} {session : Evaluation.Session σ} {n : ℕ}
  {stamp : Stamp} {batch : Batch} {result : Except EvaluationError (EvaluationResult α)}

/-- What evaluating comes to when up to `n` records are under way at once, with their steps in some order. -/
inductive EvaluatesTo (evaluator : Evaluator σ α) (pace : Metric.Pace σ α) (session : Evaluation.Session σ) (n : ℕ)
    (stamp : Stamp) : Batch → Except EvaluationError (EvaluationResult α) → Prop
  | refused : EvaluatesTo evaluator pace session n stamp ⟨[]⟩ (.error .noRecords)
  | collected {batch : Batch} {last : Buffer σ (ScoredRecord α)} (ne_nil : batch.records ≠ [])
    (finishes : Buffer.Finishes n (fun _ => false)
      (.ofTasks (batch.records.map (evaluator.metrics.scoreTask pace)) session.world.providers) last) :
    EvaluatesTo evaluator pace session n stamp batch (.ok (.ofRecords stamp evaluator.metrics.names last.given))

theorem evaluatesTo_nil (hrecords : batch.records = [])
    (h : evaluator.EvaluatesTo pace session n stamp batch result) : result = .error .noRecords := by
  cases h with
  | refused => rfl
  | collected hne => exact absurd hrecords hne

theorem exists_evaluatesTo (evaluator : Evaluator σ α) (pace : Metric.Pace σ α) (session : Evaluation.Session σ) (n : ℕ)
    (stamp : Stamp) (batch : Batch) : ∃ result, evaluator.EvaluatesTo pace session n stamp batch result := by
  obtain ⟨records⟩ := batch
  by_cases hrecords : records = []
  · subst hrecords
    exact ⟨_, .refused⟩
  · obtain ⟨last, hlast⟩ := Buffer.exists_finishes n (fun _ => false)
      (.ofTasks (records.map (evaluator.metrics.scoreTask pace)) session.world.providers)
    exact ⟨_, .collected hrecords hlast⟩

/-- One record at a time is one after the other, whatever the metrics do. -/
theorem eq_of_evaluatesTo_one (h : evaluator.EvaluatesTo pace session 1 stamp batch result) :
    result = ((evaluator.evaluate stamp batch).run.run session).1 := by
  cases h with
  | refused => rfl
  | @collected _ last hrecords hfinishes =>
    have hrun := Buffer.inTurn_eq_mapM (evaluator.metrics.scoreTask_run pace) batch.records session.world.providers
    rw [Buffer.finishes_one hfinishes] at hrun
    rw [evaluate_run, if_neg hrecords, MetricSet.scored, ← hrun]

/-- With metrics that are settled, evaluating comes to the scores of the records. -/
theorem eq_of_evaluatesTo (h : pace.Settled evaluator.metrics) (hn : 0 < n) (hrecords : batch.records ≠ [])
    (hresult : evaluator.EvaluatesTo pace session n stamp batch result) :
    result = .ok (.ofRecords stamp evaluator.metrics.names
      (batch.records.map (evaluator.metrics.alone session.world.providers))) := by
  cases hresult with
  | refused => exact absurd rfl hrecords
  | @collected _ last _ hfinishes =>
    obtain ⟨rest, houtcomes, rfl | ⟨_, -, hstops⟩⟩ := hfinishes.exists_rest hn fun record _ =>
      MetricSet.settled_scoreTask h session.world.providers record
    · rw [houtcomes, List.append_nil]
    · cases hstops

theorem evaluatesTo_iff (h : pace.Settled evaluator.metrics) (hn : 0 < n) :
    evaluator.EvaluatesTo pace session n stamp batch result ↔
      result = ((evaluator.evaluate stamp batch).run.run session).1 := by
  have hunique : ∀ {result}, evaluator.EvaluatesTo pace session n stamp batch result →
      result = ((evaluator.evaluate stamp batch).run.run session).1 := by
    intro result hresult
    by_cases hrecords : batch.records = []
    · rw [evaluatesTo_nil hrecords hresult, evaluate_run, if_pos hrecords]
    · obtain ⟨single, hsingle⟩ := evaluator.exists_evaluatesTo pace session 1 stamp batch
      rw [← eq_of_evaluatesTo_one hsingle, eq_of_evaluatesTo h hn hrecords hresult,
        eq_of_evaluatesTo h Nat.one_pos hrecords hsingle]
  refine ⟨hunique, ?_⟩
  rintro rfl
  obtain ⟨result, hresult⟩ := evaluator.exists_evaluatesTo pace session n stamp batch
  exact hunique hresult ▸ hresult

/-! ## Any number at once -/

/-- How many samples are under way at once does not matter, nor does the order of their steps, when what the providers
and the metrics give depends on what they are asked alone. Preparing comes to what it comes to one sample after the
other: a record for each sample, in their order, or the failure of the first sample that fails. Evaluating comes to
what it comes to one record after the other: the scores of each record, in their order, and their means. -/
theorem concurrency_irrelevant {evaluator : Evaluator σ α} {session : Evaluation.Session σ}
    {pace : evaluator.engine.Pace session.world.index.embedder} {scoring : Metric.Pace σ α} (hpace : pace.Settled)
    (hscoring : scoring.Settled evaluator.metrics) {n : ℕ} (hn : 1 ≤ n) :
    (∀ samples result,
      PreparesTo pace n samples result ↔ result = ((evaluator.prepareData samples).run.run session).1) ∧
    (∀ samples batch, PreparesTo pace n samples (.ok batch) →
      List.Forall₂ (fun sample record => evaluator.alone session sample = .ok record) samples batch.records) ∧
    (∀ samples e, samples ≠ [] → PreparesTo pace n samples (.error e) →
      ∃ before sample after, samples = before ++ sample :: after ∧ evaluator.alone session sample = .error e ∧
        ∀ earlier ∈ before, ∃ record, evaluator.alone session earlier = .ok record) ∧
    (∀ stamp batch result, evaluator.EvaluatesTo scoring session n stamp batch result ↔
      result = ((evaluator.evaluate stamp batch).run.run session).1) ∧
    ∀ stamp batch result, evaluator.EvaluatesTo scoring session n stamp batch (.ok result) →
      result.perSample = batch.records.map (evaluator.metrics.alone session.world.providers) := by
  refine ⟨fun samples result => preparesTo_iff hpace hn, fun samples batch h => ?_, fun samples e hsamples h => ?_,
    fun stamp batch result => evaluatesTo_iff hscoring hn, fun stamp batch result h => ?_⟩
  · have hsamples : samples ≠ [] := by
      rintro rfl
      cases preparesTo_nil h
    exact forall₂_alone (gathered_alone hpace hn hsamples h)
  · exact exists_failing (gathered_alone hpace hn hsamples h)
  · by_cases hrecords : batch.records = []
    · cases evaluatesTo_nil hrecords h
    · cases eq_of_evaluatesTo hscoring hn hrecords h
      rfl

/-- A call that is counted and gives the same each time. -/
def counted {β : Type} (result : β) : Call ℕ β := ExceptT.mk fun calls => (.ok result, calls + 1)

/-- An engine that says north to everything, scored by one metric; both count their calls. -/
def counting : Evaluator ℕ Float where
  engine := ⟨⟨2, Nat.two_pos⟩, ⟨fun _ => counted "north"⟩, .standard⟩
  metrics := ⟨[⟨"brevity", fun _ => (counted 1).toScoring⟩], by simp⟩
  settings := { concurrency := 2 }

/-- Before any call, over an index of three records. -/
def uncounted : Evaluation.Session ℕ :=
  ⟨.idle, ⟨⟨.oneByOne 2 fun _ => counted [0, 1], 2, VectorIndex.axes.records⟩, 0⟩⟩

/-- Each call is one step. -/
def atOnce : counting.engine.Pace uncounted.world.index.embedder := ⟨fun _ => .once _, fun _ => .once _⟩

theorem query_counting (calls : ℕ) : ∃ response,
    (counting.engine.query northward.question).run.run ⟨uncounted.world.index, calls⟩ =
      (.ok response, ⟨uncounted.world.index, calls + 2⟩) := by
  have hpopulated : uncounted.world.index.records ≠ [] := by decide
  have hvector : checkVector 2 [0, 1] = .ok () := by decide +kernel
  exact ⟨_, Engine.query_eq_ok _ (by decide +kernel) hpopulated rfl hvector rfl⟩

/-- Two samples are answered; of three, the second is refused. -/
theorem prepareData_counting :
    (∃ records, ((counting.prepareData [northward, northward]).run.run uncounted).1 = .ok ⟨records⟩) ∧
    ((counting.prepareData [northward, ⟨" ", "North.", none⟩, northward]).run.run uncounted).1 =
      .error (.retrieval .blankQuestion) := by
  obtain ⟨first, hfirst⟩ := query_counting 0
  obtain ⟨second, hsecond⟩ := query_counting 2
  have hblank : (counting.engine.query " ").run.run ⟨uncounted.world.index, 2⟩ =
      (.error .blankQuestion, ⟨uncounted.world.index, 2⟩) := by
    rw [Engine.query_run, if_pos (by decide +kernel)]
  have hrest : counting.engine.FailsInTurn ⟨uncounted.world.index, 2⟩ [⟨" ", "North.", none⟩, northward] .blankQuestion
      ⟨uncounted.world.index, 2⟩ := .here hblank
  have hanswered := counting.mapM_answer_of_answered (.cons hfirst (.cons hsecond (.nil _))) .idle
  have hfails := counting.mapM_answer_of_fails (.later hfirst hrest) .idle
  have hsession : (⟨.idle, ⟨uncounted.world.index, 0⟩⟩ : Evaluation.Session ℕ) = uncounted := rfl
  rw [hsession] at hanswered hfails
  rw [counting.prepareData_run (by simp), hanswered, counting.prepareData_run (by simp), hfails]
  exact ⟨⟨_, rfl⟩, rfl⟩

theorem concurrency_irrelevant_counting :
    atOnce.Settled ∧ Metric.Pace.Settled (fun _ _ => .once _) counting.metrics ∧
    (∃ batch, PreparesTo atOnce 2 [northward, northward] (.ok batch) ∧ batch.records.length = 2 ∧
      ∃ result, counting.EvaluatesTo (fun _ _ => .once _) uncounted 2 noon batch (.ok result) ∧
        result.perSample.length = 2) ∧
    PreparesTo atOnce 2 [northward, ⟨" ", "North.", none⟩, northward] (.error (.retrieval .blankQuestion)) := by
  have hpace : atOnce.Settled :=
    ⟨fun _ => ⟨_, Task.settled_once fun _ => rfl⟩, fun _ => ⟨_, Task.settled_once fun _ => rfl⟩⟩
  have hscoring : Metric.Pace.Settled (fun _ _ => .once _) counting.metrics := by
    intro metric hmetric record
    obtain rfl := List.mem_singleton.1 hmetric
    exact ⟨_, Task.settled_once fun _ => rfl⟩
  obtain ⟨hprepares, hrecords, -, hevaluates, hscores⟩ := concurrency_irrelevant hpace hscoring (Nat.le_succ 1)
  obtain ⟨⟨records, hprepared⟩, hrefused⟩ := prepareData_counting
  have hbatch := (hprepares _ _).2 hprepared.symm
  have hlength : records.length = 2 := (hrecords _ _ hbatch).length_eq.symm
  have hne : records ≠ [] := by
    rintro rfl
    cases hlength
  have hresult := (hevaluates noon ⟨records⟩ _).2 rfl
  rw [evaluate_run, if_neg hne] at hresult
  refine ⟨hpace, hscoring, ⟨⟨records⟩, hbatch, hlength, _, hresult, ?_⟩, (hprepares _ _).2 hrefused.symm⟩
  rw [hscores _ _ _ hresult, List.length_map, hlength]

end Evaluator

end GroundedQA
