import GroundedQA.Proofs.Answering.Query
import GroundedQA.Proofs.Evaluation.Outcomes
import GroundedQA.Proofs.Evaluation.Samples
import GroundedQA.Proofs.Evaluation.Violations
/-!
# One sample after the other

What is loaded is the dataset that stands at the path (`Dataset.load_eq_ok`), and it holds no blank question. Taken
one sample after the other, a run has the questions answered (`Engine.AnsweredInTurn`) up to the first that is not
(`Engine.FailsInTurn`), scores the answers and writes the report (`Evaluator.run_of_load`).
-/

namespace GroundedQA

open Storage

variable {σ : Type}

/-- The failure is said to come from what was asked for: an empty input or a wrong argument, in the evaluation
itself or in a query. -/
def EvaluationError.BlamesInput (e : EvaluationError) : Prop :=
  e.kind = .emptyInput ∨ e.kind = .retrieval .emptyInput ∨ e.kind = .retrieval .invalidArgument

/-! ## Loading -/

namespace Dataset

variable {disk : Disk} {path : String}

theorem load_eq (disk : Disk) (path : String) :
    load disk path =
      match disk.occupied path with
      | .error fault => .error (.io fault)
      | .ok false => .error (.datasetNotFound path)
      | .ok true =>
        match disk.read path with
        | .error fault => .error (.io fault)
        | .ok content =>
          match String.fromUTF8? content with
          | none => .error (.io .notText)
          | some text => parse text := by
  unfold load
  cases disk.occupied path with
  | error fault => rfl
  | ok occupied =>
    cases occupied with
    | false => rfl
    | true => cases disk.read path <;> rfl

theorem kind_of_parse {text : String} {e : EvaluationError} (h : parse text = .error e) :
    e.kind = .parse ∨ e.kind = .schema := by
  unfold parse at h
  split at h
  · cases h
    exact .inl rfl
  next document hdocument =>
    obtain ⟨fault, -, rfl⟩ := mapError_eq_error.1 h
    exact .inr rfl

/-- Loading fails for the file or for what is in it. -/
theorem kind_of_load {e : EvaluationError} (h : load disk path = .error e) :
    e.kind = .io ∨ e.kind = .notFound ∨ e.kind = .parse ∨ e.kind = .schema := by
  rw [load_eq] at h
  split at h
  · cases h
    exact .inl rfl
  · cases h
    exact .inr (.inl rfl)
  split at h
  · cases h
    exact .inl rfl
  split at h
  · cases h
    exact .inl rfl
  · exact .inr (.inr (kind_of_parse h))

theorem not_blamesInput_of_load {e : EvaluationError} (h : load disk path = .error e) : ¬e.BlamesInput := by
  rcases kind_of_load h with h | h | h | h <;> simp [EvaluationError.BlamesInput, h]

/-- The file at a path is the text of a document that can be read and makes the samples. -/
inductive StandsAt (disk : Disk) (path : String) : List Sample → Prop
  | intro {content : ByteArray} {text : String} {document : Json} {samples : List Sample}
      (hfile : disk.read path = .ok content) (htext : String.fromUTF8? content = some text)
      (hparse : Json.parse? text = some document) (hreadable : document.readable Json.maxDepth = true)
      (hdataset : IsDataset document samples) : StandsAt disk path samples

theorem occupied_of_read {content : ByteArray} (h : disk.read path = .ok content) : disk.occupied path = .ok true := by
  obtain ⟨place, hplace, hfound⟩ := bind_eq_ok.1 h
  unfold Disk.occupied
  rw [hplace]
  cases hentry : disk.find? place with
  | none =>
    rw [hentry] at hfound
    cases hfound
  | some entry => simp [hentry]

theorem exists_document_of_parse {text : String} {samples : List Sample} (h : parse text = .ok samples) :
    ∃ document, Json.parse? text = some document ∧ document.readable Json.maxDepth = true := by
  unfold parse at h
  split at h
  · cases h
  next document hdocument => exact ⟨document, Option.filter_eq_some_iff.1 hdocument⟩

/-- What is loaded is the dataset that stands at the path. -/
theorem load_eq_ok {samples : List Sample} : load disk path = .ok samples ↔ StandsAt disk path samples := by
  constructor
  · intro h
    rw [load_eq] at h
    split at h
    · cases h
    · cases h
    split at h
    · cases h
    next content hfile =>
    split at h
    · cases h
    next text htext =>
      obtain ⟨document, hparse, hreadable⟩ := exists_document_of_parse h
      exact .intro hfile htext hparse hreadable ((parse_eq_ok hparse hreadable).1 h)
  · rintro ⟨hfile, htext, hparse, hreadable, hdataset⟩
    rw [load_eq, occupied_of_read hfile]
    dsimp only
    rw [hfile]
    dsimp only
    rw [htext]
    exact (parse_eq_ok hparse hreadable).2 hdataset

end Dataset

theorem IsSample.question_filled {item : Json} {sample : Sample} (h : IsSample item sample) :
    ¬Text.blank sample.question := by
  obtain ⟨-, hasked, -, -, -⟩ := h
  exact hasked.2

namespace Dataset.StandsAt

variable {disk : Disk} {path : String} {samples : List Sample}

theorem ne_nil (h : StandsAt disk path samples) : samples ≠ [] := by
  obtain ⟨-, -, -, -, -, hne, hitems⟩ := h
  rintro rfl
  cases hitems
  exact hne rfl

/-- No question of a dataset is blank. -/
theorem question_filled (h : StandsAt disk path samples) {sample : Sample} (hmem : sample ∈ samples) :
    ¬Text.blank sample.question := by
  obtain ⟨-, -, -, -, -, -, hitems⟩ := h
  obtain ⟨place, hplace, rfl⟩ := List.getElem_of_mem hmem
  exact (hitems.get (hitems.length_eq ▸ hplace) hplace).question_filled

end Dataset.StandsAt

/-! ## Answering -/

/-- The samples with the responses that their questions get, asked one after the other. -/
inductive Engine.AnsweredInTurn (engine : Engine σ) : World σ → List Sample → List EvaluationRecord → World σ → Prop
  | nil (world : World σ) : AnsweredInTurn engine world [] [] world
  | cons {world next last : World σ} {sample : Sample} {response : Response} {samples : List Sample}
      {records : List EvaluationRecord}
      (hquery : (engine.query sample.question).run.run world = (.ok response, next))
      (hrest : AnsweredInTurn engine next samples records last) :
      AnsweredInTurn engine world (sample :: samples)
        (⟨sample.question, response.answer, response.contexts, sample.groundTruth, sample.contexts⟩ :: records) last

/-- The questions of the samples are asked one after the other up to one that is not answered. -/
inductive Engine.FailsInTurn (engine : Engine σ) : World σ → List Sample → RetrievalError → World σ → Prop
  | here {world last : World σ} {sample : Sample} {samples : List Sample} {e : RetrievalError}
      (hquery : (engine.query sample.question).run.run world = (.error e, last)) :
      FailsInTurn engine world (sample :: samples) e last
  | later {world next last : World σ} {sample : Sample} {response : Response} {samples : List Sample}
      {e : RetrievalError}
      (hquery : (engine.query sample.question).run.run world = (.ok response, next))
      (hrest : FailsInTurn engine next samples e last) : FailsInTurn engine world (sample :: samples) e last

namespace Engine

variable {engine : Engine σ} {world last : World σ} {samples : List Sample}

theorem AnsweredInTurn.length_eq {records : List EvaluationRecord}
    (h : engine.AnsweredInTurn world samples records last) : records.length = samples.length := by
  induction h with
  | nil => rfl
  | cons _ _ ih => rw [List.length_cons, List.length_cons, ih]

theorem answered_or_fails (engine : Engine σ) (samples : List Sample) (world : World σ) :
    (∃ records last, engine.AnsweredInTurn world samples records last) ∨
      ∃ e last, engine.FailsInTurn world samples e last := by
  induction samples generalizing world with
  | nil => exact .inl ⟨[], world, .nil world⟩
  | cons sample samples ih =>
    cases hquery : (engine.query sample.question).run.run world with
    | mk result next =>
      cases result with
      | error e => exact .inr ⟨e, next, .here hquery⟩
      | ok response =>
        rcases ih next with ⟨records, last, hrest⟩ | ⟨e, last, hrest⟩
        · exact .inl ⟨_, last, .cons hquery hrest⟩
        · exact .inr ⟨e, last, .later hquery hrest⟩

end Engine

theorem Action.toStep_run {β : Type} (action : Action σ RetrievalError β) (session : Evaluation.Session σ) :
    action.toStep.run.run session =
      ((action.run.run session.world).1.mapError .retrieval,
        { session with world := (action.run.run session.world).2 }) := rfl

namespace Evaluator

section Steps

variable {α : Type} (evaluator : Evaluator σ α)

theorem answer_run (sample : Sample) (session : Evaluation.Session σ) :
    (evaluator.answer sample).run.run session =
      match (evaluator.engine.query sample.question).run.run session.world with
      | (.error e, world) => (.error (.retrieval e), { session with world })
      | (.ok response, world) => (.ok (sample.answered response), { session with world }) := by
  unfold answer
  rw [run_bind, Action.toStep_run]
  cases (evaluator.engine.query sample.question).run.run session.world with
  | mk result world => cases result <;> rfl

theorem mapM_answer_of_answered {samples : List Sample} {records : List EvaluationRecord} {world last : World σ}
    (h : evaluator.engine.AnsweredInTurn world samples records last) (state : EvaluatorState) :
    (samples.mapM evaluator.answer).run.run ⟨state, world⟩ = (.ok records, ⟨state, last⟩) := by
  induction h with
  | nil => rfl
  | cons hquery _ ih =>
    rw [List.mapM_cons, run_bind, answer_run, hquery]
    dsimp only
    rw [run_bind, ih]
    rfl

theorem mapM_answer_of_fails {samples : List Sample} {e : RetrievalError} {world last : World σ}
    (h : evaluator.engine.FailsInTurn world samples e last) (state : EvaluatorState) :
    (samples.mapM evaluator.answer).run.run ⟨state, world⟩ = (.error (.retrieval e), ⟨state, last⟩) := by
  induction h with
  | here hquery => rw [List.mapM_cons, run_bind, answer_run, hquery]
  | later hquery _ ih =>
    rw [List.mapM_cons, run_bind, answer_run, hquery]
    dsimp only
    rw [run_bind, ih]

theorem prepareData_run {samples : List Sample} (hne : samples ≠ []) (session : Evaluation.Session σ) :
    (evaluator.prepareData samples).run.run session =
      match (samples.mapM evaluator.answer).run.run session with
      | (.error e, session) => (.error e, session)
      | (.ok records, session) => (.ok ⟨records⟩, { session with state := .dataPrepared }) := by
  have hfilled : samples.isEmpty = false := by simpa using hne
  unfold prepareData
  rw [hfilled]
  show ((samples.mapM evaluator.answer) >>= _).run.run session = _
  rw [run_bind]
  cases (samples.mapM evaluator.answer).run.run session with
  | mk result session => cases result <;> rfl

end Steps

/-! ## The four steps -/

variable (evaluator : Evaluator σ Float) (stamp : Stamp) {disk : Disk} {path : String} (session : Evaluation.Session σ)

/-- Without a dataset nothing is done. -/
theorem run_of_load_error {e : EvaluationError} (h : Dataset.load disk path = .error e) :
    (evaluator.run stamp disk path).run.run session = (.error e, session) := by
  unfold run loadDataset
  rw [h]
  rfl

theorem run_of_load {samples : List Sample} (h : Dataset.load disk path = .ok samples) :
    (evaluator.run stamp disk path).run.run session =
      match (evaluator.prepareData samples).run.run { session with state := .datasetLoaded } with
      | (.error e, session) => (.error e, session)
      | (.ok batch, session) =>
        match (evaluator.evaluate stamp batch).run.run session with
        | (.error e, session) => (.error e, session)
        | (.ok result, session) => (.ok (result, result.report), { session with state := .reportGenerated }) := by
  unfold run loadDataset
  rw [h]
  show (evaluator.prepareData samples >>= _).run.run { session with state := .datasetLoaded } = _
  rw [run_bind]
  cases (evaluator.prepareData samples).run.run { session with state := .datasetLoaded } with
  | mk result session =>
    cases result with
    | error e => rfl
    | ok batch =>
      dsimp only
      rw [run_bind]
      cases (evaluator.evaluate stamp batch).run.run session with
      | mk result session => cases result <;> rfl

/-- When a question of a dataset is not answered the run ends there. -/
theorem run_of_fails {samples : List Sample} {e : RetrievalError} {last : World σ}
    (hdataset : Dataset.StandsAt disk path samples) (h : evaluator.engine.FailsInTurn session.world samples e last) :
    (evaluator.run stamp disk path).run.run session = (.error (.retrieval e), ⟨.datasetLoaded, last⟩) := by
  rw [evaluator.run_of_load stamp session (Dataset.load_eq_ok.2 hdataset), evaluator.prepareData_run hdataset.ne_nil,
    evaluator.mapM_answer_of_fails h]

/-- A sample, and a disk with a dataset of it. -/
def northward : Sample := ⟨"Which way is up?", "North.", some ["On a map north is up."]⟩

def northwardDisk : Disk := ⟨[(["north.json"], .file (Dataset.toJson [northward]).render.toUTF8)]⟩

/-- An engine that says north to everything, scored by one metric. -/
def compass : Evaluator Unit Float where
  engine := ⟨⟨2, Nat.two_pos⟩, ⟨fun _ => pure "north"⟩, .standard⟩
  metrics := ⟨[⟨"brevity", fun _ => pure 1⟩], by simp⟩
  settings := {}

def noon : Stamp := ⟨⟨1⟩, ⟨⟨2024, 2, 29⟩, 43200, 0⟩⟩

/-- Before a run, over an index of three records. -/
def atAxes : Evaluation.Session Unit := ⟨.idle, ⟨VectorIndex.axes, ()⟩⟩

theorem standsAt_northwardDisk : Dataset.StandsAt northwardDisk "north.json" [northward] := by
  have hfile : northwardDisk.read "north.json" = .ok (Dataset.toJson [northward]).render.toUTF8 := rfl
  exact .intro hfile (Json.fromUTF8?_toUTF8 _) (Json.parse?_render _) (Dataset.readable_toJson _)
    (Dataset.isDataset_toJson (by decide) (by decide +kernel))

end Evaluator

end GroundedQA
