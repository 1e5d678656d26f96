import GroundedQA.Evaluation.Dataset
import GroundedQA.Evaluation.Relevancy
import GroundedQA.Evaluation.Report
import GroundedQA.Settings
/-!
# The evaluator

An evaluation goes through four steps: a dataset is loaded, its questions are answered, the answers
are scored, and a report is written. An evaluator can take each step by itself, given what the one
before it gave, or all four at once; it remembers the last step that was completed.

The settings say how many samples may be under way at once. The steps below take them one after the
other, which is what an evaluator does with one at a time; with more their calls to the providers come
in any order, which `Evaluator.RunsTo` allows for.
-/

namespace GroundedQA

open Storage

/-- The last step that an evaluator completed. -/
inductive EvaluatorState where
  | idle
  | datasetLoaded
  | dataPrepared
  | evaluated
  | reportGenerated
deriving DecidableEq, Repr

/-- What carries out evaluations. -/
structure Evaluator (σ α : Type) where
  engine : Engine σ
  metrics : MetricSet σ α
  settings : EvaluationSettings

/-- What an evaluator acts on. -/
structure Evaluation.Session (σ : Type) where
  state : EvaluatorState
  world : World σ

/-- A step of an evaluation; what it did before it failed stands. -/
abbrev EvaluationStep (σ α : Type) := ExceptT EvaluationError (StateM (Evaluation.Session σ)) α

variable {σ α β : Type}

/-- An action on the index and the providers as a step. -/
def Action.toStep (action : Action σ RetrievalError β) : EvaluationStep σ β :=
  ExceptT.mk fun session =>
    let (result, world) := action.run.run session.world
    (result.mapError .retrieval, { session with world })

def stepOfProviders (work : StateM σ β) : EvaluationStep σ β :=
  ExceptT.mk fun session =>
    let (result, providers) := work.run session.world.providers
    (.ok result, { session with world := { session.world with providers } })

namespace Evaluator

/-- The evaluator of the given parts. Without metrics it has the standard ones, if there is a judge
for them. -/
def build [Scalar α] (engine : Option (Engine σ)) (metrics : Option (MetricSet σ α))
    (judge : Option (LanguageModel σ × Embedder σ)) (settings : EvaluationSettings) :
    Except ConfigFault (Evaluator σ α) := do
  settings.check
  let engine ← requiredPart "engine" engine
  let standard := judge.map fun (model, embedder) =>
    MetricSet.standard model embedder settings.strictness
  match (metrics.or standard).filter (!·.isEmpty) with
  | some metrics => return ⟨engine, metrics, settings⟩
  | none => throw .noMetrics

def complete (state : EvaluatorState) : EvaluationStep σ Unit :=
  modify fun session => { session with state }

def loadDataset (disk : Disk) (path : String) : EvaluationStep σ (List Sample) := do
  let samples ← ExceptT.mk (pure (Dataset.load disk path))
  complete .datasetLoaded
  return samples

/-- Has the engine answer the question of a sample. -/
def answer (evaluator : Evaluator σ α) (sample : Sample) : EvaluationStep σ EvaluationRecord := do
  return sample.answered (← (evaluator.engine.query sample.question).toStep)

/-- Has the engine answer the questions of all samples, one after the other up to the first failure. -/
def prepareData (evaluator : Evaluator σ α) (samples : List Sample) : EvaluationStep σ Batch := do
  if samples.isEmpty then throw .noSamples
  let records ← samples.mapM evaluator.answer
  complete .dataPrepared
  return ⟨records⟩

/-- Scores all records by all metrics, one record after the other. -/
def evaluate [Scalar α] (evaluator : Evaluator σ α) (stamp : Stamp) (batch : Batch) :
    EvaluationStep σ (EvaluationResult α) := do
  if batch.records.isEmpty then throw .noRecords
  let records ← stepOfProviders (batch.records.mapM evaluator.metrics.scoreRecord)
  complete .evaluated
  return .ofRecords stamp evaluator.metrics.names records

def generateReport (result : EvaluationResult Float) : EvaluationStep σ String := do
  complete .reportGenerated
  return result.report

/-- Takes all four steps, with one sample at a time. -/
def run (evaluator : Evaluator σ Float) (stamp : Stamp) (disk : Disk) (path : String) :
    EvaluationStep σ (EvaluationResult Float × String) := do
  let samples ← loadDataset disk path
  let batch ← evaluator.prepareData samples
  let result ← evaluator.evaluate stamp batch
  let report ← generateReport result
  return (result, report)

end Evaluator

end GroundedQA
