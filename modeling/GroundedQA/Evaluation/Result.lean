import GroundedQA.Calendar.Timestamp
import GroundedQA.Evaluation.Metric
/-!
# Evaluation results

Every record has a score for every metric, and the result has the mean of each metric over all
records: those of the standard metrics by themselves, the others by name. A metric that fails for a
record, or gives no finite number, scores `0` there; other scores are brought within `0` and `1`. A
standard metric that is not in the set has the mean `0`.
-/

namespace GroundedQA

variable {σ α : Type}

/-- A record with its scores by the names of the metrics. -/
structure ScoredRecord (α : Type) where
  record : EvaluationRecord
  scores : Dictionary α
deriving DecidableEq

/-- What tells one evaluation from another. -/
structure Stamp where
  runId : Uuid
  time : Calendar.Timestamp
deriving DecidableEq

/-- The means over all records, and the scores that they come from. -/
structure EvaluationResult (α : Type) where
  runId : Uuid
  faithfulness : α
  answerRelevancy : α
  contextPrecision : α
  contextRecall : α
  /-- The means of the metrics that are not standard. -/
  additional : Dictionary α
  perSample : List (ScoredRecord α)
  sampleCount : Nat
  evaluatedAt : Calendar.Timestamp

namespace EvaluationResult

/-- The mean of a standard metric. -/
def coreScore (result : EvaluationResult α) : CoreMetric → α
  | .faithfulness => result.faithfulness
  | .answerRelevancy => result.answerRelevancy
  | .contextPrecision => result.contextPrecision
  | .contextRecall => result.contextRecall

/-- The means of the standard metrics, in the order of reports. -/
def coreScores (result : EvaluationResult α) : List (CoreMetric × α) :=
  CoreMetric.all.map fun metric => (metric, result.coreScore metric)

/-- The mean of the metric of a name. -/
def score? (result : EvaluationResult α) (name : String) : Option α :=
  match CoreMetric.ofName? name with
  | some metric => some (result.coreScore metric)
  | none => result.additional.find? name

/-- The mean of the standard metrics. -/
def overall [Scalar α] (result : EvaluationResult α) : α :=
  Scalar.mean (result.coreScores.map (·.2))

end EvaluationResult

/-! ## Scoring -/

variable [Scalar α]

/-- The score that an outcome of a metric counts as. -/
def countedScore : Except EvaluationError α → α
  | .ok score => if Scalar.isFinite score then Scalar.clamp score else 0
  | .error _ => 0

/-- The score of a record by a metric. -/
def Metric.scoreCounted (metric : Metric σ α) (record : EvaluationRecord) : StateM σ α := do
  return countedScore (← (metric.score record).run)

/-- The scores of a record, by the metrics one after the other. -/
def MetricSet.scoreRecord (set : MetricSet σ α) (record : EvaluationRecord) :
    StateM σ (ScoredRecord α) := do
  let entries ← set.metrics.mapM fun metric => do
    return (metric.name, ← metric.scoreCounted record)
  return ⟨record, .ofList entries⟩

/-- The mean of a metric over the records. -/
def meanScore (records : List (ScoredRecord α)) (name : String) : α :=
  Number.sum (records.filterMap (·.scores.find? name)) / Scalar.ofNat records.length

/-- The mean of every metric. -/
def meanScores (names : List String) (records : List (ScoredRecord α)) : Dictionary α :=
  .ofList (names.map fun name => (name, meanScore records name))

def EvaluationResult.ofRecords (stamp : Stamp) (names : List String)
    (records : List (ScoredRecord α)) : EvaluationResult α :=
  let means := meanScores names records
  let core (metric : CoreMetric) : α := (means.find? metric.name).getD 0
  { runId := stamp.runId
    faithfulness := core .faithfulness
    answerRelevancy := core .answerRelevancy
    contextPrecision := core .contextPrecision
    contextRecall := core .contextRecall
    additional := CoreMetric.all.foldl (fun means metric => means.erase metric.name) means
    perSample := records
    sampleCount := records.length
    evaluatedAt := stamp.time }

end GroundedQA
