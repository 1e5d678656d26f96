import GroundedQA.Evaluation.Sample
import GroundedQA.Evaluation.Scalar
/-!
# Metrics

A metric scores one record at a time, and may ask providers for it. Metrics are kept in a set: each
has a name, and one that is added takes the place of the one with its name.
-/

namespace GroundedQA

abbrev Scoring (σ α : Type) := ExceptT EvaluationError (StateM σ) α

/-- A call to a provider while a score is computed. -/
def Call.toScoring {σ α : Type} (call : Call σ α) : Scoring σ α :=
  ExceptT.adapt .retrieval call

/-- A way to score records. -/
structure Metric (σ α : Type) where
  name : String
  score : EvaluationRecord → Scoring σ α

/-- The names of the four standard metrics. -/
inductive CoreMetric where
  | faithfulness
  | answerRelevancy
  | contextPrecision
  | contextRecall
deriving DecidableEq, Repr

namespace CoreMetric

def name : CoreMetric → String
  | .faithfulness => "faithfulness"
  | .answerRelevancy => "answer_relevancy"
  | .contextPrecision => "context_precision"
  | .contextRecall => "context_recall"

/-- The standard metrics, in the order of reports. -/
def all : List CoreMetric :=
  [.faithfulness, .answerRelevancy, .contextPrecision, .contextRecall]

def ofName? (name : String) : Option CoreMetric :=
  all.find? (·.name = name)

def fault (metric : CoreMetric) (fault : MetricFault) : EvaluationError :=
  .metric metric.name fault

end CoreMetric

/-! ## Sets of metrics -/

variable {σ α : Type}

/-- Adds a metric at the end, or in the place of the one with its name. -/
def Metric.placeIn (metric : Metric σ α) : List (Metric σ α) → List (Metric σ α)
  | [] => [metric]
  | first :: rest =>
    if first.name = metric.name then metric :: rest else first :: metric.placeIn rest

namespace Metric

theorem name_of_mem_placeIn {metric other : Metric σ α} {metrics : List (Metric σ α)}
    (h : other ∈ metric.placeIn metrics) :
    other.name = metric.name ∨ other.name ∈ metrics.map Metric.name := by
  induction metrics with
  | nil => exact .inl (by simpa [placeIn] using congrArg name (List.mem_singleton.1 h))
  | cons first rest ih =>
    rw [placeIn] at h
    split at h
    · rcases List.mem_cons.1 h with rfl | h
      · exact .inl rfl
      · exact .inr (by simp only [List.map_cons, List.mem_cons]; exact .inr (List.mem_map_of_mem h))
    · rcases List.mem_cons.1 h with rfl | h
      · exact .inr (by simp)
      · rcases ih h with h | h
        · exact .inl h
        · exact .inr (by simp [h])

theorem nodup_placeIn (metric : Metric σ α) {metrics : List (Metric σ α)}
    (h : (metrics.map Metric.name).Nodup) : ((metric.placeIn metrics).map Metric.name).Nodup := by
  induction metrics with
  | nil => simp [placeIn]
  | cons first rest ih =>
    obtain ⟨hf, hr⟩ := List.nodup_cons.1 h
    rw [placeIn]
    split
    · next hn => exact List.nodup_cons.2 ⟨hn ▸ hf, hr⟩
    · next hn =>
      refine List.nodup_cons.2 ⟨fun hm => ?_, ih hr⟩
      obtain ⟨other, ho, he⟩ := List.mem_map.1 hm
      rcases name_of_mem_placeIn ho with h | h
      · exact hn (he ▸ h)
      · exact hf (he ▸ h)

end Metric

/-- Metrics with different names, in the order in which their names were added. -/
structure MetricSet (σ α : Type) where
  metrics : List (Metric σ α)
  distinct : (metrics.map Metric.name).Nodup

namespace MetricSet

def empty : MetricSet σ α := ⟨[], by simp⟩

instance : Inhabited (MetricSet σ α) := ⟨empty⟩

/-- Adds a metric, in the place of one with its name. -/
def insert (set : MetricSet σ α) (metric : Metric σ α) : MetricSet σ α :=
  ⟨metric.placeIn set.metrics, metric.nodup_placeIn set.distinct⟩

/-- The set of the given metrics, added one after the other. -/
def ofList (metrics : List (Metric σ α)) : MetricSet σ α :=
  metrics.foldl insert empty

def names (set : MetricSet σ α) : List String := set.metrics.map Metric.name

def size (set : MetricSet σ α) : Nat := set.metrics.length

def isEmpty (set : MetricSet σ α) : Bool := set.metrics.isEmpty

/-- The names of the metrics as one line of text. -/
def description (set : MetricSet σ α) : String := Text.quotedList set.names

end MetricSet

end GroundedQA
