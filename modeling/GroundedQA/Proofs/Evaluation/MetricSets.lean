import GroundedQA.Evaluation.Relevancy
import GroundedQA.Proofs.Evaluation.Exact
import GroundedQA.Proofs.Evaluation.Outcomes
import Mathlib.Data.List.Induction
/-!
# A set of metrics stays a set

A metric that is added takes the place of the one with its name, or comes last. So the names of a set are those that
were ever added, each once and in the order of first addition (`names_foldl_insert`), and under each name it holds the
metric that was added last (`find?_foldl_insert`). An evaluation by the set then gives each record one score for each
metric.
-/

namespace GroundedQA

variable {σ α : Type}

/-! ## Adding one metric -/

namespace Metric

variable (metric : Metric σ α) (metrics : List (Metric σ α))

/-- A name that is there keeps its place; a new one comes last. -/
theorem map_name_placeIn :
    (metric.placeIn metrics).map Metric.name =
      if metric.name ∈ metrics.map Metric.name then metrics.map Metric.name
      else metrics.map Metric.name ++ [metric.name] := by
  induction metrics with
  | nil => rfl
  | cons first rest ih =>
    rw [placeIn]
    split
    · next hsame => simp [hsame]
    · next hother =>
      rw [List.map_cons, List.map_cons, ih]
      by_cases hrest : metric.name ∈ rest.map Metric.name
      · rw [if_pos hrest, if_pos (List.mem_cons_of_mem _ hrest)]
      · have hnew : metric.name ∉ first.name :: rest.map Metric.name :=
          List.not_mem_cons_of_ne_of_not_mem (Ne.symm hother) hrest
        rw [if_neg hrest, if_neg hnew]
        rfl

/-- The metric is found under its name, and under any other name what was there. -/
theorem find?_placeIn (name : String) :
    (metric.placeIn metrics).find? (·.name = name) =
      if metric.name = name then some metric else metrics.find? (·.name = name) := by
  induction metrics with
  | nil =>
    rw [placeIn, List.find?_cons]
    split <;> simp_all
  | cons first rest ih =>
    rw [placeIn]
    split
    · next hsame =>
      by_cases hname : metric.name = name
      · rw [if_pos hname, List.find?_cons_of_pos (by simpa using hname)]
      · rw [if_neg hname, List.find?_cons_of_neg (by simpa using hname),
          List.find?_cons_of_neg (by simpa [hsame] using hname)]
    · next hother =>
      by_cases hfirst : first.name = name
      · have hname : metric.name ≠ name := fun h => hother (hfirst.trans h.symm)
        rw [if_neg hname, List.find?_cons_of_pos (by simpa using hfirst),
          List.find?_cons_of_pos (by simpa using hfirst)]
      · rw [List.find?_cons_of_neg (by simpa using hfirst), List.find?_cons_of_neg (by simpa using hfirst), ih]

end Metric

/-! ## Adding one metric after the other -/

/-- Of several equal texts the first is kept. -/
theorem eraseDups_concat (names : List String) (name : String) :
    (names ++ [name]).eraseDups = if name ∈ names then names.eraseDups else names.eraseDups ++ [name] := by
  rw [List.eraseDups_append]
  by_cases hmem : name ∈ names
  · simp [List.removeAll, hmem]
  · simp [List.removeAll, hmem, List.eraseDups_cons]

namespace MetricSet

theorem foldl_insert_concat (set : MetricSet σ α) (added : List (Metric σ α)) (metric : Metric σ α) :
    (added ++ [metric]).foldl insert set = (added.foldl insert set).insert metric :=
  List.foldl_concat ..

theorem names_foldl_insert (added : List (Metric σ α)) :
    (added.foldl insert empty).names = (added.map Metric.name).eraseDups := by
  induction added using List.reverseRecOn with
  | nil => rfl
  | append_singleton added metric ih =>
    have hinsert : ((added.foldl insert empty).insert metric).names =
        if metric.name ∈ (added.foldl insert empty).names then (added.foldl insert empty).names
        else (added.foldl insert empty).names ++ [metric.name] := metric.map_name_placeIn _
    rw [foldl_insert_concat, hinsert, ih, List.map_append, List.map_singleton, eraseDups_concat]
    simp only [List.mem_eraseDups]

theorem find?_foldl_insert (added : List (Metric σ α)) (name : String) :
    (added.foldl insert empty).metrics.find? (·.name = name) = added.findRev? (·.name = name) := by
  induction added using List.reverseRecOn with
  | nil => rfl
  | append_singleton added metric ih =>
    have hinsert := metric.find?_placeIn (added.foldl insert empty).metrics name
    rw [foldl_insert_concat, List.findRev?_eq_find?_reverse, List.reverse_concat, List.find?_cons,
      ← List.findRev?_eq_find?_reverse, ← ih]
    refine hinsert.trans ?_
    split <;> simp_all

/-! ## Evaluating by a set -/

variable [Scalar α]

theorem length_scores_of_mem_scored {set : MetricSet σ α} {records : List EvaluationRecord} {providers : σ}
    {scored : ScoredRecord α} (h : scored ∈ set.scored records providers) : scored.scores.entries.length = set.size :=
  calc scored.scores.entries.length
      = scored.scores.keys.length := (List.length_map _).symm
    _ = set.names.length := (names_scored h).length_eq
    _ = set.size := List.length_map _

/-- An evaluation by the set gives each record exactly one score for each metric, whatever the metrics do. -/
def ScoresEach (set : MetricSet σ α) : Prop :=
  ∀ (engine : Engine σ) (settings : EvaluationSettings) (stamp : Stamp) (batch : Batch)
    (session : Evaluation.Session σ), batch.records ≠ [] →
      ∃ result session', (Evaluator.evaluate ⟨engine, set, settings⟩ stamp batch).run.run session =
          (.ok result, session') ∧
        result.perSample.map (·.record) = batch.records ∧
        ∀ scored ∈ result.perSample, scored.scores.keys.Perm set.names ∧ scored.scores.entries.length = set.size

theorem scoresEach (set : MetricSet σ α) : set.ScoresEach := by
  intro engine settings stamp batch session hne
  have hrun := Evaluator.evaluate_run ⟨engine, set, settings⟩ stamp batch session
  rw [if_neg hne] at hrun
  refine ⟨_, _, hrun, records_scored, fun scored hscored => ?_⟩
  exact ⟨names_scored hscored, length_scores_of_mem_scored hscored⟩

/-! ## The set that is gathered -/

/-- What a set of metrics is when those of a list were added, one after the other. -/
structure Gathers (set : MetricSet σ α) (added : List (Metric σ α)) : Prop where
  nodup_names : set.names.Nodup
  /-- The names are those ever added, each where it was added first. -/
  names_eq : set.names = (added.map Metric.name).eraseDups
  map_name : set.metrics.map Metric.name = set.names
  length_metrics : set.metrics.length = set.size
  length_names : set.names.length = set.size
  /-- Under each name is the metric that was added last under it, and none under any other. -/
  held : ∀ name, set.metrics.find? (·.name = name) = added.findRev? (·.name = name)
  scores : set.ScoresEach

theorem foldl_insert_gathers_empty (added : List (Metric σ α)) : (added.foldl insert empty).Gathers added where
  nodup_names := (added.foldl insert empty).nodup_names
  names_eq := names_foldl_insert added
  map_name := rfl
  length_metrics := rfl
  length_names := List.length_map _
  held := find?_foldl_insert added
  scores := scoresEach _

/-- Whatever metrics are added to the empty set or to the standard one, in whatever order and under whatever names, the
set has each name once, in the order of first addition, and the metric that was added last under it; and an evaluation
gives each record as many scores as there are metrics. -/
theorem foldl_insert_gathers (added : List (Metric σ α)) (judge : LanguageModel σ) (embedder : Embedder σ)
    (strictness : ℕ) :
    (added.foldl insert empty).Gathers added ∧
    (added.foldl insert (standard judge embedder strictness)).Gathers
      ([.faithfulness judge, .answerRelevancy judge embedder strictness, .contextPrecision judge,
        .contextRecall judge] ++ added) := by
  refine ⟨foldl_insert_gathers_empty added, ?_⟩
  rw [standard, ofList, ← List.foldl_append]
  exact foldl_insert_gathers_empty _

/-- A metric that gives every record the same score. -/
def scoringAll (name : String) (score : ℚ) : Metric Unit Exact := ⟨name, fun _ => pure (.finite score)⟩

def silentModel : LanguageModel Unit := ⟨fun _ => pure ""⟩

/-- The standard metrics, with another one under the first name, and two under one new name. -/
def revised : MetricSet Unit Exact :=
  [scoringAll "brevity" (1 / 4), scoringAll "faithfulness" (1 / 2), scoringAll "brevity" (3 / 4)].foldl insert
    (standard silentModel (.oneByOne 1 fun _ => pure [1]) 3)

def oneRecord : Batch := ⟨[⟨"q", "a", ["c"], "g", none⟩]⟩

theorem foldl_insert_gathers_revised :
    revised.names = ["faithfulness", "answer_relevancy", "context_precision", "context_recall", "brevity"] ∧
    revised.metrics.find? (·.name = "faithfulness") = some (scoringAll "faithfulness" (1 / 2)) ∧
    revised.metrics.find? (·.name = "brevity") = some (scoringAll "brevity" (3 / 4)) ∧
    oneRecord.records ≠ [] ∧
    ∀ (engine : Engine Unit) (stamp : Stamp) (session : Evaluation.Session Unit), ∃ result session',
      (Evaluator.evaluate ⟨engine, revised, {}⟩ stamp oneRecord).run.run session = (.ok result, session') ∧
      ∀ scored ∈ result.perSample, scored.scores.entries.length = 5 := by
  have hne : oneRecord.records ≠ [] := by decide
  have h := (foldl_insert_gathers
    [scoringAll "brevity" (1 / 4), scoringAll "faithfulness" (1 / 2), scoringAll "brevity" (3 / 4)] silentModel
    (.oneByOne 1 fun _ => pure [1]) 3).2
  refine ⟨h.names_eq.trans (by decide), h.held "faithfulness", h.held "brevity", hne, fun engine stamp session => ?_⟩
  obtain ⟨result, session', hrun, -, hscores⟩ := h.scores engine {} stamp oneRecord session hne
  exact ⟨result, session', hrun, fun scored hscored => (hscores scored hscored).2⟩

end MetricSet

end GroundedQA
