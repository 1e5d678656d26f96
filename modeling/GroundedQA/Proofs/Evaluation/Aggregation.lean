import GroundedQA.Proofs.Evaluation.Exact
import GroundedQA.Proofs.Evaluation.Outcomes
import GroundedQA.Proofs.Evaluation.Results
import GroundedQA.Proofs.Index.Searches
/-!
# Aggregation

An evaluation scores every record by every metric and takes the mean of each metric. Over exact numbers its
result is determined by the outcomes of the metrics (`EvaluationResult.Aggregates`), and one outcome bears
on one score and on the mean of one metric.
-/

namespace GroundedQA

variable {σ : Type}

/-! ## Means -/

/-- A mean is made of what the records have under the name. -/
theorem meanScore_eq_column (records : List (ScoredRecord Exact)) (name : String) :
    meanScore records name =
      Number.sum ((records.map (·.scores.find? name)).filterMap id) / Scalar.ofNat records.length := by
  rw [List.filterMap_map]
  rfl

/-- The mean of a metric is that of the scores in its column. -/
theorem meanScore_eq {records : List (ScoredRecord Exact)} {name : String} {scores : List ℚ}
    (hcolumn : records.map (·.scores.find? name) = scores.map fun x => some (.finite x)) (hne : records ≠ []) :
    meanScore records name = .finite (scores.sum / scores.length) := by
  have hlength : records.length = scores.length := by
    simpa using congrArg List.length hcolumn
  have hpresent : (scores.map fun x => some (Exact.finite x)).filterMap id = scores.map .finite := by
    rw [List.filterMap_map, ← List.filterMap_eq_map]
    rfl
  have hpos : (scores.length : ℚ) ≠ 0 := by
    rw [← hlength]
    exact_mod_cast (List.length_pos_iff.2 hne).ne'
  rw [meanScore_eq_column, hcolumn, hpresent, Exact.sum_finite, hlength]
  exact Exact.finite_div _ hpos

/-- A mean only depends on the scores of its metric. -/
theorem meanScore_congr {records others : List (ScoredRecord Exact)} (name : String)
    (hlength : records.length = others.length) (h : ∀ place, scoreOf records place name = scoreOf others place name) :
    meanScore records name = meanScore others name := by
  have hcolumn : records.map (·.scores.find? name) = others.map (·.scores.find? name) := by
    apply List.ext_getElem (by simpa using hlength)
    intro place hplace hplace'
    have hscore := h place
    rw [List.length_map] at hplace hplace'
    rw [scoreOf, scoreOf, List.getElem?_eq_getElem hplace, List.getElem?_eq_getElem hplace'] at hscore
    simpa using hscore
  rw [meanScore_eq_column, meanScore_eq_column, hcolumn, hlength]

/-! ## What a result aggregates -/

/-- The result holds each record with the score of each metric, which is the outcome as it counts, and of each
metric the mean of its scores. -/
structure EvaluationResult.Aggregates (result : EvaluationResult Exact) (names : List String)
    (records : List EvaluationRecord) (outcome : ℕ → String → Option (Except EvaluationError Exact)) : Prop where
  records_eq : result.perSample.map (·.record) = records
  names_perm : ∀ scored ∈ result.perSample, scored.scores.keys.Perm names
  score_eq : ∀ place name, scoreOf result.perSample place name =
    (outcome place name).map fun outcome => .finite (Exact.counted outcome)
  mean_eq : ∀ name ∈ names, ∃ scores : List ℚ,
    result.perSample.map (·.scores.find? name) = scores.map (fun x => some (.finite x)) ∧
    result.score? name = some (.finite (scores.sum / scores.length)) ∧
    0 ≤ scores.sum / scores.length ∧ scores.sum / scores.length ≤ 1
  absent : ∀ metric : CoreMetric, metric.name ∉ names → result.coreScore metric = .finite 0
  additional_iff : ∀ name, name ∈ result.additional.keys ↔ name ∈ names ∧ ∀ metric : CoreMetric, metric.name ≠ name
  sampleCount_eq : result.sampleCount = records.length

/-- Two tables that differ in one entry at most. -/
def AgreeExcept {β : Type} (place : ℕ) (name : String) (f g : ℕ → String → β) : Prop :=
  ∀ otherPlace otherName, (otherPlace, otherName) ≠ (place, name) → f otherPlace otherName = g otherPlace otherName

namespace MetricSet

variable (set : MetricSet σ Exact) (records : List EvaluationRecord) (providers : σ)

/-- The outcomes of the metrics for the records. -/
def outcomes : ℕ → String → Option (Except EvaluationError Exact) :=
  outcomeOf ((set.assessAll records).run providers).1

variable {set records providers}

theorem scoreOf_scored (place : ℕ) (name : String) :
    scoreOf (set.scored records providers) place name =
      (set.outcomes records providers place name).map fun outcome => .finite (Exact.counted outcome) := by
  have hcounted : countedScore = fun outcome => Exact.finite (Exact.counted outcome) := funext Exact.countedScore_eq
  rw [scored_eq, scoreOf_counted fun _ => set.nodup_of_mem_assessAll, hcounted]
  rfl

variable (set records providers) in
/-- Each metric of the set has a column of scores, which are within `0` and `1`. -/
theorem column_scored {name : String} (hname : name ∈ set.names) :
    ∃ scores : List ℚ,
      (set.scored records providers).map (·.scores.find? name) = scores.map (fun x => some (.finite x)) ∧
      ∀ x ∈ scores, 0 ≤ x ∧ x ≤ 1 := by
  let score (assessed : AssessedRecord Exact) : ℚ := (assessed.outcomes.lookup name).elim 0 Exact.counted
  refine ⟨((set.assessAll records).run providers).1.map score, ?_, ?_⟩
  · rw [scored_eq, List.map_map, List.map_map]
    apply List.map_congr_left
    intro assessed hassessed
    -- Each row has an entry for each name, so the lookup finds one.
    have hmem : name ∈ assessed.outcomes.map (·.1) := set.names_of_mem_assessAll hassessed ▸ hname
    obtain ⟨outcome, houtcome⟩ := Option.isSome_iff_exists.1 (Dictionary.isSome_lookup.2 hmem)
    have hscore : score assessed = Exact.counted outcome := congrArg (Option.elim · 0 Exact.counted) houtcome
    show assessed.counted.scores.find? name = some (.finite (score assessed))
    rw [AssessedRecord.find?_counted (set.nodup_of_mem_assessAll hassessed), houtcome, hscore, ← Exact.countedScore_eq]
    rfl
  · intro x hx
    obtain ⟨assessed, -, rfl⟩ := List.mem_map.1 hx
    show 0 ≤ (assessed.outcomes.lookup name).elim 0 Exact.counted ∧
      (assessed.outcomes.lookup name).elim 0 Exact.counted ≤ 1
    cases assessed.outcomes.lookup name with
    | none => exact ⟨le_rfl, zero_le_one⟩
    | some outcome => exact ⟨Exact.counted_nonneg outcome, Exact.counted_le_one outcome⟩

end MetricSet

/-- The result over scored records aggregates the outcomes that the scores come from. -/
theorem EvaluationResult.aggregates_ofRecords (stamp : Stamp) (set : MetricSet σ Exact)
    {records : List EvaluationRecord} (hne : records ≠ []) (providers : σ) :
    (ofRecords stamp set.names (set.scored records providers)).Aggregates set.names records
      (set.outcomes records providers) where
  records_eq := MetricSet.records_scored
  names_perm _ := MetricSet.names_scored
  score_eq := MetricSet.scoreOf_scored
  mean_eq name hname := by
    obtain ⟨scores, hcolumn, hunit⟩ := set.column_scored records providers hname
    have hscored : set.scored records providers ≠ [] := by
      rw [← List.length_pos_iff, MetricSet.length_scored]
      exact List.length_pos_iff.2 hne
    refine ⟨scores, hcolumn, ?_, Exact.mean_mem_unit hunit⟩
    rw [score?_ofRecords stamp set.nodup_names, if_pos hname, meanScore_eq hcolumn hscored]
  absent metric hmetric := by
    rw [coreScore_ofRecords stamp set.nodup_names, if_neg hmetric, Exact.zero_eq]
  additional_iff := mem_additional_keys stamp set.nodup_names _
  sampleCount_eq := MetricSet.length_scored

/-! ## One outcome bears on one score and one mean -/

section Frame

variable {τ : Type} {set : MetricSet σ Exact} {other : MetricSet τ Exact} {records : List EvaluationRecord}
  {providers : σ} {otherProviders : τ} {place : ℕ} {name : String}
  (h : AgreeExcept place name (set.outcomes records providers) (other.outcomes records otherProviders))
include h

theorem MetricSet.scoreOf_agreeExcept :
    AgreeExcept place name (scoreOf (set.scored records providers)) (scoreOf (other.scored records otherProviders)) := by
  intro otherPlace otherName hne
  rw [scoreOf_scored, scoreOf_scored, h otherPlace otherName hne]

theorem EvaluationResult.score?_agreeExcept (hnames : other.names = set.names) (stamp otherStamp : Stamp)
    {otherName : String} (hne : otherName ≠ name) :
    (ofRecords stamp set.names (set.scored records providers)).score? otherName =
      (ofRecords otherStamp other.names (other.scored records otherProviders)).score? otherName := by
  have hlength : (set.scored records providers).length = (other.scored records otherProviders).length := by
    rw [MetricSet.length_scored, MetricSet.length_scored]
  have hmean := meanScore_congr otherName hlength fun otherPlace =>
    MetricSet.scoreOf_agreeExcept h otherPlace otherName fun heq => hne (congrArg Prod.snd heq)
  rw [score?_ofRecords stamp set.nodup_names, score?_ofRecords otherStamp other.nodup_names, hnames, hmean]

end Frame

namespace Evaluator

/-- An evaluation of a batch that is not empty succeeds, whatever its metrics do, with a result that
aggregates their outcomes. Where an evaluation by metrics of the same names has one other outcome, no other
score and the mean of no other metric is different. -/
theorem evaluate_aggregates (evaluator : Evaluator σ Exact) (stamp : Stamp) {batch : Batch} (hne : batch.records ≠ [])
    (session : Evaluation.Session σ) :
    ∃ result providers,
      (evaluator.evaluate stamp batch).run.run session =
        (.ok result, ⟨.evaluated, { session.world with providers }⟩) ∧
      result.Aggregates evaluator.metrics.names batch.records
        (evaluator.metrics.outcomes batch.records session.world.providers) ∧
      ∀ {τ : Type} (other : Evaluator τ Exact) (otherStamp : Stamp) (otherSession : Evaluation.Session τ)
        (place : ℕ) (name : String), other.metrics.names = evaluator.metrics.names →
        AgreeExcept place name (evaluator.metrics.outcomes batch.records session.world.providers)
          (other.metrics.outcomes batch.records otherSession.world.providers) →
        ∃ otherResult, ((other.evaluate otherStamp batch).run.run otherSession).1 = .ok otherResult ∧
          AgreeExcept place name (scoreOf result.perSample) (scoreOf otherResult.perSample) ∧
          ∀ otherName, otherName ≠ name → result.score? otherName = otherResult.score? otherName := by
  have hrun := evaluator.evaluate_run stamp batch session
  rw [if_neg hne] at hrun
  refine ⟨_, _, hrun, EvaluationResult.aggregates_ofRecords stamp _ hne _, ?_⟩
  intro τ other otherStamp otherSession place name hnames hagree
  have hother := other.evaluate_run otherStamp batch otherSession
  rw [if_neg hne] at hother
  refine ⟨_, congrArg Prod.fst hother, MetricSet.scoreOf_agreeExcept hagree, ?_⟩
  intro otherName hotherName
  exact EvaluationResult.score?_agreeExcept hagree hnames stamp otherStamp hotherName

/-- Two records to score. -/
def twoRecords : Batch :=
  ⟨[⟨"q1", "a", [], "g", none⟩, ⟨"q2", "b", [], "g", none⟩]⟩

/-- An evaluator of two metrics. The first gives `first` for the first record and fails for the second; the
other one gives no number for the first. -/
def scoringFirst (first : Except EvaluationError Exact) : Evaluator Unit Exact where
  engine := ⟨⟨1, Nat.one_pos⟩, ⟨fun _ => pure "reply"⟩, .standard⟩
  metrics := {
    metrics := [
      ⟨"faithfulness", fun record => ExceptT.mk (pure (if record.question = "q1" then first else .error .noSamples))⟩,
      ⟨"brevity", fun record => pure (if record.question = "q1" then .nan else .finite (1 / 4))⟩]
    distinct := by simp }
  settings := {}

/-- Before the records are scored. -/
def answered : Evaluation.Session Unit := ⟨.dataPrepared, ⟨VectorIndex.axes, ()⟩⟩

def morning : Stamp := ⟨⟨1⟩, ⟨⟨2024, 2, 29⟩, 28800, 0⟩⟩

theorem outcomes_scoringFirst (first : Except EvaluationError Exact) :
    (scoringFirst first).metrics.outcomes twoRecords.records () =
      outcomeOf [⟨⟨"q1", "a", [], "g", none⟩, [("faithfulness", first), ("brevity", .ok .nan)]⟩,
        ⟨⟨"q2", "b", [], "g", none⟩, [("faithfulness", .error .noSamples), ("brevity", .ok (.finite (1 / 4)))]⟩] :=
  rfl

theorem agreeExcept_scoringFirst (first other : Except EvaluationError Exact) :
    AgreeExcept 0 "faithfulness" ((scoringFirst first).metrics.outcomes twoRecords.records ())
      ((scoringFirst other).metrics.outcomes twoRecords.records ()) := by
  intro place name hne
  rw [outcomes_scoringFirst, outcomes_scoringFirst]
  cases place with
  | zero =>
    have hname : name ≠ "faithfulness" := fun h => hne (by rw [h])
    exact (Dictionary.lookup_tail (e := ("faithfulness", first)) hname _).trans
      (Dictionary.lookup_tail (e := ("faithfulness", other)) hname _).symm
  | succ place => rfl

theorem evaluate_aggregates_twoRecords :
    twoRecords.records ≠ [] ∧ ∃ result other,
      (((scoringFirst (.ok (.finite (17 / 10)))).evaluate morning twoRecords).run.run answered).1 = .ok result ∧
      (((scoringFirst (.error .noSamples)).evaluate morning twoRecords).run.run answered).1 = .ok other ∧
      result.Aggregates ["faithfulness", "brevity"] twoRecords.records
        ((scoringFirst (.ok (.finite (17 / 10)))).metrics.outcomes twoRecords.records ()) ∧
      AgreeExcept 0 "faithfulness" (scoreOf result.perSample) (scoreOf other.perSample) ∧
      result.score? "brevity" = other.score? "brevity" := by
  have hne : twoRecords.records ≠ [] := by decide
  obtain ⟨result, providers, hrun, haggregates, hframe⟩ :=
    evaluate_aggregates (scoringFirst (.ok (.finite (17 / 10)))) morning hne answered
  obtain ⟨other, hother, hscores, hmeans⟩ := hframe (scoringFirst (.error .noSamples)) morning answered 0
    "faithfulness" rfl (agreeExcept_scoringFirst _ _)
  exact ⟨hne, result, other, congrArg Prod.fst hrun, hother, haggregates, hscores, hmeans "brevity" (by decide)⟩

example : (((scoringFirst (.ok (.finite (17 / 10)))).evaluate morning twoRecords).run.run answered).1.toOption.map
    (fun result => ["faithfulness", "brevity", "context_recall"].map result.score?) =
      some [some (.finite (1 / 2)), some (.finite (1 / 8)), some (.finite 0)] := by
  decide +kernel

end Evaluator

end GroundedQA
