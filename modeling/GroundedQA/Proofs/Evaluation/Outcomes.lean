import GroundedQA.Evaluation.Evaluator
import GroundedQA.Proofs.Dictionary
import GroundedQA.Proofs.Failure
/-!
# Outcomes

What the metrics give for the records of a batch, failures included, is a table with a row for each record
and an entry for each name of the set (`records_assessAll`, `names_of_mem_assessAll`). The scores of an
evaluation are the entries of this table as they count (`scored_eq`), so each depends on one of them
(`scoreOf_counted`).
-/

namespace GroundedQA

variable {σ α β γ : Type}

/-! ## Steps that keep what they are given -/

/-- When every step hands on a part of what it is given, all of them do. -/
theorem map_run_mapM {f : α → StateM σ β} (given : α → γ) (kept : β → γ)
    (h : ∀ x s, kept ((f x).run s).1 = given x) (xs : List α) (s : σ) :
    ((xs.mapM f).run s).1.map kept = xs.map given := by
  induction xs generalizing s with
  | nil => rfl
  | cons x xs ih =>
    -- The other steps begin with the state that the first one leaves.
    rw [List.mapM_cons, List.map_cons, ← h x s, ← ih ((f x).run s).2]
    rfl

/-! ## The table -/

/-- A record with what the metrics gave for it, by their names. -/
structure AssessedRecord (α : Type) where
  record : EvaluationRecord
  outcomes : List (String × Except EvaluationError α)

def Metric.assess (metric : Metric σ α) (record : EvaluationRecord) :
    StateM σ (String × Except EvaluationError α) := do
  return (metric.name, ← (metric.score record).run)

namespace MetricSet

/-- What the metrics give for a record, one after the other. -/
def assess (set : MetricSet σ α) (record : EvaluationRecord) : StateM σ (AssessedRecord α) := do
  return ⟨record, ← set.metrics.mapM fun metric => metric.assess record⟩

/-- What the metrics give for all records, one record after the other. -/
def assessAll (set : MetricSet σ α) (records : List EvaluationRecord) : StateM σ (List (AssessedRecord α)) :=
  records.mapM set.assess

variable (set : MetricSet σ α)

theorem nodup_names : set.names.Nodup := set.distinct

theorem records_assessAll (records : List EvaluationRecord) (s : σ) :
    ((set.assessAll records).run s).1.map AssessedRecord.record = records := by
  rw [assessAll, map_run_mapM id _ (fun _ _ => rfl), List.map_id]

theorem names_assess (record : EvaluationRecord) (s : σ) :
    ((set.assess record).run s).1.outcomes.map (·.1) = set.names :=
  map_run_mapM Metric.name _ (fun _ _ => rfl) set.metrics s

/-- Each row of the table has an entry for each metric. -/
theorem names_of_mem_assessAll {records : List EvaluationRecord} {s : σ} {assessed : AssessedRecord α}
    (h : assessed ∈ ((set.assessAll records).run s).1) : assessed.outcomes.map (·.1) = set.names := by
  let entryNames (assessed : AssessedRecord α) : List String := assessed.outcomes.map (·.1)
  have hall : ((set.assessAll records).run s).1.map entryNames = records.map fun _ => set.names :=
    map_run_mapM (f := set.assess) _ entryNames set.names_assess records s
  have hmem : entryNames assessed ∈ records.map fun _ => set.names := hall ▸ List.mem_map_of_mem h
  obtain ⟨_, _, hnames⟩ := List.mem_map.1 hmem
  exact hnames.symm

theorem nodup_of_mem_assessAll {records : List EvaluationRecord} {s : σ} {assessed : AssessedRecord α}
    (h : assessed ∈ ((set.assessAll records).run s).1) : (assessed.outcomes.map (·.1)).Nodup :=
  set.names_of_mem_assessAll h ▸ set.nodup_names

end MetricSet

/-! ## Scores are outcomes as they count -/

variable [Scalar α]

/-- The record with its outcomes as they count. -/
def AssessedRecord.counted (assessed : AssessedRecord α) : ScoredRecord α :=
  ⟨assessed.record, .ofList (assessed.outcomes.map fun entry => (entry.1, countedScore entry.2))⟩

namespace AssessedRecord

variable {assessed : AssessedRecord α} (h : (assessed.outcomes.map (·.1)).Nodup)
include h

theorem find?_counted (name : String) :
    assessed.counted.scores.find? name = (assessed.outcomes.lookup name).map countedScore := by
  rw [counted, Dictionary.find?_ofList (by rwa [Dictionary.keys_map_value]), Dictionary.lookup_map_value]

theorem keys_counted_perm : assessed.counted.scores.keys.Perm (assessed.outcomes.map (·.1)) := by
  rw [← Dictionary.keys_map_value countedScore assessed.outcomes] at h ⊢
  exact Dictionary.keys_ofList_perm h

end AssessedRecord

/-- What the metric of a name gave for the record at a place. -/
def outcomeOf (table : List (AssessedRecord α)) (place : ℕ) (name : String) : Option (Except EvaluationError α) :=
  table[place]?.bind (·.outcomes.lookup name)

/-- The score of the record at a place by the metric of a name. -/
def scoreOf (records : List (ScoredRecord α)) (place : ℕ) (name : String) : Option α :=
  records[place]?.bind (·.scores.find? name)

theorem scoreOf_counted {table : List (AssessedRecord α)} (h : ∀ assessed ∈ table, (assessed.outcomes.map (·.1)).Nodup)
    (place : ℕ) (name : String) :
    scoreOf (table.map AssessedRecord.counted) place name = (outcomeOf table place name).map countedScore := by
  unfold scoreOf outcomeOf
  rw [List.getElem?_map]
  cases hrow : table[place]? with
  | none => rfl
  | some assessed => exact AssessedRecord.find?_counted (h assessed (List.mem_of_getElem? hrow)) name

namespace MetricSet

theorem scoreRecord_eq (set : MetricSet σ α) (record : EvaluationRecord) :
    set.scoreRecord record = AssessedRecord.counted <$> set.assess record := by
  have hentry (metric : Metric σ α) : (do return (metric.name, ← metric.scoreCounted record)) =
      (fun entry => (entry.1, countedScore entry.2)) <$> metric.assess record := by
    simp [Metric.scoreCounted, Metric.assess]
  rw [scoreRecord]
  simp only [hentry, mapM_map_left]
  simp [assess, AssessedRecord.counted]

theorem mapM_scoreRecord (set : MetricSet σ α) (records : List EvaluationRecord) :
    records.mapM set.scoreRecord = List.map AssessedRecord.counted <$> set.assessAll records := by
  rw [assessAll, ← mapM_map_left]
  congr
  funext record
  exact set.scoreRecord_eq record

/-- The records with their scores, when the metrics begin with the given providers. -/
def scored (set : MetricSet σ α) (records : List EvaluationRecord) (providers : σ) : List (ScoredRecord α) :=
  ((records.mapM set.scoreRecord).run providers).1

variable {set : MetricSet σ α} {records : List EvaluationRecord} {providers : σ}

theorem scored_eq :
    set.scored records providers = ((set.assessAll records).run providers).1.map AssessedRecord.counted := by
  rw [scored, mapM_scoreRecord]
  rfl

theorem records_scored : (set.scored records providers).map (·.record) = records := by
  rw [scored_eq, List.map_map]
  exact set.records_assessAll records providers

theorem length_scored : (set.scored records providers).length = records.length := by
  rw [← List.length_map (·.record), records_scored]

/-- Each record has a score for each metric. -/
theorem names_scored {scored : ScoredRecord α} (h : scored ∈ set.scored records providers) :
    scored.scores.keys.Perm set.names := by
  rw [scored_eq] at h
  obtain ⟨assessed, hassessed, rfl⟩ := List.mem_map.1 h
  rw [← set.names_of_mem_assessAll hassessed]
  exact AssessedRecord.keys_counted_perm (set.nodup_of_mem_assessAll hassessed)

end MetricSet

/-- Without records an evaluation is refused; otherwise it succeeds. -/
theorem Evaluator.evaluate_run (evaluator : Evaluator σ α) (stamp : Stamp) (batch : Batch)
    (session : Evaluation.Session σ) :
    (evaluator.evaluate stamp batch).run.run session =
      if batch.records = [] then (.error .noRecords, session)
      else
        (.ok (.ofRecords stamp evaluator.metrics.names (evaluator.metrics.scored batch.records session.world.providers)),
          ⟨.evaluated, { session.world with
            providers := ((batch.records.mapM evaluator.metrics.scoreRecord).run session.world.providers).2 }⟩) := by
  obtain ⟨records⟩ := batch
  cases records with
  | nil => rfl
  | cons record records => rfl

end GroundedQA
