import GroundedQA.Evaluation.Result
import GroundedQA.Proofs.Dictionary
import Mathlib.Data.List.Basic
/-!
# What a result holds

The means of a result are those of the metrics of its set, each once: that of a standard metric by itself,
and `0` when the set does not have it (`coreScore_ofRecords`), that of any other among the additional ones
(`mem_additional_keys`). The name of a metric of the set finds its mean on either side (`score?_ofRecords`).
-/

namespace GroundedQA

namespace CoreMetric

theorem mem_all (metric : CoreMetric) : metric ∈ all := by
  cases metric <;> decide

theorem ofName?_eq_some {name : String} {metric : CoreMetric} : ofName? name = some metric ↔ metric.name = name := by
  constructor
  · intro h
    simpa using List.find?_some h
  · rintro rfl
    cases metric <;> decide

theorem ofName?_eq_none {name : String} : ofName? name = none ↔ ∀ metric : CoreMetric, metric.name ≠ name := by
  simp [ofName?, mem_all]

end CoreMetric

variable {α : Type}

theorem find?_foldl_erase (metrics : List CoreMetric) (d : Dictionary α) (name : String) :
    (metrics.foldl (fun d metric => d.erase metric.name) d).find? name =
      if ∃ metric ∈ metrics, metric.name = name then none else d.find? name := by
  induction metrics generalizing d with
  | nil => simp
  | cons metric metrics ih =>
    rw [List.foldl_cons, ih, Dictionary.find?_erase]
    by_cases hname : metric.name = name
    · simp [hname]
    · simp [hname, Ne.symm hname]

variable [Scalar α]

theorem find?_meanScores {names : List String} (hnames : names.Nodup) (records : List (ScoredRecord α)) (name : String) :
    (meanScores names records).find? name = if name ∈ names then some (meanScore records name) else none := by
  have hkeys : (names.map fun name => (name, meanScore records name)).map (·.1) = names := by
    rw [List.map_map]
    exact List.map_id names
  rw [meanScores, Dictionary.find?_ofList (hkeys.symm ▸ hnames)]
  split
  · next hmem => exact List.lookup_graph _ hmem
  · next hmem =>
    rw [← Option.not_isSome_iff_eq_none, Dictionary.isSome_lookup, hkeys]
    exact hmem

namespace EvaluationResult

section OfRecords

variable (stamp : Stamp) {names : List String} (hnames : names.Nodup) (records : List (ScoredRecord α))
include hnames

theorem coreScore_ofRecords (metric : CoreMetric) :
    (ofRecords stamp names records).coreScore metric =
      if metric.name ∈ names then meanScore records metric.name else 0 := by
  have h : (ofRecords stamp names records).coreScore metric =
      ((meanScores names records).find? metric.name).getD 0 := by
    cases metric <;> rfl
  rw [h, find?_meanScores hnames]
  split <;> rfl

theorem find?_additional (name : String) :
    (ofRecords stamp names records).additional.find? name =
      if name ∈ names ∧ CoreMetric.ofName? name = none then some (meanScore records name) else none := by
  show (CoreMetric.all.foldl (fun means metric => means.erase metric.name) (meanScores names records)).find? name = _
  rw [find?_foldl_erase, find?_meanScores hnames]
  cases hcore : CoreMetric.ofName? name with
  | some metric =>
    rw [if_pos ⟨metric, metric.mem_all, CoreMetric.ofName?_eq_some.1 hcore⟩]
    simp
  | none =>
    rw [if_neg fun ⟨metric, _, hmetric⟩ => CoreMetric.ofName?_eq_none.1 hcore metric hmetric]
    simp

/-- The additional means are those of the metrics of the set that are not standard. -/
theorem mem_additional_keys (name : String) :
    name ∈ (ofRecords stamp names records).additional.keys ↔
      name ∈ names ∧ ∀ metric : CoreMetric, metric.name ≠ name := by
  rw [Dictionary.mem_keys, find?_additional stamp hnames, ← CoreMetric.ofName?_eq_none]
  simp

/-- A name of the set finds the mean of its metric; any other nothing, or `0` when it is that of a standard
metric. -/
theorem score?_ofRecords (name : String) :
    (ofRecords stamp names records).score? name =
      if name ∈ names then some (meanScore records name) else (CoreMetric.ofName? name).map fun _ => 0 := by
  cases hcore : CoreMetric.ofName? name with
  | some metric =>
    have h : (ofRecords stamp names records).score? name = some ((ofRecords stamp names records).coreScore metric) := by
      rw [score?, hcore]
    rw [h, coreScore_ofRecords stamp hnames, CoreMetric.ofName?_eq_some.1 hcore]
    split <;> rfl
  | none =>
    have h : (ofRecords stamp names records).score? name = (ofRecords stamp names records).additional.find? name := by
      rw [score?, hcore]
    rw [h, find?_additional stamp hnames]
    simp [hcore]

end OfRecords

end EvaluationResult

end GroundedQA
