import GroundedQA.Evaluation.Result
import GroundedQA.Number.Places
/-!
# Reports

A report shows the means of an evaluation, with four decimal places, the overall score, and what
band of quality that falls into. It depends on nothing else of the result.
-/

namespace GroundedQA

/-- What an overall score says about quality. -/
inductive QualityBand where
  | excellent
  | good
  | fair
  | needsImprovement
deriving DecidableEq, Repr

namespace QualityBand

/-- The band of a score; the lowest also takes what is no number. -/
def ofScore (score : Float) : QualityBand :=
  if 0.8 ≤ score then .excellent
  else if 0.6 ≤ score then .good
  else if 0.4 ≤ score then .fair
  else .needsImprovement

def label : QualityBand → String
  | .excellent => "Excellent"
  | .good => "Good"
  | .fair => "Fair"
  | .needsImprovement => "Needs improvement"

/-- What to make of a band. -/
def summary : QualityBand → String
  | .excellent => "the RAG system performs well across all metrics."
  | .good => "the RAG system performs well, with room for improvement."
  | .fair => "consider tuning retrieval and generation."
  | .needsImprovement => "retrieval and generation need significant work."

end QualityBand

/-- The display name of a standard metric. -/
def CoreMetric.title : CoreMetric → String
  | .faithfulness => "Faithfulness"
  | .answerRelevancy => "Answer Relevancy"
  | .contextPrecision => "Context Precision"
  | .contextRecall => "Context Recall"

/-- What a standard metric measures. -/
def CoreMetric.explanation : CoreMetric → String
  | .faithfulness => "consistency of the answer with the retrieved contexts"
  | .answerRelevancy => "how directly the answer addresses the question"
  | .contextPrecision => "whether useful contexts are ranked first"
  | .contextRecall => "coverage of the reference answer by the contexts"

namespace Report

/-- The line around a report. -/
def heavyRule : String := .ofList (List.replicate 60 '=')

/-- The line under a heading. -/
def lightRule : String := .ofList (List.replicate 40 '-')

/-- The lines about a standard metric. -/
def coreLines (entry : CoreMetric × Float) : List String :=
  let (metric, score) := entry
  [s!"{metric.title} ({metric.name}): {Number.fourPlaces score}", s!"  - {metric.explanation}", ""]

/-- The lines about any other metric. -/
def additionalLines (entry : String × Float) : List String :=
  let (name, score) := entry
  [s!"{name}: {Number.fourPlaces score}", ""]

def lines (result : EvaluationResult Float) : List String :=
  let overall := result.overall
  let band := QualityBand.ofScore overall
  [heavyRule, "RAG Evaluation Report", heavyRule, "",
    s!"Samples evaluated: {Number.decimal result.sampleCount}", "", "Metrics", lightRule] ++
  result.coreScores.flatMap coreLines ++
  result.additional.entries.flatMap additionalLines ++
  [lightRule, s!"Overall score: {Number.fourPlaces overall}", "", "Assessment", lightRule,
    s!"{band.label}: {band.summary}", "", heavyRule]

end Report

def EvaluationResult.report (result : EvaluationResult Float) : String :=
  "\n".intercalate (Report.lines result)

end GroundedQA
