import GroundedQA.Evaluation.Result
import GroundedQA.Format.Document
/-!
# The JSON form of answers and evaluations

Samples, records, batches, responses and results are records with the fields of their types; lists
of reference contexts are left out when there are none. The scores of a sample stand as one more
member in the object of its record.
-/

namespace GroundedQA

open Json

def textsOfJson? : Json → Option (List String) :=
  list? text?

/-- The member for texts that may not be there. -/
def optionalTexts (name : String) (texts : Option (List String)) : List (String × Json) :=
  (texts.map fun texts => (name, Json.texts texts)).toList

/-- Texts that may not be there, out of a field. -/
def optionalTextsOf? : Option Json → Option (Option (List String)) :=
  defaulted? none (nullable? textsOfJson?)

namespace Response

def toJson (response : Response) : Json :=
  .record [("question", .text response.question), ("answer", .text response.answer),
    ("contexts", .texts response.contexts),
    ("source_chunks", .array (response.sourceChunks.map Chunk.toJson))]

def ofJson? (j : Json) : Option Response := do
  let [question, answer, contexts, chunks] ←
    j.fields? [["question"], ["answer"], ["contexts"], ["source_chunks"]] | none
  return {
    question := ← required? text? question
    answer := ← required? text? answer
    contexts := ← required? textsOfJson? contexts
    sourceChunks := ← required? (list? Chunk.ofJson?) chunks }

end Response

namespace Sample

def toJson (sample : Sample) : Json :=
  .record <| [("question", .text sample.question), ("ground_truth", .text sample.groundTruth)] ++
    optionalTexts "contexts" sample.contexts

def ofJson? (j : Json) : Option Sample := do
  let [question, groundTruth, contexts] ←
    j.fields? [["question"], ["ground_truth", "groundTruth"], ["contexts"]] | none
  return {
    question := ← required? text? question
    groundTruth := ← required? text? groundTruth
    contexts := ← optionalTextsOf? contexts }

end Sample

namespace EvaluationRecord

def members (record : EvaluationRecord) : List (String × Json) :=
  [("question", .text record.question), ("answer", .text record.answer),
    ("contexts", .texts record.contexts), ("ground_truth", .text record.groundTruth)] ++
    optionalTexts "reference_contexts" record.referenceContexts

def toJson (record : EvaluationRecord) : Json := .record record.members

def ofJson? (j : Json) : Option EvaluationRecord := do
  let [question, answer, contexts, groundTruth, referenceContexts] ←
    j.fields? [["question"], ["answer"], ["contexts"], ["ground_truth"], ["reference_contexts"]]
    | none
  return {
    question := ← required? text? question
    answer := ← required? text? answer
    contexts := ← required? textsOfJson? contexts
    groundTruth := ← required? text? groundTruth
    referenceContexts := ← optionalTextsOf? referenceContexts }

end EvaluationRecord

namespace Batch

def toJson (batch : Batch) : Json :=
  .record [("records", .array (batch.records.map EvaluationRecord.toJson))]

def ofJson? (j : Json) : Option Batch := do
  let [records] ← j.fields? [["records"]] | none
  return ⟨← required? (list? EvaluationRecord.ofJson?) records⟩

end Batch

def scoresToJson : Dictionary Float → Json :=
  Json.dictionary .float64

def scoresOfJson? : Json → Option (Dictionary Float) :=
  Json.dictionary? float64?

namespace ScoredRecord

/-- The member that holds the scores. -/
def scoresKey : String := "scores"

def toJson (scored : ScoredRecord Float) : Json :=
  .record (scored.record.members ++ [(scoresKey, scoresToJson scored.scores)])

/-- Reads an object that stands inside `depth` others. All of it is read, the members that belong to
neither part included. -/
def ofJson? (depth : Nat) : Json → Option (ScoredRecord Float)
  | .object members => do
    let members ← keyed? members
    let rest := members.filter (·.1 ≠ scoresKey)
    if !rest.all (fun m => m.2.readable (maxDepth - depth - 1)) then none
    let scores ← required? scoresOfJson? (← memberOf? members [scoresKey])
    let record ← EvaluationRecord.ofJson? (.record rest)
    return ⟨record, scores⟩
  | _ => none

end ScoredRecord

namespace EvaluationResult

def toJson (result : EvaluationResult Float) : Json :=
  .record [("run_id", .text result.runId.render), ("faithfulness", .float64 result.faithfulness),
    ("answer_relevancy", .float64 result.answerRelevancy),
    ("context_precision", .float64 result.contextPrecision),
    ("context_recall", .float64 result.contextRecall),
    ("additional", scoresToJson result.additional),
    ("per_sample", .array (result.perSample.map ScoredRecord.toJson)),
    ("sample_count", .nat result.sampleCount), ("evaluated_at", .text result.evaluatedAt.render)]

def ofJson? (j : Json) : Option (EvaluationResult Float) := do
  let [runId, faithfulness, answerRelevancy, contextPrecision, contextRecall, additional, perSample,
      sampleCount, evaluatedAt] ←
    j.fields? [["run_id"], ["faithfulness"], ["answer_relevancy"], ["context_precision"],
      ["context_recall"], ["additional"], ["per_sample"], ["sample_count"], ["evaluated_at"]]
    | none
  return {
    runId := ← Uuid.parse? (← required? text? runId)
    faithfulness := ← required? float64? faithfulness
    answerRelevancy := ← required? float64? answerRelevancy
    contextPrecision := ← required? float64? contextPrecision
    contextRecall := ← required? float64? contextRecall
    additional := ← defaulted? .empty scoresOfJson? additional
    perSample := ← required? (list? (ScoredRecord.ofJson? 2)) perSample
    sampleCount := ← required? word? sampleCount
    evaluatedAt := ← Calendar.Timestamp.parse? (← required? text? evaluatedAt) }

end EvaluationResult

end GroundedQA
