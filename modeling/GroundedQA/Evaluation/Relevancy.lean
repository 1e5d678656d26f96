import GroundedQA.Evaluation.Judge
import GroundedQA.Similarity
/-!
# Answer relevancy

An answer is relevant when questions made from it are close to the question it was given for. A
language model writes such questions, and the score is the mean similarity of their embeddings to
that of the question, but not below `0`. Empty replies are left out; an answer that is blank, or
from which no question was made, scores `0`.
-/

namespace GroundedQA

open Evaluation

variable {σ α : Type}

namespace Evaluation

/-- Asks for a question that the answer responds to. -/
def questionPrompt (answer : String) (attempt : Nat) : String :=
  "Write one question that the following answer responds to. Reply with the question " ++
  "only (attempt " ++ Number.decimal attempt ++ ").\n\n" ++
  s!"Answer: {answer}\n\nQuestion:"

/-- What a reply may put before its question. -/
def questionLabel : String := "Question:"

/-- The question in a reply, without a label. -/
def questionOf (reply : String) : String :=
  let reply := Text.trim reply.toList
  match Text.after? questionLabel.toList reply with
  | some question => .ofList (Text.trim question)
  | none => .ofList reply

/-- The replies to some attempts at a question for an answer, from the given attempt on. -/
def askBackFrom (model : LanguageModel σ) (answer : String) : Nat → Nat → Scoring σ (List String)
  | 0, _ => return []
  | attempts + 1, attempt => do
    let reply ← (model.complete (questionPrompt answer attempt)).toScoring
    return reply :: (← askBackFrom model answer attempts (attempt + 1))

/-- Has the model make questions from an answer, one an attempt; blank ones are left out. -/
def askBack (model : LanguageModel σ) (answer : String) (attempts : Nat) :
    Scoring σ (List String) := do
  let replies ← askBackFrom model answer attempts 1
  return (replies.map questionOf).filter (!·.isEmpty)

variable [Scalar α]

def meanSimilarity (embedding : Embedding) (others : List Embedding) : α :=
  Scalar.mean (others.map fun other => Scalar.ofSimilarity (cosineSimilarity embedding other))

/-- How close the question of a record is to those made from its answer. -/
def scoreRelevancy (model : LanguageModel σ) (embedder : Embedder σ) (attempts : Nat)
    (record : EvaluationRecord) : Scoring σ α := do
  if Text.blank record.answer then return 0
  let questions ← askBack model record.answer attempts
  if questions.isEmpty then return 0
  let asked ← (embedder.embed record.question).toScoring
  let embeddings ← (embedder.embedBatch questions).toScoring
  if embeddings.length ≠ questions.length then
    throw (CoreMetric.answerRelevancy.fault (.embeddingCount questions.length embeddings.length))
  return Scalar.atLeastZero (meanSimilarity asked embeddings)

end Evaluation

/-- How many questions are asked back at least. -/
def leastStrictness (strictness : Nat) : Nat := max strictness 1

variable [Scalar α]

/-- How close questions made from the answer are to the question; one is made at least. -/
def Metric.answerRelevancy (model : LanguageModel σ) (embedder : Embedder σ) (strictness : Nat) :
    Metric σ α where
  name := CoreMetric.answerRelevancy.name
  score := scoreRelevancy model embedder (leastStrictness strictness)

/-- The four standard metrics, with one model as judge. -/
def MetricSet.standard (judge : LanguageModel σ) (embedder : Embedder σ) (strictness : Nat) :
    MetricSet σ α :=
  .ofList [.faithfulness judge, .answerRelevancy judge embedder strictness, .contextPrecision judge,
    .contextRecall judge]

end GroundedQA
