import GroundedQA.Answering.Engine
/-!
# Samples and records

A sample is a question with its reference answer. Once a question has been answered, the sample
and the answer make a record, which is what metrics score.
-/

namespace GroundedQA

/-- A question with the answer it should get, and the contexts that the answer rests on, if given. -/
structure Sample where
  question : String
  groundTruth : String
  contexts : Option (List String)
deriving DecidableEq, Repr

/-- An answered sample, with the retrieved contexts, the best first. -/
structure EvaluationRecord where
  question : String
  answer : String
  contexts : List String
  groundTruth : String
  referenceContexts : Option (List String)
deriving DecidableEq, Repr

/-- The records of one evaluation, in the order of the samples. -/
structure Batch where
  records : List EvaluationRecord
deriving DecidableEq, Repr

/-- A sample with the response that its question got. -/
def Sample.answered (sample : Sample) (response : Response) : EvaluationRecord where
  question := sample.question
  answer := response.answer
  contexts := response.contexts
  groundTruth := sample.groundTruth
  referenceContexts := sample.contexts

end GroundedQA
