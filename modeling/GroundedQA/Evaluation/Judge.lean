import GroundedQA.Evaluation.Metric
import GroundedQA.Evaluation.Statements
import GroundedQA.Evaluation.Verdict
/-!
# Metrics that ask a judge

Three of the standard metrics put one question for each of a list of items to a language model and
score its verdicts. Faithfulness asks of each statement of the answer, and context recall of each
statement of the reference answer, whether the contexts support it; they score the part of the
statements that got a yes. Context precision asks of each context whether it was useful, and scores
the average precision of the verdicts, which is high when the useful contexts stand in front.

The judge is asked in the order of the items, and no more after the first reply without a verdict.
-/

namespace GroundedQA

open Evaluation

variable {σ α : Type}

namespace Evaluation

def numberedContexts (contexts : List String) : String :=
  "\n\n".intercalate <| contexts.zipIdx.map fun (context, i) =>
    s!"[{Number.decimal (i + 1)}] {Text.stripped context}"

/-- Asks whether the contexts support a statement. -/
def supportPrompt (context statement : String) : String :=
  "Consider the given context and the following statement, then determine whether the " ++
  "statement is supported by the information present in the context.\n\n" ++
  s!"Context:\n{context}\n\nStatement: {statement}\n\nAnswer with a single word, Yes or No."

/-- Asks whether a statement of the reference answer can be drawn from the contexts. -/
def attributionPrompt (question context statement : String) : String :=
  "Given a question, a context and a statement taken from the reference answer, decide " ++
  "whether the statement can be attributed to the context.\n\n" ++
  s!"Question: {question}\n\nContext:\n{context}\n\nStatement: {statement}\n\n" ++
  "Answer with a single word, Yes or No."

/-- Asks whether a context was useful. -/
def usefulnessPrompt (question context groundTruth : String) : String :=
  "Given a question, a reference answer and a context, verify whether the context was " ++
  "useful in arriving at the reference answer.\n\n" ++
  s!"Question: {question}\n\nContext: {context}\n\nReference answer: {groundTruth}\n\n" ++
  "Answer with a single word, Yes or No."

/-- Puts a prompt to the judge and reads its verdict. -/
def askJudge (metric : CoreMetric) (judge : LanguageModel σ) (prompt : String) : Scoring σ Bool := do
  let reply ← (judge.complete prompt).toScoring
  match readVerdict reply with
  | .ok verdict => return verdict
  | .error fault => throw (metric.fault fault)

/-- The verdicts on all prompts, in their order. -/
def askAll (metric : CoreMetric) (judge : LanguageModel σ) (prompts : List String) :
    Scoring σ (List Bool) :=
  prompts.mapM (askJudge metric judge)

variable [Scalar α]

/-- The part of the verdicts that are yes. -/
def partTrue (verdicts : List Bool) : α :=
  Scalar.fraction (verdicts.count true) verdicts.length

/-- The average precision of verdicts in the order of rank, when of `rank` verdicts before them
`relevant` were yes, with precisions that add up to `weighted`. -/
def averagePrecisionFrom (relevant rank : Nat) (weighted : α) : List Bool → α
  | [] => if relevant = 0 then 0 else weighted / Scalar.ofNat relevant
  | true :: verdicts =>
    averagePrecisionFrom (relevant + 1) (rank + 1)
      (weighted + Scalar.fraction (relevant + 1) (rank + 1)) verdicts
  | false :: verdicts => averagePrecisionFrom relevant (rank + 1) weighted verdicts

/-- The mean, over the ranks with a yes, of the part of yes among the verdicts up to there. -/
def averagePrecision (verdicts : List Bool) : α :=
  averagePrecisionFrom 0 0 0 verdicts

/-- The part of the statements of `text` that get a yes to their prompts: undefined when there are
no statements, and `0` when there are no contexts. -/
def scoreStatements (metric : CoreMetric) (judge : LanguageModel σ) (text : String)
    (contexts : List String) (prompt : String → String → String) : Scoring σ α := do
  let items := statements text
  if items.isEmpty then return Scalar.undefined
  if contexts.isEmpty then return 0
  let context := numberedContexts contexts
  return partTrue (← askAll metric judge (items.map (prompt context)))

end Evaluation

namespace Metric

variable [Scalar α]

/-- The part of the statements of the answer that the contexts support. -/
def faithfulness (judge : LanguageModel σ) : Metric σ α where
  name := CoreMetric.faithfulness.name
  score record := scoreStatements .faithfulness judge record.answer record.contexts supportPrompt

/-- The part of the statements of the reference answer that the contexts support. -/
def contextRecall (judge : LanguageModel σ) : Metric σ α where
  name := CoreMetric.contextRecall.name
  score record := scoreStatements .contextRecall judge record.groundTruth record.contexts
    (attributionPrompt record.question)

/-- The average precision of the contexts. -/
def contextPrecision (judge : LanguageModel σ) : Metric σ α where
  name := CoreMetric.contextPrecision.name
  score record := do
    let prompts := record.contexts.map (usefulnessPrompt record.question · record.groundTruth)
    return averagePrecision (← askAll .contextPrecision judge prompts)

end Metric

end GroundedQA
