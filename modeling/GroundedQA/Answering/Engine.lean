import GroundedQA.Answering.Retriever
import GroundedQA.Answering.Template
/-!
# Answering questions

An engine retrieves chunks for a question, puts their texts and the question into a prompt, and has
a language model complete it. The answer comes with the contexts that it was made from.
-/

namespace GroundedQA

/-- The answer to a question, with the chunks that it was made from, the best first. -/
structure Response where
  question : String
  answer : String
  contexts : List String
  sourceChunks : List Chunk
deriving DecidableEq

/-- What answers questions. -/
structure Engine (σ : Type) where
  retriever : Retriever
  model : LanguageModel σ
  template : Template := .standard

/-- A part without which nothing can be built. -/
def requiredPart {α : Type} (name : String) (part : Option α) : Except ConfigFault α :=
  match part with
  | some part => .ok part
  | none => .error (.missingPart name)

variable {σ : Type}

namespace Engine

/-- The engine of the given parts; without a template it has the standard one. -/
def build (retriever : Option Retriever) (model : Option (LanguageModel σ))
    (template : Option Template) : Except ConfigFault (Engine σ) := do
  let retriever ← requiredPart "retriever" retriever
  let model ← requiredPart "language_model" model
  return ⟨retriever, model, template.getD .standard⟩

/-- Answers a question; the model is asked once, after the retrieval. -/
def query (engine : Engine σ) (question : String) : Action σ RetrievalError Response := do
  if Text.blank question then throw .blankQuestion
  let results ← engine.retriever.retrieve question
  let chunks := results.map (·.chunk)
  let contexts := chunks.map (·.text)
  let answer ← (engine.model.complete (engine.template.render contexts question)).toAction
  return ⟨question, answer, contexts, chunks⟩

end Engine

end GroundedQA
