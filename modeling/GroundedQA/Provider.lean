import GroundedQA.Document
import GroundedQA.Error
/-!
# Providers

Embeddings and answers come from outside. A provider is given by what its calls do to a state of its
own choosing, `σ`, so that one may script it, count its calls or keep a log of them; nothing else is
assumed. A call may fail with any retrieval error, and what it did to the state then stands.
-/

namespace GroundedQA

abbrev Call (σ α : Type) := ExceptT RetrievalError (StateM σ) α

/-- A source of embeddings. -/
structure Embedder (σ : Type) where
  /-- The length of the embeddings that it promises. -/
  dimensions : Nat
  embed : String → Call σ Embedding
  embedBatch : List String → Call σ (List Embedding)

/-- An embedder that embeds a batch text by text, up to the first failure. -/
def Embedder.oneByOne {σ : Type} (dimensions : Nat) (embed : String → Call σ Embedding) : Embedder σ where
  dimensions := dimensions
  embed := embed
  embedBatch := fun texts => texts.mapM embed

/-- A source of text: it completes prompts. -/
structure LanguageModel (σ : Type) where
  complete : String → Call σ String

end GroundedQA
