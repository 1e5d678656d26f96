import GroundedQA.Answering.Engine
import GroundedQA.Chunking.Basic
/-!
# Ingestion

Documents are put into an index by cutting them into chunks and adding all of the chunks as one
batch, so that either every document gets in or none does. Documents without text have no chunks; an
empty batch is no failure here, and is not inserted.
-/

namespace GroundedQA

variable {σ : Type}

def Chunker.chunkAll (chunker : Chunker) (documents : List Document) : List Chunk :=
  documents.flatMap chunker.chunk

/-- Puts documents into the index as one batch; gives the chunks that were added. -/
def Chunker.ingestBatch (chunker : Chunker) (newId : Nat → Uuid) (documents : List Document) :
    Action σ RetrievalError (List Chunk) := do
  let chunks := chunker.chunkAll documents
  unless chunks.isEmpty do
    discard <| VectorIndex.insert newId chunks
  return chunks

/-- Puts one document into the index. -/
def Chunker.ingest (chunker : Chunker) (newId : Nat → Uuid) (document : Document) :
    Action σ RetrievalError (List Chunk) :=
  chunker.ingestBatch newId [document]

/-- A chunker and the index that it is to fill. -/
structure Pipeline (σ : Type) where
  chunker : Chunker
  index : VectorIndex σ

def Pipeline.build (chunker : Option Chunker) (index : Option (VectorIndex σ)) :
    Except ConfigFault (Pipeline σ) := do
  let chunker ← requiredPart "chunker" chunker
  let index ← requiredPart "index" index
  return ⟨chunker, index⟩

end GroundedQA
