import GroundedQA.Dictionary
import GroundedQA.Number.Digits
import GroundedQA.Uuid
/-!
# Documents, chunks and records

A document is cut into chunks, and a chunk stored in an index with its embedding is a record. A
chunk remembers its source, its place among the chunks of that source and, in its metadata, the byte
offset at which its text stands there.
-/

namespace GroundedQA

/-- A text with a name and metadata. -/
structure Document where
  id : String
  text : String
  metadata : Dictionary String
  sourceUri : Option String
deriving DecidableEq, Repr

/-- A piece of a document. -/
structure Chunk where
  text : String
  sourceId : String
  sequenceIndex : Nat
  metadata : Dictionary String
deriving DecidableEq, Repr, Inhabited

/-- The metadata key of a chunk's place among the chunks of its source. -/
def chunkIndexKey : String := "chunk_index"

/-- The metadata key of the byte offset of a chunk in its source. -/
def startIndexKey : String := "start_index"

/-- The byte offset of a chunk in its source, when its metadata record one of 64 bits. -/
def Chunk.startIndex? (chunk : Chunk) : Option Nat :=
  ((chunk.metadata.find? startIndexKey).bind Number.readDecimal?).filter (· < 2 ^ 64)

/-- The vector that an embedding provider gives for a text. -/
abbrev Embedding := List Float32

/-- A chunk in an index, with the embedding of its text. -/
structure IndexRecord where
  id : Uuid
  vector : Embedding
  chunk : Chunk
deriving DecidableEq

/-- A chunk that was found, with its similarity to the query. -/
structure Hit where
  chunk : Chunk
  score : Float32
deriving DecidableEq

end GroundedQA
