import GroundedQA.Document
import GroundedQA.Json.Decode
/-!
# The JSON form of documents, chunks and records

Each type is a record; maps of metadata are objects, identifiers are strings. Metadata may be left
out and are then empty. A source URI is left out when there is none.

Metadata are kept in hash tables, so a writer may give their members in any order. Here they come in
the order of the keys, which is one of these; the readers do not depend on it.
-/

namespace GroundedQA

open Json

/-- An object with a member for each entry, in one of the orders that they may be written in. -/
def metadataToJson (metadata : Dictionary String) : Json :=
  Json.dictionary .text metadata

def metadataOfJson? : Json → Option (Dictionary String) :=
  Json.dictionary? text?

namespace Document

def toJson (document : Document) : Json :=
  .record <| [("id", .text document.id), ("text", .text document.text),
    ("metadata", metadataToJson document.metadata)] ++
    (document.sourceUri.map fun uri => ("source_uri", .text uri)).toList

def ofJson? (j : Json) : Option Document := do
  let [id, text, metadata, uri] ← j.fields? [["id"], ["text"], ["metadata"], ["source_uri"]] | none
  return {
    id := ← required? text? id
    text := ← required? text? text
    metadata := ← defaulted? .empty metadataOfJson? metadata
    sourceUri := ← defaulted? none (nullable? text?) uri }

end Document

namespace Chunk

def toJson (chunk : Chunk) : Json :=
  .record [("text", .text chunk.text), ("source_id", .text chunk.sourceId),
    ("sequence_index", .nat chunk.sequenceIndex), ("metadata", metadataToJson chunk.metadata)]

def ofJson? (j : Json) : Option Chunk := do
  let [text, sourceId, sequenceIndex, metadata] ←
    j.fields? [["text"], ["source_id"], ["sequence_index"], ["metadata"]] | none
  return {
    text := ← required? text? text
    sourceId := ← required? text? sourceId
    sequenceIndex := ← required? word? sequenceIndex
    metadata := ← defaulted? .empty metadataOfJson? metadata }

end Chunk

def embeddingToJson (vector : Embedding) : Json :=
  .array (vector.map .float32)

def embeddingOfJson? : Json → Option Embedding :=
  list? float32?

namespace IndexRecord

def toJson (record : IndexRecord) : Json :=
  .record [("id", .text record.id.render), ("vector", embeddingToJson record.vector),
    ("chunk", record.chunk.toJson)]

def ofJson? (j : Json) : Option IndexRecord := do
  let [id, vector, chunk] ← j.fields? [["id"], ["vector"], ["chunk"]] | none
  return {
    id := ← Uuid.parse? (← required? text? id)
    vector := ← required? embeddingOfJson? vector
    chunk := ← required? Chunk.ofJson? chunk }

end IndexRecord

namespace Hit

def toJson (hit : Hit) : Json :=
  .record [("chunk", hit.chunk.toJson), ("score", .float32 hit.score)]

def ofJson? (j : Json) : Option Hit := do
  let [chunk, score] ← j.fields? [["chunk"], ["score"]] | none
  return { chunk := ← required? Chunk.ofJson? chunk, score := ← required? float32? score }

end Hit

end GroundedQA
