import GroundedQA.Json.Decode
import GroundedQA.Settings
/-!
# The JSON form of settings

Settings are records, each field of which may be left out and then has its default.
-/

namespace GroundedQA

open Json

namespace RetrievalSettings

def toJson (settings : RetrievalSettings) : Json :=
  .record [("chunk_size", .nat settings.chunkSize), ("chunk_overlap", .nat settings.chunkOverlap),
    ("top_k", .nat settings.topK)]

def ofJson? (j : Json) : Option RetrievalSettings := do
  let [size, overlap, topK] ← j.fields? [["chunk_size"], ["chunk_overlap"], ["top_k"]] | none
  let standard : RetrievalSettings := {}
  return {
    chunkSize := ← defaulted? standard.chunkSize word? size
    chunkOverlap := ← defaulted? standard.chunkOverlap word? overlap
    topK := ← defaulted? standard.topK word? topK }

end RetrievalSettings

namespace EvaluationSettings

def toJson (settings : EvaluationSettings) : Json :=
  .record [("concurrency", .nat settings.concurrency),
    ("answer_relevancy_strictness", .nat settings.strictness)]

def ofJson? (j : Json) : Option EvaluationSettings := do
  let [concurrency, strictness] ←
    j.fields? [["concurrency"], ["answer_relevancy_strictness"]] | none
  let standard : EvaluationSettings := {}
  return {
    concurrency := ← defaulted? standard.concurrency word? concurrency
    strictness := ← defaulted? standard.strictness word? strictness }

end EvaluationSettings

end GroundedQA
