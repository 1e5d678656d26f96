import GroundedQA.Evaluation.Sample
import GroundedQA.Json.Decode
import GroundedQA.Json.Parser
import GroundedQA.Storage.Disk
/-!
# Datasets

A dataset is a JSON object with a list of samples. The whole document has to be readable; then the
samples are checked one after the other, and of each its question, its reference answer and its
contexts. The first fault in this order is reported, so a document has one fault at most.

The reference answer may stand under either of two keys, of which the first counts when both are
there. Of a repeated key the last value counts.
-/

namespace GroundedQA

open Json Storage

/-- A text that is more than white space. -/
def filledText? (j : Json) : Option String :=
  j.text?.filter (!Text.blank ·)

namespace Sample

/-- The member that holds the reference answer. -/
def groundTruthMember? (members : List (Option String × Json)) : Option Json :=
  (lookup? members "ground_truth").or (lookup? members "groundTruth")

/-- The text of a context, which is the one at the given place of its list. -/
def contextAt (item : Json) (place : Nat) : Except SampleFault String :=
  match item.text? with
  | some text => .ok text
  | none => .error (.contextNotText place)

/-- The contexts of a sample: none when they are missing or null. -/
def contextsOf : Option Json → Except SampleFault (Option (List String))
  | none => .ok none
  | some .null => .ok none
  | some (.array items) => do
    return some (← items.zipIdx.mapM fun (item, place) => contextAt item place)
  | some _ => .error .contextsNotAList

def ofDataset : Json → Except SampleFault Sample
  | .object members => do
    let some question := lookup? members "question" | throw .noQuestion
    let some groundTruth := groundTruthMember? members | throw .noGroundTruth
    let some question := filledText? question | throw .blankQuestion
    let some groundTruth := filledText? groundTruth | throw .blankGroundTruth
    return ⟨question, groundTruth, ← contextsOf (lookup? members "contexts")⟩
  | _ => throw .notAnObject

end Sample

namespace Dataset

def sampleAt (item : Json) (place : Nat) : Except DatasetFault Sample :=
  (Sample.ofDataset item).mapError (.sample place)

def samplesOf : Json → Except DatasetFault (List Sample)
  | .object members =>
    match lookup? members "samples" with
    | none => .error .noSamplesKey
    | some (.array []) => .error .noItems
    | some (.array items) => items.zipIdx.mapM fun (item, place) => sampleAt item place
    | some _ => .error .samplesNotAList
  | _ => .error .notAnObject

/-- The samples of a dataset in memory. -/
def parse (text : String) : Except EvaluationError (List Sample) :=
  match (Json.parse? text).filter (readable maxDepth) with
  | none => .error (.datasetUnreadable "not a readable JSON document")
  | some document => (samplesOf document).mapError .schema

def load (disk : Disk) (path : String) : Except EvaluationError (List Sample) := do
  unless ← (disk.occupied path).mapError .io do throw (.datasetNotFound path)
  let content ← (disk.read path).mapError .io
  match String.fromUTF8? content with
  | none => throw (.io .notText)
  | some text => parse text

end Dataset

end GroundedQA
