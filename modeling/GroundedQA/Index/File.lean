import GroundedQA.Format.Document
import GroundedQA.Index.Basic
import GroundedQA.Json.Bytes
import GroundedQA.Json.Printer
import GroundedQA.Storage.Save
/-!
# Index files

An index is kept in a file as one JSON record: the version of the format, the length of the vectors
and the records in their order. Only files of the current version are taken back, only when every
vector has the length that the file declares, and only with an embedder of that length.
-/

namespace GroundedQA

open Json Storage

/-- The version of the format that is written, and the only one that is read. -/
def indexFormatVersion : Nat := 1

/-- What an index file holds. -/
structure IndexFile where
  version : Nat
  dimensions : Nat
  records : List IndexRecord
deriving DecidableEq

namespace IndexFile

def toJson (file : IndexFile) : Json :=
  .record [("format_version", .nat file.version), ("dimensions", .nat file.dimensions),
    ("records", .array (file.records.map IndexRecord.toJson))]

def ofJson? (j : Json) : Option IndexFile := do
  let [version, dimensions, records] ← j.fields? [["format_version"], ["dimensions"], ["records"]]
    | none
  return {
    version := ← required? (nat? (2 ^ 32)) version
    dimensions := ← required? word? dimensions
    records := ← required? (list? IndexRecord.ofJson?) records }

def encode (file : IndexFile) : ByteArray :=
  file.toJson.render.toUTF8

/-- Reads the bytes of a file. -/
def decode? (content : ByteArray) : Option IndexFile := do
  ofJson? (← Json.ofBytes? content)

/-- The first record whose vector has not the declared length. -/
def misfit? (file : IndexFile) : Option IndexRecord :=
  file.records.find? (·.vector.length ≠ file.dimensions)

/-- The file may be used with an embedder of the given length. -/
def check (file : IndexFile) (dimensions : Nat) : Except RetrievalError Unit := do
  if file.version ≠ indexFormatVersion then throw (.unsupportedVersion file.version)
  if let some record := file.misfit? then
    throw (.recordDimensions record.id record.vector.length file.dimensions)
  if dimensions ≠ file.dimensions then throw (.dimensionMismatch file.dimensions dimensions)

end IndexFile

def liftFile {α : Type} (result : Except FileFault α) : Except RetrievalError α :=
  result.mapError .io

variable {σ : Type}

namespace VectorIndex

def toFile (index : VectorIndex σ) : IndexFile :=
  ⟨indexFormatVersion, index.dimensions, index.records⟩

/-- Saves the index at a path, through a temporary file named after `id`. -/
def save (index : VectorIndex σ) (disk : Disk) (path : String) (id : Uuid) :
    Except RetrievalError Unit × Disk :=
  let (result, disk) := disk.save path id index.toFile.encode
  (liftFile result, disk)

/-- Takes an index from the file at a path, to be used with an embedder. -/
def load (embedder : Embedder σ) (disk : Disk) (path : String) :
    Except RetrievalError (VectorIndex σ) := do
  unless ← liftFile (disk.occupied path) do throw (.indexNotFound path)
  let content ← liftFile (disk.read path)
  match IndexFile.decode? content with
  | none => throw (.indexUnreadable path "not a JSON document of an index")
  | some file =>
    file.check embedder.dimensions
    return ⟨embedder, file.dimensions, file.records⟩

end VectorIndex

end GroundedQA
