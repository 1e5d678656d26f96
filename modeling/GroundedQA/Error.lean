import GroundedQA.Text.Quoted
import GroundedQA.Uuid
/-!
# What can go wrong

Every failure is a cause, with the data that belongs to it; its wording is given once, by the
function `message` of its type, and its class by `kind`.
-/

namespace GroundedQA

/-! ## Configuration -/

/-- What a prompt template has to leave room for. -/
inductive Placeholder where
  | context
  | question
deriving DecidableEq, Repr

/-- A placeholder as it stands in a template. -/
def Placeholder.text : Placeholder → String
  | .context => "\x7bcontext\x7d"
  | .question => "\x7bquestion\x7d"

/-- Why a configuration is refused. -/
inductive ConfigFault where
  | zeroChunkSize
  | overlapTooLarge (overlap size : Nat)
  | zeroTopK
  | missingPlaceholder (placeholder : Placeholder)
  | missingPart (part : String)
  | noApiKey
  | blankApiKey (provider : String)
  | blankModel (provider : String)
  | zeroConcurrency
  | zeroStrictness
  | noMetrics
deriving DecidableEq, Repr

def ConfigFault.message : ConfigFault → String
  | .zeroChunkSize => "chunk_size must be greater than 0"
  | .overlapTooLarge overlap size =>
    s!"chunk_overlap ({overlap}) must be less than chunk_size ({size})"
  | .zeroTopK => "top_k must be greater than zero"
  | .missingPlaceholder placeholder => s!"prompt template must contain {placeholder.text}"
  | .missingPart part => s!"{part} is required"
  | .noApiKey => "OPENAI_API_KEY environment variable not set"
  | .blankApiKey provider => s!"{provider}: API key must not be empty"
  | .blankModel provider => s!"{provider}: model must not be empty"
  | .zeroConcurrency => "concurrency must be greater than 0"
  | .zeroStrictness => "answer_relevancy_strictness must be greater than 0"
  | .noMetrics => "at least one metric is required"

/-! ## Files -/

/-- Why a file operation fails. -/
inductive FileFault where
  | notFound
  | notADirectory
  | isADirectory
  | invalidName
  | notText
  | refused
deriving DecidableEq, Repr

def FileFault.message : FileFault → String
  | .notFound => "no such file or directory"
  | .notADirectory => "not a directory"
  | .isADirectory => "is a directory"
  | .invalidName => "invalid file name"
  | .notText => "the file is not UTF-8 text"
  | .refused => "operation refused"

/-! ## Retrieval -/

/-- The classes of retrieval errors. -/
inductive RetrievalError.Kind where
  | configuration
  | emptyInput
  | invalidArgument
  | notFound
  | parse
  | uninitialized
  | externalProvider
  | dimensionMismatch
  | io
deriving DecidableEq, Repr

/-- What can go wrong in chunking, indexing and answering. -/
inductive RetrievalError where
  | configuration (fault : ConfigFault)
  | noChunks
  | blankQuery
  | blankQuestion
  | zeroK
  | indexNotFound (path : String)
  | indexUnreadable (path detail : String)
  | unsupportedVersion (version : Nat)
  | recordDimensions (id : Uuid) (length declared : Nat)
  | emptyIndex
  | provider (name message : String)
  | dimensionMismatch (expected actual : Nat)
  | io (fault : FileFault)
deriving DecidableEq, Repr

namespace RetrievalError

def kind : RetrievalError → Kind
  | .configuration _ => .configuration
  | .noChunks | .blankQuery | .blankQuestion => .emptyInput
  | .zeroK => .invalidArgument
  | .indexNotFound _ => .notFound
  | .indexUnreadable .. | .unsupportedVersion _ | .recordDimensions .. => .parse
  | .emptyIndex => .uninitialized
  | .provider .. => .externalProvider
  | .dimensionMismatch .. => .dimensionMismatch
  | .io _ => .io

def message : RetrievalError → String
  | .configuration fault => s!"Configuration error: {fault.message}"
  | .noChunks => "Empty input: cannot insert an empty batch of chunks"
  | .blankQuery => "Empty input: query must not be blank"
  | .blankQuestion => "Empty input: question must not be blank"
  | .zeroK => "Invalid argument: k must be greater than 0"
  | .indexNotFound path => s!"Not found: vector index not found: {path}"
  | .indexUnreadable path detail => s!"Parse error: invalid vector index file {path}: {detail}"
  | .unsupportedVersion version =>
    s!"Parse error: unsupported vector index format version {version}"
  | .recordDimensions id length declared =>
    s!"Parse error: record {id.render} has {length} dimensions, index declares {declared}"
  | .emptyIndex => "Uninitialized: vector index holds no records"
  | .provider name message => s!"Provider error ({name}): {message}"
  | .dimensionMismatch expected actual =>
    s!"Dimension mismatch: expected {expected}, got {actual}"
  | .io fault => s!"IO error: {fault.message}"

/-- What an embedding that may not enter an index is answered with. -/
def nonFiniteEmbedding : RetrievalError :=
  .provider "embedding" "embedding contains non-finite values"

/-- What a batch of embeddings of the wrong size is answered with. -/
def embeddingCount (returned texts : Nat) : RetrievalError :=
  .provider "embedding" s!"returned {returned} embeddings for {texts} texts"

end RetrievalError

/-! ## Evaluation -/

/-- What is wrong with one sample of a dataset. -/
inductive SampleFault where
  | notAnObject
  | noQuestion
  | noGroundTruth
  | blankQuestion
  | blankGroundTruth
  | contextsNotAList
  | contextNotText (position : Nat)
deriving DecidableEq, Repr

def SampleFault.message : SampleFault → String
  | .notAnObject => "expected a JSON object"
  | .noQuestion => "missing 'question' field"
  | .noGroundTruth => "missing 'ground_truth' field"
  | .blankQuestion => "'question' must be a non-empty string"
  | .blankGroundTruth => "'ground_truth' must be a non-empty string"
  | .contextsNotAList => "'contexts' must be a list"
  | .contextNotText position => s!"'contexts[{position}]' must be a string"

/-- Why a JSON document is no dataset. -/
inductive DatasetFault where
  | notAnObject
  | noSamplesKey
  | samplesNotAList
  | noItems
  | sample (position : Nat) (fault : SampleFault)
deriving DecidableEq, Repr

def DatasetFault.message : DatasetFault → String
  | .notAnObject => "expected a JSON object with 'samples' key"
  | .noSamplesKey => "missing 'samples' key"
  | .samplesNotAList => "'samples' must be a list"
  | .noItems => "'samples' list has no items"
  | .sample position fault => s!"samples[{position}]: {fault.message}"

/-- Why a metric has no score for a record. -/
inductive MetricFault where
  | unrecognisedVerdict (reply : String)
  | embeddingCount (expected actual : Nat)
  | failed (message : String)
deriving DecidableEq, Repr

def MetricFault.message : MetricFault → String
  | .unrecognisedVerdict reply => s!"unrecognised verdict: {Text.quoted reply}"
  | .embeddingCount expected actual => s!"expected {expected} embeddings, got {actual}"
  | .failed message => message

/-- The classes of evaluation errors. -/
inductive EvaluationError.Kind where
  | configuration
  | notFound
  | parse
  | schema
  | emptyInput
  | metric
  | io
  | retrieval (kind : RetrievalError.Kind)
deriving DecidableEq, Repr

/-- What can go wrong in loading datasets, answering their questions and scoring the answers. -/
inductive EvaluationError where
  | configuration (fault : ConfigFault)
  | datasetNotFound (path : String)
  | datasetUnreadable (detail : String)
  | schema (fault : DatasetFault)
  | noSamples
  | noRecords
  | metric (name : String) (fault : MetricFault)
  | io (fault : FileFault)
  | retrieval (error : RetrievalError)
deriving DecidableEq, Repr

namespace EvaluationError

def kind : EvaluationError → Kind
  | .configuration _ => .configuration
  | .datasetNotFound _ => .notFound
  | .datasetUnreadable _ => .parse
  | .schema _ => .schema
  | .noSamples | .noRecords => .emptyInput
  | .metric .. => .metric
  | .io _ => .io
  | .retrieval error => .retrieval error.kind

def message : EvaluationError → String
  | .configuration fault => s!"Configuration error: {fault.message}"
  | .datasetNotFound path => s!"Not found: evaluation dataset file not found: {path}"
  | .datasetUnreadable detail => s!"Parse error: invalid JSON in evaluation dataset: {detail}"
  | .schema fault => s!"Invalid evaluation dataset format: {fault.message}"
  | .noSamples => "Empty input: cannot prepare evaluation data: samples list is empty"
  | .noRecords => "Empty input: cannot evaluate an empty batch"
  | .metric name fault => s!"Metric '{name}' failed: {fault.message}"
  | .io fault => s!"IO error: {fault.message}"
  | .retrieval error => error.message

end EvaluationError

end GroundedQA
