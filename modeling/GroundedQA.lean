import GroundedQA.Answering.Engine
import GroundedQA.Answering.Retriever
import GroundedQA.Answering.Template
import GroundedQA.Calendar.Date
import GroundedQA.Calendar.Timestamp
import GroundedQA.Chunking.Basic
import GroundedQA.Chunking.Cut
import GroundedQA.Chunking.Overlap
import GroundedQA.Dictionary
import GroundedQA.Document
import GroundedQA.Error
import GroundedQA.Evaluation.Dataset
import GroundedQA.Evaluation.Evaluator
import GroundedQA.Evaluation.Judge
import GroundedQA.Evaluation.Metric
import GroundedQA.Evaluation.Relevancy
import GroundedQA.Evaluation.Report
import GroundedQA.Evaluation.Result
import GroundedQA.Evaluation.Sample
import GroundedQA.Evaluation.Scalar
import GroundedQA.Evaluation.Statements
import GroundedQA.Evaluation.Verdict
import GroundedQA.Format.Document
import GroundedQA.Format.Evaluation
import GroundedQA.Format.Settings
import GroundedQA.Index.Basic
import GroundedQA.Index.File
import GroundedQA.Index.Search
import GroundedQA.Ingestion
import GroundedQA.Json.Basic
import GroundedQA.Json.Bytes
import GroundedQA.Json.Decode
import GroundedQA.Json.Parser
import GroundedQA.Json.Printer
import GroundedQA.Json.Token
import GroundedQA.Number.Binary
import GroundedQA.Number.Digits
import GroundedQA.Number.Numeral
import GroundedQA.Number.Places
import GroundedQA.Number.Power
import GroundedQA.Number.Shortest
import GroundedQA.Proofs.Answering.Calls
import GroundedQA.Proofs.Answering.Query
import GroundedQA.Proofs.Answering.Substitution
import GroundedQA.Proofs.Answering.Template
import GroundedQA.Proofs.Chunking.Alignment
import GroundedQA.Proofs.Chunking.Boundaries
import GroundedQA.Proofs.Chunking.Bounds
import GroundedQA.Proofs.Chunking.Coverage
import GroundedQA.Proofs.Chunking.Cuts
import GroundedQA.Proofs.Chunking.Neighbours
import GroundedQA.Proofs.Chunking.Offsets
import GroundedQA.Proofs.Chunking.Passes
import GroundedQA.Proofs.Chunking.Provenance
import GroundedQA.Proofs.Chunking.Separators
import GroundedQA.Proofs.Chunking.Slices
import GroundedQA.Proofs.Chunking.Succession
import GroundedQA.Proofs.Chunking.Whole
import GroundedQA.Proofs.Concurrency.Buffer
import GroundedQA.Proofs.Concurrency.Tasks
import GroundedQA.Proofs.Dictionary
import GroundedQA.Proofs.Evaluation.Aggregation
import GroundedQA.Proofs.Evaluation.Concurrency
import GroundedQA.Proofs.Evaluation.EndToEnd
import GroundedQA.Proofs.Evaluation.Exact
import GroundedQA.Proofs.Evaluation.History
import GroundedQA.Proofs.Evaluation.Judges
import GroundedQA.Proofs.Evaluation.MetricSets
import GroundedQA.Proofs.Evaluation.Outcomes
import GroundedQA.Proofs.Evaluation.Precision
import GroundedQA.Proofs.Evaluation.Relevancy
import GroundedQA.Proofs.Evaluation.Reports
import GroundedQA.Proofs.Evaluation.Results
import GroundedQA.Proofs.Evaluation.Run
import GroundedQA.Proofs.Evaluation.Samples
import GroundedQA.Proofs.Evaluation.Statements
import GroundedQA.Proofs.Evaluation.Verdicts
import GroundedQA.Proofs.Evaluation.Violations
import GroundedQA.Proofs.Failure
import GroundedQA.Proofs.Format.Document
import GroundedQA.Proofs.Format.Evaluation
import GroundedQA.Proofs.Index.Atomicity
import GroundedQA.Proofs.Index.Fidelity
import GroundedQA.Proofs.Index.File
import GroundedQA.Proofs.Index.Inserts
import GroundedQA.Proofs.Index.Interleaving
import GroundedQA.Proofs.Index.Runs
import GroundedQA.Proofs.Index.Saves
import GroundedQA.Proofs.Index.Scores
import GroundedQA.Proofs.Index.Searches
import GroundedQA.Proofs.Ingestion
import GroundedQA.Proofs.Json.Documents
import GroundedQA.Proofs.Json.Readable
import GroundedQA.Proofs.Json.Rearrangements
import GroundedQA.Proofs.Json.Records
import GroundedQA.Proofs.Json.Strings
import GroundedQA.Proofs.Json.Tokens
import GroundedQA.Proofs.Number.Arithmetic
import GroundedQA.Proofs.Number.Digits
import GroundedQA.Proofs.Number.Gaps
import GroundedQA.Proofs.Number.Interval
import GroundedQA.Proofs.Number.Narrowing
import GroundedQA.Proofs.Number.Nonnegative
import GroundedQA.Proofs.Number.Numeral
import GroundedQA.Proofs.Number.Order
import GroundedQA.Proofs.Number.Packing
import GroundedQA.Proofs.Number.RoundTrip
import GroundedQA.Proofs.Number.Rounding
import GroundedQA.Proofs.Number.Scaling
import GroundedQA.Proofs.Number.Sides
import GroundedQA.Proofs.Number.Single
import GroundedQA.Proofs.Number.SquareRoot
import GroundedQA.Proofs.Remote.Endpoint
import GroundedQA.Proofs.Remote.Exchanges
import GroundedQA.Proofs.Remote.Matching
import GroundedQA.Proofs.Similarity
import GroundedQA.Proofs.Storage.Disk
import GroundedQA.Proofs.Storage.Places
import GroundedQA.Proofs.Storage.Save
import GroundedQA.Proofs.Storage.SharedDisk
import GroundedQA.Proofs.Storage.Steps
import GroundedQA.Proofs.Text.Hex
import GroundedQA.Proofs.Text.Ink
import GroundedQA.Proofs.Text.LowerCase
import GroundedQA.Proofs.Uuid
import GroundedQA.Provider
import GroundedQA.Remote.Address
import GroundedQA.Remote.Domain.Composition
import GroundedQA.Remote.Domain.Direction
import GroundedQA.Remote.Domain.Folding
import GroundedQA.Remote.Domain.Joining
import GroundedQA.Remote.Domain.Marks
import GroundedQA.Remote.Domain.Name
import GroundedQA.Remote.Domain.Punycode
import GroundedQA.Remote.Host
import GroundedQA.Remote.Http
import GroundedQA.Remote.Path
import GroundedQA.Remote.Percent
import GroundedQA.Remote.Service
import GroundedQA.Settings
import GroundedQA.Similarity
import GroundedQA.Storage.Disk
import GroundedQA.Storage.Save
import GroundedQA.Text.Alphanumeric
import GroundedQA.Text.Blank
import GroundedQA.Text.CodePoints
import GroundedQA.Text.Hex
import GroundedQA.Text.Pieces
import GroundedQA.Text.Printable
import GroundedQA.Text.Quoted
import GroundedQA.Text.Search
import GroundedQA.Uuid
