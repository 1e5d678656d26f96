import GroundedQA.Index.Basic
import GroundedQA.Similarity
import GroundedQA.Text.Blank
/-!
# Search

A search scores every record by its similarity to the query and gives the `k` best, the best first;
of records with equal scores the one inserted first comes first. That is so when no score is NaN: a NaN
cannot be compared with other scores, and then no order is promised.
-/

namespace GroundedQA

/-- Every record with its score, in the order of insertion. -/
def scored (records : List IndexRecord) (query : Embedding) : List Hit :=
  records.map fun record => ⟨record.chunk, cosineSimilarity record.vector query⟩

/-- The hit `a` need not stand behind `b`: it does not score lower. -/
def Hit.ranksBefore (a b : Hit) : Bool :=
  !(a.score < b.score)

/-- The `k` records most similar to the query, the best first. With a NaN among the scores it is the
first part of one order of the records, and not of the only one that a search may give. -/
def rank (records : List IndexRecord) (query : Embedding) (k : Nat) : List Hit :=
  ((scored records query).mergeSort Hit.ranksBefore).take k

variable {σ : Type}

/-- Asking for no results is refused. -/
def checkCount (k : Nat) : Except RetrievalError Unit :=
  if k = 0 then .error .zeroK else .ok ()

/-- There has to be something to search. -/
def checkPopulated (records : List IndexRecord) : Except RetrievalError Unit :=
  if records.isEmpty then .error .emptyIndex else .ok ()

namespace VectorIndex

/-- The `k` records most similar to a vector. -/
def searchByVector (vector : Embedding) (k : Nat) : Action σ RetrievalError (List Hit) := do
  let index := (← get).index
  checkCount k
  checkVector index.dimensions vector
  checkPopulated index.records
  return rank index.records vector k

/-- The `k` records most similar to a text, which is embedded once all else is in order. -/
def search (query : String) (k : Nat) : Action σ RetrievalError (List Hit) := do
  let index := (← get).index
  checkCount k
  if Text.blank query then throw .blankQuery
  checkPopulated index.records
  let vector ← (index.embedder.embed query).toAction
  checkVector index.dimensions vector
  return rank (← get).index.records vector k

end VectorIndex

end GroundedQA
