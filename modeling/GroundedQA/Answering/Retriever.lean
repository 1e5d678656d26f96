import GroundedQA.Index.Search
/-!
# Retrievers

A retriever looks up the same number of chunks for every query.
-/

namespace GroundedQA

/-- How many chunks a query gets: at least one. -/
structure Retriever where
  k : Nat
  k_pos : 0 < k
deriving DecidableEq, Repr

namespace Retriever

/-- The retriever of `k` chunks. -/
def make (k : Nat) : Except RetrievalError Retriever :=
  if h : k = 0 then .error .zeroK else .ok ⟨k, Nat.pos_of_ne_zero h⟩

/-- The chunks most similar to a query, the best first. -/
def retrieve {σ : Type} (retriever : Retriever) (query : String) :
    Action σ RetrievalError (List Hit) :=
  VectorIndex.search query retriever.k

end Retriever

end GroundedQA
