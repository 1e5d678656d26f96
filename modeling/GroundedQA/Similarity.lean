import GroundedQA.Number.Binary
import GroundedQA.Document
/-!
# Cosine similarity

The similarity of two embeddings, in binary32 arithmetic with one rounding per operation and sums
from left to right. The product stops at the end of the shorter vector; a vector of length zero is
similar to nothing.
-/

namespace GroundedQA

/-- The sum of the products of the components. -/
def dotProduct (a b : Embedding) : Float32 :=
  Number.sum (List.zipWith (· * ·) a b)

/-- The Euclidean length. -/
def magnitude (a : Embedding) : Float32 :=
  (Number.sum (a.map fun x => x * x)).sqrt

/-- The cosine of the angle between two vectors; `0` when either has no length. -/
def cosineSimilarity (a b : Embedding) : Float32 :=
  if magnitude a == 0 || magnitude b == 0 then 0
  else dotProduct a b / (magnitude a * magnitude b)

end GroundedQA
