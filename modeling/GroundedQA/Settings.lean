import GroundedQA.Error
/-!
# Settings

The sizes of chunking and retrieval, and those of an evaluation, each with its defaults and the
check that it has to pass before use. Of several faults the first in the order of the checks is
reported.
-/

namespace GroundedQA

/-- The sizes of chunking and retrieval; lengths are in characters. -/
structure RetrievalSettings where
  chunkSize : Nat := 500
  chunkOverlap : Nat := 50
  topK : Nat := 4
deriving DecidableEq, Repr

/-- Chunks have a size, and overlap by less than it. -/
def checkChunking (size overlap : Nat) : Except ConfigFault Unit :=
  if size = 0 then .error .zeroChunkSize
  else if size ≤ overlap then .error (.overlapTooLarge overlap size)
  else .ok ()

/-- The chunk sizes fit together and something is to be retrieved. -/
def RetrievalSettings.check (settings : RetrievalSettings) : Except ConfigFault Unit := do
  checkChunking settings.chunkSize settings.chunkOverlap
  if settings.topK = 0 then .error .zeroTopK

/-- The sizes of an evaluation. -/
structure EvaluationSettings where
  /-- How many samples may be under way at once. What comes out depends on it only when what a provider answers
  depends on what it was asked before. -/
  concurrency : Nat := 1
  /-- How many questions are asked back per answer. -/
  strictness : Nat := 3
deriving DecidableEq, Repr

/-- Neither number is zero. -/
def EvaluationSettings.check (settings : EvaluationSettings) : Except ConfigFault Unit :=
  if settings.concurrency = 0 then .error .zeroConcurrency
  else if settings.strictness = 0 then .error .zeroStrictness
  else .ok ()

/-- Settings under construction: each step sets one size, and the finished settings are checked. -/
def RetrievalSettings.build (steps : List (RetrievalSettings → RetrievalSettings)) :
    Except ConfigFault RetrievalSettings := do
  let settings := steps.foldl (fun settings step => step settings) {}
  settings.check
  return settings

theorem checkChunking_eq_ok {size overlap : Nat} :
    checkChunking size overlap = .ok () ↔ overlap < size := by
  unfold checkChunking
  split
  · simp; omega
  · split
    · simp; omega
    · simp; omega

end GroundedQA
