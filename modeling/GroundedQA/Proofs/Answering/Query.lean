import GroundedQA.Answering.Engine
import GroundedQA.Proofs.Index.Searches
/-!
# What a query does

A query is a retrieval and then one completion (`Engine.query_run`), and leaves the index as it is
(`Engine.query_index`).
-/

namespace GroundedQA

variable {σ α : Type}

namespace Engine

variable (engine : Engine σ)

/-- The completion of the prompt that the hits and the question make, as the response. -/
def respond (question : String) (hits : List Hit) : Action σ RetrievalError Response := do
  let chunks := hits.map (·.chunk)
  let contexts := chunks.map (·.text)
  let answer ← (engine.model.complete (engine.template.render contexts question)).toAction
  return ⟨question, answer, contexts, chunks⟩

theorem query_run (question : String) (world : World σ) :
    (engine.query question).run.run world =
      if Text.blank question then (.error .blankQuestion, world)
      else
        match (VectorIndex.search question engine.retriever.k).run.run world with
        | (.error e, world) => (.error e, world)
        | (.ok hits, world) => (engine.respond question hits).run.run world := by
  unfold query
  by_cases hblank : Text.blank question
  · rw [if_pos hblank, if_pos hblank]
    rfl
  · rw [if_neg hblank, if_neg hblank]
    show (VectorIndex.search question engine.retriever.k >>= engine.respond question).run.run world = _
    rw [run_bind]
    cases (VectorIndex.search question engine.retriever.k).run.run world with
    | mk result world => cases result <;> rfl

theorem respond_run (question : String) (hits : List Hit) (world : World σ) :
    (engine.respond question hits).run.run world =
      match (engine.model.complete (engine.template.render ((hits.map (·.chunk)).map (·.text)) question)).run.run
          world.providers with
      | (.error e, providers) => (.error e, { world with providers })
      | (.ok answer, providers) =>
        (.ok ⟨question, answer, (hits.map (·.chunk)).map (·.text), hits.map (·.chunk)⟩, { world with providers }) := by
  unfold respond
  rw [run_bind, Call.toAction_run]
  cases (engine.model.complete _).run.run world.providers with
  | mk result providers => cases result <;> rfl

theorem respond_index (question : String) (hits : List Hit) (world : World σ) :
    ((engine.respond question hits).run.run world).2.index = world.index := by
  rw [respond_run]
  split <;> rfl

/-- A query leaves the index as it is. -/
theorem query_index (question : String) (world : World σ) :
    ((engine.query question).run.run world).2.index = world.index := by
  rw [query_run]
  split
  · rfl
  have hsearch := VectorIndex.search_index question engine.retriever.k world
  split
  next e world' hrun => rwa [hrun] at hsearch
  next hits world' hrun =>
    rw [respond_index]
    rwa [hrun] at hsearch

/-- A query whose question is embedded, and whose prompt is completed, is answered from the best records. -/
theorem query_eq_ok {question answer : String} {world : World σ} {vector : Embedding} {embedded completed : σ}
    (hquestion : ¬Text.blank question) (hpopulated : world.index.records ≠ [])
    (hembed : (world.index.embedder.embed question).run.run world.providers = (.ok vector, embedded))
    (hvector : checkVector world.index.dimensions vector = .ok ())
    (hmodel : (engine.model.complete (engine.template.render
      (((rank world.index.records vector engine.retriever.k).map (·.chunk)).map (·.text)) question)).run.run embedded =
        (.ok answer, completed)) :
    (engine.query question).run.run world =
      (.ok ⟨question, answer, ((rank world.index.records vector engine.retriever.k).map (·.chunk)).map (·.text),
        (rank world.index.records vector engine.retriever.k).map (·.chunk)⟩, ⟨world.index, completed⟩) := by
  have hsearch : (VectorIndex.search question engine.retriever.k).run.run world =
      (.ok (rank world.index.records vector engine.retriever.k), ⟨world.index, embedded⟩) := by
    rw [VectorIndex.search_run, if_neg engine.retriever.k_pos.ne', if_neg hquestion, if_neg (by simpa using hpopulated),
      hembed]
    dsimp only
    rw [hvector]
    rfl
  rw [query_run, if_neg hquestion, hsearch]
  dsimp only
  rw [respond_run, hmodel]

end Engine

end GroundedQA
