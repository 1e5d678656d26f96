import GroundedQA.Proofs.Index.Searches
import GroundedQA.Proofs.Similarity
/-!
# When the scores of a search are in order

Every record of an index that insertions have led to, and every query that a search accepts, has finite components
only. So a score is no number exactly when the lengths overflow, and a search that meets no such record gives its
hits in descending order (`descending_of_not_overflows`). The check of a vector looks at its components alone, so a
search may meet one: `opposites_out_of_order` has a search that gives the record opposite to its query first.
-/

namespace GroundedQA

/-- All scores are numbers, and none is less than a later one. -/
structure Descending (hits : List Hit) : Prop where
  isNaN : ∀ hit ∈ hits, hit.score.isNaN = false
  pairwise : hits.Pairwise fun a b => b.score ≤ a.score

variable {records : List IndexRecord} {query : Embedding}

theorem Ahead.le {i j : Fin records.length} (h : Ahead records query i j)
    (hnan : ∀ i, (scoreAt records query i).isNaN = false) : scoreAt records query j ≤ scoreAt records query i := by
  rw [← Number.float32_not_lt_iff (hnan i) (hnan j)]
  rcases h with hlt | ⟨hle, -⟩
  · exact Number.float32_lt_asymm (hnan j) (hnan i) hlt
  · exact hle

/-- Scores that are numbers come in descending order. -/
theorem descending_rank (hnan : ∀ record ∈ records, (cosineSimilarity record.vector query).isNaN = false) (k : ℕ) :
    Descending (rank records query k) := by
  have hscores : ∀ i, (scoreAt records query i).isNaN = false := fun i => hnan _ (List.getElem_mem i.2)
  obtain ⟨order, horder, hrank⟩ := exists_isRanking hscores
  rw [hrank]
  constructor
  · intro hit hhit
    obtain ⟨i, -, rfl⟩ := List.mem_map.1 hhit
    exact hscores i
  · rw [List.pairwise_map]
    exact (horder.ahead.sublist (List.take_sublist k order)).imp fun h => h.le hscores

namespace VectorIndex

variable {σ : Type}

theorem search_run_of_embed {index : VectorIndex σ} {query : String} {vector : Embedding} {s s' : σ} {k : ℕ}
    (hk : 0 < k) (hblank : ¬Text.blank query) (hpopulated : index.records ≠ [])
    (hembed : (index.embedder.embed query).run.run s = (.ok vector, s'))
    (hvector : checkVector index.dimensions vector = .ok ()) :
    (search query k).run.run ⟨index, s⟩ = (.ok (rank index.records vector k), ⟨index, s'⟩) := by
  rw [search_run, if_neg (Nat.ne_of_gt hk), if_neg hblank, if_neg (by simpa using hpopulated)]
  dsimp only
  rw [hembed]
  dsimp only
  rw [hvector]
  rfl

/-- A score is no number exactly when the lengths overflow. A search that meets no such record succeeds, and gives
its hits in descending order: a search by vector, and one by a text that is embedded as that vector. -/
theorem descending_of_not_overflows {embedder : Embedder σ} {index : VectorIndex σ} (h : Inserted embedder index)
    {vector : Embedding} (hvector : checkVector index.dimensions vector = .ok ()) :
    (∀ record ∈ index.records, (cosineSimilarity record.vector vector).isNaN ↔ Overflows record.vector vector) ∧
    ((∀ record ∈ index.records, ¬Overflows record.vector vector) → index.records ≠ [] → ∀ k, 0 < k →
      ∃ hits, Descending hits ∧ hits.length = min k index.records.length ∧
        (∀ s, (searchByVector vector k).run.run ⟨index, s⟩ = (.ok hits, ⟨index, s⟩)) ∧
        ∀ query s s', ¬Text.blank query → (index.embedder.embed query).run.run s = (.ok vector, s') →
          (search query k).run.run ⟨index, s⟩ = (.ok hits, ⟨index, s'⟩)) := by
  have hnan : ∀ record ∈ index.records, (cosineSimilarity record.vector vector).isNaN ↔
      Overflows record.vector vector := fun record hrecord =>
    isNaN_cosineSimilarity (h.sound.fits record hrecord).isFinite (checkVector_iff.1 hvector).2
  refine ⟨hnan, fun hoverflows hpopulated k hk => ?_⟩
  have hscores : ∀ record ∈ index.records, (cosineSimilarity record.vector vector).isNaN = false :=
    fun record hrecord => Bool.eq_false_iff.2 fun hscore => hoverflows record hrecord ((hnan record hrecord).1 hscore)
  refine ⟨rank index.records vector k, descending_rank hscores k, length_rank .., fun s => ?_, ?_⟩
  · rw [searchByVector_run, answer_eq_ok hk hvector hpopulated]
  · intro query s s' hblank hembed
    exact search_run_of_embed hk hblank hpopulated hembed hvector

/-- An embedder of one component, which is `1` or, for the text "opposite", `-1e30`. -/
def signs : Embedder Unit :=
  .oneByOne 1 fun text => pure [if text = "opposite" then -1e30 else 1]

/-- An index of two records that point in opposite directions; the first has no finite length. -/
def opposites : VectorIndex Unit :=
  let chunks : List Chunk := [⟨"opposite", "doc", 0, .empty⟩, ⟨"same", "doc", 1, .empty⟩]
  ((insert (fun i => ⟨i⟩) chunks).run.run ⟨.new signs, ()⟩).2.index

theorem inserted_opposites : Inserted signs opposites :=
  .insert .new _ _ (by simp) ()

/-- The dot product with a short query is finite, so both scores are numbers. -/
theorem descending_opposites : checkVector opposites.dimensions [1] = .ok () ∧ ∃ hits, Descending hits ∧
    hits.length = 2 ∧ (searchByVector [1] 2).run.run ⟨opposites, ()⟩ = (.ok hits, ⟨opposites, ()⟩) ∧
    (search "up" 2).run.run ⟨opposites, ()⟩ = (.ok hits, ⟨opposites, ()⟩) := by
  have hvector : checkVector opposites.dimensions [1] = .ok () := by decide +kernel
  obtain ⟨-, hsearches⟩ := descending_of_not_overflows inserted_opposites hvector
  have hoverflows : ∀ record ∈ opposites.records, ¬Overflows record.vector [1] := by decide +kernel
  have hpopulated : opposites.records ≠ [] := by decide +kernel
  have hembed : (opposites.embedder.embed "up").run.run () = (.ok [1], ()) := by
    rw [inserted_opposites.sound.embedder_eq]
    rfl
  obtain ⟨hits, hdescending, hlength, hbyVector, hbyText⟩ := hsearches hoverflows hpopulated 2 (by decide)
  have htwo : min 2 opposites.records.length = 2 := by decide +kernel
  exact ⟨hvector, hits, hdescending, hlength.trans htwo, hbyVector (), hbyText "up" () () (by decide +kernel) hembed⟩

/-- With a long query the score of the opposite record is no number, and that record comes before the one that has
the direction of the query. -/
theorem opposites_out_of_order :
    Inserted signs opposites ∧ checkVector opposites.dimensions [1e30] = .ok () ∧
      (∃ record ∈ opposites.records, (cosineSimilarity record.vector [1e30]).isNaN) ∧
      ∃ hits, ((searchByVector [1e30] 2).run.run ⟨opposites, ()⟩).1 = .ok hits ∧
        hits.map (·.chunk.text) = ["opposite", "same"] ∧ ¬Descending hits := by
  have hvector : checkVector opposites.dimensions [1e30] = .ok () := by decide +kernel
  have hpopulated : opposites.records ≠ [] := by decide +kernel
  have hrank : rank opposites.records [1e30] 2 = scored opposites.records [1e30] := by
    rw [rank, List.mergeSort_of_pairwise (by decide +kernel)]
    decide +kernel
  refine ⟨inserted_opposites, hvector, by decide +kernel, scored opposites.records [1e30], ?_, by decide +kernel, ?_⟩
  · rw [searchByVector_run, answer_eq_ok (by decide) hvector hpopulated, hrank]
  · intro h
    exact absurd h.isNaN (by decide +kernel)

end VectorIndex

end GroundedQA
