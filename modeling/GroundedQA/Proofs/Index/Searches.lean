import GroundedQA.Index.Search
import GroundedQA.Proofs.Index.Inserts
import GroundedQA.Proofs.Number.Order
import Mathlib.Data.List.FinRange
import Mathlib.Data.List.Sort
/-!
# What a search gives

Both searches are functions of the index and of what the query is embedded as (`searchByVector_run`,
`search_run`). A ranking that no NaN disturbs is the first part of one order of all records: the better
score first, and the earlier of two that score the same (`exists_isRanking`). Of one that a NaN disturbs
only this is promised, that its hits are different records (`MayRank`).
-/

namespace GroundedQA

variable {records : List IndexRecord} {query : Embedding}

/-! ## Ranking -/

/-- The score of the record at a place. -/
def scoreAt (records : List IndexRecord) (query : Embedding) (i : Fin records.length) : Float32 :=
  cosineSimilarity records[i].vector query

/-- The record at a place, as a search result. -/
def hitAt (records : List IndexRecord) (query : Embedding) (i : Fin records.length) : Hit :=
  ⟨records[i].chunk, scoreAt records query i⟩

/-- `i` comes before `j`: it scores higher, or they score the same and it was inserted first. -/
def Ahead (records : List IndexRecord) (query : Embedding) (i j : Fin records.length) : Prop :=
  scoreAt records query j < scoreAt records query i ∨ (¬scoreAt records query i < scoreAt records query j ∧ i < j)

/-- Every place once, each ahead of those that follow it. -/
structure IsRanking (records : List IndexRecord) (query : Embedding) (order : List (Fin records.length)) : Prop where
  perm : order.Perm (List.finRange records.length)
  ahead : order.Pairwise (Ahead records query)

theorem length_rank (records : List IndexRecord) (query : Embedding) (k : ℕ) :
    (rank records query k).length = min k records.length := by
  rw [rank, List.length_take, List.length_mergeSort, scored, List.length_map]

/-- No score is NaN, so that any two of them can be compared. -/
def Comparable (records : List IndexRecord) (query : Embedding) : Prop :=
  ∀ record ∈ records, (cosineSimilarity record.vector query).isNaN = false

/-- The hits that a ranking may give. Scores that can be compared are sorted; of others a sort promises no order, but
only that each record has its place. -/
inductive MayRank (records : List IndexRecord) (query : Embedding) (k : ℕ) : List Hit → Prop
  | sorted (h : Comparable records query) : MayRank records query k (rank records query k)
  | unordered {order : List Hit} (h : ¬Comparable records query) (hperm : order.Perm (scored records query)) :
    MayRank records query k (order.take k)

theorem mayRank_rank (records : List IndexRecord) (query : Embedding) (k : ℕ) :
    MayRank records query k (rank records query k) := by
  by_cases h : Comparable records query
  · exact .sorted h
  · exact .unordered h (List.mergeSort_perm ..)

namespace MayRank

variable {k : ℕ} {hits : List Hit}

/-- Whatever the scores are, the hits are the first `k` in some order of all records. -/
theorem exists_perm (h : MayRank records query k hits) :
    ∃ order : List Hit, order.Perm (scored records query) ∧ hits = order.take k := by
  cases h with
  | sorted => exact ⟨_, List.mergeSort_perm .., rfl⟩
  | @unordered order _ hperm => exact ⟨order, hperm, rfl⟩

theorem length_eq (h : MayRank records query k hits) : hits.length = min k records.length := by
  obtain ⟨order, hperm, rfl⟩ := h.exists_perm
  rw [List.length_take, hperm.length_eq, scored, List.length_map]

end MayRank

theorem scored_eq (records : List IndexRecord) (query : Embedding) :
    scored records query = (List.finRange records.length).map (hitAt records query) := by
  refine List.ext_getElem (by simp [scored]) fun i hi hi' => ?_
  simp [scored, hitAt, scoreAt]

/-- The sort's question, asked of places: `i` need not stand behind `j`. -/
def mayPrecede (records : List IndexRecord) (query : Embedding) (i j : Fin records.length) : Bool :=
  (hitAt records query i).ranksBefore (hitAt records query j)

theorem mayPrecede_iff {i j : Fin records.length} :
    mayPrecede records query i j ↔ ¬scoreAt records query i < scoreAt records query j := by
  show (!decide (scoreAt records query i < scoreAt records query j)) = true ↔ _
  rw [Bool.not_eq_true', decide_eq_false_iff_not]

/-- Of two items of a list without duplicates only one comes first. -/
theorem not_pair_sublist {α : Type} [BEq α] [LawfulBEq α] {xs : List α} (h : xs.Nodup) {a b : α}
    (hab : [a, b].Sublist xs) : ¬[b, a].Sublist xs := by
  intro hba
  have hplaces : xs.Pairwise fun a b => xs.idxOf a < xs.idxOf b := by
    rw [List.pairwise_iff_getElem]
    intro i j hi hj hij
    rw [h.idxOf_getElem, h.idxOf_getElem]
    exact hij
  exact (hplaces.forall_sublist hab).asymm (hplaces.forall_sublist hba)

theorem pair_sublist_finRange {n : ℕ} {i j : Fin n} (h : i < j) : [i, j].Sublist (List.finRange n) := by
  have hsubset : List.Subperm [i, j] (List.finRange n) :=
    List.subperm_of_subset (by simp [h.ne]) fun l _ => List.mem_finRange l
  exact List.sublist_of_subperm_of_sortedLE hsubset (List.pairwise_pair.2 h.le).sortedLE
    (List.sortedLT_finRange _).sortedLE

/-- Without NaN the scores are in a total preorder, so the sort is one of the places, and it is stable. -/
theorem exists_isRanking (hnan : ∀ i, (scoreAt records query i).isNaN = false) :
    ∃ order, IsRanking records query order ∧ ∀ k, rank records query k = (order.take k).map (hitAt records query) := by
  have htrans : ∀ i j l, mayPrecede records query i j → mayPrecede records query j l → mayPrecede records query i l := by
    intro i j l hij hjl
    rw [mayPrecede_iff] at *
    exact Number.float32_not_lt_trans (hnan i) (hnan j) (hnan l) hij hjl
  have htotal : ∀ i j, mayPrecede records query i j || mayPrecede records query j i := by
    intro i j
    rw [Bool.or_eq_true, mayPrecede_iff, mayPrecede_iff]
    exact Number.float32_not_lt_total (hnan i) (hnan j)
  obtain ⟨order, horder⟩ :
      ∃ order, order = (List.finRange records.length).mergeSort (mayPrecede records query) := ⟨_, rfl⟩
  have hperm : order.Perm (List.finRange records.length) := horder ▸ List.mergeSort_perm ..
  have hnodup : order.Nodup := hperm.nodup_iff.2 (List.nodup_finRange _)
  refine ⟨order, ⟨hperm, List.pairwise_of_forall_sublist ?_⟩, fun k => ?_⟩
  · intro i j hij
    have hsorted : order.Pairwise fun i j => mayPrecede records query i j :=
      horder ▸ List.pairwise_mergeSort htrans htotal _
    have hle := mayPrecede_iff.1 (hsorted.forall_sublist hij)
    refine or_iff_not_imp_left.2 fun hsame => ⟨hle, ?_⟩
    -- Two of the same score stay as they were.
    by_contra hlt
    have hne : j ≠ i := by
      rintro rfl
      simpa using hnodup.sublist hij
    have hji : j < i := lt_of_le_of_ne (not_lt.1 hlt) hne
    have hstable : [j, i].Sublist order :=
      horder ▸ List.pair_sublist_mergeSort htrans htotal (mayPrecede_iff.2 hsame) (pair_sublist_finRange hji)
    exact not_pair_sublist hnodup hij hstable
  · have hsort : order.map (hitAt records query) = (scored records query).mergeSort Hit.ranksBefore := by
      rw [horder, scored_eq]
      exact List.map_mergeSort fun i _ j _ => rfl
    rw [List.map_take, hsort, rank]

namespace IsRanking

variable {order : List (Fin records.length)}

theorem length_eq (h : IsRanking records query order) : order.length = records.length := by
  rw [h.perm.length_eq, List.length_finRange]

/-- What is left out comes after all that is given. -/
theorem ahead_of_omitted (h : IsRanking records query order) {k : ℕ} {i j : Fin records.length}
    (hi : i ∈ order.take k) (hj : j ∉ order.take k) : Ahead records query i j := by
  have hmem : j ∈ order.take k ++ order.drop k := by
    rw [List.take_append_drop]
    exact h.perm.mem_iff.2 (List.mem_finRange j)
  have hdrop : j ∈ order.drop k := (List.mem_append.1 hmem).resolve_left hj
  have hpairs := h.ahead
  rw [← List.take_append_drop k order, List.pairwise_append] at hpairs
  exact hpairs.2.2 i hi j hdrop

end IsRanking

/-! ## Searches -/

variable {σ : Type}

namespace VectorIndex

/-- What is answered for a vector, once there is something to ask. -/
def answer (dimensions : ℕ) (records : List IndexRecord) (vector : Embedding) (k : ℕ) :
    Except RetrievalError (List Hit) := do
  checkCount k
  checkVector dimensions vector
  checkPopulated records
  return rank records vector k

theorem searchByVector_run (vector : Embedding) (k : ℕ) (world : World σ) :
    (searchByVector vector k).run.run world =
      (answer world.index.dimensions world.index.records vector k, world) := by
  have hget : (get : Action σ RetrievalError (World σ)).run.run world = (.ok world, world) := rfl
  unfold searchByVector answer
  rw [run_bind, hget]
  dsimp only
  cases checkCount k with
  | error e => rfl
  | ok u =>
    cases checkVector world.index.dimensions vector with
    | error e => rfl
    | ok u => cases checkPopulated world.index.records <;> rfl

theorem search_run (query : String) (k : ℕ) (world : World σ) :
    (search query k).run.run world =
      if k = 0 then (.error .zeroK, world)
      else if Text.blank query then (.error .blankQuery, world)
      else if world.index.records.isEmpty then (.error .emptyIndex, world)
      else
        match (world.index.embedder.embed query).run.run world.providers with
        | (.error e, s) => (.error e, ⟨world.index, s⟩)
        | (.ok vector, s) =>
          ((checkVector world.index.dimensions vector).map fun _ => rank world.index.records vector k,
            ⟨world.index, s⟩) := by
  have hget : (get : Action σ RetrievalError (World σ)).run.run world = (.ok world, world) := rfl
  unfold search
  rw [run_bind, hget]
  dsimp only
  by_cases hk : k = 0
  · rw [if_pos hk, checkCount, if_pos hk]
    rfl
  rw [if_neg hk, checkCount, if_neg hk]
  by_cases hblank : Text.blank query
  · rw [if_pos hblank, if_pos hblank]
    rfl
  rw [if_neg hblank, if_neg hblank]
  by_cases hempty : world.index.records.isEmpty
  · rw [if_pos hempty, checkPopulated, if_pos hempty]
    rfl
  rw [if_neg hempty, checkPopulated, if_neg hempty]
  show ((world.index.embedder.embed query).toAction >>= _).run.run world = _
  rw [run_bind, Call.toAction_run]
  cases (world.index.embedder.embed query).run.run world.providers with
  | mk result s =>
    cases result with
    | error e => rfl
    | ok vector =>
      dsimp only
      cases checkVector world.index.dimensions vector <;> rfl

/-- A search leaves the index as it is. -/
theorem search_index (query : String) (k : ℕ) (world : World σ) :
    ((search query k).run.run world).2.index = world.index := by
  rw [search_run]
  split
  · rfl
  split
  · rfl
  split
  · rfl
  split <;> rfl

theorem answer_eq_ok {dimensions k : ℕ} {records : List IndexRecord} {vector : Embedding} (hk : 0 < k)
    (hvector : checkVector dimensions vector = .ok ()) (hpopulated : records ≠ []) :
    answer dimensions records vector k = .ok (rank records vector k) := by
  unfold answer
  rw [checkCount, if_neg (by omega), hvector, checkPopulated, if_neg (by simpa using hpopulated)]
  rfl

/-- A search by vector gives the first `k` records of one order of them all: the better score first, of
equal scores the earlier record. A search by text is a search by the vector that the text is embedded as. -/
theorem search_topK (index : VectorIndex σ) (hpopulated : index.records ≠ []) :
    (∀ vector k, 0 < k → checkVector index.dimensions vector = .ok () →
      (∀ record ∈ index.records, (cosineSimilarity record.vector vector).isNaN = false) → ∀ s,
      ∃ order, IsRanking index.records vector order ∧
        (searchByVector vector k).run.run ⟨index, s⟩ =
          (.ok ((order.take k).map (hitAt index.records vector)), ⟨index, s⟩) ∧
        ((order.take k).map (hitAt index.records vector)).length = min k index.records.length ∧
        ∀ i ∈ order.take k, ∀ j ∉ order.take k,
          ¬scoreAt index.records vector i < scoreAt index.records vector j ∧
            (¬scoreAt index.records vector j < scoreAt index.records vector i → i < j)) ∧
    ∀ query vector s s', ¬Text.blank query → (index.embedder.embed query).run.run s = (.ok vector, s') → ∀ k,
      ((search query k).run.run ⟨index, s⟩).1 = ((searchByVector vector k).run.run ⟨index, s⟩).1 := by
  constructor
  · intro vector k hk hvector hnan s
    have hscores : ∀ i, (scoreAt index.records vector i).isNaN = false := fun i => hnan _ (List.getElem_mem i.2)
    obtain ⟨order, horder, hrank⟩ := exists_isRanking hscores
    refine ⟨order, horder, ?_, ?_, fun i hi j hj => ?_⟩
    · rw [searchByVector_run, answer_eq_ok hk hvector hpopulated, hrank]
    · rw [List.length_map, List.length_take, horder.length_eq]
    · rcases horder.ahead_of_omitted hi hj with hlt | ⟨hle, hij⟩
      · exact ⟨Number.float32_lt_asymm (hscores j) (hscores i) hlt, fun hsame => absurd hlt hsame⟩
      · exact ⟨hle, fun _ => hij⟩
  · intro query vector s s' hblank hembed k
    have hnonempty : index.records.isEmpty = false := by simpa using hpopulated
    rw [search_run, searchByVector_run, answer, checkCount, checkPopulated]
    dsimp only
    rw [hnonempty, hembed, if_neg hblank, if_neg Bool.false_ne_true, if_neg Bool.false_ne_true]
    split
    · rfl
    · dsimp only
      cases checkVector index.dimensions vector <;> rfl

/-- An index of three records, two of which are equally similar to the second axis. -/
def axes : VectorIndex Unit :=
  ⟨.oneByOne 2 fun _ => pure [0, 1], 2, [⟨⟨1⟩, [1, 0], ⟨"east", "map", 0, .empty⟩⟩,
    ⟨⟨2⟩, [0, 1], ⟨"north", "map", 1, .empty⟩⟩, ⟨⟨3⟩, [0, 2], ⟨"far north", "map", 2, .empty⟩⟩]⟩

theorem search_topK_axes :
    (∃ order, IsRanking axes.records [0, 1] order ∧
      (searchByVector [0, 1] 2).run.run ⟨axes, ()⟩ = (.ok ((order.take 2).map (hitAt axes.records [0, 1])), ⟨axes, ()⟩) ∧
      ((order.take 2).map (hitAt axes.records [0, 1])).length = 2) ∧
    ((search "up" 2).run.run ⟨axes, ()⟩).1 = ((searchByVector [0, 1] 2).run.run ⟨axes, ()⟩).1 := by
  obtain ⟨hvector, htext⟩ := search_topK axes (by decide)
  obtain ⟨order, horder, hrun, hlength, -⟩ := hvector [0, 1] 2 (by decide) (by decide +kernel) (by decide +kernel) ()
  exact ⟨⟨order, horder, hrun, hlength⟩, htext "up" [0, 1] () () (by decide +kernel) rfl 2⟩

end VectorIndex

end GroundedQA
