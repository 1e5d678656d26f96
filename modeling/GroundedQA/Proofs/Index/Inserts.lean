import GroundedQA.Index.Basic
import GroundedQA.Proofs.Failure
/-!
# What an insertion does

`prepare_run` and `insert_run` are the actions as functions of the state. A batch is added whole, or the
index stays as it is; and what is added has passed the checks (`fits_of_prepare`).
-/

namespace GroundedQA

theorem checkVector_iff {dimensions : Nat} {vector : Embedding} :
    checkVector dimensions vector = .ok () ↔ vector.length = dimensions ∧ ∀ x ∈ vector, x.isFinite := by
  unfold checkVector
  by_cases hlength : vector.length = dimensions
  · rw [if_neg (not_not_intro hlength)]
    simp [hlength]
  · rw [if_pos hlength]
    simp [hlength]

theorem checkVectors_iff {dimensions : Nat} {vectors : List Embedding} :
    checkVectors dimensions vectors = .ok () ↔
      ∀ vector ∈ vectors, vector.length = dimensions ∧ ∀ x ∈ vector, x.isFinite := by
  unfold checkVectors
  simp only [forM_eq_ok, checkVector_iff]

variable {σ α : Type}

theorem Call.toAction_run (call : Call σ α) (world : World σ) :
    call.toAction.run.run world =
      ((call.run.run world.providers).1, { world with providers := (call.run.run world.providers).2 }) := rfl

/-- A record that may stand in an index: its vector has the right length and only finite components. -/
structure IndexRecord.Fits (dimensions : Nat) (record : IndexRecord) : Prop where
  length_eq : record.vector.length = dimensions
  isFinite : ∀ x ∈ record.vector, x.isFinite

namespace VectorIndex

/-- The records of a batch with the vectors that came back for it. -/
def newRecords (newId : Nat → Uuid) (chunks : List Chunk) (vectors : List Embedding) : List IndexRecord :=
  (chunks.zip vectors).zipIdx.map fun ((chunk, vector), i) => ⟨newId i, vector, chunk⟩

/-- The records of a batch, if the vectors pass the checks. -/
def admitted (dimensions : Nat) (newId : Nat → Uuid) (chunks : List Chunk) (vectors : List Embedding) :
    Except RetrievalError (List IndexRecord) :=
  if vectors.length ≠ chunks.length then .error (.embeddingCount vectors.length chunks.length)
  else (checkVectors dimensions vectors).map fun _ => newRecords newId chunks vectors

theorem prepare_run (embedder : Embedder σ) (dimensions : Nat) (newId : Nat → Uuid) (chunks : List Chunk) (s : σ) :
    (prepare embedder dimensions newId chunks).run.run s =
      if chunks.isEmpty then (.error .noChunks, s)
      else
        match (embedder.embedBatch (chunks.map (·.text))).run.run s with
        | (.error e, s) => (.error e, s)
        | (.ok vectors, s) => (admitted dimensions newId chunks vectors, s) := by
  unfold prepare
  cases chunks.isEmpty with
  | true => rfl
  | false =>
    simp only [Bool.false_eq_true, if_false]
    rw [run_bind]
    cases (embedder.embedBatch (chunks.map (·.text))).run.run s with
    | mk result s =>
      cases result with
      | error e => rfl
      | ok vectors =>
        dsimp only
        unfold admitted
        split
        · rfl
        · cases checkVectors dimensions vectors <;> rfl

theorem insert_run (newId : Nat → Uuid) (chunks : List Chunk) (world : World σ) :
    (insert newId chunks).run.run world =
      match (prepare world.index.embedder world.index.dimensions newId chunks).run.run world.providers with
      | (.error e, s) => (.error e, ⟨world.index, s⟩)
      | (.ok records, s) => (.ok (records.map (·.id)), ⟨world.index.append records, s⟩) := by
  have hget : (get : Action σ RetrievalError (World σ)).run.run world = (.ok world, world) := rfl
  unfold insert
  rw [run_bind, hget]
  dsimp only
  rw [run_bind, Call.toAction_run]
  cases (prepare world.index.embedder world.index.dimensions newId chunks).run.run world.providers with
  | mk result s => cases result <;> rfl

/-! ## What is added -/

theorem mem_newRecords {newId : Nat → Uuid} {chunks : List Chunk} {vectors : List Embedding} {record : IndexRecord}
    (h : record ∈ newRecords newId chunks vectors) : record.chunk ∈ chunks ∧ record.vector ∈ vectors := by
  obtain ⟨⟨⟨chunk, vector⟩, i⟩, hmem, rfl⟩ := List.mem_map.1 h
  have hzip := List.of_mem_zip (List.fst_mem_of_mem_zipIdx hmem)
  exact hzip

theorem admitted_eq_ok {dimensions : Nat} {newId : Nat → Uuid} {chunks : List Chunk} {vectors : List Embedding}
    {records : List IndexRecord} :
    admitted dimensions newId chunks vectors = .ok records ↔
      vectors.length = chunks.length ∧ checkVectors dimensions vectors = .ok () ∧
        records = newRecords newId chunks vectors := by
  unfold admitted
  split
  · next hlength => simp [hlength]
  · next hlength =>
    cases checkVectors dimensions vectors with
    | error e => simp [Except.map]
    | ok u => simp [Except.map, Decidable.not_not.1 hlength, eq_comm]

/-- The records of a batch that was prepared are those of its vectors, which have all passed the checks. -/
theorem prepare_eq_ok {embedder : Embedder σ} {dimensions : Nat} {newId : Nat → Uuid} {chunks : List Chunk}
    {s s' : σ} {records : List IndexRecord}
    (h : (prepare embedder dimensions newId chunks).run.run s = (.ok records, s')) :
    ∃ vectors, records = newRecords newId chunks vectors ∧ vectors.length = chunks.length ∧
      checkVectors dimensions vectors = .ok () := by
  rw [prepare_run] at h
  -- An empty batch and a provider that fails give no records.
  split at h
  · cases h
  split at h
  · cases h
  next vectors s'' _ =>
    obtain ⟨hlength, hcheck, hrecords⟩ := admitted_eq_ok.1 (Prod.mk.inj h).1
    exact ⟨vectors, hrecords, hlength, hcheck⟩

/-- The records of a batch that was admitted hold its chunks, and vectors that may take part. -/
theorem fits_of_prepare {embedder : Embedder σ} {dimensions : Nat} {newId : Nat → Uuid} {chunks : List Chunk}
    {s s' : σ} {records : List IndexRecord}
    (h : (prepare embedder dimensions newId chunks).run.run s = (.ok records, s')) :
    ∀ record ∈ records, record.chunk ∈ chunks ∧ record.Fits dimensions := by
  obtain ⟨vectors, rfl, -, hcheck⟩ := prepare_eq_ok h
  intro record hrecord
  obtain ⟨hchunk, hvector⟩ := mem_newRecords hrecord
  obtain ⟨hlength, hfinite⟩ := checkVectors_iff.1 hcheck _ hvector
  exact ⟨hchunk, hlength, hfinite⟩

/-- The chunks of a batch, in their order, each with a new id and a vector that may take part. -/
structure IsBatch (dimensions : Nat) (newId : Nat → Uuid) (chunks : List Chunk)
    (records : List IndexRecord) : Prop where
  chunks_eq : records.map (·.chunk) = chunks
  ids_eq : records.map (·.id) = (List.range chunks.length).map newId
  fits : ∀ record ∈ records, record.Fits dimensions

theorem isBatch_of_prepare {embedder : Embedder σ} {dimensions : Nat} {newId : Nat → Uuid} {chunks : List Chunk}
    {s s' : σ} {records : List IndexRecord}
    (h : (prepare embedder dimensions newId chunks).run.run s = (.ok records, s')) :
    IsBatch dimensions newId chunks records := by
  obtain ⟨vectors, rfl, hlength, -⟩ := prepare_eq_ok h
  have hzip : (chunks.zip vectors).length = chunks.length := by simp [hlength]
  refine ⟨?_, ?_, fun record hrecord => (fits_of_prepare h record hrecord).2⟩
  · calc (newRecords newId chunks vectors).map (·.chunk)
        = ((chunks.zip vectors).zipIdx.map Prod.fst).map Prod.fst := by
          rw [newRecords, List.map_map, List.map_map]
          rfl
      _ = chunks := by rw [List.zipIdx_map_fst, List.map_fst_zip (Nat.le_of_eq hlength.symm)]
  · calc (newRecords newId chunks vectors).map (·.id)
        = ((chunks.zip vectors).zipIdx.map Prod.snd).map newId := by
          rw [newRecords, List.map_map, List.map_map]
          rfl
      _ = (List.range chunks.length).map newId := by rw [List.zipIdx_map_snd, hzip, List.range_eq_range']

/-! ## Runs of insertions -/

/-- An index that insertions alone have led to. A batch may hold any chunks whose places are numbers of
64 bits; an insertion may fail, and the providers may have changed in any way before it. -/
inductive Inserted (embedder : Embedder σ) : VectorIndex σ → Prop
  | new : Inserted embedder (.new embedder)
  | insert {index : VectorIndex σ} (h : Inserted embedder index) (newId : Nat → Uuid) (chunks : List Chunk)
      (hplace : ∀ chunk ∈ chunks, chunk.sequenceIndex < 2 ^ 64) (providers : σ) :
      Inserted embedder ((VectorIndex.insert newId chunks).run.run ⟨index, providers⟩).2.index

/-- What insertions keep true of an index. -/
structure Sound (embedder : Embedder σ) (index : VectorIndex σ) : Prop where
  embedder_eq : index.embedder = embedder
  dimensions_eq : index.dimensions = embedder.dimensions
  fits : ∀ record ∈ index.records, record.Fits index.dimensions
  place_lt : ∀ record ∈ index.records, record.chunk.sequenceIndex < 2 ^ 64

theorem Sound.append {embedder : Embedder σ} {index : VectorIndex σ} (h : Sound embedder index)
    {records : List IndexRecord} (hfits : ∀ record ∈ records, record.Fits index.dimensions)
    (hplace : ∀ record ∈ records, record.chunk.sequenceIndex < 2 ^ 64) : Sound embedder (index.append records) where
  embedder_eq := h.embedder_eq
  dimensions_eq := h.dimensions_eq
  fits record hrecord := by
    rcases List.mem_append.1 hrecord with hold | hnew
    · exact h.fits record hold
    · exact hfits record hnew
  place_lt record hrecord := by
    rcases List.mem_append.1 hrecord with hold | hnew
    · exact h.place_lt record hold
    · exact hplace record hnew

theorem Inserted.sound {embedder : Embedder σ} {index : VectorIndex σ} (h : Inserted embedder index) :
    Sound embedder index := by
  induction h with
  | new => exact ⟨rfl, rfl, by simp [VectorIndex.new], by simp [VectorIndex.new]⟩
  | @insert index h newId chunks hplace providers ih =>
    rw [insert_run]
    split
    · exact ih
    next records s hprepare =>
      have hadded := fits_of_prepare hprepare
      exact ih.append (fun record hr => (hadded record hr).2) fun record hr => hplace _ (hadded record hr).1

end VectorIndex

end GroundedQA
