import GroundedQA.Proofs.Index.Runs
/-!
# Insertions are whole or refused

When an insertion succeeds, what it then adds, and what it fails with else. An insertion is `Admissible` by what the
embedder replies to it; when it is not, `Refused` says which check fails first. The first offending vector decides
(`checkVectors_eq_error`), and of its two checks the one of its length. What only looks at an index leaves it as it
is (`perform_reading`).
-/

namespace GroundedQA.VectorIndex

/-- Why a vector may not take part. -/
inductive VectorFault (dimensions : ℕ) (vector : Embedding) : RetrievalError → Prop
  | length : vector.length ≠ dimensions → VectorFault dimensions vector (.dimensionMismatch dimensions vector.length)
  | component : vector.length = dimensions → (∃ x ∈ vector, ¬x.isFinite) →
      VectorFault dimensions vector .nonFiniteEmbedding

/-- What the embedder has replied lets the batch in: as many vectors as there are chunks, each of the right length
and with finite components. -/
structure Admissible (dimensions : ℕ) (chunks : List Chunk) (reply : Except RetrievalError (List Embedding)) : Prop where
  ne_nil : chunks ≠ []
  vectors : ∃ vectors, reply = .ok vectors ∧ vectors.length = chunks.length ∧
    ∀ vector ∈ vectors, vector.length = dimensions ∧ ∀ x ∈ vector, x.isFinite

/-- The error that a batch is refused with: that of the first check which fails. -/
inductive Refused (dimensions : ℕ) (chunks : List Chunk) : Except RetrievalError (List Embedding) → RetrievalError → Prop
  | noChunks {reply : Except RetrievalError (List Embedding)} : chunks = [] → Refused dimensions chunks reply .noChunks
  | provider {e : RetrievalError} : chunks ≠ [] → Refused dimensions chunks (.error e) e
  | count {vectors : List Embedding} : chunks ≠ [] → vectors.length ≠ chunks.length →
      Refused dimensions chunks (.ok vectors) (.embeddingCount vectors.length chunks.length)
  | vector {before after : List Embedding} {vector : Embedding} {e : RetrievalError} : chunks ≠ [] →
      (before ++ vector :: after).length = chunks.length →
      (∀ earlier ∈ before, earlier.length = dimensions ∧ ∀ x ∈ earlier, x.isFinite) →
      VectorFault dimensions vector e → Refused dimensions chunks (.ok (before ++ vector :: after)) e

/-- The operation only looks at the index, or takes place outside of it. -/
def Operation.IsReading {σ : Type} : Operation σ → Prop
  | .search .. | .searchByVector .. | .save .. | .outside .. => True
  | .new _ | .insert .. | .load .. => False

/-! ## The checks of a batch -/

variable {σ : Type} {dimensions : ℕ} {chunks : List Chunk} {newId : ℕ → Uuid} {e : RetrievalError}

theorem checkVector_eq_error {vector : Embedding} :
    checkVector dimensions vector = .error e ↔ VectorFault dimensions vector e := by
  unfold checkVector
  constructor
  · intro h
    split at h
    · next hlength =>
      cases h
      exact .length hlength
    · next hlength =>
      split at h
      · next hany =>
        cases h
        exact .component (Decidable.not_not.1 hlength) (by simpa using hany)
      · cases h
  · rintro (hlength | ⟨hlength, hany⟩)
    · rw [if_pos hlength]
    · rw [if_neg (not_not_intro hlength), if_pos (by simpa using hany)]

/-- The first vector that may not take part is reported. -/
theorem checkVectors_eq_error {vectors : List Embedding} :
    checkVectors dimensions vectors = .error e ↔ ∃ before vector after, vectors = before ++ vector :: after ∧
      (∀ earlier ∈ before, earlier.length = dimensions ∧ ∀ x ∈ earlier, x.isFinite) ∧
      VectorFault dimensions vector e := by
  unfold checkVectors
  simp only [forM_eq_error, checkVector_iff, checkVector_eq_error]

theorem admitted_eq_error {vectors : List Embedding} (hchunks : chunks ≠ []) :
    admitted dimensions newId chunks vectors = .error e ↔ Refused dimensions chunks (.ok vectors) e := by
  unfold admitted
  constructor
  · intro h
    split at h
    · next hlength =>
      cases h
      exact .count hchunks hlength
    · next hlength =>
      cases hcheck : checkVectors dimensions vectors with
      | ok u =>
        rw [hcheck] at h
        cases h
      | error e' =>
        rw [hcheck] at h
        cases h
        obtain ⟨before, vector, after, rfl, hbefore, hfault⟩ := checkVectors_eq_error.1 hcheck
        exact .vector hchunks (Decidable.not_not.1 hlength) hbefore hfault
  · intro h
    cases h with
    | noChunks hnil => exact absurd hnil hchunks
    | count _ hlength => rw [if_pos hlength]
    | @vector before after vector _ _ hlength hbefore hfault =>
      have hcheck := checkVectors_eq_error.2 ⟨before, vector, after, rfl, hbefore, hfault⟩
      rw [if_neg (not_not_intro hlength), hcheck]
      rfl

/-- A batch is prepared from what the embedder has replied, or refused for that. -/
theorem prepare_fst_eq_error {embedder : Embedder σ} {s : σ} :
    ((prepare embedder dimensions newId chunks).run.run s).1 = .error e ↔
      Refused dimensions chunks ((embedder.embedBatch (chunks.map (·.text))).run.run s).1 e := by
  rw [prepare_run]
  by_cases hchunks : chunks = []
  · rw [if_pos (by simpa using hchunks)]
    constructor
    · intro h
      cases h
      exact .noChunks hchunks
    · generalize ((embedder.embedBatch (chunks.map (·.text))).run.run s).1 = reply
      intro h
      cases h with
      | noChunks _ => rfl
      | provider hne | count hne _ | vector hne _ _ _ => exact absurd hchunks hne
  · rw [if_neg (by simpa using hchunks)]
    cases (embedder.embedBatch (chunks.map (·.text))).run.run s with
    | mk reply s' =>
      cases reply with
      | ok vectors => exact admitted_eq_error hchunks
      | error e' =>
        constructor
        · intro h
          cases h
          exact .provider hchunks
        · intro h
          cases h with
          | noChunks hnil => exact absurd hnil hchunks
          | provider _ => rfl

theorem prepare_fst_eq_ok {embedder : Embedder σ} {s : σ} {records : List IndexRecord} :
    ((prepare embedder dimensions newId chunks).run.run s).1 = .ok records ↔
      chunks ≠ [] ∧ ∃ vectors, ((embedder.embedBatch (chunks.map (·.text))).run.run s).1 = .ok vectors ∧
        vectors.length = chunks.length ∧ checkVectors dimensions vectors = .ok () ∧
        records = newRecords newId chunks vectors := by
  rw [prepare_run]
  by_cases hchunks : chunks = []
  · simp [hchunks]
  · rw [if_neg (by simpa using hchunks)]
    cases (embedder.embedBatch (chunks.map (·.text))).run.run s with
    | mk reply s' =>
      cases reply with
      | error e => simp
      | ok vectors => simp [hchunks, admitted_eq_ok]

theorem getElem?_newRecords (newId : ℕ → Uuid) {vectors : List Embedding} (hlength : vectors.length = chunks.length)
    {i : ℕ} (hi : i < chunks.length) :
    (newRecords newId chunks vectors)[i]? = some ⟨newId i, vectors[i], chunks[i]⟩ := by
  have hzip : (chunks.zip vectors)[i]? = some (chunks[i], vectors[i]) := by
    rw [List.getElem?_zip_eq_some]
    exact ⟨List.getElem?_eq_getElem hi, List.getElem?_eq_getElem _⟩
  simp [newRecords, hzip]

/-! ## Insertions -/

/-- The records of a batch: one for each chunk, in the order of the chunks, with the chunk as it is, the vector of the
same place and the id of the same place. -/
structure IsBatchOf (chunks : List Chunk) (vectors : List Embedding) (ids : List Uuid) (added : List IndexRecord) :
    Prop where
  length_vectors : vectors.length = chunks.length
  length_ids : ids.length = chunks.length
  length_added : added.length = chunks.length
  aligned : ∀ i, i < chunks.length → ∃ id vector chunk, ids[i]? = some id ∧ vectors[i]? = some vector ∧
    chunks[i]? = some chunk ∧ added[i]? = some ⟨id, vector, chunk⟩

theorem isBatchOf_newRecords {vectors : List Embedding} (hlength : vectors.length = chunks.length) :
    IsBatchOf chunks vectors ((newRecords newId chunks vectors).map (·.id)) (newRecords newId chunks vectors) := by
  have hadded : (newRecords newId chunks vectors).length = chunks.length := by simp [newRecords, hlength]
  refine ⟨hlength, by rw [List.length_map, hadded], hadded, fun i hi => ?_⟩
  have hat := getElem?_newRecords newId hlength hi
  exact ⟨newId i, vectors[i], chunks[i], by rw [List.getElem?_map, hat, Option.map_some], List.getElem?_eq_getElem _,
    List.getElem?_eq_getElem hi, hat⟩

/-- An insertion fails exactly when its batch is refused, with the same error. -/
theorem insert_fst_eq_error {world : World σ} :
    ((insert newId chunks).run.run world).1 = .error e ↔
      ((prepare world.index.embedder world.index.dimensions newId chunks).run.run world.providers).1 = .error e := by
  rw [insert_run]
  split
  · next h => simp [h]
  · next h => simp [h]

/-- An insertion that fails leaves the index as it is. -/
theorem insert_index_of_error {world : World σ} (h : ((insert newId chunks).run.run world).1 = .error e) :
    ((insert newId chunks).run.run world).2.index = world.index := by
  rw [insert_run] at h ⊢
  split at h
  · rfl
  · cases h

/-- What an insertion that succeeds returns and adds. -/
theorem insert_eq_ok {world : World σ} {ids : List Uuid} (h : ((insert newId chunks).run.run world).1 = .ok ids) :
    ∃ vectors added,
      ((world.index.embedder.embedBatch (chunks.map (·.text))).run.run world.providers).1 = .ok vectors ∧
      ((insert newId chunks).run.run world).2.index = world.index.append added ∧
      IsBatchOf chunks vectors ids added := by
  rw [insert_run] at h ⊢
  split at h
  · cases h
  next records s hprepare =>
    obtain rfl : records.map (·.id) = ids := Except.ok.inj h
    obtain ⟨-, vectors, hreply, hlength, -, rfl⟩ := prepare_fst_eq_ok.1 (congrArg Prod.fst hprepare)
    exact ⟨vectors, _, hreply, rfl, isBatchOf_newRecords hlength⟩

theorem insert_succeeds_iff {world : World σ} :
    (∃ ids, ((insert newId chunks).run.run world).1 = .ok ids) ↔
      Admissible world.index.dimensions chunks
        ((world.index.embedder.embedBatch (chunks.map (·.text))).run.run world.providers).1 := by
  have hprepared : (∃ ids, ((insert newId chunks).run.run world).1 = .ok ids) ↔
      ∃ records, ((prepare world.index.embedder world.index.dimensions newId chunks).run.run world.providers).1 =
        .ok records := by
    rw [insert_run]
    split
    · next h => simp [h]
    · next h => simp [h]
  simp only [hprepared, prepare_fst_eq_ok, checkVectors_iff]
  constructor
  · rintro ⟨records, hchunks, vectors, hreply, hlength, hcheck, -⟩
    exact ⟨hchunks, vectors, hreply, hlength, hcheck⟩
  · rintro ⟨hchunks, vectors, hreply, hlength, hcheck⟩
    exact ⟨_, hchunks, vectors, hreply, hlength, hcheck, rfl⟩

/-! ## Looking at an index -/

theorem Operation.perform_reading {s : Surroundings σ} {operation : Operation σ} (h : operation.IsReading) :
    (operation.perform s).world.index = s.world.index := by
  cases operation with
  | search query k => exact search_index query k s.world
  | searchByVector vector k => rw [perform, searchByVector_run]
  | save path id => rfl
  | outside providers disk => rfl
  | new _ | insert _ _ | load _ _ => exact h.elim

/-- Any number of operations that only look at an index leave it as it is. -/
theorem perform_reading {s : Surroundings σ} {operations : List (Operation σ)}
    (h : ∀ operation ∈ operations, operation.IsReading) : (perform s operations).world.index = s.world.index := by
  induction operations generalizing s with
  | nil => rfl
  | cons operation operations ih =>
    obtain ⟨hfirst, hrest⟩ := List.forall_mem_cons.1 h
    rw [perform_cons, ih hrest, Operation.perform_reading hfirst]

theorem count_run (world : World σ) : (count : Action σ RetrievalError ℕ).run.run world =
    (.ok world.index.records.length, world) := rfl

theorem allRecords_run (world : World σ) : (allRecords : Action σ RetrievalError (List IndexRecord)).run.run world =
    (.ok world.index.records, world) := rfl

/-- An insertion succeeds exactly when its batch is admissible; then the records of the batch stand behind those from
before. Else it fails with the error of the first check that fails, and the index is as it was. What only looks at
the index never changes it. -/
theorem insert_atomic (newId : ℕ → Uuid) (chunks : List Chunk) (world : World σ) (disk : Storage.Disk) :
    let index := world.index
    let reply := ((index.embedder.embedBatch (chunks.map (·.text))).run.run world.providers).1
    let outcome := (insert newId chunks).run.run world
    ((∃ ids, outcome.1 = .ok ids) ↔ Admissible index.dimensions chunks reply) ∧
    (∀ ids, outcome.1 = .ok ids → ∃ vectors added, reply = .ok vectors ∧
      outcome.2.index = { index with records := index.records ++ added } ∧ IsBatchOf chunks vectors ids added) ∧
    (∀ e, outcome.1 = .error e ↔ Refused index.dimensions chunks reply e) ∧
    (∀ e, outcome.1 = .error e → outcome.2.index = index) ∧
    (∀ operations : List (Operation σ), (∀ operation ∈ operations, operation.IsReading) →
      (perform ⟨world, disk⟩ operations).world.index = index) ∧
    (count : Action σ RetrievalError ℕ).run.run world = (.ok index.records.length, world) ∧
    (allRecords : Action σ RetrievalError (List IndexRecord)).run.run world = (.ok index.records, world) := by
  intro index reply outcome
  refine ⟨insert_succeeds_iff, fun ids h => insert_eq_ok h, fun e => ?_, fun e h => insert_index_of_error h,
    fun operations h => perform_reading h, count_run world, allRecords_run world⟩
  exact insert_fst_eq_error.trans prepare_fst_eq_error

/-- An embedder that promises one component for each text and does not keep to that. -/
def ragged : Embedder Unit where
  dimensions := 1
  embed := fun _ => pure [1]
  embedBatch := fun _ => pure [[1], [Float32.ofBits 0x7f800000, 2], []]

/-- The second of three vectors is too long, and one of its components is infinite; the third is too short. -/
theorem insert_atomic_ragged :
    let chunk : Chunk := ⟨"text", "doc", 0, .empty⟩
    let outcome := (insert (fun _ => ⟨7⟩) [chunk, chunk, chunk]).run.run ⟨.new ragged, ()⟩
    outcome.1 = .error (.dimensionMismatch 1 2) ∧ outcome.2.index = .new ragged := by
  intro chunk outcome
  obtain ⟨-, -, hrefused, hkept, -⟩ := insert_atomic (fun _ => ⟨7⟩) [chunk, chunk, chunk] ⟨.new ragged, ()⟩ .empty
  have hfirst : ∀ earlier ∈ [([1] : Embedding)], earlier.length = 1 ∧ ∀ x ∈ earlier, x.isFinite := by decide +kernel
  have hrefusal : outcome.1 = .error (.dimensionMismatch 1 2) :=
    (hrefused _).2 (.vector (by simp) rfl hfirst (.length (by decide)))
  exact ⟨hrefusal, hkept _ hrefusal⟩

end GroundedQA.VectorIndex
