import GroundedQA.Proofs.Index.Fidelity
/-!
# What holds of an index after any run of operations

`Operation.index_cases` sums up what an operation does to an index: nothing, an empty one in its place, a
batch that has passed the checks, or one in its place that a load has taken from the disk. From that
follows what every run keeps (`Regular.perform`, `regular_perform`). A load looks at the lengths of the
vectors and not at their components, so these stay finite only while no load brings others in, and a file
that is saved of an index with others is not loaded again (`reloads_perform`, `load_save_infinite`).
-/

namespace GroundedQA.VectorIndex

open Storage

/-- What is done with an index, or with what lies outside of it. -/
inductive Operation (σ : Type)
  | new (embedder : Embedder σ)
  | insert (newId : ℕ → Uuid) (chunks : List Chunk)
  | search (query : String) (k : ℕ)
  | searchByVector (vector : Embedding) (k : ℕ)
  | save (path : String) (id : Uuid)
  /-- An index that could be loaded takes the place of the one before. -/
  | load (embedder : Embedder σ) (path : String)
  /-- The providers and the disk may come to anything between two operations. -/
  | outside (providers : σ) (disk : Disk)

/-- An index, the state of its providers, and the disk. -/
structure Surroundings (σ : Type) where
  world : World σ
  disk : Disk

variable {σ : Type}

def Operation.perform (s : Surroundings σ) : Operation σ → Surroundings σ
  | .new embedder => ⟨⟨.new embedder, s.world.providers⟩, s.disk⟩
  | .insert newId chunks => ⟨((VectorIndex.insert newId chunks).run.run s.world).2, s.disk⟩
  | .search query k => ⟨((VectorIndex.search query k).run.run s.world).2, s.disk⟩
  | .searchByVector vector k => ⟨((VectorIndex.searchByVector vector k).run.run s.world).2, s.disk⟩
  | .save path id => ⟨s.world, (s.world.index.save s.disk path id).2⟩
  | .load embedder path =>
    match VectorIndex.load embedder s.disk path with
    | .ok index => ⟨⟨index, s.world.providers⟩, s.disk⟩
    | .error _ => s
  | .outside providers disk => ⟨⟨s.world.index, providers⟩, disk⟩

/-- What a run of operations comes to. -/
def perform (s : Surroundings σ) (operations : List (Operation σ)) : Surroundings σ :=
  operations.foldl Operation.perform s

theorem perform_nil (s : Surroundings σ) : perform s [] = s := rfl

theorem perform_cons (s : Surroundings σ) (operation : Operation σ) (operations : List (Operation σ)) :
    perform s (operation :: operations) = perform (operation.perform s) operations := rfl

/-- The numbers that an operation is given are numbers of 64 bits. -/
def Operation.IsSized : Operation σ → Prop
  | .new embedder => embedder.dimensions < 2 ^ 64
  | .insert _ chunks => ∀ chunk ∈ chunks, chunk.sequenceIndex < 2 ^ 64
  | _ => True

/-- Every component of every vector is finite. -/
def HasFiniteVectors (index : VectorIndex σ) : Prop :=
  ∀ record ∈ index.records, ∀ x ∈ record.vector, x.isFinite

/-- What a load takes from the disk as it is has only finite components. -/
def Operation.BringsFinite (s : Surroundings σ) : Operation σ → Prop
  | .load embedder path => ∀ index, VectorIndex.load embedder s.disk path = .ok index → index.HasFiniteVectors
  | _ => True

/-- No load of a run brings in anything else. -/
def BringFinite : Surroundings σ → List (Operation σ) → Prop
  | _, [] => True
  | s, operation :: operations => operation.BringsFinite s ∧ BringFinite (operation.perform s) operations

/-! ## What an operation does -/

variable {s : Surroundings σ}

theorem Operation.perform_outside (providers : σ) (disk : Disk) :
    (Operation.outside providers disk).perform s = ⟨⟨s.world.index, providers⟩, disk⟩ := rfl

theorem Operation.perform_load {world : World σ} {disk : Disk} {embedder : Embedder σ} {path : String}
    {index : VectorIndex σ} (h : VectorIndex.load embedder disk path = .ok index) :
    (Operation.load embedder path).perform ⟨world, disk⟩ = ⟨⟨index, world.providers⟩, disk⟩ := by
  rw [perform, h]

/-- An operation leaves the index, replaces it by an empty one, adds a batch to it, or replaces it by one
that it has loaded. -/
theorem Operation.index_cases (operation : Operation σ) :
    (operation.perform s).world.index = s.world.index ∨
    (∃ embedder, operation = .new embedder ∧ (operation.perform s).world.index = .new embedder) ∨
    (∃ newId chunks batch, operation = .insert newId chunks ∧ IsBatch s.world.index.dimensions newId chunks batch ∧
      (operation.perform s).world.index = s.world.index.append batch) ∨
    ∃ embedder path index, operation = .load embedder path ∧ VectorIndex.load embedder s.disk path = .ok index ∧
      (operation.perform s).world.index = index := by
  cases operation with
  | new embedder => exact .inr (.inl ⟨embedder, rfl, rfl⟩)
  | insert newId chunks =>
    have hrun := insert_run newId chunks s.world
    split at hrun
    · exact .inl (by rw [perform, hrun])
    next batch providers hprepare =>
      exact .inr (.inr (.inl ⟨newId, chunks, batch, rfl, isBatch_of_prepare hprepare, by rw [perform, hrun]⟩))
  | search query k => exact .inl (search_index query k s.world)
  | searchByVector vector k => exact .inl (by rw [perform, searchByVector_run])
  | save path id => exact .inl rfl
  | load embedder path =>
    cases hload : VectorIndex.load embedder s.disk path with
    | ok index => exact .inr (.inr (.inr ⟨embedder, path, index, rfl, hload, by rw [perform, hload]⟩))
    | error e => exact .inl (by rw [perform, hload])
  | outside providers disk => exact .inl rfl

/-! ## What every run keeps -/

/-- The vectors have the length that the embedder promises, and all numbers are numbers of 64 bits. -/
structure Regular (index : VectorIndex σ) : Prop where
  dimensions_eq : index.dimensions = index.embedder.dimensions
  dimensions_lt : index.dimensions < 2 ^ 64
  length_eq : ∀ record ∈ index.records, record.vector.length = index.dimensions
  place_lt : ∀ record ∈ index.records, record.chunk.sequenceIndex < 2 ^ 64

theorem regular_new {embedder : Embedder σ} (h : embedder.dimensions < 2 ^ 64) : Regular (.new embedder) where
  dimensions_eq := rfl
  dimensions_lt := h
  length_eq := by simp [VectorIndex.new]
  place_lt := by simp [VectorIndex.new]

theorem Regular.append {index : VectorIndex σ} (h : Regular index) {newId : ℕ → Uuid} {chunks : List Chunk}
    {batch : List IndexRecord} (hbatch : IsBatch index.dimensions newId chunks batch)
    (hplace : ∀ chunk ∈ chunks, chunk.sequenceIndex < 2 ^ 64) : Regular (index.append batch) where
  dimensions_eq := h.dimensions_eq
  dimensions_lt := h.dimensions_lt
  length_eq record hrecord := by
    rcases List.mem_append.1 hrecord with hold | hnew
    · exact h.length_eq record hold
    · exact (hbatch.fits record hnew).length_eq
  place_lt record hrecord := by
    rcases List.mem_append.1 hrecord with hold | hnew
    · exact h.place_lt record hold
    · refine hplace record.chunk ?_
      rw [← hbatch.chunks_eq]
      exact List.mem_map_of_mem hnew

/-- What was loaded has passed the checks of a load. -/
theorem regular_of_load {embedder : Embedder σ} {disk : Disk} {path : String} {index : VectorIndex σ}
    (h : load embedder disk path = .ok index) : Regular index := by
  obtain ⟨content, file, -, hdecode, hcheck, rfl⟩ := load_eq_ok h
  obtain ⟨hdim, hlength⟩ := IndexFile.of_check hcheck
  obtain ⟨hword, hplace⟩ := IndexFile.lt_of_decode? hdecode
  exact ⟨hdim, hword, hlength, hplace⟩

theorem Regular.perform (h : Regular s.world.index) {operation : Operation σ} (hsized : operation.IsSized) :
    Regular (operation.perform s).world.index := by
  obtain heq | ⟨embedder, rfl, heq⟩ | ⟨newId, chunks, batch, rfl, hbatch, heq⟩ |
    ⟨embedder, path, index, rfl, hload, heq⟩ := operation.index_cases (s := s)
  all_goals rw [heq]
  · exact h
  · exact regular_new hsized
  · exact h.append hbatch hsized
  · exact regular_of_load hload

theorem regular_perform {operations : List (Operation σ)} (h : Regular s.world.index)
    (hsized : ∀ operation ∈ operations, operation.IsSized) : Regular (perform s operations).world.index := by
  induction operations generalizing s with
  | nil => exact h
  | cons operation operations ih =>
    obtain ⟨hfirst, hrest⟩ := List.forall_mem_cons.1 hsized
    exact ih (h.perform hfirst) hrest

/-- Only a load can bring in a component that is not finite. -/
theorem HasFiniteVectors.perform (h : s.world.index.HasFiniteVectors) {operation : Operation σ}
    (hbrings : operation.BringsFinite s) : (operation.perform s).world.index.HasFiniteVectors := by
  obtain heq | ⟨embedder, rfl, heq⟩ | ⟨newId, chunks, batch, rfl, hbatch, heq⟩ |
    ⟨embedder, path, index, rfl, hload, heq⟩ := operation.index_cases (s := s)
  all_goals rw [heq]
  · exact h
  · intro record hrecord
    cases hrecord
  · intro record hrecord
    rcases List.mem_append.1 hrecord with hold | hnew
    · exact h record hold
    · exact (hbatch.fits record hnew).isFinite
  · exact hbrings index hload

theorem hasFiniteVectors_perform {operations : List (Operation σ)} (h : s.world.index.HasFiniteVectors)
    (hbring : BringFinite s operations) : (perform s operations).world.index.HasFiniteVectors := by
  induction operations generalizing s with
  | nil => exact h
  | cons operation operations ih => exact ih (h.perform hbring.1) hbring.2

/-! ## Saving and loading again -/

theorem Regular.sound {index : VectorIndex σ} (h : Regular index) (hfinite : index.HasFiniteVectors) :
    Sound index.embedder index where
  embedder_eq := rfl
  dimensions_eq := h.dimensions_eq
  fits record hrecord := ⟨h.length_eq record hrecord, hfinite record hrecord⟩
  place_lt := h.place_lt

/-- The file of an index with a component that is not finite is not read. -/
theorem load_save_of_not_finite {index : VectorIndex σ} (h : ¬index.HasFiniteVectors) {disk : Disk} {path : String}
    {id : Uuid} (hsave : (index.save disk path id).1 = .ok ()) (loader : Embedder σ) :
    load loader (index.save disk path id).2 path =
      .error (.indexUnreadable path "not a JSON document of an index") := by
  have haccepts := save_iff.1 hsave
  refine load_of_undecoded loader (Disk.occupied_save haccepts) (Disk.read_save haccepts) ?_
  cases hdecode : IndexFile.decode? index.toFile.encode with
  | none => rfl
  | some loaded => exact absurd (IndexFile.isFinite_of_decode?_encode hdecode) h

/-- In every run the vectors have the length of the index. They are finite as long as nothing else is loaded,
and just then a file that is saved of the index is loaded again, as the same index, in whatever order the members
of its objects stand. -/
theorem reloads_perform (embedder : Embedder σ) (hembedder : embedder.dimensions < 2 ^ 64) (providers : σ) (disk : Disk)
    (operations : List (Operation σ)) (hsized : ∀ operation ∈ operations, operation.IsSized) :
    let start : Surroundings σ := ⟨⟨.new embedder, providers⟩, disk⟩
    let index := (perform start operations).world.index
    index.dimensions = index.embedder.dimensions ∧
    (∀ record ∈ index.records, record.vector.length = index.dimensions) ∧
    (BringFinite start operations → index.HasFiniteVectors) ∧
    ∀ disk path id, (index.save disk path id).1 = .ok () →
      (index.HasFiniteVectors → load index.embedder (index.save disk path id).2 path = .ok index) ∧
      (¬index.HasFiniteVectors → load index.embedder (index.save disk path id).2 path =
        .error (.indexUnreadable path "not a JSON document of an index")) ∧
      ∀ (other : Disk) (j : Json), index.toFile.toJson.Rearranges j → other.occupied path = .ok true →
        other.read path = .ok j.render.toUTF8 →
        load index.embedder other path = load index.embedder (index.save disk path id).2 path := by
  intro start index
  have hregular : Regular index := regular_perform (regular_new hembedder) hsized
  have hnone : (VectorIndex.new embedder).HasFiniteVectors := by
    intro record hrecord
    cases hrecord
  refine ⟨hregular.dimensions_eq, hregular.length_eq, hasFiniteVectors_perform hnone, fun disk path id hsave => ?_⟩
  refine ⟨fun hfinite => ?_, fun hinfinite => load_save_of_not_finite hinfinite hsave index.embedder,
    fun other j hj hoccupied hread => load_rearranged hsave hj hoccupied hread index.embedder⟩
  have hword : index.embedder.dimensions < 2 ^ 64 := hregular.dimensions_eq ▸ hregular.dimensions_lt
  rw [load_save_eq (hregular.sound hfinite) hword hsave, if_pos hregular.dimensions_eq.symm]

/-- An embedder that gives every text the same number. -/
def constant : Embedder Unit :=
  .oneByOne 1 fun _ => pure [1]

theorem reloads_perform_constant :
    let start : Surroundings Unit := ⟨⟨.new constant, ()⟩, .empty⟩
    let index := (perform start [.insert (fun _ => ⟨7⟩) [⟨"text", "doc", 0, .empty⟩], .search "text" 1]).world.index
    index.records.length = 1 ∧ index.HasFiniteVectors ∧
      load index.embedder (index.save .empty "index.json" ⟨1⟩).2 "index.json" = .ok index := by
  intro start index
  obtain ⟨-, -, hfinite, hsaved⟩ := reloads_perform constant (by decide) () .empty
    [.insert (fun _ => ⟨7⟩) [⟨"text", "doc", 0, .empty⟩], .search "text" 1]
    (by simp [Operation.IsSized])
  have hindex := hfinite ⟨trivial, trivial, trivial⟩
  exact ⟨rfl, hindex, (hsaved .empty "index.json" ⟨1⟩ (save_iff.2 accepts_empty)).1 hindex⟩

/-! ## A number beyond the range -/

/-- The text of an index file, the one component of which is beyond the greatest binary32 number. -/
def overflowing : String :=
  "\x7b\"format_version\":1,\"dimensions\":1,\"records\":[\x7b\"id\":\"00000000-0000-0000-0000-000000000007\"," ++
  "\"vector\":[1e39],\"chunk\":\x7b\"text\":\"text\",\"source_id\":\"doc\",\"sequence_index\":0\x7d\x7d]\x7d"

/-- A disk with that file. -/
def overflowed : Disk :=
  ⟨[(["index.json"], .file overflowing.toUTF8)]⟩

/-- The index that it is loaded as: the component is infinite. -/
def infinite : VectorIndex Unit :=
  ⟨constant, 1, [⟨⟨7⟩, [Float32.ofBits 0x7f800000], ⟨"text", "doc", 0, .empty⟩⟩]⟩

theorem decode?_overflowing : IndexFile.decode? overflowing.toUTF8 = some infinite.toFile := by
  rw [IndexFile.decode?, Json.ofBytes?_toUTF8]
  decide +kernel

theorem load_overflowed : load constant overflowed "index.json" = .ok infinite := by
  rw [load_of_read constant rfl rfl decode?_overflowing]
  rfl

/-- A run leads to an index with a component that is not finite; saved, it is not loaded again. -/
theorem load_save_infinite :
    perform ⟨⟨.new constant, ()⟩, .empty⟩ [.outside () overflowed, .load constant "index.json"] =
      ⟨⟨infinite, ()⟩, overflowed⟩ ∧
    ¬infinite.HasFiniteVectors ∧ (infinite.save .empty "index.json" ⟨1⟩).1 = .ok () ∧
    load infinite.embedder (infinite.save .empty "index.json" ⟨1⟩).2 "index.json" =
      .error (.indexUnreadable "index.json" "not a JSON document of an index") := by
  have hinfinite : ¬infinite.HasFiniteVectors := by
    unfold HasFiniteVectors
    decide +kernel
  have hsave : (infinite.save .empty "index.json" ⟨1⟩).1 = .ok () := save_iff.2 accepts_empty
  refine ⟨?_, hinfinite, hsave, load_save_of_not_finite hinfinite hsave infinite.embedder⟩
  rw [perform_cons, perform_cons, perform_nil, Operation.perform_outside, Operation.perform_load load_overflowed]

end GroundedQA.VectorIndex
