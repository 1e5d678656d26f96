import GroundedQA.Ingestion
import GroundedQA.Proofs.Index.Searches
/-!
# Documents at once and one by one

With an embedder whose embeddings depend on the text alone, what is added to an index is a function of the
chunks: each with its embedding, if all of these may take part (`ingestBatch_stores`). For documents that are put
in one after the other this composes (`ingestEach_stores`), so both ways lead to the same index up to the ids of
its records, and searches do not see those (`ingestBatch_iff_ingestEach`).
-/

namespace GroundedQA

variable {σ α β ε : Type}

/-- An embedder whose embeddings depend on the text alone, as `f` says, and which embeds a batch text by text.
What its calls do to its state is left open. -/
structure Embedder.Computes (embedder : Embedder σ) (f : String → Except RetrievalError Embedding) : Prop where
  embed_eq : ∀ text s, ((embedder.embed text).run.run s).1 = f text
  embedBatch_eq : ∀ texts, embedder.embedBatch texts = texts.mapM embedder.embed

/-- A record without its id. -/
def IndexRecord.content (record : IndexRecord) : Chunk × Embedding := (record.chunk, record.vector)

/-- What is to be stored for a chunk, if it has an embedding and that may take part. -/
def content? (f : String → Except RetrievalError Embedding) (dimensions : ℕ) (chunk : Chunk) :
    Option (Chunk × Embedding) :=
  match f chunk.text with
  | .error _ => none
  | .ok vector => if checkVector dimensions vector = .ok () then some (chunk, vector) else none

/-- What is stored is the chunk, with its embedding. -/
theorem content?_eq_some {f : String → Except RetrievalError Embedding} {dimensions : ℕ} {chunk stored : Chunk}
    {vector : Embedding} (h : content? f dimensions chunk = some (stored, vector)) :
    stored = chunk ∧ f chunk.text = .ok vector ∧ checkVector dimensions vector = .ok () := by
  unfold content? at h
  split at h
  · cases h
  next found hfound =>
    split at h
    next hcheck =>
      cases h
      exact ⟨rfl, hfound, hcheck⟩
    · cases h

theorem forall₂_of_contents {f : String → Except RetrievalError Embedding} {dimensions : ℕ} {chunks : List Chunk}
    {records : List IndexRecord} (h : chunks.mapM (content? f dimensions) = some (records.map IndexRecord.content)) :
    List.Forall₂ (fun chunk record => record.chunk = chunk ∧ f chunk.text = .ok record.vector ∧
      checkVector dimensions record.vector = .ok ()) chunks records := by
  have hcontents := mapM_eq_some.1 h
  rw [List.forall₂_map_right_iff] at hcontents
  exact hcontents.imp fun chunk record hcontent => content?_eq_some hcontent

/-! ## A batch -/

theorem length_of_mapM_eq_ok {f : α → Except ε β} {xs : List α} {ys : List β} (h : xs.mapM f = .ok ys) :
    ys.length = xs.length := by
  induction xs generalizing ys with
  | nil =>
    cases h
    rfl
  | cons x xs ih =>
    rw [List.mapM_cons] at h
    obtain ⟨y, -, h⟩ := bind_eq_ok.1 h
    obtain ⟨ys, hys, h⟩ := bind_eq_ok.1 h
    cases h
    rw [List.length_cons, List.length_cons, ih hys]

section Batch

variable {embedder : Embedder σ} {f : String → Except RetrievalError Embedding} {dimensions : ℕ}

theorem Embedder.Computes.embedBatch_run (h : embedder.Computes f) (texts : List String) (s : σ) :
    ((embedder.embedBatch texts).run.run s).1 = texts.mapM f := by
  rw [h.embedBatch_eq]
  induction texts generalizing s with
  | nil => rfl
  | cons text texts ih =>
    have hfirst := h.embed_eq text s
    rw [List.mapM_cons, List.mapM_cons, run_bind, ← hfirst]
    cases (embedder.embed text).run.run s with
    | mk result s =>
      cases result with
      | error e => rfl
      | ok vector =>
        dsimp only
        rw [run_bind, ok_bind, ← ih s]
        cases (texts.mapM embedder.embed).run.run s with
        | mk result s => cases result <;> rfl

/-- To check each vector as it comes is to check all of them in the end. -/
theorem mapM_content? (f : String → Except RetrievalError Embedding) (dimensions : ℕ) (chunks : List Chunk) :
    chunks.mapM (content? f dimensions) =
      match (chunks.map (·.text)).mapM f with
      | .error _ => none
      | .ok vectors => if checkVectors dimensions vectors = .ok () then some (chunks.zip vectors) else none := by
  induction chunks with
  | nil => rfl
  | cons chunk chunks ih =>
    rw [List.mapM_cons, ih, List.map_cons, List.mapM_cons, content?]
    cases f chunk.text with
    | error e => rfl
    | ok vector =>
      rw [ok_bind]
      dsimp only
      cases (chunks.map (·.text)).mapM f with
      | error e => split <;> rfl
      | ok vectors =>
        have hcheck : checkVectors dimensions (vector :: vectors) =
            checkVector dimensions vector >>= fun _ => checkVectors dimensions vectors := rfl
        rw [ok_bind]
        dsimp only [pure, Except.pure]
        rw [hcheck]
        cases checkVector dimensions vector with
        | error e => rfl
        | ok u =>
          rw [ok_bind]
          cases checkVectors dimensions vectors <;> rfl

namespace VectorIndex

theorem content_newRecords (newId : ℕ → Uuid) {chunks : List Chunk} {vectors : List Embedding} :
    (newRecords newId chunks vectors).map IndexRecord.content = chunks.zip vectors := by
  rw [newRecords, List.map_map]
  exact List.zipIdx_map_fst 0 (chunks.zip vectors)

/-- What an attempt to put chunks into an index may come to: all are added, each with its embedding, or one of them
may not be and the index is as before. -/
inductive Stores (f : String → Except RetrievalError Embedding) (index : VectorIndex σ) (chunks : List Chunk) :
    Except RetrievalError (List Chunk) → VectorIndex σ → Prop
  | refused (e : RetrievalError) (h : chunks.mapM (content? f index.dimensions) = none) :
    Stores f index chunks (.error e) index
  | added (records : List IndexRecord)
      (h : chunks.mapM (content? f index.dimensions) = some (records.map IndexRecord.content)) :
    Stores f index chunks (.ok chunks) (index.append records)

theorem append_nil (index : VectorIndex σ) : index.append [] = index := by
  simp [append]

theorem append_append (index : VectorIndex σ) (xs ys : List IndexRecord) :
    (index.append xs).append ys = index.append (xs ++ ys) := by
  simp [append]

end VectorIndex

end Batch

open VectorIndex

variable {f : String → Except RetrievalError Embedding} {world : World σ}

theorem insert_stores (h : world.index.embedder.Computes f) (newId : ℕ → Uuid) {chunks : List Chunk} (hchunks : chunks ≠ []) :
    Stores f world.index chunks (((insert newId chunks).run.run world).1.map fun _ => chunks)
      ((insert newId chunks).run.run world).2.index := by
  have hvectors := h.embedBatch_run (chunks.map (·.text)) world.providers
  have hcontents := mapM_content? f world.index.dimensions chunks
  rw [insert_run, prepare_run, if_neg (by simpa using hchunks)]
  cases hrun : (world.index.embedder.embedBatch (chunks.map (·.text))).run.run world.providers with
  | mk result s =>
    rw [hrun] at hvectors
    rw [← hvectors] at hcontents
    cases result with
    | error e => exact .refused e hcontents
    | ok vectors =>
      have hlength : vectors.length = chunks.length := by
        rw [length_of_mapM_eq_ok hvectors.symm, List.length_map]
      dsimp only at hcontents ⊢
      rw [admitted, if_neg (not_not_intro hlength)]
      cases hcheck : checkVectors world.index.dimensions vectors with
      | error e =>
        rw [hcheck, if_neg (by simp)] at hcontents
        exact .refused e hcontents
      | ok u =>
        rw [hcheck, if_pos rfl, ← content_newRecords newId] at hcontents
        exact .added _ hcontents

theorem ingestBatch_run (chunker : Chunker) (newId : ℕ → Uuid) (documents : List Document) (world : World σ) :
    (chunker.ingestBatch newId documents).run.run world =
      if (chunker.chunkAll documents).isEmpty then (.ok (chunker.chunkAll documents), world)
      else
        (((insert newId (chunker.chunkAll documents)).run.run world).1.map fun _ => chunker.chunkAll documents,
          ((insert newId (chunker.chunkAll documents)).run.run world).2) := by
  unfold Chunker.ingestBatch
  dsimp only
  cases (chunker.chunkAll documents).isEmpty with
  | true => rfl
  | false =>
    show ((discard (insert newId (chunker.chunkAll documents)) >>= fun _ => pure _ : Action σ _ _).run.run world) = _
    rw [run_bind, run_discard]
    cases ((insert newId (chunker.chunkAll documents)).run.run world).1 <;> rfl

/-- Putting documents in as one batch stores their chunks. -/
theorem ingestBatch_stores (h : world.index.embedder.Computes f) (chunker : Chunker) (newId : ℕ → Uuid)
    (documents : List Document) :
    Stores f world.index (chunker.chunkAll documents) ((chunker.ingestBatch newId documents).run.run world).1
      ((chunker.ingestBatch newId documents).run.run world).2.index := by
  rw [ingestBatch_run]
  split
  · next hempty =>
    have hnone : (chunker.chunkAll documents).mapM (content? f world.index.dimensions) = some [] := by
      rw [List.isEmpty_iff.1 hempty]
      rfl
    have hadded := Stores.added [] hnone
    rwa [append_nil] at hadded
  · next hempty => exact insert_stores h newId (by simpa using hempty)

/-! ## Document by document -/

/-- Puts documents in one after the other, up to the first that fails; `newIds i` names the records of the
`i`-th. -/
def Chunker.ingestEach (chunker : Chunker) (newIds : ℕ → ℕ → Uuid) :
    List Document → Action σ RetrievalError (List (List Chunk))
  | [] => return []
  | document :: documents => do
    let chunks ← chunker.ingest (newIds 0) document
    return chunks :: (← chunker.ingestEach (fun i => newIds (i + 1)) documents)

theorem chunkAll_singleton (chunker : Chunker) (document : Document) :
    chunker.chunkAll [document] = chunker.chunk document := by
  simp [Chunker.chunkAll]

theorem chunkAll_cons (chunker : Chunker) (document : Document) (documents : List Document) :
    chunker.chunkAll (document :: documents) = chunker.chunk document ++ chunker.chunkAll documents := by
  simp [Chunker.chunkAll]

/-- What putting documents in one by one may come to: their chunks are all added, or one of them may not be. -/
inductive StoresEach (f : String → Except RetrievalError Embedding) (chunker : Chunker) (index : VectorIndex σ)
    (documents : List Document) : Except RetrievalError (List (List Chunk)) → VectorIndex σ → Prop
  | refused (e : RetrievalError) (index' : VectorIndex σ)
      (h : (chunker.chunkAll documents).mapM (content? f index.dimensions) = none) :
    StoresEach f chunker index documents (.error e) index'
  | added (records : List IndexRecord)
      (h : (chunker.chunkAll documents).mapM (content? f index.dimensions) = some (records.map IndexRecord.content)) :
    StoresEach f chunker index documents (.ok (documents.map chunker.chunk)) (index.append records)

theorem mapM_chunkAll_cons (g : Chunk → Option (Chunk × Embedding)) (chunker : Chunker) (document : Document)
    (documents : List Document) :
    (chunker.chunkAll (document :: documents)).mapM g =
      ((chunker.chunk document).mapM g).bind fun first => ((chunker.chunkAll documents).mapM g).map (first ++ ·) := by
  rw [chunkAll_cons, List.mapM_append]
  cases (chunker.chunk document).mapM g with
  | none => rfl
  | some first => cases (chunker.chunkAll documents).mapM g <;> rfl

namespace StoresEach

variable {chunker : Chunker} {index index' index'' : VectorIndex σ} {document : Document} {documents : List Document}

theorem of_refused {e : RetrievalError} (h : Stores f index (chunker.chunk document) (.error e) index') :
    StoresEach f chunker index (document :: documents) (.error e) index'' := by
  cases h with
  | refused _ hnone =>
    refine .refused e _ ?_
    rw [mapM_chunkAll_cons, hnone]
    rfl

theorem cons {chunks : List Chunk} {rest : Except RetrievalError (List (List Chunk))}
    (h : Stores f index (chunker.chunk document) (.ok chunks) index')
    (hrest : StoresEach f chunker index' documents rest index'') :
    StoresEach f chunker index (document :: documents) (rest.map (chunks :: ·)) index'' := by
  cases h with
  | added records hsome =>
    cases hrest with
    | refused e _ hnone =>
      refine .refused e _ ?_
      rw [mapM_chunkAll_cons, hsome, Option.bind_some]
      exact congrArg (Option.map _) hnone
    | added records' hsome' =>
      rw [append_append]
      refine .added (records ++ records') ?_
      rw [mapM_chunkAll_cons, hsome, Option.bind_some, List.map_append]
      exact congrArg (Option.map _) hsome'

end StoresEach

/-- Documents that are put in one by one store their chunks, those of each behind those of the ones before. -/
theorem ingestEach_stores (h : world.index.embedder.Computes f) (chunker : Chunker) (newIds : ℕ → ℕ → Uuid)
    (documents : List Document) :
    StoresEach f chunker world.index documents ((chunker.ingestEach newIds documents).run.run world).1
      ((chunker.ingestEach newIds documents).run.run world).2.index := by
  induction documents generalizing newIds world with
  | nil =>
    have hnone : (chunker.chunkAll []).mapM (content? f world.index.dimensions) = some [] := rfl
    have hadded := StoresEach.added [] hnone
    rwa [append_nil] at hadded
  | cons document documents ih =>
    have hfirst := ingestBatch_stores h chunker (newIds 0) [document]
    rw [chunkAll_singleton] at hfirst
    rw [Chunker.ingestEach, run_bind, Chunker.ingest]
    cases hrun : (chunker.ingestBatch (newIds 0) [document]).run.run world with
    | mk result after =>
      rw [hrun] at hfirst
      cases result with
      | error e => exact .of_refused hfirst
      | ok chunks =>
        -- The index that the first document leaves has the same embedder.
        have hembedder : after.index.embedder.Computes f := by
          obtain ⟨index, s⟩ := after
          cases hfirst
          exact h
        have hrest := ih hembedder fun i => newIds (i + 1)
        dsimp only
        rw [run_bind]
        cases hrun' : (chunker.ingestEach (fun i => newIds (i + 1)) documents).run.run after with
        | mk result last =>
          rw [hrun'] at hrest
          have hall := StoresEach.cons hfirst hrest
          cases result <;> exact hall

/-! ## What searches see -/

/-- Two indexes that differ at most in the ids of their records. -/
structure VectorIndex.SameButIds (a b : VectorIndex σ) : Prop where
  embedder_eq : a.embedder = b.embedder
  dimensions_eq : a.dimensions = b.dimensions
  contents_eq : a.records.map IndexRecord.content = b.records.map IndexRecord.content

namespace VectorIndex.SameButIds

variable {a b : VectorIndex σ}

theorem isEmpty_eq (h : SameButIds a b) : a.records.isEmpty = b.records.isEmpty := by
  have := congrArg List.isEmpty h.contents_eq
  simpa using this

theorem rank_eq (h : SameButIds a b) (vector : Embedding) (k : ℕ) : rank a.records vector k = rank b.records vector k := by
  have hscored (records : List IndexRecord) : scored records vector =
      (records.map IndexRecord.content).map fun content => ⟨content.1, cosineSimilarity content.2 vector⟩ := by
    rw [List.map_map]
    rfl
  rw [rank, rank, hscored, hscored, h.contents_eq]

theorem searchByVector_eq (h : SameButIds a b) (vector : Embedding) (k : ℕ) (s s' : σ) :
    ((searchByVector vector k).run.run ⟨a, s⟩).1 = ((searchByVector vector k).run.run ⟨b, s'⟩).1 := by
  rw [searchByVector_run, searchByVector_run, answer, answer, checkPopulated, checkPopulated]
  dsimp only
  rw [h.dimensions_eq, h.isEmpty_eq, h.rank_eq]

theorem search_eq (h : SameButIds a b) (hf : a.embedder.Computes f) (query : String) (k : ℕ) (s s' : σ) :
    ((search query k).run.run ⟨a, s⟩).1 = ((search query k).run.run ⟨b, s'⟩).1 := by
  have ha := hf.embed_eq query s
  have hb := hf.embed_eq query s'
  rw [← ha] at hb
  rw [search_run, search_run]
  dsimp only
  rw [← h.embedder_eq, ← h.dimensions_eq, h.isEmpty_eq]
  split
  · rfl
  split
  · rfl
  split
  · rfl
  cases hrun : (a.embedder.embed query).run.run s with
  | mk result t =>
    cases hrun' : (a.embedder.embed query).run.run s' with
    | mk result' t' =>
      rw [hrun, hrun'] at hb
      obtain rfl : result' = result := hb
      cases result' with
      | error e => rfl
      | ok vector =>
        dsimp only
        rw [h.rank_eq]

end VectorIndex.SameButIds

/-! ## Both ways -/

theorem flatten_map_chunk (chunker : Chunker) (documents : List Document) :
    (documents.map chunker.chunk).flatten = chunker.chunkAll documents := by
  rw [Chunker.chunkAll, List.flatMap_def]

/-- With an embedder whose embeddings depend on the text alone, a batch of documents gets into an index exactly
when all of them get in one after the other. Then there are new records behind the old ones, one for each chunk with
its embedding; the chunks are the same in the same order, the indexes differ at most in ids, and all searches give the
same in both. When the batch does not get in, the index is as before. -/
theorem ingestBatch_iff_ingestEach (h : world.index.embedder.Computes f) (chunker : Chunker) (newId : ℕ → Uuid)
    (newIds : ℕ → ℕ → Uuid) (documents : List Document) :
    let batch := (chunker.ingestBatch newId documents).run.run world
    let each := (chunker.ingestEach newIds documents).run.run world
    ((∃ chunks, batch.1 = .ok chunks) ↔ ∃ parts, each.1 = .ok parts) ∧
    (∀ chunks parts, batch.1 = .ok chunks → each.1 = .ok parts →
      chunks = chunker.chunkAll documents ∧ chunks = parts.flatten ∧
      (∃ added, batch.2.index = world.index.append added ∧
        List.Forall₂ (fun chunk record => record.chunk = chunk ∧ f chunk.text = .ok record.vector ∧
          checkVector world.index.dimensions record.vector = .ok ()) chunks added) ∧
      SameButIds batch.2.index each.2.index ∧
      ∀ k s s', (∀ query, ((search query k).run.run ⟨batch.2.index, s⟩).1 = ((search query k).run.run ⟨each.2.index, s'⟩).1) ∧
        ∀ vector, ((searchByVector vector k).run.run ⟨batch.2.index, s⟩).1 =
          ((searchByVector vector k).run.run ⟨each.2.index, s'⟩).1) ∧
    ∀ e, batch.1 = .error e → batch.2.index = world.index := by
  intro batch each
  have hbatch : Stores f world.index (chunker.chunkAll documents) batch.1 batch.2.index :=
    ingestBatch_stores h chunker newId documents
  have heach : StoresEach f chunker world.index documents each.1 each.2.index :=
    ingestEach_stores h chunker newIds documents
  generalize batch.1 = chunks?, batch.2.index = index at hbatch ⊢
  generalize each.1 = parts?, each.2.index = index' at heach ⊢
  cases hbatch with
  | refused e hnone =>
    cases heach with
    | refused => simp
    | added records hsome => simp [hnone] at hsome
  | added records hsome =>
    cases heach with
    | refused e index' hnone => simp [hsome] at hnone
    | added records' hsome' =>
      have hsame : SameButIds (world.index.append records) (world.index.append records') := by
        refine ⟨rfl, rfl, ?_⟩
        have hcontents : records.map IndexRecord.content = records'.map IndexRecord.content :=
          Option.some.inj (hsome.symm.trans hsome')
        simp only [append, List.map_append, hcontents]
      refine ⟨by simp, fun chunks parts hchunks hparts => ?_, by simp⟩
      cases hchunks
      cases hparts
      exact ⟨rfl, (flatten_map_chunk chunker documents).symm, ⟨records, rfl, forall₂_of_contents hsome⟩, hsame,
        fun k s s' => ⟨fun query => hsame.search_eq h query k s s', fun vector => hsame.searchByVector_eq vector k s s'⟩⟩

/-- Embeds every text but one, and counts its calls. -/
def countingEmbedder : Embedder ℕ :=
  .oneByOne 1 fun text => do
    modify (· + 1)
    if text = "no" then throw .noChunks else return [1]

theorem computes_countingEmbedder :
    countingEmbedder.Computes fun text => if text = "no" then .error .noChunks else .ok [1] := by
  refine ⟨fun text s => ?_, fun texts => rfl⟩
  show ((if text = "no" then throw .noChunks else return [1] : Call ℕ Embedding).run.run (s + 1)).1 = _
  split <;> rfl

/-- Chunks of at most five characters that do not overlap. -/
def fiveChunker : Chunker := ⟨5, 0, by decide⟩

def placeId (i : ℕ) : Uuid := ⟨.ofNat 128 i⟩

/-- Documents of the given texts, put at once into an index without records. -/
def ingestedAtOnce (texts : List String) : Except RetrievalError (List Chunk) × World ℕ :=
  (fiveChunker.ingestBatch placeId (texts.map fun text => ⟨text, text, .empty, none⟩)).run.run ⟨.new countingEmbedder, 0⟩

/-- The same documents, put in one after the other. -/
def ingestedInTurn (texts : List String) : Except RetrievalError (List (List Chunk)) × World ℕ :=
  (fiveChunker.ingestEach (fun _ => placeId) (texts.map fun text => ⟨text, text, .empty, none⟩)).run.run
    ⟨.new countingEmbedder, 0⟩

/-- Three documents of which one is blank get in either way; two of which the second is refused get in in neither. -/
theorem ingestBatch_iff_ingestEach_blank :
    (∃ chunks parts added, (ingestedAtOnce ["two words", " ", "more"]).1 = .ok chunks ∧
      (ingestedInTurn ["two words", " ", "more"]).1 = .ok parts ∧ chunks = parts.flatten ∧
      chunks.map (·.text) = ["two", "words", "more"] ∧
      (ingestedAtOnce ["two words", " ", "more"]).2.index = VectorIndex.append (.new countingEmbedder) added ∧
      added.map (·.chunk) = chunks ∧ ∀ record ∈ added, record.vector = [1]) ∧
    (ingestedAtOnce ["two words", "no"]).2.index = .new countingEmbedder ∧
    ¬∃ parts, (ingestedInTurn ["two words", "no"]).1 = .ok parts := by
  have h : (World.mk (.new countingEmbedder) 0).index.embedder.Computes _ := computes_countingEmbedder
  have both (texts : List String) := ingestBatch_iff_ingestEach h fiveChunker placeId (fun _ => placeId)
    (texts.map fun text => ⟨text, text, .empty, none⟩)
  constructor
  · obtain ⟨chunks, hchunks, htexts⟩ : ∃ chunks, (ingestedAtOnce ["two words", " ", "more"]).1 = .ok chunks ∧
        chunks.map (·.text) = ["two", "words", "more"] := ⟨_, rfl, by decide +kernel⟩
    obtain ⟨hiff, hequal, -⟩ := both ["two words", " ", "more"]
    obtain ⟨parts, hparts⟩ := hiff.1 ⟨chunks, hchunks⟩
    obtain ⟨-, hflatten, ⟨added, hindex, hadded⟩, -⟩ := hequal chunks parts hchunks hparts
    have hstored : added.map (·.chunk) = chunks := by
      rw [← List.forall₂_eq_eq_eq, List.forall₂_map_left_iff]
      exact (hadded.imp fun _ _ hrecord => hrecord.1).flip
    refine ⟨chunks, parts, added, hchunks, hparts, hflatten, htexts, hindex, hstored, fun record hrecord => ?_⟩
    obtain ⟨chunk, -, -, hvector, -⟩ := exists_of_mem_forall₂ hadded hrecord
    split at hvector
    · cases hvector
    · exact (Except.ok.inj hvector).symm
  · have hrefused : (ingestedAtOnce ["two words", "no"]).1 = .error .noChunks := by decide +kernel
    obtain ⟨hiff, -, hrest⟩ := both ["two words", "no"]
    refine ⟨hrest _ hrefused, fun hparts => ?_⟩
    obtain ⟨chunks, hchunks⟩ := hiff.2 hparts
    cases hrefused.symm.trans hchunks

end GroundedQA
