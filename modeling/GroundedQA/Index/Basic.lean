import GroundedQA.Provider
/-!
# The vector index

An index holds records in the order of their insertion, and embeds what is put in and what is asked
with one embedder, which fixes the length of its vectors. A batch of chunks is embedded and checked
before any of it is added, so it is added whole or not at all.
-/

namespace GroundedQA

/-- Records with embeddings of one length, in the order of their insertion. -/
structure VectorIndex (σ : Type) where
  embedder : Embedder σ
  dimensions : Nat
  records : List IndexRecord

/-- An index without records. -/
def VectorIndex.new {σ : Type} (embedder : Embedder σ) : VectorIndex σ :=
  ⟨embedder, embedder.dimensions, []⟩

/-- What a program acts on: an index, and the state that its providers keep. -/
structure World (σ : Type) where
  index : VectorIndex σ
  providers : σ

/-- An action on the world that may fail with an `ε`; what it did up to then stands. -/
abbrev Action (σ ε α : Type) := ExceptT ε (StateM (World σ)) α

variable {σ α : Type}

/-- A call to a provider, as an action: the index takes no part in it. -/
def Call.toAction (call : Call σ α) : Action σ RetrievalError α :=
  ExceptT.mk fun world =>
    let (result, providers) := call.run.run world.providers
    (result, { world with providers })

/-- A vector may take part when it has the right length and only finite components. -/
def checkVector (dimensions : Nat) (vector : Embedding) : Except RetrievalError Unit :=
  if vector.length ≠ dimensions then .error (.dimensionMismatch dimensions vector.length)
  else if vector.any fun x => !x.isFinite then .error .nonFiniteEmbedding
  else .ok ()

/-- Every vector may take part; of several that may not, the first is reported. -/
def checkVectors (dimensions : Nat) (vectors : List Embedding) : Except RetrievalError Unit :=
  vectors.forM (checkVector dimensions)

namespace VectorIndex

/-- Embeds a batch of chunks and checks what comes back, up to the records that are to be added. -/
def prepare (embedder : Embedder σ) (dimensions : Nat) (newId : Nat → Uuid) (chunks : List Chunk) :
    Call σ (List IndexRecord) := do
  if chunks.isEmpty then throw .noChunks
  let vectors ← embedder.embedBatch (chunks.map (·.text))
  if vectors.length ≠ chunks.length then
    throw (.embeddingCount vectors.length chunks.length)
  checkVectors dimensions vectors
  return (chunks.zip vectors).zipIdx.map fun ((chunk, vector), i) => ⟨newId i, vector, chunk⟩

/-- Adds records at the end. -/
def append (index : VectorIndex σ) (records : List IndexRecord) : VectorIndex σ :=
  { index with records := index.records ++ records }

/-- Adds a batch of chunks with new ids, the `i`-th chunk under `newId i`; gives the ids. -/
def insert (newId : Nat → Uuid) (chunks : List Chunk) : Action σ RetrievalError (List Uuid) := do
  let index := (← get).index
  let records ← (prepare index.embedder index.dimensions newId chunks).toAction
  modify fun world => { world with index := world.index.append records }
  return records.map (·.id)

/-- The number of records. -/
def count : Action σ RetrievalError Nat := do
  return (← get).index.records.length

/-- All records, in the order of their insertion. -/
def allRecords : Action σ RetrievalError (List IndexRecord) := do
  return (← get).index.records

/-- A new index with a batch of chunks in it; the index of the world is replaced only on success. -/
def ofChunks (embedder : Embedder σ) (newId : Nat → Uuid) (chunks : List Chunk) :
    Call σ (VectorIndex σ) := do
  let index := VectorIndex.new embedder
  return index.append (← prepare embedder index.dimensions newId chunks)

end VectorIndex

end GroundedQA
