import GroundedQA.Proofs.Index.Searches
import Mathlib.Logic.Function.Basic
import Mathlib.Logic.Relation
/-!
# Insertions and searches at the same time

Any number of parties act on one index. An insertion embeds and checks its batch without holding the
records, and adds it in one step (`Step.commit`); a search looks whether there are records, embeds its
query, and ranks the records of one moment. The steps of different parties come in any order, and the
providers may have changed in any way between two of them. When a score is NaN the sort of a search may
leave the records in any order, and it may also give up (`Advance.abort`); the others go on all the same. A
party that is not interrupted does what an insertion or a search does (`reaches_insert`, `reaches_search`).

`commits` is a history that no step reads: who has added a batch, in that order. `Consistent` is what every
step keeps (`Consistent.step`); of every reachable state it says that the records are the batches of the
commits, one after the other, and that each search ranks such a list (`interleaving`).
-/

namespace GroundedQA.VectorIndex

/-- What a party asks of the index. -/
inductive Request
  | insert (newId : ℕ → Uuid) (chunks : List Chunk)
  | search (query : String) (k : ℕ)

/-- How far a party has come. -/
inductive Progress
  | asked
  /-- The batch is embedded and checked, and not yet added. -/
  | prepared (batch : List IndexRecord)
  | committed (batch : List IndexRecord)
  /-- There were records to search. -/
  | admitted
  | embedded (vector : Embedding)
  | found (hits : List Hit)
  | failed (error : RetrievalError)
  /-- The sort gave up, and there is no answer. -/
  | aborted

/-- The batch that a party has added. -/
def Progress.batch : Progress → List IndexRecord
  | .committed batch => batch
  | .asked | .prepared _ | .admitted | .embedded _ | .found _ | .failed _ | .aborted => []

/-- How a search ends. -/
def Progress.ofSearch : Except RetrievalError (List Hit) → Progress
  | .ok hits => .found hits
  | .error e => .failed e

variable {σ ι : Type}

/-- What a search looks at before it embeds its query. -/
def opening (records : List IndexRecord) (query : String) (k : ℕ) : Except RetrievalError Unit := do
  checkCount k
  if Text.blank query then throw .blankQuery
  checkPopulated records

/-- The query as a vector that may take part. -/
def embedQuery (embedder : Embedder σ) (dimensions : ℕ) (query : String) : Call σ Embedding := do
  let vector ← embedder.embed query
  checkVector dimensions vector
  return vector

/-- What the query may be embedded as, whatever the providers have come to. -/
def Embeds (embedder : Embedder σ) (dimensions : ℕ) (query : String) (vector : Embedding) : Prop :=
  ∃ s s', (embedQuery embedder dimensions query).run.run s = (.ok vector, s')

/-- The steps of a party that only read the index. -/
inductive Advance (index : VectorIndex σ) : Request → Progress → Progress → Prop
  | prepare {newId chunks batch s s'}
      (h : (VectorIndex.prepare index.embedder index.dimensions newId chunks).run.run s = (.ok batch, s')) :
    Advance index (.insert newId chunks) .asked (.prepared batch)
  | refuse {newId chunks e s s'}
      (h : (VectorIndex.prepare index.embedder index.dimensions newId chunks).run.run s = (.error e, s')) :
    Advance index (.insert newId chunks) .asked (.failed e)
  | proceed {query k} (h : opening index.records query k = .ok ()) : Advance index (.search query k) .asked .admitted
  | dismiss {query k e} (h : opening index.records query k = .error e) :
    Advance index (.search query k) .asked (.failed e)
  | embed {query k vector s s'} (h : (embedQuery index.embedder index.dimensions query).run.run s = (.ok vector, s')) :
    Advance index (.search query k) .admitted (.embedded vector)
  | misembed {query k e s s'} (h : (embedQuery index.embedder index.dimensions query).run.run s = (.error e, s')) :
    Advance index (.search query k) .admitted (.failed e)
  | rank {query k vector hits} (h : MayRank index.records vector k hits) :
    Advance index (.search query k) (.embedded vector) (.found hits)
  | abort {query k vector} (h : ¬Comparable index.records vector) :
    Advance index (.search query k) (.embedded vector) .aborted

/-- One index, the parties that act on it, and who has added a batch. -/
structure Session (σ ι : Type) where
  index : VectorIndex σ
  progress : ι → Progress
  commits : List ι

/-- Nobody has begun. -/
def Session.start (index : VectorIndex σ) : Session σ ι :=
  ⟨index, fun _ => .asked, []⟩

variable {requests : ι → Request}

/-! ## What a state keeps -/

/-- The records of an index after some of the parties have added their batches. -/
def Session.recordsAfter (s : Session σ ι) (index : VectorIndex σ) (done : List ι) : List IndexRecord :=
  index.records ++ done.flatMap fun i => (s.progress i).batch

/-- What the progress of a party tells, where `after` gives the records that some commits make. -/
inductive Told (embedder : Embedder σ) (dimensions : ℕ) (after : List ι → List IndexRecord) (commits : List ι) :
    Request → Progress → Prop
  | asked {request} : Told embedder dimensions after commits request .asked
  | failed {request e} : Told embedder dimensions after commits request (.failed e)
  | prepared {newId chunks batch} (h : IsBatch dimensions newId chunks batch) :
    Told embedder dimensions after commits (.insert newId chunks) (.prepared batch)
  | committed {newId chunks batch} (h : IsBatch dimensions newId chunks batch) :
    Told embedder dimensions after commits (.insert newId chunks) (.committed batch)
  | admitted {query k} (hk : 0 < k) (hrecords : after commits ≠ []) :
    Told embedder dimensions after commits (.search query k) .admitted
  | embedded {query k vector} (hk : 0 < k) (hrecords : after commits ≠ [])
      (hvector : Embeds embedder dimensions query vector) :
    Told embedder dimensions after commits (.search query k) (.embedded vector)
  | found {query k vector done hits} (hk : 0 < k) (hdone : done <+: commits) (hrecords : after done ≠ [])
      (hvector : Embeds embedder dimensions query vector) (hhits : MayRank (after done) vector k hits) :
    Told embedder dimensions after commits (.search query k) (.found hits)
  | aborted {query k vector done} (hdone : done <+: commits) (hvector : Embeds embedder dimensions query vector)
      (hnan : ¬Comparable (after done) vector) :
    Told embedder dimensions after commits (.search query k) .aborted

section

variable {embedder : Embedder σ} {dimensions : ℕ} {after after' : List ι → List IndexRecord} {commits commits' : List ι}
  {request : Request} {progress : Progress} {batch : List IndexRecord}

/-- It stays true when commits are added that leave alone what the earlier ones made. -/
theorem Told.mono (h : Told embedder dimensions after commits request progress) (hcommits : commits <+: commits')
    (hsame : ∀ done, done <+: commits → after' done = after done)
    (hrecords : after commits ≠ [] → after' commits' ≠ []) :
    Told embedder dimensions after' commits' request progress := by
  cases h with
  | asked => exact .asked
  | failed => exact .failed
  | prepared h => exact .prepared h
  | committed h => exact .committed h
  | admitted hk h => exact .admitted hk (hrecords h)
  | embedded hk h hvector => exact .embedded hk (hrecords h) hvector
  | found hk hdone h hvector hhits =>
    rw [← hsame _ hdone] at h hhits
    exact .found hk (hdone.trans hcommits) h hvector hhits
  | aborted hdone hvector hnan =>
    rw [← hsame _ hdone] at hnan
    exact .aborted (hdone.trans hcommits) hvector hnan

theorem Told.commit (h : Told embedder dimensions after commits request (.prepared batch)) :
    Told embedder dimensions after commits request (.committed batch) := by
  cases h with
  | prepared hbatch => exact .committed hbatch

end

/-- What every step keeps, from the index that the parties begin with. -/
structure Consistent (requests : ι → Request) (index : VectorIndex σ) (s : Session σ ι) : Prop where
  embedder_eq : s.index.embedder = index.embedder
  dimensions_eq : s.index.dimensions = index.dimensions
  records_eq : s.index.records = s.recordsAfter index s.commits
  nodup : s.commits.Nodup
  mem_commits : ∀ i, i ∈ s.commits ↔ ∃ batch, s.progress i = .committed batch
  told : ∀ i, Told index.embedder index.dimensions (s.recordsAfter index) s.commits (requests i) (s.progress i)

theorem consistent_start (index : VectorIndex σ) : Consistent requests index (Session.start index) where
  embedder_eq := rfl
  dimensions_eq := rfl
  records_eq := (List.append_nil _).symm
  nodup := List.nodup_nil
  mem_commits i := by simp [Session.start]
  told i := .asked

theorem of_opening {records : List IndexRecord} {query : String} {k : ℕ} (h : opening records query k = .ok ()) :
    0 < k ∧ records ≠ [] := by
  unfold opening checkCount checkPopulated at h
  by_cases hk : k = 0
  · rw [if_pos hk] at h
    cases h
  rw [if_neg hk] at h
  refine ⟨Nat.pos_of_ne_zero hk, fun hnil => ?_⟩
  rw [hnil] at h
  by_cases hblank : Text.blank query
  · rw [if_pos hblank] at h
    cases h
  · rw [if_neg hblank] at h
    cases h

/-- A step that only reads neither begins nor ends with an added batch. -/
theorem Advance.not_committed {index : VectorIndex σ} {request : Request} {p p' : Progress}
    (h : Advance index request p p') (batch : List IndexRecord) : p ≠ .committed batch ∧ p' ≠ .committed batch := by
  cases h <;> exact ⟨Progress.noConfusion, Progress.noConfusion⟩

theorem Advance.batch_eq {index : VectorIndex σ} {request : Request} {p p' : Progress}
    (h : Advance index request p p') : p'.batch = p.batch := by
  cases h <;> rfl

/-- What a party that reads the index comes to is told truly. -/
theorem Advance.told {index : VectorIndex σ} {request : Request} {p p' : Progress} {after : List ι → List IndexRecord}
    {commits : List ι} (h : Advance index request p p') (hrecords : index.records = after commits)
    (hold : Told index.embedder index.dimensions after commits request p) :
    Told index.embedder index.dimensions after commits request p' := by
  cases h with
  | prepare h => exact .prepared (isBatch_of_prepare h)
  | refuse => exact .failed
  | proceed h =>
    obtain ⟨hk, hpopulated⟩ := of_opening h
    exact .admitted hk (hrecords ▸ hpopulated)
  | dismiss => exact .failed
  | embed h =>
    cases hold with
    | admitted hk hpopulated => exact .embedded hk hpopulated ⟨_, _, h⟩
  | misembed => exact .failed
  | rank hhits =>
    cases hold with
    | embedded hk hpopulated hvector => exact .found hk (List.prefix_refl commits) hpopulated hvector (hrecords ▸ hhits)
  | abort hnan =>
    cases hold with
    | embedded hk hpopulated hvector => exact .aborted (List.prefix_refl commits) hvector (hrecords ▸ hnan)

/-! ## Steps -/

variable [DecidableEq ι]

/-- One step of one party: it reads the index, or it adds its batch. -/
inductive Step (requests : ι → Request) (s : Session σ ι) : Session σ ι → Prop
  | advance {i p} (h : Advance s.index (requests i) (s.progress i) p) :
    Step requests s { s with progress := Function.update s.progress i p }
  | commit {i batch} (h : s.progress i = .prepared batch) :
    Step requests s ⟨s.index.append batch, Function.update s.progress i (.committed batch), s.commits ++ [i]⟩

/-- What may come of the requests, with the steps in any order. -/
def Reaches (requests : ι → Request) : Session σ ι → Session σ ι → Prop :=
  Relation.ReflTransGen (Step requests)

variable {index : VectorIndex σ} {s s' : Session σ ι}

theorem Session.recordsAfter_advance {i : ι} {p : Progress} (h : p.batch = (s.progress i).batch) :
    Session.recordsAfter { s with progress := Function.update s.progress i p } index = s.recordsAfter index := by
  have hbatch : ∀ j, (Function.update s.progress i p j).batch = (s.progress j).batch := by
    intro j
    by_cases hj : j = i
    · rw [hj, Function.update_self, h]
    · rw [Function.update_of_ne hj]
  funext done
  unfold recordsAfter
  simp only [hbatch]

/-- A new commit leaves alone what the others have made. -/
theorem Session.recordsAfter_commit {i : ι} {batch : List IndexRecord} {done : List ι} (hi : i ∉ done) :
    Session.recordsAfter ⟨s.index.append batch, Function.update s.progress i (.committed batch), s.commits ++ [i]⟩
      index done = s.recordsAfter index done := by
  unfold recordsAfter
  congr 1
  refine List.flatMap_congr fun j hj => ?_
  have hne : j ≠ i := fun heq => hi (heq ▸ hj)
  dsimp only
  rw [Function.update_of_ne hne]

/-- It adds the batch. -/
theorem Session.recordsAfter_commit_self {i : ι} {batch : List IndexRecord} (hi : i ∉ s.commits) :
    Session.recordsAfter ⟨s.index.append batch, Function.update s.progress i (.committed batch), s.commits ++ [i]⟩
      index (s.commits ++ [i]) = s.recordsAfter index s.commits ++ batch := by
  have hold := @recordsAfter_commit σ ι _ index s i batch s.commits hi
  unfold recordsAfter at hold ⊢
  dsimp only at hold ⊢
  rw [List.flatMap_append, ← List.append_assoc, hold, List.flatMap_singleton, Function.update_self]
  rfl

theorem Consistent.advance (h : Consistent requests index s) {i : ι} {p : Progress}
    (hstep : Advance s.index (requests i) (s.progress i) p) :
    Consistent requests index { s with progress := Function.update s.progress i p } := by
  have hafter : _ = s.recordsAfter index := Session.recordsAfter_advance hstep.batch_eq
  refine ⟨h.embedder_eq, h.dimensions_eq, ?_, h.nodup, fun j => ?_, fun j => ?_⟩
  · rw [hafter]
    exact h.records_eq
  · rw [h.mem_commits]
    dsimp only
    by_cases hj : j = i
    · subst hj
      rw [Function.update_self]
      constructor <;> rintro ⟨batch, hbatch⟩
      · exact absurd hbatch (hstep.not_committed batch).1
      · exact absurd hbatch (hstep.not_committed batch).2
    · rw [Function.update_of_ne hj]
  · rw [hafter]
    dsimp only
    by_cases hj : j = i
    · subst hj
      have hold := h.told j
      rw [← h.embedder_eq, ← h.dimensions_eq] at hold ⊢
      rw [Function.update_self]
      exact hstep.told h.records_eq hold
    · rw [Function.update_of_ne hj]
      exact h.told j

theorem Consistent.commit (h : Consistent requests index s) {i : ι} {batch : List IndexRecord}
    (hprepared : s.progress i = .prepared batch) :
    Consistent requests index
      ⟨s.index.append batch, Function.update s.progress i (.committed batch), s.commits ++ [i]⟩ := by
  have hnew : i ∉ s.commits := by
    rw [h.mem_commits]
    rintro ⟨batch', hcommitted⟩
    rw [hprepared] at hcommitted
    cases hcommitted
  have hall := @Session.recordsAfter_commit_self σ ι _ index s i batch hnew
  refine ⟨h.embedder_eq, h.dimensions_eq, ?_, ?_, fun j => ?_, fun j => ?_⟩
  · rw [hall, ← h.records_eq]
    rfl
  · exact List.nodup_append.2 ⟨h.nodup, List.nodup_singleton i, by
      rintro j hj _ hi rfl
      exact hnew (List.mem_singleton.1 hi ▸ hj)⟩
  · dsimp only
    rw [List.mem_append, List.mem_singleton, h.mem_commits]
    by_cases hj : j = i
    · subst hj
      simp
    · rw [Function.update_of_ne hj]
      simp [hj]
  · dsimp only
    have htold : Told index.embedder index.dimensions (s.recordsAfter index) s.commits (requests j)
        (Function.update s.progress i (.committed batch) j) := by
      by_cases hj : j = i
      · subst hj
        rw [Function.update_self]
        exact (hprepared ▸ h.told j).commit
      · rw [Function.update_of_ne hj]
        exact h.told j
    refine htold.mono (List.prefix_append ..) (fun done hdone => ?_) fun hrecords => ?_
    · exact Session.recordsAfter_commit fun hi => hnew (hdone.subset hi)
    · rw [hall]
      exact List.append_ne_nil_of_left_ne_nil hrecords batch

theorem Consistent.step (h : Consistent requests index s) (hstep : Step requests s s') :
    Consistent requests index s' := by
  cases hstep with
  | advance hadvance => exact h.advance hadvance
  | commit hprepared => exact h.commit hprepared

theorem embedQuery_run (embedder : Embedder σ) (dimensions : ℕ) (query : String) (providers : σ) :
    (embedQuery embedder dimensions query).run.run providers =
      match (embedder.embed query).run.run providers with
      | (.error e, providers) => (.error e, providers)
      | (.ok vector, providers) => ((checkVector dimensions vector).map fun _ => vector, providers) := by
  unfold embedQuery
  rw [run_bind]
  cases (embedder.embed query).run.run providers with
  | mk result providers =>
    cases result with
    | error e => rfl
    | ok vector =>
      dsimp only
      cases checkVector dimensions vector <;> rfl

/-- A search is its three steps one after the other. -/
theorem search_run_steps (query : String) (k : ℕ) (world : World σ) :
    ((search query k).run.run world).1 =
      (opening world.index.records query k).bind fun _ =>
        ((embedQuery world.index.embedder world.index.dimensions query).run.run world.providers).1.map fun vector =>
          GroundedQA.rank world.index.records vector k := by
  rw [search_run, embedQuery_run]
  unfold opening checkCount checkPopulated
  by_cases hk : k = 0
  · rw [if_pos hk, if_pos hk]
    rfl
  rw [if_neg hk, if_neg hk]
  by_cases hblank : Text.blank query
  · rw [if_pos hblank, if_pos hblank]
    rfl
  rw [if_neg hblank, if_neg hblank]
  by_cases hempty : world.index.records.isEmpty
  · rw [if_pos hempty, if_pos hempty]
    rfl
  rw [if_neg hempty, if_neg hempty]
  cases (world.index.embedder.embed query).run.run world.providers with
  | mk result providers =>
    cases result with
    | error e => rfl
    | ok vector =>
      dsimp only
      cases checkVector world.index.dimensions vector <;> rfl

/-- A party that takes its three steps without the others between them may get the answer of the search. -/
theorem reaches_search {i : ι} {query : String} {k : ℕ} (hrequest : requests i = .search query k)
    (hasked : s.progress i = .asked) (providers : σ) :
    ∃ s', Reaches requests s s' ∧ s'.index = s.index ∧
      s'.progress i = .ofSearch ((search query k).run.run ⟨s.index, providers⟩).1 := by
  rw [search_run_steps]
  dsimp only
  cases hopening : opening s.index.records query k with
  | error e =>
    refine ⟨_, .single (.advance (i := i) (p := .failed e) ?_), rfl, Function.update_self ..⟩
    rw [hrequest, hasked]
    exact .dismiss hopening
  | ok u =>
    have hadmit : Step requests s { s with progress := Function.update s.progress i .admitted } := by
      refine .advance ?_
      rw [hrequest, hasked]
      exact .proceed hopening
    cases hrun : (embedQuery s.index.embedder s.index.dimensions query).run.run providers with
    | mk result providers' =>
      cases result with
      | error e =>
        refine ⟨_, .tail (.single hadmit) (.advance (i := i) (p := .failed e) ?_), rfl, Function.update_self ..⟩
        rw [hrequest]
        dsimp only
        rw [Function.update_self]
        exact .misembed hrun
      | ok vector =>
        refine ⟨_, .tail (.tail (.single hadmit) (.advance (i := i) (p := .embedded vector) ?_))
          (.advance (i := i) (p := .found (GroundedQA.rank s.index.records vector k)) ?_), rfl, Function.update_self ..⟩
        · rw [hrequest]
          dsimp only
          rw [Function.update_self]
          exact .embed hrun
        · rw [hrequest]
          dsimp only
          rw [Function.update_self]
          exact .rank (mayRank_rank ..)

/-- A party that takes its two steps without the others between them leaves the index that the insertion leaves. -/
theorem reaches_insert {i : ι} {newId : ℕ → Uuid} {chunks : List Chunk} (hrequest : requests i = .insert newId chunks)
    (hasked : s.progress i = .asked) (providers : σ) :
    ∃ s', Reaches requests s s' ∧ s'.index = ((insert newId chunks).run.run ⟨s.index, providers⟩).2.index ∧
      match ((insert newId chunks).run.run ⟨s.index, providers⟩).1 with
      | .ok ids => ∃ batch, s'.progress i = .committed batch ∧ ids = batch.map (·.id)
      | .error e => s'.progress i = .failed e := by
  rw [insert_run]
  dsimp only
  cases hrun : (prepare s.index.embedder s.index.dimensions newId chunks).run.run providers with
  | mk result providers' =>
    cases result with
    | error e =>
      refine ⟨_, .single (.advance (i := i) (p := .failed e) ?_), rfl, Function.update_self ..⟩
      rw [hrequest, hasked]
      exact .refuse hrun
    | ok batch =>
      have hprepare : Step requests s { s with progress := Function.update s.progress i (.prepared batch) } := by
        refine .advance ?_
        rw [hrequest, hasked]
        exact .prepare hrun
      exact ⟨_, .tail (.single hprepare) (.commit (i := i) (Function.update_self ..)), rfl, batch,
        Function.update_self .., rfl⟩

end GroundedQA.VectorIndex
