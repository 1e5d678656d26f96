import GroundedQA.Proofs.Answering.Query
import GroundedQA.Proofs.Answering.Template
/-!
# What a query asks of the providers

Providers can be made to note what they are asked, and that changes nothing else (`Engine.query_noted`). The notes
of a query are the calls that it makes: none, or one to the embedder and then at most one to the model, depending
on how far it comes (`Engine.query_contract`).
-/

namespace GroundedQA

variable {σ α : Type}

/-- What a provider may be asked. -/
inductive Asked
  | embed (text : String)
  | embedBatch (texts : List String)
  | complete (prompt : String)
deriving DecidableEq

/-! ## Providers that take notes -/

/-- The call, noted as what was asked. -/
def Call.noted (call : Call σ α) (asked : Asked) : Call (σ × List Asked) α :=
  ExceptT.mk fun (s, notes) =>
    let (result, s) := call.run.run s
    (result, s, notes ++ [asked])

def Embedder.noted (embedder : Embedder σ) : Embedder (σ × List Asked) where
  dimensions := embedder.dimensions
  embed text := (embedder.embed text).noted (.embed text)
  embedBatch texts := (embedder.embedBatch texts).noted (.embedBatch texts)

def LanguageModel.noted (model : LanguageModel σ) : LanguageModel (σ × List Asked) where
  complete prompt := (model.complete prompt).noted (.complete prompt)

def VectorIndex.noted (index : VectorIndex σ) : VectorIndex (σ × List Asked) :=
  ⟨index.embedder.noted, index.dimensions, index.records⟩

def Engine.noted (engine : Engine σ) : Engine (σ × List Asked) :=
  ⟨engine.retriever, engine.model.noted, engine.template⟩

/-- The world with providers that take notes, behind those that are given. -/
def World.noted (world : World σ) (notes : List Asked) : World (σ × List Asked) :=
  ⟨world.index.noted, world.providers, notes⟩

theorem Call.noted_run (call : Call σ α) (asked : Asked) (s : σ) (notes : List Asked) :
    (call.noted asked).run.run (s, notes) = ((call.run.run s).1, (call.run.run s).2, notes ++ [asked]) := rfl

/-! ## The notes of a query -/

/-- A search embeds its query once, unless it is blank, there is nothing to search or nothing to be found. -/
def VectorIndex.searchCalls (query : String) (k : ℕ) (index : VectorIndex σ) : List Asked :=
  if k = 0 ∨ Text.blank query ∨ index.records.isEmpty then [] else [.embed query]

theorem VectorIndex.search_noted (query : String) (k : ℕ) (world : World σ) (notes : List Asked) :
    (search query k).run.run (world.noted notes) =
      (((search query k).run.run world).1,
        ((search query k).run.run world).2.noted (notes ++ searchCalls query k world.index)) := by
  have hrecords : (world.noted notes).index.records = world.index.records := rfl
  rw [search_run, search_run, searchCalls, hrecords]
  by_cases hk : k = 0
  · simp [hk]
  by_cases hquery : Text.blank query
  · simp [hk, hquery]
  by_cases hempty : world.index.records.isEmpty
  · simp [hk, hquery, hempty]
  have hembed : ((world.noted notes).index.embedder.embed query).run.run (world.noted notes).providers =
      (((world.index.embedder.embed query).run.run world.providers).1,
        ((world.index.embedder.embed query).run.run world.providers).2, notes ++ [.embed query]) := Call.noted_run ..
  rw [if_neg hk, if_neg hquery, if_neg hempty, if_neg hk, if_neg hquery, if_neg hempty, if_neg (by simp_all), hembed]
  cases (world.index.embedder.embed query).run.run world.providers with
  | mk result s => cases result <;> rfl

namespace Engine

variable (engine : Engine σ) (question : String) (world : World σ)

/-- The prompt that hits and a question make. -/
def prompt (question : String) (hits : List Hit) : String :=
  engine.template.render ((hits.map (·.chunk)).map (·.text)) question

/-- What is asked after the embedding: the completion of the prompt, if the retrieval succeeded. -/
def completionCalls (question : String) : Except RetrievalError (List Hit) → List Asked
  | .error _ => []
  | .ok hits => [.complete (engine.prompt question hits)]

/-- What a query asks. -/
def calls (question : String) (world : World σ) : List Asked :=
  if Text.blank question ∨ world.index.records.isEmpty then []
  else .embed question ::
    engine.completionCalls question ((VectorIndex.search question engine.retriever.k).run.run world).1

theorem respond_noted (hits : List Hit) (notes : List Asked) :
    (engine.noted.respond question hits).run.run (world.noted notes) =
      (((engine.respond question hits).run.run world).1,
        ((engine.respond question hits).run.run world).2.noted (notes ++ [.complete (engine.prompt question hits)])) := by
  have hcomplete : (engine.noted.model.complete (engine.noted.template.render ((hits.map (·.chunk)).map (·.text))
      question)).run.run (world.noted notes).providers =
      (((engine.model.complete (engine.prompt question hits)).run.run world.providers).1,
        ((engine.model.complete (engine.prompt question hits)).run.run world.providers).2,
        notes ++ [.complete (engine.prompt question hits)]) := Call.noted_run ..
  rw [respond_run, respond_run, hcomplete, prompt]
  cases (engine.model.complete _).run.run world.providers with
  | mk result s => cases result <;> rfl

theorem search_of_empty (hquestion : ¬Text.blank question) (hempty : world.index.records.isEmpty) :
    (VectorIndex.search question engine.retriever.k).run.run world = (.error .emptyIndex, world) := by
  rw [VectorIndex.search_run, if_neg engine.retriever.k_pos.ne', if_neg hquestion, if_pos hempty]

theorem search_of_embed_eq_error (hquestion : ¬Text.blank question) (hpopulated : world.index.records ≠ [])
    {e : RetrievalError} {s : σ} (h : (world.index.embedder.embed question).run.run world.providers = (.error e, s)) :
    (VectorIndex.search question engine.retriever.k).run.run world = (.error e, ⟨world.index, s⟩) := by
  rw [VectorIndex.search_run, if_neg engine.retriever.k_pos.ne', if_neg hquestion, if_neg (by simpa using hpopulated), h]

/-- Providers that take notes do not change what a query comes to; what they note are its calls. -/
theorem query_noted (notes : List Asked) :
    (engine.noted.query question).run.run (world.noted notes) =
      (((engine.query question).run.run world).1,
        ((engine.query question).run.run world).2.noted (notes ++ engine.calls question world)) := by
  have hretriever : engine.noted.retriever = engine.retriever := rfl
  rw [query_run, query_run, calls]
  by_cases hquestion : Text.blank question
  · simp [hquestion]
  rw [if_neg hquestion, if_neg hquestion, hretriever, VectorIndex.search_noted, VectorIndex.searchCalls]
  by_cases hempty : world.index.records.isEmpty
  · rw [engine.search_of_empty question world hquestion hempty, if_pos (.inr (.inr hempty)), if_pos (.inr hempty)]
  · have hk := engine.retriever.k_pos.ne'
    rw [if_neg (by simp_all), if_neg (by simp_all)]
    cases (VectorIndex.search question engine.retriever.k).run.run world with
    | mk result between =>
      cases result with
      | error e => rfl
      | ok hits =>
        dsimp only
        rw [respond_noted, completionCalls, List.append_assoc, List.singleton_append]

/-! ## What a query comes to -/

theorem occurs_question_prompt (hits : List Hit) : Text.Occurs question.toList (engine.prompt question hits).toList :=
  engine.template.occurs_render _ question .question

theorem occurs_contexts_prompt (hits : List Hit) :
    Text.Occurs ("\n\n".intercalate (hits.map (·.chunk.text))).toList (engine.prompt question hits).toList := by
  have htexts : hits.map (·.chunk.text) = (hits.map (·.chunk)).map (·.text) := by rw [List.map_map]; rfl
  rw [htexts]
  exact engine.template.occurs_render _ question .context

/-- The answer of the model makes a response, with a context for each source. -/
theorem respond_eq_ok {hits : List Hit} {answer : String} {s : σ}
    (h : (engine.model.complete (engine.prompt question hits)).run.run world.providers = (.ok answer, s)) :
    (engine.respond question hits).run.run world =
      (.ok ⟨question, answer, (hits.map (·.chunk)).map (·.text), hits.map (·.chunk)⟩, ⟨world.index, s⟩) := by
  rw [prompt] at h
  rw [respond_run, h]

theorem respond_eq_error {hits : List Hit} {e : RetrievalError} {s : σ}
    (h : (engine.model.complete (engine.prompt question hits)).run.run world.providers = (.error e, s)) :
    (engine.respond question hits).run.run world = (.error e, ⟨world.index, s⟩) := by
  rw [prompt] at h
  rw [respond_run, h]

theorem length_of_search {k : ℕ} {hits : List Hit} {between : World σ}
    (h : (VectorIndex.search question k).run.run world = (.ok hits, between)) :
    hits.length = min k world.index.records.length := by
  rw [VectorIndex.search_run] at h
  split at h
  · cases h
  split at h
  · cases h
  split at h
  · cases h
  split at h
  · cases h
  next vector s _ =>
    cases hcheck : checkVector world.index.dimensions vector with
    | error e =>
      rw [hcheck] at h
      cases h
    | ok u =>
      rw [hcheck] at h
      cases h
      exact length_rank _ _ _

/-- What a query asks and what it comes to, for any providers. It never changes the index. A question that is blank
and an index without records are refused without a call. Otherwise the question is embedded, once; a failure of that
or of what follows it in the retrieval is the failure of the query. After the retrieval the model is asked, once,
with a prompt that holds the question and the texts found; its failure is that of the query, and its answer makes
a response with the chunks found, in their order, and their texts. -/
theorem query_contract (engine : Engine σ) (question : String) (world : World σ) :
    let outcome := (engine.query question).run.run world
    let noted := (engine.noted.query question).run.run (world.noted [])
    let notes := noted.2.providers.2
    noted = (outcome.1, outcome.2.noted notes) ∧
    outcome.2.index = world.index ∧
    (Text.blank question → outcome = (.error .blankQuestion, world) ∧ notes = []) ∧
    (¬Text.blank question → world.index.records = [] → outcome = (.error .emptyIndex, world) ∧ notes = []) ∧
    (¬Text.blank question → world.index.records ≠ [] →
      (∀ e s, (world.index.embedder.embed question).run.run world.providers = (.error e, s) → outcome.1 = .error e) ∧
      (∀ e between, (VectorIndex.search question engine.retriever.k).run.run world = (.error e, between) →
        outcome.1 = .error e ∧ notes = [.embed question]) ∧
      ∀ hits between, (VectorIndex.search question engine.retriever.k).run.run world = (.ok hits, between) →
        ∃ prompt, notes = [.embed question, .complete prompt] ∧
          Text.Occurs question.toList prompt.toList ∧
          Text.Occurs ("\n\n".intercalate (hits.map (·.chunk.text))).toList prompt.toList ∧
          (∀ e s, (engine.model.complete prompt).run.run between.providers = (.error e, s) → outcome.1 = .error e) ∧
          ∀ answer s, (engine.model.complete prompt).run.run between.providers = (.ok answer, s) →
            ∃ response, outcome.1 = .ok response ∧ response.question = question ∧ response.answer = answer ∧
              response.sourceChunks = hits.map (·.chunk) ∧
              response.sourceChunks.length = min engine.retriever.k world.index.records.length ∧
              response.contexts.length = response.sourceChunks.length ∧
              ∀ i : ℕ, response.contexts[i]? = response.sourceChunks[i]?.map (·.text)) := by
  intro outcome noted notes
  have hnoted : noted = (outcome.1, outcome.2.noted (engine.calls question world)) := engine.query_noted question world []
  have hnotes : notes = engine.calls question world := by
    show noted.2.providers.2 = _
    rw [hnoted]
    rfl
  have hrun : outcome = _ := engine.query_run question world
  rw [hnotes, calls]
  refine ⟨by rw [hnoted, calls], engine.query_index question world, fun hblank => ?_, fun hblank hempty => ?_,
    fun hblank hpopulated => ⟨fun e s hembed => ?_, fun e between hsearch => ?_, fun hits between hsearch => ?_⟩⟩
  · exact ⟨by rw [hrun, if_pos hblank], if_pos (.inl hblank)⟩
  · have hnone : world.index.records.isEmpty := by simp [hempty]
    refine ⟨?_, if_pos (.inr hnone)⟩
    rw [hrun, if_neg hblank, engine.search_of_empty question world hblank hnone]
  · rw [hrun, if_neg hblank, engine.search_of_embed_eq_error question world hblank hpopulated hembed]
  · rw [hrun, if_neg hblank, hsearch]
    exact ⟨rfl, if_neg (by simp [hblank, hpopulated])⟩
  · rw [hrun, if_neg hblank, hsearch]
    have hlength := length_of_search question world hsearch
    refine ⟨engine.prompt question hits, if_neg (by simp [hblank, hpopulated]), engine.occurs_question_prompt question hits,
      engine.occurs_contexts_prompt question hits, fun e s hmodel => ?_, fun answer s hmodel => ?_⟩
    · dsimp only
      rw [engine.respond_eq_error question between hmodel]
    · dsimp only
      rw [engine.respond_eq_ok question between hmodel]
      exact ⟨_, rfl, rfl, rfl, rfl, by simp [hlength], by simp, by simp⟩

/-- Two chunks per question, and a model that always says the same. -/
def compass : Engine Unit := ⟨⟨2, by decide⟩, ⟨fun _ => pure "north"⟩, .standard⟩

/-- A blank question, an index without records, and a question that is answered. -/
theorem query_contract_compass :
    (compass.query " ").run.run ⟨VectorIndex.axes, ()⟩ = (.error .blankQuestion, ⟨VectorIndex.axes, ()⟩) ∧
    (compass.query "up?").run.run ⟨.new VectorIndex.axes.embedder, ()⟩ =
      (.error .emptyIndex, ⟨.new VectorIndex.axes.embedder, ()⟩) ∧
    ∃ prompt response,
      ((compass.noted.query "up?").run.run (World.noted ⟨VectorIndex.axes, ()⟩ [])).2.providers.2 =
        [.embed "up?", .complete prompt] ∧
      Text.Occurs "up?".toList prompt.toList ∧
      ((compass.query "up?").run.run ⟨VectorIndex.axes, ()⟩).1 = .ok response ∧
      response.answer = "north" ∧ response.contexts.length = 2 := by
  have hsearch : (VectorIndex.search "up?" 2).run.run ⟨VectorIndex.axes, ()⟩ =
      (.ok (rank VectorIndex.axes.records [0, 1] 2), ⟨VectorIndex.axes, ()⟩) := by
    have hvector : checkVector 2 [0, 1] = .ok () := by decide +kernel
    rw [VectorIndex.search_run, if_neg (by decide), if_neg (by decide +kernel), if_neg (by decide)]
    show ((checkVector 2 [0, 1]).map _, _) = _
    rw [hvector]
    rfl
  obtain ⟨-, -, hblank, -, -⟩ := compass.query_contract " " ⟨VectorIndex.axes, ()⟩
  obtain ⟨-, -, -, hempty, -⟩ := compass.query_contract "up?" ⟨.new VectorIndex.axes.embedder, ()⟩
  obtain ⟨-, -, -, -, hasked⟩ := compass.query_contract "up?" ⟨VectorIndex.axes, ()⟩
  refine ⟨(hblank (by decide +kernel)).1, (hempty (by decide +kernel) rfl).1, ?_⟩
  obtain ⟨prompt, hnotes, hquestion, -, -, hanswered⟩ := (hasked (by decide +kernel) (by decide)).2.2 _ _ hsearch
  obtain ⟨response, hresponse, -, hanswer, -, hlength, hcontexts, -⟩ := hanswered "north" () rfl
  exact ⟨prompt, response, hnotes, hquestion, hresponse, hanswer, hcontexts.trans hlength⟩

end Engine

end GroundedQA
