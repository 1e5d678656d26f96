import GroundedQA.Format.Evaluation
import GroundedQA.Proofs.Format.Document
import GroundedQA.Proofs.Json.Documents
import GroundedQA.Proofs.Json.Readable
/-!
# Answers and evaluations read as they are written

What is written of a document, a chunk, a response, a record, a batch and a scored record is read back as the same
value (`ofJson?_render`), whatever the order in which metadata were written. Texts that may be missing are read as
missing only when they are, and the scores of a record stand beside its fields without coming in the way of them.
-/

namespace GroundedQA

open Json

/-- What is read off a written text is what is read off its value. -/
theorem bind_parse?_render {α : Type} (read? : Json → Option α) (j : Json) :
    (parse? j.render).bind read? = read? j := by
  rw [parse?_render, Option.bind_some]

/-! ## Texts -/

theorem textsOfJson?_texts (ss : List String) : textsOfJson? (Json.texts ss) = some ss :=
  mapM_map_self fun s _ => text?_text s

theorem optionalTextsOf?_map_texts (texts : Option (List String)) :
    optionalTextsOf? (texts.map Json.texts) = some texts := by
  cases texts with
  | none => rfl
  | some ss => exact congrArg (Option.map some) (textsOfJson?_texts ss)

/-! ## Responses -/

namespace Response

theorem fields?_toJson (response : Response) :
    response.toJson.fields? [["question"], ["answer"], ["contexts"], ["source_chunks"]] =
      some [some (.text response.question), some (.text response.answer), some (.texts response.contexts),
        some (.array (response.sourceChunks.map Chunk.toJson))] := by
  rw [toJson, fields?_record]
  rfl

/-- A response is read from its fields. -/
theorem ofJson?_eq_some {j : Json} {response : Response} :
    ofJson? j = some response ↔
      ∃ question answer contexts chunks, j.fields? [["question"], ["answer"], ["contexts"], ["source_chunks"]] =
        some [question, answer, contexts, chunks] ∧
        required? text? question = some response.question ∧ required? text? answer = some response.answer ∧
        required? textsOfJson? contexts = some response.contexts ∧
        required? (list? Chunk.ofJson?) chunks = some response.sourceChunks := by
  unfold ofJson?
  constructor
  · intro h
    obtain ⟨fields, hfields, h⟩ := Option.bind_eq_some_iff.1 h
    split at h
    · obtain ⟨question, hquestion, h⟩ := Option.bind_eq_some_iff.1 h
      obtain ⟨answer, hanswer, h⟩ := Option.bind_eq_some_iff.1 h
      obtain ⟨contexts, hcontexts, h⟩ := Option.bind_eq_some_iff.1 h
      obtain ⟨chunks, hchunks, h⟩ := Option.bind_eq_some_iff.1 h
      cases h
      exact ⟨_, _, _, _, hfields, hquestion, hanswer, hcontexts, hchunks⟩
    · cases h
  · rintro ⟨question, answer, contexts, chunks, hfields, hquestion, hanswer, hcontexts, hchunks⟩
    simp [hfields, hquestion, hanswer, hcontexts, hchunks]

theorem ofJson?_toJson {response : Response} (h : ∀ chunk ∈ response.sourceChunks, chunk.sequenceIndex < 2 ^ 64) :
    ofJson? response.toJson = some response := by
  have hchunks : list? Chunk.ofJson? (.array (response.sourceChunks.map Chunk.toJson)) = some response.sourceChunks :=
    mapM_map_self fun chunk hchunk => Chunk.ofJson?_toJson (h chunk hchunk)
  exact ofJson?_eq_some.2 ⟨_, _, _, _, response.fields?_toJson, rfl, rfl, textsOfJson?_texts _, hchunks⟩

theorem orderFree_ofJson? : OrderFree ofJson? := by
  intro j j' h response hread
  obtain ⟨question, answer, contexts, chunks, hfields, hquestion, hanswer, hcontexts, hchunks⟩ :=
    ofJson?_eq_some.1 hread
  obtain ⟨_, hfields', _ | ⟨hquestion', _ | ⟨hanswer', _ | ⟨hcontexts', _ | ⟨hchunks', _ | _⟩⟩⟩⟩⟩ :=
    h.exists_fields? hfields
  exact ofJson?_eq_some.2 ⟨_, _, _, _, hfields', orderFree_text?.required? hquestion' hquestion,
    orderFree_text?.required? hanswer' hanswer, orderFree_text?.list?.required? hcontexts' hcontexts,
    Chunk.orderFree_ofJson?.list?.required? hchunks' hchunks⟩

end Response

/-! ## Records -/

namespace EvaluationRecord

theorem fields?_toJson (record : EvaluationRecord) :
    record.toJson.fields? [["question"], ["answer"], ["contexts"], ["ground_truth"], ["reference_contexts"]] =
      some [some (.text record.question), some (.text record.answer), some (.texts record.contexts),
        some (.text record.groundTruth), record.referenceContexts.map Json.texts] := by
  obtain ⟨question, answer, contexts, groundTruth, referenceContexts⟩ := record
  rw [toJson, fields?_record]
  cases referenceContexts <;> rfl

/-- Members beside those of a record are passed over. -/
theorem ofJson?_record_append (record : EvaluationRecord) {others : List (String × Json)}
    (h : ∀ m ∈ others, m.1 ∉ ["question", "answer", "contexts", "ground_truth", "reference_contexts"]) :
    ofJson? (.record (record.members ++ others)) = some record := by
  have hother : ∀ m ∈ others, ∀ names ∈ [["question"], ["answer"], ["contexts"], ["ground_truth"],
      ["reference_contexts"]], m.1 ∉ names := by
    intro m hm
    have hm := h m hm
    simp only [List.mem_cons, List.not_mem_nil, or_false, not_or] at hm
    simpa using hm
  unfold ofJson?
  rw [fields?_record_append _ hother, ← toJson, fields?_toJson]
  simp [required?, textsOfJson?_texts, optionalTextsOf?_map_texts]

theorem ofJson?_toJson (record : EvaluationRecord) : ofJson? record.toJson = some record := by
  have h : ofJson? (.record (record.members ++ [])) = some record := record.ofJson?_record_append (by simp)
  rwa [List.append_nil] at h

theorem mem_members {record : EvaluationRecord} {m : String × Json} (h : m ∈ record.members) :
    m = ("question", .text record.question) ∨ m = ("answer", .text record.answer) ∨
      m = ("contexts", .texts record.contexts) ∨ m = ("ground_truth", .text record.groundTruth) ∨
      ∃ texts, record.referenceContexts = some texts ∧ m = ("reference_contexts", .texts texts) := by
  simpa [members, optionalTexts, eq_comm, or_assoc] using h

/-- What is written of a record is nothing that a document could not hold. -/
theorem readable_of_mem_members {record : EvaluationRecord} {m : String × Json} (h : m ∈ record.members) (room : ℕ) :
    m.2.readable (room + 1) := by
  rcases mem_members h with rfl | rfl | rfl | rfl | ⟨texts, -, rfl⟩
  · exact readable_text ..
  · exact readable_text ..
  · exact readable_texts ..
  · exact readable_text ..
  · exact readable_texts ..

theorem key_ne_scoresKey {record : EvaluationRecord} {m : String × Json} (h : m ∈ record.members) :
    m.1 ≠ ScoredRecord.scoresKey := by
  rcases mem_members h with rfl | rfl | rfl | rfl | ⟨texts, -, rfl⟩ <;> simp [ScoredRecord.scoresKey]

end EvaluationRecord

theorem Batch.ofJson?_toJson (batch : Batch) : Batch.ofJson? batch.toJson = some batch := by
  have hfields : batch.toJson.fields? [["records"]] =
      some [some (.array (batch.records.map EvaluationRecord.toJson))] := by
    rw [Batch.toJson, fields?_record]
    rfl
  have hrecords : list? EvaluationRecord.ofJson? (.array (batch.records.map EvaluationRecord.toJson)) =
      some batch.records :=
    mapM_map_self fun record _ => record.ofJson?_toJson
  unfold Batch.ofJson?
  rw [hfields]
  simp [required?, hrecords]

/-! ## Scored records -/

namespace ScoredRecord

/-- The record is found in the object that holds the scores too. -/
theorem record_ofJson?_toJson (scored : ScoredRecord Float) :
    EvaluationRecord.ofJson? scored.toJson = some scored.record :=
  scored.record.ofJson?_record_append (by simp [scoresKey])

theorem ofJson?_toJson {scored : ScoredRecord Float}
    (h : ∀ entry ∈ scored.scores.entries, float64? (float64 entry.2) = some entry.2) :
    ofJson? 0 scored.toJson = some scored := by
  have hrest : (scored.record.members ++ [(scoresKey, scoresToJson scored.scores)]).filter (·.1 ≠ scoresKey) =
      scored.record.members := by
    have hkept : scored.record.members.filter (·.1 ≠ scoresKey) = scored.record.members :=
      List.filter_eq_self.2 fun m hm => by simpa using EvaluationRecord.key_ne_scoresKey hm
    rw [List.filter_append, hkept]
    simp
  have hreadable : scored.record.members.all (fun m => m.2.readable (maxDepth - 0 - 1)) = true :=
    List.all_eq_true.2 fun m hm => EvaluationRecord.readable_of_mem_members hm 125
  have hscores : memberOf? (scored.record.members ++ [(scoresKey, scoresToJson scored.scores)]) [scoresKey] =
      some (some (scoresToJson scored.scores)) := by
    have hnone : scored.record.members.filter (fun m => [scoresKey].contains m.1) = [] :=
      List.filter_eq_nil_iff.2 fun m hm => by simpa using EvaluationRecord.key_ne_scoresKey hm
    unfold memberOf?
    rw [List.filter_append, hnone]
    simp
  have hread : scoresOfJson? (scoresToJson scored.scores) = some scored.scores := dictionary?_dictionary h
  have hrecord : EvaluationRecord.ofJson? (.object (scored.record.members.map fun m => member m.1 m.2)) =
      some scored.record := scored.record.ofJson?_toJson
  unfold ofJson? toJson Json.record
  dsimp only
  rw [keyed?_record, Option.bind_eq_bind, Option.bind_some, hrest, hreadable, hscores]
  simp [required?, hread, hrecord]

end ScoredRecord

/-! ## Texts read as they are written -/

/-- The text of a document, a chunk, a response, a record, a batch and a scored record is read back as the same value;
of a scored record this needs the text of each score to be read back as that score. Where there are metadata, the
members may have been written in any order. Reference contexts that are missing and an empty list of them have
different texts. A scored record is one object, with the members of its record and one more for the scores, out of
which either part is read. -/
theorem ofJson?_render :
    (∀ document : Document, ∀ j, document.toJson.Rearranges j →
      (parse? j.render).bind Document.ofJson? = some document) ∧
    (∀ chunk : Chunk, chunk.sequenceIndex < 2 ^ 64 →
      ∀ j, chunk.toJson.Rearranges j → (parse? j.render).bind Chunk.ofJson? = some chunk) ∧
    (∀ response : Response, (∀ chunk ∈ response.sourceChunks, chunk.sequenceIndex < 2 ^ 64) →
      ∀ j, response.toJson.Rearranges j → (parse? j.render).bind Response.ofJson? = some response) ∧
    (∀ record : EvaluationRecord, (parse? record.toJson.render).bind EvaluationRecord.ofJson? = some record) ∧
    (∀ batch : Batch, (parse? batch.toJson.render).bind Batch.ofJson? = some batch) ∧
    (∀ record : EvaluationRecord, { record with referenceContexts := none }.toJson.render ≠
      { record with referenceContexts := some [] }.toJson.render) ∧
    ∀ scored : ScoredRecord Float, (∀ entry ∈ scored.scores.entries, float64? (float64 entry.2) = some entry.2) →
      (parse? scored.toJson.render).bind (ScoredRecord.ofJson? 0) = some scored ∧
      ∃ members scores, scored.record.toJson = .record members ∧
        parse? scored.toJson.render = some (.record (members ++ [("scores", scores)])) ∧
        (parse? scored.toJson.render).bind EvaluationRecord.ofJson? = some scored.record ∧
        scoresOfJson? scores = some scored.scores := by
  refine ⟨fun document j hj => ?_, fun chunk h j hj => ?_, fun response h j hj => ?_, fun record => ?_, fun batch => ?_,
    fun record heq => ?_, fun scored h => ⟨?_, _, _, rfl, parse?_render _, ?_, dictionary?_dictionary h⟩⟩
  · rw [bind_parse?_render]
    exact Document.orderFree_ofJson? hj document.ofJson?_toJson
  · rw [bind_parse?_render]
    exact Chunk.orderFree_ofJson? hj (Chunk.ofJson?_toJson h)
  · rw [bind_parse?_render]
    exact Response.orderFree_ofJson? hj (Response.ofJson?_toJson h)
  · rw [bind_parse?_render, record.ofJson?_toJson]
  · rw [bind_parse?_render, batch.ofJson?_toJson]
  · -- One text would be read as both.
    have hread := congrArg (fun text => (parse? text).bind EvaluationRecord.ofJson?) heq
    rw [bind_parse?_render, bind_parse?_render, EvaluationRecord.ofJson?_toJson, EvaluationRecord.ofJson?_toJson] at hread
    cases hread
  · rw [bind_parse?_render, ScoredRecord.ofJson?_toJson h]
  · rw [bind_parse?_render, scored.record_ofJson?_toJson]

/-- The last chunk that there can be. -/
def lastChunk : Chunk := ⟨"\"é\u2028\n", "a\\b", 2 ^ 64 - 1, .ofList [("", "\x00"), ("start_index", "0")]⟩

/-- A record with an empty list of reference contexts, scored by two metrics, one of which has the name of the
member that holds the scores. -/
def halfScored : ScoredRecord Float :=
  ⟨⟨"q?", "", ["", "😀"], "g", some []⟩, .ofList [("brevity", 0.5), ("scores", 1)]⟩

/-- The same chunk, its metadata written from the last key to the first. -/
def lastChunkJson : Json :=
  .record [("text", .text lastChunk.text), ("source_id", .text lastChunk.sourceId),
    ("sequence_index", .nat lastChunk.sequenceIndex),
    ("metadata", .record [("start_index", .text "0"), ("", .text "\x00")])]

theorem rearranges_lastChunkJson : lastChunk.toJson.Rearranges lastChunkJson := by
  have hmetadata := rearranges_metadataToJson lastChunk.metadata.entries.reverse_perm.symm
  refine .object (by decide) ?_ (.refl _)
  exact .cons (.mk _ (.refl _)) (.cons (.mk _ (.refl _)) (.cons (.mk _ (.refl _)) (.cons (.mk _ hmetadata) .nil)))

theorem ofJson?_render_last :
    lastChunk.sequenceIndex < 2 ^ 64 ∧ (parse? lastChunk.toJson.render).bind Chunk.ofJson? = some lastChunk ∧
    lastChunkJson.render ≠ lastChunk.toJson.render ∧ lastChunk.toJson.Rearranges lastChunkJson ∧
    (parse? lastChunkJson.render).bind Chunk.ofJson? = some lastChunk ∧
    (∀ chunk ∈ [lastChunk], chunk.sequenceIndex < 2 ^ 64) ∧
    (parse? (Response.toJson ⟨"q?", "a", [""], [lastChunk]⟩).render).bind Response.ofJson? =
      some ⟨"q?", "a", [""], [lastChunk]⟩ ∧
    (∀ entry ∈ halfScored.scores.entries, float64? (float64 entry.2) = some entry.2) ∧
    (parse? halfScored.toJson.render).bind (ScoredRecord.ofJson? 0) = some halfScored := by
  have hplace : lastChunk.sequenceIndex < 2 ^ 64 := by decide
  have hplaces : ∀ chunk ∈ [lastChunk], chunk.sequenceIndex < 2 ^ 64 := List.forall_mem_singleton.2 hplace
  have hscores : ∀ entry ∈ halfScored.scores.entries, float64? (float64 entry.2) = some entry.2 := by
    decide +kernel
  obtain ⟨-, hchunk, hresponse, -, -, -, hscored⟩ := ofJson?_render
  exact ⟨hplace, hchunk lastChunk hplace _ (.refl _), by decide +kernel, rearranges_lastChunkJson,
    hchunk lastChunk hplace _ rearranges_lastChunkJson, hplaces, hresponse _ hplaces _ (.refl _), hscores,
    (hscored _ hscores).1⟩

end GroundedQA
