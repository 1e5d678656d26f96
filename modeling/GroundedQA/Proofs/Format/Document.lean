import GroundedQA.Format.Document
import GroundedQA.Proofs.Json.Rearrangements
import GroundedQA.Proofs.Uuid
/-!
# Chunks and records read as they are written

A chunk reads back whole (`Chunk.ofJson?_toJson`), and so does a record, if its vector has only finite
components (`IndexRecord.ofJson?_toJson`); else it does not read back (`IndexRecord.isFinite_of_ofJson?_toJson`).
Of each, the members may stand in any order, those of its metadata too (`IndexRecord.orderFree_ofJson?`).
-/

namespace GroundedQA

open Json

theorem metadataOfJson?_toJson (metadata : Dictionary String) :
    metadataOfJson? (metadataToJson metadata) = some metadata :=
  dictionary?_dictionary fun e _ => text?_text e.2

/-- Entries of metadata may be written in any order. -/
theorem rearranges_metadataToJson {metadata : Dictionary String} {entries : List (String × String)}
    (h : metadata.entries.Perm entries) :
    (metadataToJson metadata).Rearranges (.record (entries.map fun e => (e.1, .text e.2))) := by
  unfold metadataToJson Json.dictionary Json.record
  rw [List.map_map]
  refine .object ?_ (List.forall₂_same.2 fun m _ => .mk m.1 (.refl m.2)) (h.map _)
  have hkeys : (metadata.entries.map fun e => member e.1 (.text e.2)).map (·.1) = metadata.keys.map some := by
    rw [Dictionary.keys, List.map_map, List.map_map]
    rfl
  rw [hkeys]
  exact metadata.nodup_keys.map (Option.some_injective _)

theorem orderFree_metadataOfJson? : OrderFree metadataOfJson? :=
  orderFree_text?.dictionary?

/-! ## Documents -/

namespace Document

theorem fields?_toJson (document : Document) :
    document.toJson.fields? [["id"], ["text"], ["metadata"], ["source_uri"]] =
      some [some (.text document.id), some (.text document.text), some (metadataToJson document.metadata),
        document.sourceUri.map Json.text] := by
  obtain ⟨id, text, metadata, sourceUri⟩ := document
  rw [toJson, fields?_record]
  cases sourceUri <;> rfl

/-- A document is read from its fields. -/
theorem ofJson?_eq_some {j : Json} {document : Document} :
    ofJson? j = some document ↔
      ∃ id text metadata uri, j.fields? [["id"], ["text"], ["metadata"], ["source_uri"]] =
        some [id, text, metadata, uri] ∧
        required? text? id = some document.id ∧ required? text? text = some document.text ∧
        defaulted? .empty metadataOfJson? metadata = some document.metadata ∧
        defaulted? none (nullable? text?) uri = some document.sourceUri := by
  unfold ofJson?
  constructor
  · intro h
    obtain ⟨fields, hfields, h⟩ := Option.bind_eq_some_iff.1 h
    split at h
    · obtain ⟨id, hid, h⟩ := Option.bind_eq_some_iff.1 h
      obtain ⟨text, htext, h⟩ := Option.bind_eq_some_iff.1 h
      obtain ⟨metadata, hmetadata, h⟩ := Option.bind_eq_some_iff.1 h
      obtain ⟨uri, huri, h⟩ := Option.bind_eq_some_iff.1 h
      cases h
      exact ⟨_, _, _, _, hfields, hid, htext, hmetadata, huri⟩
    · cases h
  · rintro ⟨id, text, metadata, uri, hfields, hid, htext, hmetadata, huri⟩
    simp [hfields, hid, htext, hmetadata, huri]

/-- A document reads back whole, with or without a source. -/
theorem ofJson?_toJson (document : Document) : ofJson? document.toJson = some document := by
  refine ofJson?_eq_some.2 ⟨_, _, _, _, document.fields?_toJson, rfl, rfl, metadataOfJson?_toJson _, ?_⟩
  cases document.sourceUri <;> rfl

theorem orderFree_ofJson? : OrderFree ofJson? := by
  intro j j' h document hread
  obtain ⟨id, text, metadata, uri, hfields, hid, htext, hmetadata, huri⟩ := ofJson?_eq_some.1 hread
  obtain ⟨_, hfields', _ | ⟨hid', _ | ⟨htext', _ | ⟨hmetadata', _ | ⟨huri', _ | _⟩⟩⟩⟩⟩ := h.exists_fields? hfields
  exact ofJson?_eq_some.2 ⟨_, _, _, _, hfields', orderFree_text?.required? hid' hid,
    orderFree_text?.required? htext' htext, orderFree_metadataOfJson?.defaulted? hmetadata' hmetadata,
    orderFree_text?.nullable?.defaulted? huri' huri⟩

end Document

/-! ## Chunks -/

namespace Chunk

theorem fields?_toJson (chunk : Chunk) :
    chunk.toJson.fields? [["text"], ["source_id"], ["sequence_index"], ["metadata"]] =
      some [some (.text chunk.text), some (.text chunk.sourceId), some (.nat chunk.sequenceIndex),
        some (metadataToJson chunk.metadata)] := by
  rw [toJson, fields?_record]
  rfl

/-- A chunk is read from its fields. -/
theorem ofJson?_eq_some {j : Json} {chunk : Chunk} :
    ofJson? j = some chunk ↔
      ∃ text sourceId place metadata, j.fields? [["text"], ["source_id"], ["sequence_index"], ["metadata"]] =
        some [text, sourceId, place, metadata] ∧
        required? text? text = some chunk.text ∧ required? text? sourceId = some chunk.sourceId ∧
        required? word? place = some chunk.sequenceIndex ∧
        defaulted? .empty metadataOfJson? metadata = some chunk.metadata := by
  unfold ofJson?
  constructor
  · intro h
    obtain ⟨fields, hfields, h⟩ := Option.bind_eq_some_iff.1 h
    split at h
    · obtain ⟨text, htext, h⟩ := Option.bind_eq_some_iff.1 h
      obtain ⟨source, hsource, h⟩ := Option.bind_eq_some_iff.1 h
      obtain ⟨place, hplace, h⟩ := Option.bind_eq_some_iff.1 h
      obtain ⟨metadata, hmetadata, h⟩ := Option.bind_eq_some_iff.1 h
      cases h
      exact ⟨_, _, _, _, hfields, htext, hsource, hplace, hmetadata⟩
    · cases h
  · rintro ⟨text, source, place, metadata, hfields, htext, hsource, hplace, hmetadata⟩
    simp [hfields, htext, hsource, hplace, hmetadata]

/-- A chunk reads back whole, if its place is a number of 64 bits. -/
theorem ofJson?_toJson {chunk : Chunk} (h : chunk.sequenceIndex < 2 ^ 64) : ofJson? chunk.toJson = some chunk :=
  ofJson?_eq_some.2 ⟨_, _, _, _, chunk.fields?_toJson, rfl, rfl, word?_nat h, metadataOfJson?_toJson _⟩

theorem orderFree_ofJson? : OrderFree ofJson? := by
  intro j j' h chunk hread
  obtain ⟨text, source, place, metadata, hfields, htext, hsource, hplace, hmetadata⟩ := ofJson?_eq_some.1 hread
  obtain ⟨_, hfields', _ | ⟨htext', _ | ⟨hsource', _ | ⟨hplace', _ | ⟨hmetadata', _ | _⟩⟩⟩⟩⟩ :=
    h.exists_fields? hfields
  exact ofJson?_eq_some.2 ⟨_, _, _, _, hfields', orderFree_text?.required? htext' htext,
    orderFree_text?.required? hsource' hsource, (orderFree_nat? _).required? hplace' hplace,
    orderFree_metadataOfJson?.defaulted? hmetadata' hmetadata⟩

/-- The place of a chunk that was read is a number of 64 bits. -/
theorem place_lt_of_ofJson? {j : Json} {chunk : Chunk} (h : ofJson? j = some chunk) :
    chunk.sequenceIndex < 2 ^ 64 := by
  obtain ⟨_, _, place, _, -, -, -, hplace, -⟩ := ofJson?_eq_some.1 h
  obtain ⟨j, -, hj⟩ := Option.bind_eq_some_iff.1 hplace
  exact lt_of_nat? hj

end Chunk

/-! ## Records -/

theorem embeddingOfJson?_toJson {vector : Embedding} (h : ∀ x ∈ vector, x.isFinite) :
    embeddingOfJson? (embeddingToJson vector) = some vector :=
  mapM_map_self fun x hx => float32?_float32 (h x hx)

theorem orderFree_embeddingOfJson? : OrderFree embeddingOfJson? :=
  orderFree_float32?.list?

namespace IndexRecord

/-- The same record, but for the components of the vector. -/
structure SamePayload (a b : IndexRecord) : Prop where
  id_eq : b.id = a.id
  chunk_eq : b.chunk = a.chunk
  length_eq : b.vector.length = a.vector.length

theorem samePayload_refl (record : IndexRecord) : record.SamePayload record :=
  ⟨rfl, rfl, rfl⟩

theorem fields?_toJson (record : IndexRecord) :
    record.toJson.fields? [["id"], ["vector"], ["chunk"]] =
      some [some (.text record.id.render), some (embeddingToJson record.vector), some record.chunk.toJson] := by
  rw [toJson, fields?_record]
  rfl

/-- A record is read from its fields. -/
theorem ofJson?_eq_some {j : Json} {record : IndexRecord} :
    ofJson? j = some record ↔
      ∃ id vector chunk text, j.fields? [["id"], ["vector"], ["chunk"]] = some [id, vector, chunk] ∧
        required? text? id = some text ∧ Uuid.parse? text = some record.id ∧
        required? embeddingOfJson? vector = some record.vector ∧
        required? Chunk.ofJson? chunk = some record.chunk := by
  unfold ofJson?
  constructor
  · intro h
    obtain ⟨fields, hfields, h⟩ := Option.bind_eq_some_iff.1 h
    split at h
    · obtain ⟨text, htext, h⟩ := Option.bind_eq_some_iff.1 h
      obtain ⟨id, hid, h⟩ := Option.bind_eq_some_iff.1 h
      obtain ⟨vector, hvector, h⟩ := Option.bind_eq_some_iff.1 h
      obtain ⟨chunk, hchunk, h⟩ := Option.bind_eq_some_iff.1 h
      cases h
      exact ⟨_, _, _, _, hfields, htext, hid, hvector, hchunk⟩
    · cases h
  · rintro ⟨id, vector, chunk, text, hfields, htext, hid, hvector, hchunk⟩
    simp [hfields, htext, hid, hvector, hchunk]

theorem ofJson?_toJson {record : IndexRecord} (hfinite : ∀ x ∈ record.vector, x.isFinite)
    (hplace : record.chunk.sequenceIndex < 2 ^ 64) : ofJson? record.toJson = some record :=
  ofJson?_eq_some.2 ⟨_, _, _, _, record.fields?_toJson, rfl, Uuid.parse?_render _, embeddingOfJson?_toJson hfinite,
    Chunk.ofJson?_toJson hplace⟩

theorem orderFree_ofJson? : OrderFree ofJson? := by
  intro j j' h record hread
  obtain ⟨id, vector, chunk, text, hfields, htext, hid, hvector, hchunk⟩ := ofJson?_eq_some.1 hread
  obtain ⟨_, hfields', _ | ⟨hid', _ | ⟨hvector', _ | ⟨hchunk', _ | _⟩⟩⟩⟩ := h.exists_fields? hfields
  exact ofJson?_eq_some.2 ⟨_, _, _, _, hfields', orderFree_text?.required? hid' htext, hid,
    orderFree_embeddingOfJson?.required? hvector' hvector, Chunk.orderFree_ofJson?.required? hchunk' hchunk⟩

theorem place_lt_of_ofJson? {j : Json} {record : IndexRecord} (h : ofJson? j = some record) :
    record.chunk.sequenceIndex < 2 ^ 64 := by
  obtain ⟨_, _, chunk, _, -, -, -, -, hchunk⟩ := ofJson?_eq_some.1 h
  obtain ⟨j, -, hj⟩ := Option.bind_eq_some_iff.1 hchunk
  exact Chunk.place_lt_of_ofJson? hj

/-- Only a record with finite components is read back at all. -/
theorem isFinite_of_ofJson?_toJson {record loaded : IndexRecord} (h : ofJson? record.toJson = some loaded) :
    ∀ x ∈ record.vector, x.isFinite := by
  intro x hx
  obtain ⟨_, vector, _, _, hfields, -, -, hvector, -⟩ := ofJson?_eq_some.1 h
  rw [record.fields?_toJson] at hfields
  cases hfields
  obtain ⟨y, hy⟩ := exists_of_list?_map hvector hx
  exact isFinite_of_float32? hy

end IndexRecord

end GroundedQA
