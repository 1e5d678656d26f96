import GroundedQA.Proofs.Chunking.Bounds
import GroundedQA.Proofs.Chunking.Coverage
import GroundedQA.Proofs.Number.Digits
/-!
# Where a chunk comes from

A chunk tells its document, its place among the chunks of that document and the byte at which its text stands there
(`Chunk.ComesFrom`). The last two are also in its metadata, whatever the document has under their keys, and read back
from there; all else in the metadata is the document's (`chunk_comesFrom`).
-/

namespace GroundedQA

/-- The text of the chunk stands in another one, with so many bytes before it. -/
def Chunk.StandsAt (chunk : Chunk) (text : String) (offset : Nat) : Prop :=
  ∃ before after, text = before ++ chunk.text ++ after ∧ before.utf8ByteSize = offset

/-- What a chunk tells of the document it is from, where it has this place and this offset. -/
structure Chunk.ComesFrom (chunk : Chunk) (document : Document) (place offset : Nat) : Prop where
  sourceId : chunk.sourceId = document.id
  sequenceIndex : chunk.sequenceIndex = place
  standsAt : chunk.StandsAt document.text offset
  startIndex : chunk.startIndex? = some offset
  chunkIndex : chunk.metadata.find? chunkIndexKey = some (toString place)
  inherited : ∀ key, key ≠ chunkIndexKey → key ≠ startIndexKey →
    chunk.metadata.find? key = document.metadata.find? key

namespace Chunking

variable {chunker : Chunker} {document : Document} {span : Span}

theorem utf8ByteSize_ofList (cs : List Char) : (String.ofList cs).utf8ByteSize = byteLength cs := by
  induction cs with
  | nil => rfl
  | cons c cs ih => rw [String.ofList_cons, String.utf8ByteSize_append, String.utf8ByteSize_singleton, ih, byteLength_cons]

/-- A span that stands in a text does so as a text too. -/
theorem Span.StandsIn.text {text : String} (h : span.StandsIn text.toList) :
    ∃ before after, text = before ++ span.text ++ after ∧ before.utf8ByteSize = span.offset := by
  obtain ⟨before, after, htext, hbefore⟩ := h
  refine ⟨.ofList before, .ofList after, ?_, by rw [utf8ByteSize_ofList, hbefore]⟩
  rw [Span.text, ← String.ofList_append, ← String.ofList_append, ← htext, String.ofList_toList]

/-! ## The metadata of a chunk -/

theorem find?_chunkAt (document : Document) (place : Nat) (span : Span) (key : String) :
    (document.chunkAt place span).metadata.find? key =
      if key = startIndexKey then some (Number.decimal span.offset)
      else if key = chunkIndexKey then some (Number.decimal place)
      else document.metadata.find? key := by
  rw [Document.chunkAt, Dictionary.find?_insert, Dictionary.find?_insert]

/-- The offset reads back from the metadata, if it is one of 64 bits. -/
theorem startIndex?_chunkAt (document : Document) (place : Nat) (h : span.offset < 2 ^ 64) :
    (document.chunkAt place span).startIndex? = some span.offset := by
  rw [Chunk.startIndex?, find?_chunkAt, if_pos rfl, Option.bind_some, Number.readDecimal?_decimal]
  exact Option.filter_some_pos (by simpa using h)

theorem chunkAt_comesFrom (place : Nat) (hstands : span.StandsIn document.text.toList) (hoffset : span.offset < 2 ^ 64) :
    (document.chunkAt place span).ComesFrom document place span.offset where
  sourceId := rfl
  sequenceIndex := rfl
  standsAt := hstands.text
  startIndex := startIndex?_chunkAt document place hoffset
  chunkIndex := by
    rw [find?_chunkAt, if_neg (by decide), if_pos rfl, Number.decimal_eq_toString]
  inherited key hplace hoffset := by
    rw [find?_chunkAt, if_neg hoffset, if_neg hplace]

/-! ## The chunks of a document -/

theorem getElem?_chunk (chunker : Chunker) (document : Document) (i : Nat) :
    (chunker.chunk document)[i]? = (chunker.split document.text)[i]?.map (document.chunkAt i) := by
  rw [Chunker.chunk, List.getElem?_map, List.getElem?_zipIdx, Option.map_map, Nat.zero_add]
  rfl

theorem offset_lt_of_mem_split (h : span ∈ chunker.split document.text) (htext : document.text.utf8ByteSize < 2 ^ 64) :
    span.offset < 2 ^ 64 := by
  obtain ⟨before, after, hdocument, hbefore⟩ := (standsIn_of_mem_split h).text
  rw [hdocument, String.utf8ByteSize_append, String.utf8ByteSize_append] at htext
  omega

/-- There is a chunk for each span of a text whose bytes can be counted with 64 bits, and it tells rightly where it is
from. A later chunk tells a later byte. -/
theorem chunk_comesFrom (chunker : Chunker) (document : Document) (h : document.text.utf8ByteSize < 2 ^ 64) :
    (chunker.chunk document).length = (chunker.split document.text).length ∧
    (∀ (i : Nat) (chunk : Chunk), (chunker.chunk document)[i]? = some chunk →
      ∃ span, (chunker.split document.text)[i]? = some span ∧ chunk.text = span.text ∧
        chunk.ComesFrom document i span.offset) ∧
    (chunker.chunk document).Pairwise fun a b =>
      ∃ p q, a.startIndex? = some p ∧ b.startIndex? = some q ∧ p < q := by
  have hplaced (i : Nat) (chunk : Chunk) (hchunk : (chunker.chunk document)[i]? = some chunk) :
      ∃ span, (chunker.split document.text)[i]? = some span ∧ chunk.text = span.text ∧
        chunk.ComesFrom document i span.offset := by
    rw [getElem?_chunk] at hchunk
    obtain ⟨span, hspan, rfl⟩ := Option.map_eq_some_iff.1 hchunk
    have hmem := List.mem_of_getElem? hspan
    exact ⟨span, hspan, rfl, chunkAt_comesFrom i (standsIn_of_mem_split hmem) (offset_lt_of_mem_split hmem h)⟩
  refine ⟨by rw [Chunker.chunk, List.length_map, List.length_zipIdx], hplaced, ?_⟩
  rw [List.pairwise_iff_getElem]
  intro i j hi hj hij
  obtain ⟨a, ha, -, hafrom⟩ := hplaced i _ (List.getElem?_eq_getElem hi)
  obtain ⟨b, hb, -, hbfrom⟩ := hplaced j _ (List.getElem?_eq_getElem hj)
  obtain ⟨hia, rfl⟩ := List.getElem?_eq_some_iff.1 ha
  obtain ⟨hjb, rfl⟩ := List.getElem?_eq_some_iff.1 hb
  have hbefore := List.pairwise_iff_getElem.1 (pairwise_split chunker document.text) i j hia hjb hij
  exact ⟨_, _, hafrom.startIndex, hbfrom.startIndex, hbefore.1⟩

/-- A document whose metadata have entries of their own under the keys that chunks use. -/
def labelled : Document where
  id := "doc"
  text := " äöü  words\n"
  metadata := .ofList [("chunk_index", "last"), ("lang", "de"), ("start_index", "0")]
  sourceUri := none

theorem chunk_comesFrom_labelled :
    labelled.text.utf8ByteSize < 2 ^ 64 ∧
    ∃ chunk, ((Chunker.mk 4 0 (by decide)).chunk labelled)[1]? = some chunk ∧ chunk.text = "word" ∧
      chunk.ComesFrom labelled 1 9 ∧ chunk.metadata.find? "lang" = some "de" := by
  have hsize : labelled.text.utf8ByteSize < 2 ^ 64 := by decide
  have hspan : ((Chunker.mk 4 0 (by decide)).split labelled.text)[1]? = some ⟨9, "word".toList⟩ := by decide +kernel
  have hchunk := getElem?_chunk (Chunker.mk 4 0 (by decide)) labelled 1
  rw [hspan] at hchunk
  obtain ⟨-, hplaced, -⟩ := chunk_comesFrom (Chunker.mk 4 0 (by decide)) labelled hsize
  obtain ⟨span, hsame, htext, hfrom⟩ := hplaced 1 _ hchunk
  obtain rfl := Option.some.inj (hspan.symm.trans hsame)
  exact ⟨hsize, _, hchunk, htext, hfrom, hfrom.inherited "lang" (by decide) (by decide)⟩

end Chunking

end GroundedQA
