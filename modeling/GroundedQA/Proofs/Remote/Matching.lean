import GroundedQA.Proofs.Remote.Exchanges
import Mathlib.Data.List.Range
import Mathlib.Data.List.Sort
/-!
# Embeddings and their texts

The items of a reply come in any order, and each may tell the place of its text. The embeddings of a batch are those of
the items in the order of their places, of one place in the order of the reply (`Arranges`). So when there is one item
for each place, each text gets the embedding with its place (`embeddings_matched`).
-/

namespace GroundedQA.Remote

open Json

variable {σ : Type}

/-! ## Items as they are written -/

/-- An item of a reply: an embedding, with or without the place of its text. -/
structure WrittenItem where
  embedding : Embedding
  place? : Option ℕ
deriving DecidableEq

namespace WrittenItem

def ofJson? (j : Json) : Option WrittenItem := do
  let [embedding, index] ← j.fields? [["embedding"], ["index"]] | none
  return {
    embedding := ← required? (list? float32?) embedding
    place? := ← defaulted? none (fun n => (word? n).map some) index }

/-- The place at which the item counts: without one, at the first. -/
def place (item : WrittenItem) : ℕ := item.place?.getD 0

def toItem (item : WrittenItem) : EmbeddingItem := ⟨item.embedding, item.place⟩

theorem ofJson?_eq (j : Json) : EmbeddingItem.ofJson? j = toItem <$> ofJson? j := by
  unfold EmbeddingItem.ofJson? ofJson?
  cases j.fields? [["embedding"], ["index"]] with
  | none => rfl
  | some fields =>
    match fields with
    | [embedding, index] =>
      dsimp only [Option.bind_eq_bind, Option.bind_some]
      cases required? (list? float32?) embedding with
      | none => rfl
      | some vector =>
        cases index with
        | none => rfl
        | some n => cases hn : word? n <;> simp [defaulted?, hn, toItem, place]
    | [] | [_] | _ :: _ :: _ :: _ => rfl

end WrittenItem

/-- The items of a reply. -/
def writtenItems? (j : Json) : Option (List WrittenItem) := do
  let [data] ← j.fields? [["data"]] | none
  required? (list? WrittenItem.ofJson?) data

theorem list?_ofJson?_eq (j : Json) :
    list? EmbeddingItem.ofJson? j = List.map WrittenItem.toItem <$> list? WrittenItem.ofJson? j := by
  cases j with
  | array items =>
    have hitem : EmbeddingItem.ofJson? = fun j => WrittenItem.toItem <$> WrittenItem.ofJson? j :=
      funext WrittenItem.ofJson?_eq
    rw [list?, hitem, mapM_map_left]
    rfl
  | null | bool | number | string | object => rfl

theorem embeddingItems?_eq (j : Json) : embeddingItems? j = List.map WrittenItem.toItem <$> writtenItems? j := by
  unfold embeddingItems? writtenItems?
  cases j.fields? [["data"]] with
  | none => rfl
  | some fields =>
    match fields with
    | [some data] => exact list?_ofJson?_eq data
    | [] | [none] | _ :: _ :: _ => rfl

/-! ## Items in the order of their places -/

/-- The items in the order of their places, and those of one place as they were. -/
structure Arranges (items arranged : List WrittenItem) : Prop where
  perm : arranged.Perm items
  ascending : arranged.Pairwise fun a b => a.place ≤ b.place
  stable : ∀ place, arranged.filter (·.place = place) = items.filter (·.place = place)

/-- The items, sorted by their places. -/
def arrange (items : List WrittenItem) : List WrittenItem :=
  items.mergeSort fun a b => a.place ≤ b.place

theorem inOrder_map_toItem (items : List WrittenItem) :
    inOrder (items.map WrittenItem.toItem) = (arrange items).map (·.embedding) := by
  have hsort : (arrange items).map WrittenItem.toItem =
      (items.map WrittenItem.toItem).mergeSort fun a b => a.index ≤ b.index :=
    List.map_mergeSort fun _ _ _ _ => rfl
  rw [inOrder, ← hsort, List.map_map]
  rfl

theorem arranges_arrange (items : List WrittenItem) : Arranges items (arrange items) := by
  have htrans : ∀ a b c : WrittenItem, decide (a.place ≤ b.place) → decide (b.place ≤ c.place) →
      decide (a.place ≤ c.place) := by
    simp only [decide_eq_true_eq]
    omega
  have htotal : ∀ a b : WrittenItem, decide (a.place ≤ b.place) || decide (b.place ≤ a.place) := by
    simp only [Bool.or_eq_true, decide_eq_true_eq]
    omega
  have hperm : (arrange items).Perm items := List.mergeSort_perm ..
  refine ⟨hperm, (List.pairwise_mergeSort htrans htotal items).imp of_decide_eq_true, fun place => ?_⟩
  -- The items of one place are sorted as they are, so the sort keeps their order.
  have hsame : (items.filter (·.place = place)).Pairwise fun a b => decide (a.place ≤ b.place) := by
    refine List.pairwise_of_forall_mem_list fun a ha b hb => ?_
    have ha := of_decide_eq_true (List.mem_filter.1 ha).2
    have hb := of_decide_eq_true (List.mem_filter.1 hb).2
    simp [ha, hb]
  have hkept := (List.sublist_mergeSort htrans htotal hsame List.filter_sublist).filter (·.place = place)
  rw [List.filter_filter] at hkept
  simp only [Bool.and_self] at hkept
  exact (hkept.eq_of_length (hperm.filter _).length_eq.symm).symm

/-- With one item for each place, each item stands at its own. -/
theorem Arranges.getElem? {items arranged : List WrittenItem} (h : Arranges items arranged) {n : ℕ}
    (hplaces : (items.map (·.place)).Perm (List.range n)) {item : WrittenItem} (hitem : item ∈ items) :
    arranged[item.place]? = some item := by
  have hrange : arranged.map (·.place) = List.range n :=
    List.Perm.eq_of_pairwise (fun _ _ _ _ => Nat.le_antisymm) (List.pairwise_map.2 h.ascending)
      (List.pairwise_lt_range.imp Nat.le_of_lt) ((h.perm.map _).trans hplaces)
  obtain ⟨i, hi⟩ := List.mem_iff_getElem?.1 (h.perm.mem_iff.2 hitem)
  have hplace : (List.range n)[i]? = some item.place := by
    rw [← hrange, List.getElem?_map, hi]
    rfl
  obtain ⟨_, hplace⟩ := List.getElem?_eq_some_iff.1 hplace
  rw [List.getElem_range] at hplace
  rw [← hplace, hi]

/-! ## The embeddings of a batch -/

/-- The request for a batch of texts, made in the state `s`, is answered by a success with these items, and leaves the
state `s'`. -/
def EmbeddingService.Delivers (service : EmbeddingService) (transport : Transport σ) (texts : List String) (s : σ)
    (items : List WrittenItem) (s' : σ) : Prop :=
  ∃ request reply,
    Request.make (service.connection.address .embeddings) service.connection.apiKey
      (embeddingRequest service.connection.model texts service.requestedDimensions).render = .ok request ∧
    (transport request).run s = (some reply, s') ∧ (200 ≤ reply.status ∧ reply.status < 300) ∧
    (parse? reply.body).bind writtenItems? = some items

section

variable {service : EmbeddingService} {transport : Transport σ} {texts : List String} {s s' : σ}
  {items : List WrittenItem}

theorem embedBatch_run (h : service.Delivers transport texts s items s') (htexts : texts ≠ []) :
    (service.embedBatch transport texts).run.run s = (.ok ((arrange items).map (·.embedding)), s') := by
  obtain ⟨request, reply, hrequest, hreply, hsuccess, hitems⟩ := h
  have hread : (parse? reply.body).bind embeddingItems? = some (items.map WrittenItem.toItem) := by
    obtain ⟨j, hj, hwritten⟩ := Option.bind_eq_some_iff.1 hitems
    rw [hj, Option.bind_some, embeddingItems?_eq, hwritten]
    rfl
  have hreceived : received embeddingItems? request.address (some reply) = .ok (items.map WrittenItem.toItem) :=
    received_eq_ok_iff.2 ⟨reply, rfl, hsuccess, hread⟩
  rw [Providers.embedBatch_eq service transport htexts, map_eq_pure_bind, run_bind, post_run hrequest, hreply, hreceived,
    ← inOrder_map_toItem]
  rfl

theorem embed_run (service : EmbeddingService) (transport : Transport σ) (text : String) (s : σ) :
    (service.embed transport text).run.run s =
      match (service.embedBatch transport [text]).run.run s with
      | (.ok (vector :: _), s') => (.ok vector, s')
      | (.ok [], s') => (.error (.provider "OpenAI embeddings" "API returned empty response"), s')
      | (.error e, s') => (.error e, s') := by
  rw [EmbeddingService.embed, run_bind]
  cases (service.embedBatch transport [text]).run.run s with
  | mk result s' =>
    cases result with
    | error e => rfl
    | ok vectors => cases vectors <;> rfl

end

/-- A successful reply to a batch gives the embeddings of all its items, those of one place in the order of the reply.
When there is one item for each of the texts, each text gets the embedding with its place. A text alone gets the first
embedding of the batch of it, and an error when there is none. -/
theorem embeddings_matched (service : EmbeddingService) (transport : Transport σ) :
    (∀ texts s items s', texts ≠ [] → service.Delivers transport texts s items s' →
      ∃ arranged vectors, (service.embedBatch transport texts).run.run s = (.ok vectors, s') ∧
        vectors = arranged.map (·.embedding) ∧ Arranges items arranged ∧ vectors.Perm (items.map (·.embedding)) ∧
        ((items.map (·.place)).Perm (List.range texts.length) → vectors.length = texts.length ∧
          ∀ item ∈ items, vectors[item.place]? = some item.embedding)) ∧
    (∀ text s, (service.embed transport text).run.run s =
      match (service.embedBatch transport [text]).run.run s with
      | (.ok (vector :: _), s') => (.ok vector, s')
      | (.ok [], s') => (.error (.provider "OpenAI embeddings" "API returned empty response"), s')
      | (.error e, s') => (.error e, s')) ∧
    ∀ text s s', service.Delivers transport [text] s [] s' → (service.embed transport text).run.run s =
      (.error (.provider "OpenAI embeddings" "API returned empty response"), s') := by
  refine ⟨fun texts s items s' htexts h => ?_, embed_run service transport, fun text s s' h => ?_⟩
  · have harranged := arranges_arrange items
    refine ⟨arrange items, _, embedBatch_run h htexts, rfl, harranged, harranged.perm.map _, fun hplaces => ⟨?_, ?_⟩⟩
    · rw [List.length_map, harranged.perm.length_eq, ← List.length_map (·.place), hplaces.length_eq, List.length_range]
    · intro item hitem
      rw [List.getElem?_map, harranged.getElem? hplaces hitem]
      rfl
  · rw [embed_run, embedBatch_run h (List.cons_ne_nil text []), arrange, List.mergeSort_nil]
    rfl

/-- Three items, the last first, and one without a place. -/
def shuffledReply : Reply :=
  ⟨200, "\x7b\"data\":[\x7b\"embedding\":[3],\"index\":2\x7d,\x7b\"embedding\":[1]\x7d," ++
    "\x7b\"embedding\":[2],\"index\":1\x7d]\x7d"⟩

def emptyReply : Reply := ⟨200, "\x7b\"data\":[]\x7d"⟩

theorem embeddings_matched_shuffled :
    Providers.standard.embeddings.Delivers Providers.scripted ["a", "b", "c"] [some shuffledReply]
      [⟨[3], some 2⟩, ⟨[1], none⟩, ⟨[2], some 1⟩] [] ∧
    Providers.standard.embeddings.Delivers Providers.scripted ["a"] [some emptyReply] [] [] ∧
    (∃ vectors, (Providers.standard.embeddings.embedBatch Providers.scripted ["a", "b", "c"]).run.run
        [some shuffledReply] = (.ok vectors, []) ∧
      vectors.length = 3 ∧ vectors[0]? = some [1] ∧ vectors[1]? = some [2] ∧ vectors[2]? = some [3]) ∧
    (Providers.standard.embeddings.embed Providers.scripted "a").run.run [some emptyReply] =
      (.error (.provider "OpenAI embeddings" "API returned empty response"), []) := by
  have hvalid : Providers.standard.embeddings.connection.Valid := .of_standard rfl rfl
  obtain ⟨_, -, hmake⟩ := hvalid.exists_make .embeddings
  have hshuffled : Providers.standard.embeddings.Delivers Providers.scripted ["a", "b", "c"] [some shuffledReply]
      [⟨[3], some 2⟩, ⟨[1], none⟩, ⟨[2], some 1⟩] [] :=
    ⟨_, shuffledReply, hmake _, rfl, by decide, by decide +kernel⟩
  have hempty : Providers.standard.embeddings.Delivers Providers.scripted ["a"] [some emptyReply] [] [] :=
    ⟨_, emptyReply, hmake _, rfl, by decide, by decide +kernel⟩
  obtain ⟨hbatch, -, hnone⟩ := embeddings_matched Providers.standard.embeddings Providers.scripted
  obtain ⟨_, vectors, hrun, -, -, -, hplaced⟩ := hbatch _ _ _ _ (by simp) hshuffled
  obtain ⟨hlength, hplaced⟩ := hplaced (by decide)
  exact ⟨hshuffled, hempty, ⟨vectors, hrun, hlength, hplaced ⟨[1], none⟩ (by simp), hplaced ⟨[2], some 1⟩ (by simp),
    hplaced ⟨[3], some 2⟩ (by simp)⟩, hnone "a" _ _ hempty⟩

end GroundedQA.Remote
