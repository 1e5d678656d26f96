import GroundedQA.Json.Decode
import Mathlib.Tactic.Common
/-!
# Documents that can be read

A document can be read when all that stands in it can, and it is not too deep. What is made of texts is read at any
depth that is left (`readable_text`, `readable_texts`, `readable_record`).
-/

namespace GroundedQA.Json

theorem itemsReadable_iff {room : Nat} {items : List Json} :
    itemsReadable room items ↔ ∀ item ∈ items, item.readable room := by
  induction items with
  | nil => simp [itemsReadable]
  | cons item items ih => simp [itemsReadable, ih]

theorem membersReadable_iff {room : Nat} {members : List (Option String × Json)} :
    membersReadable room members ↔ ∀ m ∈ members, m.1.isSome ∧ m.2.readable room := by
  induction members with
  | nil => simp [membersReadable]
  | cons m members ih => simp [membersReadable, ih]

theorem readable_text (room : Nat) (s : String) : (text s).readable room := rfl

theorem readable_array (room : Nat) {items : List Json} (h : ∀ item ∈ items, item.readable room) :
    (array items).readable (room + 1) := by
  simpa [readable] using itemsReadable_iff.2 h

theorem readable_texts (room : Nat) (ss : List String) : (texts ss).readable (room + 1) := by
  refine readable_array room fun item hitem => ?_
  obtain ⟨s, -, rfl⟩ := List.mem_map.1 hitem
  exact readable_text room s

theorem readable_record (room : Nat) {members : List (String × Json)} (h : ∀ m ∈ members, m.2.readable room) :
    (record members).readable (room + 1) := by
  have hmembers : membersReadable room (members.map fun m => member m.1 m.2) := by
    refine membersReadable_iff.2 (List.forall_mem_map.2 fun m hm => ?_)
    exact ⟨rfl, h m hm⟩
  simpa [record, readable] using hmembers

end GroundedQA.Json
