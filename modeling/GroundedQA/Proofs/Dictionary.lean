import GroundedQA.Dictionary
import Mathlib.Data.List.Nodup
import Mathlib.Tactic.Common
/-!
# A dictionary is the map of its entries

Entries that come in ascending order are put one behind the other, so a dictionary is rebuilt from
the list of its entries (`ofList_entries`). Of a list of entries with different keys, each key finds the
value beside it (`find?_ofList`), there are no other keys (`keys_ofList_perm`), and the order of the entries does
not matter (`ofList_eq_of_perm`).
-/

namespace GroundedQA.Dictionary

variable {α : Type}

/-- An entry with the largest key has its place at the end. -/
theorem place_last {key : String} (value : α) {entries : List (String × α)} (h : ∀ e ∈ entries, e.1 < key) :
    place key value entries = entries ++ [(key, value)] := by
  induction entries with
  | nil => rfl
  | cons e rest ih =>
    obtain ⟨k, v⟩ := e
    have hk : k < key := h (k, v) (by simp)
    have hne : key ≠ k := fun heq => String.lt_irrefl k (heq ▸ hk)
    have hlt : ¬key < k := fun hgt => String.lt_irrefl k (String.lt_trans hk hgt)
    rw [place, if_neg hlt, if_neg hne, ih fun e he => h e (List.mem_cons_of_mem _ he)]
    rfl

theorem entries_foldl_insert (d : Dictionary α) {entries : List (String × α)}
    (h : (d.entries ++ entries).Pairwise fun a b => a.1 < b.1) :
    (entries.foldl (fun d e => d.insert e.1 e.2) d).entries = d.entries ++ entries := by
  induction entries generalizing d with
  | nil => exact (List.append_nil _).symm
  | cons e rest ih =>
    have hlast : (d.insert e.1 e.2).entries = d.entries ++ [e] :=
      place_last e.2 fun f hf => (List.pairwise_append.1 h).2.2 f hf e (by simp)
    rw [List.append_cons, ← hlast] at h
    rw [List.foldl_cons, ih _ h, hlast, List.append_assoc]
    rfl

/-- A dictionary is rebuilt from its entries. -/
theorem ofList_entries (d : Dictionary α) : ofList d.entries = d := by
  have h : (ofList d.entries).entries = d.entries := entries_foldl_insert empty d.ascending
  cases hd : ofList d.entries
  cases d
  simp_all

/-! ## Keys -/

theorem nodup_keys (d : Dictionary α) : d.keys.Nodup :=
  List.pairwise_map.2 (d.ascending.imp String.ne_of_lt)

theorem isSome_lookup {entries : List (String × α)} {key : String} :
    (entries.lookup key).isSome ↔ key ∈ entries.map (·.1) := by
  rw [List.lookup_isSome_iff, List.mem_map]
  simp only [beq_iff_eq, eq_comm (a := key)]

theorem keys_map_value {β : Type} (f : α → β) (entries : List (String × α)) :
    (entries.map fun e => (e.1, f e.2)).map (·.1) = entries.map (·.1) := by
  rw [List.map_map]
  rfl

theorem lookup_map_value {β : Type} (f : α → β) (entries : List (String × α)) (key : String) :
    (entries.map fun e => (e.1, f e.2)).lookup key = (entries.lookup key).map f := by
  induction entries with
  | nil => rfl
  | cons e rest ih =>
    by_cases hkey : key = e.1
    · subst hkey
      rw [lookup_head]
      exact lookup_head (e.1, f e.2) _
    · rw [lookup_tail hkey, ← ih]
      exact lookup_tail (e := (e.1, f e.2)) hkey _

theorem mem_keys {d : Dictionary α} {key : String} : key ∈ d.keys ↔ (d.find? key).isSome :=
  isSome_lookup.symm

theorem find?_foldl_insert (d : Dictionary α) {entries : List (String × α)} (h : (entries.map (·.1)).Nodup)
    (key : String) :
    (entries.foldl (fun d e => d.insert e.1 e.2) d).find? key = (entries.lookup key).or (d.find? key) := by
  induction entries generalizing d with
  | nil => rfl
  | cons e rest ih =>
    obtain ⟨hnew, hrest⟩ := List.nodup_cons.1 h
    rw [List.foldl_cons, ih _ hrest, find?_insert]
    by_cases hkey : key = e.1
    · have hnone : rest.lookup e.1 = none := by
        rw [← Option.not_isSome_iff_eq_none, isSome_lookup]
        exact hnew
      rw [hkey, lookup_head, hnone, if_pos rfl]
      rfl
    · rw [if_neg hkey, lookup_tail hkey]

/-- A key finds the value beside it. -/
theorem find?_ofList {entries : List (String × α)} (h : (entries.map (·.1)).Nodup) (key : String) :
    (ofList entries).find? key = entries.lookup key := by
  rw [ofList, find?_foldl_insert _ h, find?_empty, Option.or_none]

theorem keys_ofList_perm {entries : List (String × α)} (h : (entries.map (·.1)).Nodup) :
    (ofList entries).keys.Perm (entries.map (·.1)) := by
  rw [List.perm_ext_iff_of_nodup (nodup_keys _) h]
  intro key
  rw [mem_keys, find?_ofList h, isSome_lookup]

theorem mem_of_lookup {entries : List (String × α)} {key : String} {value : α}
    (h : entries.lookup key = some value) : (key, value) ∈ entries := by
  obtain ⟨before, after, hentries, -⟩ := List.lookup_eq_some_iff.1 h
  rw [hentries]
  exact List.mem_append_right _ List.mem_cons_self

/-- Where no key comes twice, a key finds the value of its entry. -/
theorem lookup_of_mem {entries : List (String × α)} (hkeys : (entries.map (·.1)).Nodup) {e : String × α}
    (h : e ∈ entries) : entries.lookup e.1 = some e.2 := by
  have hsome : (entries.lookup e.1).isSome := isSome_lookup.2 (List.mem_map_of_mem h)
  obtain ⟨value, hvalue⟩ := Option.isSome_iff_exists.1 hsome
  have hsame : (e.1, value) = e := List.inj_on_of_nodup_map hkeys (mem_of_lookup hvalue) h rfl
  rw [hvalue, ← hsame]

/-- A map of different keys is the same in whatever order its entries come. -/
theorem ofList_eq_of_perm {entries others : List (String × α)} (hkeys : (entries.map (·.1)).Nodup)
    (h : entries.Perm others) : ofList entries = ofList others := by
  have hothers : (others.map (·.1)).Nodup := (h.map (·.1)).nodup_iff.1 hkeys
  apply ext_find?
  intro key
  rw [find?_ofList hkeys, find?_ofList hothers]
  apply Option.ext
  intro value
  constructor
  · intro hvalue
    exact lookup_of_mem hothers (h.subset (mem_of_lookup hvalue))
  · intro hvalue
    exact lookup_of_mem hkeys (h.symm.subset (mem_of_lookup hvalue))

theorem find?_erase (d : Dictionary α) (key other : String) :
    (d.erase key).find? other = if other = key then none else d.find? other := by
  show (d.entries.filter (·.1 ≠ key)).lookup other = if other = key then none else d.entries.lookup other
  induction d.entries with
  | nil => simp
  | cons e rest ih =>
    by_cases he : e.1 = key
    · rw [List.filter_cons_of_neg (by simpa using he), ih]
      split
      · rfl
      · next hne => rw [lookup_tail (he ▸ hne)]
    · rw [List.filter_cons_of_pos (by simpa using he)]
      by_cases hother : other = e.1
      · rw [hother, lookup_head, lookup_head, if_neg he]
      · rw [lookup_tail hother, lookup_tail hother, ih]

end GroundedQA.Dictionary
