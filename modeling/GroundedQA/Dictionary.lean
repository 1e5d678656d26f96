/-!
# Dictionaries

A finite map from texts to values. Its entries are kept in ascending order of their keys, which for
texts is the order of code points, so that equal maps are equal values: `Dictionary.ext_find?` says
that a dictionary is determined by what its keys find.
-/

namespace GroundedQA

/-- A finite map from texts, as its entries in ascending order of keys. -/
structure Dictionary (α : Type) where
  entries : List (String × α)
  ascending : entries.Pairwise fun a b => a.1 < b.1
deriving Repr

namespace Dictionary

variable {α β : Type}

instance [DecidableEq α] : DecidableEq (Dictionary α) := fun a b =>
  match decEq a.entries b.entries with
  | isTrue h => isTrue (by cases a; cases b; congr)
  | isFalse h => isFalse (by rintro rfl; exact h rfl)

/-- The map with no entries. -/
def empty : Dictionary α := ⟨[], .nil⟩

instance : Inhabited (Dictionary α) := ⟨empty⟩

/-- The keys, in ascending order. -/
def keys (d : Dictionary α) : List String := d.entries.map (·.1)

/-- The value under a key. -/
def find? (d : Dictionary α) (key : String) : Option α := d.entries.lookup key

/-- Puts an entry in its place among entries, over one of the same key. -/
def place (key : String) (value : α) : List (String × α) → List (String × α)
  | [] => [(key, value)]
  | (k, v) :: rest =>
    if key < k then (key, value) :: (k, v) :: rest
    else if key = k then (key, value) :: rest
    else (k, v) :: place key value rest

theorem mem_place {key : String} {value : α} {entries : List (String × α)} {e : String × α}
    (h : e ∈ place key value entries) : e = (key, value) ∨ e ∈ entries := by
  induction entries with
  | nil => simpa [place] using h
  | cons f rest ih =>
    obtain ⟨k, v⟩ := f
    rw [place] at h
    split at h
    · simpa using h
    · split at h
      · rcases List.mem_cons.1 h with h | h
        · exact .inl h
        · exact .inr (List.mem_cons_of_mem _ h)
      · rcases List.mem_cons.1 h with h | h
        · exact .inr (by simp [h])
        · rcases ih h with h | h
          · exact .inl h
          · exact .inr (List.mem_cons_of_mem _ h)

theorem ascending_place {key : String} {value : α} {entries : List (String × α)}
    (h : entries.Pairwise fun a b => a.1 < b.1) :
    (place key value entries).Pairwise fun a b => a.1 < b.1 := by
  induction entries with
  | nil => simp [place]
  | cons f rest ih =>
    obtain ⟨k, v⟩ := f
    obtain ⟨hk, hrest⟩ := List.pairwise_cons.1 h
    rw [place]
    split
    · next hlt =>
      refine List.pairwise_cons.2 ⟨fun e he => ?_, h⟩
      rcases List.mem_cons.1 he with rfl | he
      · exact hlt
      · exact String.lt_trans hlt (hk e he)
    · next hlt =>
      split
      · next heq =>
        subst heq
        exact List.pairwise_cons.2 ⟨hk, hrest⟩
      · next hne =>
        refine List.pairwise_cons.2 ⟨fun e he => ?_, ih hrest⟩
        rcases mem_place he with rfl | he
        · rcases String.le_total key k with hle | hle
          · exact absurd (String.le_antisymm hle (String.not_lt.1 hlt)) hne
          · exact String.not_le.1 fun hge => hne (String.le_antisymm hge hle)
        · exact hk e he

/-- Sets the value under a key. -/
def insert (d : Dictionary α) (key : String) (value : α) : Dictionary α :=
  ⟨place key value d.entries, ascending_place d.ascending⟩

/-- Removes the entry under a key. -/
def erase (d : Dictionary α) (key : String) : Dictionary α :=
  ⟨d.entries.filter (·.1 ≠ key), d.ascending.filter _⟩

/-- The map of a list of entries; of entries with one key the last stands. -/
def ofList (entries : List (String × α)) : Dictionary α :=
  entries.foldl (fun d e => d.insert e.1 e.2) empty

/-! ## What the keys find -/

@[simp] theorem find?_empty (key : String) : (empty : Dictionary α).find? key = none := rfl

theorem lookup_place (key k : String) (value : α) (entries : List (String × α)) :
    (place key value entries).lookup k = if k = key then some value else entries.lookup k := by
  induction entries with
  | nil =>
    by_cases h : k = key
    · simp [place, h]
    · simp [place, h, List.lookup_cons, beq_eq_false_iff_ne.2 h]
  | cons f rest ih =>
    obtain ⟨k', v⟩ := f
    rw [place]
    by_cases h : k = key
    · subst h
      split
      · simp
      · split
        · simp
        · next hne => simp [List.lookup_cons, beq_eq_false_iff_ne.2 hne, ih]
    · have hb := beq_eq_false_iff_ne.2 h
      split
      · simp [List.lookup_cons, hb]
      · split
        · next heq => subst heq; simp [List.lookup_cons, hb]
        · simp [List.lookup_cons, ih, h]

@[simp] theorem find?_insert (d : Dictionary α) (key k : String) (value : α) :
    (d.insert key value).find? k = if k = key then some value else d.find? k :=
  lookup_place ..

theorem lookup_head (e : String × α) (rest : List (String × α)) : (e :: rest).lookup e.1 = some e.2 :=
  List.lookup_cons_self

theorem lookup_tail {e : String × α} {k : String} (h : k ≠ e.1) (rest : List (String × α)) :
    (e :: rest).lookup k = rest.lookup k := by
  obtain ⟨key, value⟩ := e
  rw [List.lookup_cons, beq_eq_false_iff_ne.2 h]

theorem lookup_eq_none_of_lt {entries : List (String × α)} {k : String}
    (h : ∀ e ∈ entries, k < e.1) : entries.lookup k = none := by
  induction entries with
  | nil => rfl
  | cons e rest ih =>
    have hne : k ≠ e.1 := String.ne_of_lt (h e (by simp))
    rw [lookup_tail hne, ih fun f hf => h f (by simp [hf])]

theorem eq_of_lookup {xs ys : List (String × α)} (hx : xs.Pairwise fun a b => a.1 < b.1)
    (hy : ys.Pairwise fun a b => a.1 < b.1) (h : ∀ k, xs.lookup k = ys.lookup k) : xs = ys := by
  induction xs generalizing ys with
  | nil =>
    cases ys with
    | nil => rfl
    | cons y ys => simpa [lookup_head] using h y.1
  | cons x xs ih =>
    obtain ⟨hx, hxs⟩ := List.pairwise_cons.1 hx
    cases ys with
    | nil => simpa [lookup_head] using h x.1
    | cons y ys =>
      obtain ⟨hy, hys⟩ := List.pairwise_cons.1 hy
      have hxy : x.1 = y.1 := by
        refine String.le_antisymm (String.not_lt.1 fun hlt => ?_) (String.not_lt.1 fun hlt => ?_)
        · have := h y.1
          rw [lookup_head, lookup_eq_none_of_lt fun e he => ?_] at this
          · simp at this
          · rcases List.mem_cons.1 he with rfl | he
            · exact hlt
            · exact String.lt_trans hlt (hx e he)
        · have := h x.1
          rw [lookup_head, lookup_eq_none_of_lt fun e he => ?_] at this
          · simp at this
          · rcases List.mem_cons.1 he with rfl | he
            · exact hlt
            · exact String.lt_trans hlt (hy e he)
      have hv : x.2 = y.2 := by
        have := h x.1
        rw [lookup_head, hxy, lookup_head] at this
        exact Option.some.inj this
      have hh : x = y := Prod.ext hxy hv
      subst hh
      congr 1
      refine ih hxs hys fun k => ?_
      by_cases hk : k = x.1
      · subst hk
        rw [lookup_eq_none_of_lt hx, lookup_eq_none_of_lt hy]
      · have := h k
        rwa [lookup_tail hk, lookup_tail hk] at this

/-- A dictionary is determined by what its keys find. -/
theorem ext_find? {d e : Dictionary α} (h : ∀ k, d.find? k = e.find? k) : d = e := by
  cases d
  cases e
  congr
  exact eq_of_lookup ‹_› ‹_› h

end Dictionary

end GroundedQA
