import GroundedQA.Proofs.Json.Records
/-!
# The order of members

A writer that goes through a hash table gives the members of an object in any order. What the readers make of a
value is the same for every such order (`OrderFree`), as long as no key stands twice: of a map whatever the keys,
and of a record because each field looks for its own member.
-/

namespace GroundedQA.Json

variable {α : Type}

/-- Members of one key, with values that are related. -/
inductive SameKey {κ : Type} (R : Json → Json → Prop) : κ × Json → κ × Json → Prop
  | mk (key : κ) {j j' : Json} : R j j' → SameKey R (key, j) (key, j')

/-- The same value, but for the order of the members in its objects, at any depth. An object in which a key stands
twice stays as it is. -/
inductive Rearranges : Json → Json → Prop
  | refl (j : Json) : Rearranges j j
  | array {items items' : List Json} : List.Forall₂ Rearranges items items' →
      Rearranges (.array items) (.array items')
  | object {members between members' : List (Option String × Json)} : (members.map (·.1)).Nodup →
      List.Forall₂ (SameKey Rearranges) members between → between.Perm members' →
      Rearranges (.object members) (.object members')

theorem keys_eq_of_sameKey {κ : Type} {R : Json → Json → Prop} {members members' : List (κ × Json)}
    (h : List.Forall₂ (SameKey R) members members') : members.map (·.1) = members'.map (·.1) := by
  rw [← List.forall₂_eq_eq_eq, List.forall₂_map_left_iff, List.forall₂_map_right_iff]
  apply h.imp
  rintro _ _ ⟨key, -⟩
  rfl

-- The proof follows the value, so it goes through the lists of items and of members too.
mutual

theorem Rearranges.symm {j j' : Json} : j.Rearranges j' → j'.Rearranges j
  | .refl j => .refl j
  | .array hitems => .array (forall₂_rearranges_symm hitems)
  | .object hkeys hvalues horder => by
    obtain ⟨between, hvalues', horder'⟩ := List.perm_comp_forall₂ horder.symm (forall₂_sameKey_symm hvalues)
    refine .object ?_ hvalues' horder'
    rw [← (horder.map (·.1)).nodup_iff, ← keys_eq_of_sameKey hvalues]
    exact hkeys

theorem forall₂_rearranges_symm {items items' : List Json} :
    List.Forall₂ Rearranges items items' → List.Forall₂ Rearranges items' items
  | .nil => .nil
  | .cons hitem hitems => .cons hitem.symm (forall₂_rearranges_symm hitems)

theorem forall₂_sameKey_symm {members members' : List (Option String × Json)} :
    List.Forall₂ (SameKey Rearranges) members members' → List.Forall₂ (SameKey Rearranges) members' members
  | .nil => .nil
  | .cons (.mk key hvalue) hmembers => .cons (.mk key hvalue.symm) (forall₂_sameKey_symm hmembers)

end

/-- What is read of a value is read of it with its members in any order. -/
def OrderFree (read : Json → Option α) : Prop :=
  ∀ ⦃j j' : Json⦄, j.Rearranges j' → ∀ ⦃a : α⦄, read j = some a → read j' = some a

/-- Nothing else is read either, since the members may be put back. -/
theorem OrderFree.eq {read : Json → Option α} (hread : OrderFree read) {j j' : Json} (h : j.Rearranges j') :
    read j' = read j := by
  apply Option.ext
  intro a
  exact ⟨fun ha => hread h.symm ha, fun ha => hread h ha⟩

/-! ## Values without members -/

theorem orderFree_text? : OrderFree text? := by
  intro j j' h s hs
  cases h with
  | refl => exact hs
  | array => cases hs
  | object => cases hs

theorem orderFree_nat? (bound : ℕ) : OrderFree (nat? bound) := by
  intro j j' h n hn
  cases h with
  | refl => exact hn
  | array => cases hn
  | object => cases hn

theorem orderFree_float32? : OrderFree float32? := by
  intro j j' h x hx
  cases h with
  | refl => exact hx
  | array => cases hx
  | object => cases hx

/-! ## Lists, maps and values that may be missing -/

variable {read : Json → Option α}

theorem OrderFree.list? (hread : OrderFree read) : OrderFree (list? read) := by
  intro j j' h xs hxs
  cases h with
  | refl => exact hxs
  | array hitems =>
    exact mapM_eq_of_forall₂ (R := Rearranges) (f := read) (fun _ _ _ h hx => hread h hx) hitems hxs
  | object => cases hxs

theorem OrderFree.nullable? (hread : OrderFree read) : OrderFree (nullable? read) := by
  intro j j' h a ha
  cases h with
  | refl => exact ha
  | array hitems =>
    obtain ⟨x, hx, rfl⟩ := Option.map_eq_some_iff.1 ha
    exact Option.map_eq_some_iff.2 ⟨x, hread (.array hitems) hx, rfl⟩
  | object hkeys hvalues horder =>
    obtain ⟨x, hx, rfl⟩ := Option.map_eq_some_iff.1 ha
    exact Option.map_eq_some_iff.2 ⟨x, hread (.object hkeys hvalues horder) hx, rfl⟩

/-- The entry that a member of a map is read as. -/
def entryOf? (read : Json → Option α) (m : Option String × Json) : Option (String × α) := do
  return (← m.1, ← read m.2)

theorem entryOf?_eq_some {m : Option String × Json} {e : String × α} :
    entryOf? read m = some e ↔ m.1 = some e.1 ∧ read m.2 = some e.2 := by
  obtain ⟨key, value⟩ := e
  simp [entryOf?, Option.bind_eq_some_iff]

theorem OrderFree.dictionary? (hread : OrderFree read) : OrderFree (dictionary? read) := by
  intro j j' h d hd
  cases h with
  | refl => exact hd
  | array => cases hd
  | @object members between members' hkeys hvalues horder =>
    obtain ⟨entries, hentries, hd⟩ := Option.bind_eq_some_iff.1 hd
    cases hd
    -- First the same entries from the related members, then these in another order.
    have hbetween : between.mapM (entryOf? read) = some entries := by
      apply mapM_eq_of_forall₂ _ hvalues hentries
      rintro _ _ e ⟨key, hvalue⟩ he
      obtain ⟨hkey, he⟩ := entryOf?_eq_some.1 he
      exact entryOf?_eq_some.2 ⟨hkey, hread hvalue he⟩
    obtain ⟨others, hothers, hperm⟩ := mapM_perm horder hbetween
    have hnames : members.map (·.1) = entries.map fun e => some e.1 := by
      rw [← List.forall₂_eq_eq_eq, List.forall₂_map_left_iff, List.forall₂_map_right_iff]
      exact (mapM_eq_some.1 hentries).imp fun m e he => (entryOf?_eq_some.1 he).1
    have hnodup : (entries.map (·.1)).Nodup := by
      rw [hnames, ← Function.comp_def some, ← List.map_map] at hkeys
      exact hkeys.of_map
    exact Option.bind_eq_some_iff.2 ⟨others, hothers, congrArg some (Dictionary.ofList_eq_of_perm hnodup hperm).symm⟩

/-! ## Records -/

theorem memberOf?_eq_some {members : List (String × Json)} {names : FieldNames} {field : Option Json} :
    memberOf? members names = some field ↔
      ∃ found : Option (String × Json), members.filter (fun m => names.contains m.1) = found.toList ∧
        field = found.map (·.2) := by
  unfold memberOf?
  constructor
  · intro h
    split at h
    next hnone =>
      cases h
      exact ⟨none, hnone, rfl⟩
    next m hone =>
      cases h
      exact ⟨some m, hone, rfl⟩
    next => cases h
  · rintro ⟨_ | m, hfound, rfl⟩
    · rw [hfound]
      rfl
    · rw [hfound]
      rfl

/-- The keys have a text or not, wherever their members stand. -/
theorem exists_keyed? {members between members' : List (Option String × Json)} {named : List (String × Json)}
    (hvalues : List.Forall₂ (SameKey Rearranges) members between) (horder : between.Perm members')
    (h : keyed? members = some named) :
    ∃ between' named', keyed? members' = some named' ∧ List.Forall₂ (SameKey Rearranges) named between' ∧
      between'.Perm named' := by
  have hname : ∀ (m m' : Option String × Json) n, SameKey Rearranges m m' → (m.1.map fun key => (key, m.2)) = some n →
      ∃ n', (m'.1.map fun key => (key, m'.2)) = some n' ∧ SameKey Rearranges n n' := by
    rintro _ _ _ ⟨key, hvalue⟩ hm
    obtain ⟨name, rfl, rfl⟩ := Option.map_eq_some_iff.1 hm
    exact ⟨_, rfl, .mk name hvalue⟩
  obtain ⟨between', hbetween', hvalues'⟩ := mapM_of_forall₂ hname hvalues h
  obtain ⟨named', hnamed', horder'⟩ := mapM_perm horder hbetween'
  exact ⟨between', named', hnamed', hvalues', horder'⟩

/-- A field finds its own member, wherever that stands. -/
theorem exists_memberOf? {members between members' : List (String × Json)} {names : FieldNames} {field : Option Json}
    (hvalues : List.Forall₂ (SameKey Rearranges) members between) (horder : between.Perm members')
    (h : memberOf? members names = some field) :
    ∃ field', memberOf? members' names = some field' ∧ Option.Rel Rearranges field field' := by
  have hrelated : List.Forall₂ (SameKey Rearranges) (members.filter fun m => names.contains m.1)
      (between.filter fun m => names.contains m.1) := by
    refine List.rel_filter (R := SameKey Rearranges) ?_ hvalues
    rintro _ _ ⟨key, -⟩
    exact Iff.rfl
  have hperm := horder.filter fun m => names.contains m.1
  obtain ⟨found, hfound, rfl⟩ := memberOf?_eq_some.1 h
  rw [hfound] at hrelated
  cases found with
  | none =>
    rw [List.forall₂_nil_left_iff.1 hrelated] at hperm
    exact ⟨none, memberOf?_eq_some.2 ⟨none, List.nil_perm.1 hperm, rfl⟩, .none⟩
  | some m =>
    obtain ⟨m', rest, hm, hrest, hbetween⟩ := List.forall₂_cons_left_iff.1 hrelated
    rw [hbetween, List.forall₂_nil_left_iff.1 hrest] at hperm
    obtain ⟨key, hvalue⟩ := hm
    exact ⟨_, memberOf?_eq_some.2 ⟨some (key, _), (List.singleton_perm.1 hperm).symm, rfl⟩, .some hvalue⟩

/-- The fields of a record are the same, but for the order of members in their values. -/
theorem Rearranges.exists_fields? {j j' : Json} (h : j.Rearranges j') {names : List FieldNames}
    {fields : List (Option Json)} (hfields : j.fields? names = some fields) :
    ∃ fields', j'.fields? names = some fields' ∧ List.Forall₂ (Option.Rel Rearranges) fields fields' := by
  cases h with
  | refl =>
    refine ⟨fields, hfields, List.forall₂_same.2 fun field _ => ?_⟩
    cases field with
    | none => exact .none
    | some j => exact .some (.refl j)
  | @array items items' hitems =>
    unfold Json.fields? at hfields ⊢
    dsimp only at hfields ⊢
    split at hfields
    · next hlength =>
      cases hfields
      rw [← hitems.length_eq, if_pos hlength]
      refine ⟨_, rfl, List.rel_append ?_ (List.forall₂_same.2 ?_)⟩
      · rw [List.forall₂_map_left_iff, List.forall₂_map_right_iff]
        exact hitems.imp fun _ _ h => .some h
      · intro field hfield
        rw [(List.mem_replicate.1 hfield).2]
        exact .none
    · cases hfields
  | @object members between members' hkeys hvalues horder =>
    obtain ⟨named, hnamed, hfields⟩ := Option.bind_eq_some_iff.1 hfields
    obtain ⟨between', named', hnamed', hvalues', horder'⟩ := exists_keyed? hvalues horder hnamed
    have hfield : ∀ names names' field, names = names' → memberOf? named names = some field →
        ∃ field', memberOf? named' names' = some field' ∧ Option.Rel Rearranges field field' := by
      rintro names _ field rfl
      exact exists_memberOf? hvalues' horder'
    obtain ⟨fields', hfields', hrel⟩ := mapM_of_forall₂ hfield (List.forall₂_refl names) hfields
    exact ⟨fields', Option.bind_eq_some_iff.2 ⟨named', hnamed', hfields'⟩, hrel⟩

/-! ## Fields -/

theorem OrderFree.required? (hread : OrderFree read) {field field' : Option Json}
    (h : Option.Rel Rearranges field field') {a : α} (ha : required? read field = some a) :
    required? read field' = some a := by
  cases h with
  | none => exact ha
  | some h => exact hread h ha

theorem OrderFree.defaulted? (hread : OrderFree read) {default : α} {field field' : Option Json}
    (h : Option.Rel Rearranges field field') {a : α} (ha : defaulted? default read field = some a) :
    defaulted? default read field' = some a := by
  cases h with
  | none => exact ha
  | some h => exact hread h ha

end GroundedQA.Json
