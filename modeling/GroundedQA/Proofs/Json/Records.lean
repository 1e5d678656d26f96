import GroundedQA.Json.Decode
import GroundedQA.Proofs.Dictionary
import GroundedQA.Proofs.Failure
import GroundedQA.Proofs.Number.RoundTrip
/-!
# Values read as they are written

What each kind of value is written as, its reader takes back: whole numbers below the bound, finite
binary32 numbers bit for bit (`float32?_float32`), strings, dictionaries, lists item by item, and records
field by field (`fields?_record`).
-/

namespace GroundedQA.Json

variable {α β : Type}

@[simp] theorem text?_text (s : String) : text? (text s) = some s := rfl

theorem nat?_nat {bound n : Nat} (h : n < bound) : nat? bound (nat n) = some n := by
  simp [nat?, nat, Number.Numeral.toNat?, Number.Numeral.isInteger, h]

theorem lt_of_nat? {bound n : Nat} {j : Json} (h : nat? bound j = some n) : n < bound := by
  cases j with
  | number m =>
    unfold nat? Number.Numeral.toNat? at h
    dsimp only at h
    split at h
    next hm =>
      cases h
      exact of_decide_eq_true (Bool.and_eq_true_iff.1 hm).2
    · cases h
  | _ => cases h

theorem word?_nat {n : Nat} (h : n < 2 ^ 64) : word? (nat n) = some n :=
  nat?_nat h

theorem float32?_float32 {x : Float32} (h : x.isFinite) : float32? (float32 x) = some x := by
  obtain ⟨n, hn⟩ := Option.isSome_iff_exists.1 (Number.numeral32?_isSome_iff.2 h)
  unfold float32
  rw [hn]
  exact Number.toFloat32?_numeral32? h hn

/-- What is written of a number that is not finite is not read. -/
theorem isFinite_of_float32? {x y : Float32} (h : float32? (float32 x) = some y) : x.isFinite := by
  rw [← Number.numeral32?_isSome_iff]
  unfold float32 at h
  cases hn : Number.numeral32? x with
  | some n => rfl
  | none =>
    rw [hn] at h
    cases h

/-! ## Lists -/

/-- What is written item by item is read item by item. -/
theorem mapM_map_self {γ : Type} {write : α → γ} {read : γ → Option α} {xs : List α}
    (h : ∀ x ∈ xs, read (write x) = some x) : (xs.map write).mapM read = some xs := by
  rw [mapM_eq_some, List.forall₂_map_left_iff]
  exact List.forall₂_same.2 h

/-- Each item of a list that was read is read from some item. -/
theorem exists_of_mem_list? {read : Json → Option α} {j : Json} {ys : List α} (h : list? read j = some ys) {y : α}
    (hy : y ∈ ys) : ∃ j, read j = some y := by
  cases j with
  | array items =>
    obtain ⟨x, -, hx⟩ := exists_of_mem_forall₂ (mapM_eq_some.1 h) hy
    exact ⟨x, hx⟩
  | _ => cases h

/-- Of a list that is read back, each item is. -/
theorem exists_of_list?_map {write : α → Json} {read : Json → Option β} {xs : List α} {ys : List β}
    (h : list? read (.array (xs.map write)) = some ys) {x : α} (hx : x ∈ xs) : ∃ y, read (write x) = some y := by
  obtain ⟨y, -, hy⟩ := exists_of_mem_forall₂ (mapM_eq_some.1 h).flip (List.mem_map_of_mem hx)
  exact ⟨y, hy⟩

/-! ## Objects -/

theorem dictionary?_dictionary {write : α → Json} {read : Json → Option α} {d : Dictionary α}
    (h : ∀ e ∈ d.entries, read (write e.2) = some e.2) : dictionary? read (dictionary write d) = some d := by
  have hentries : (d.entries.map fun e => member e.1 (write e.2)).mapM
      (fun m => do return (← m.1, ← read m.2)) = some d.entries :=
    mapM_map_self fun e he => by simp [member, h e he]
  unfold dictionary? dictionary
  dsimp only
  rw [hentries]
  exact congrArg some d.ofList_entries

theorem keyed?_record (members : List (String × Json)) :
    keyed? (members.map fun m => member m.1 m.2) = some members := by
  unfold keyed?
  apply mapM_map_self
  intro m _
  rfl

/-- The fields of a record are its members. -/
theorem fields?_record (fields : List FieldNames) (members : List (String × Json)) :
    fields? fields (record members) = fields.mapM (memberOf? members) := by
  unfold fields? record
  dsimp only
  rw [keyed?_record]
  rfl

theorem memberOf?_append (members : List (String × Json)) {others : List (String × Json)} {names : FieldNames}
    (h : ∀ m ∈ others, m.1 ∉ names) : memberOf? (members ++ others) names = memberOf? members names := by
  have hnone : others.filter (fun m => names.contains m.1) = [] :=
    List.filter_eq_nil_iff.2 fun m hm => by simpa using h m hm
  unfold memberOf?
  rw [List.filter_append, hnone, List.append_nil]

/-- Members that are no fields are passed over. -/
theorem fields?_record_append {fields : List FieldNames} (members : List (String × Json))
    {others : List (String × Json)} (h : ∀ m ∈ others, ∀ names ∈ fields, m.1 ∉ names) :
    fields? fields (record (members ++ others)) = fields? fields (record members) := by
  rw [fields?_record, fields?_record]
  induction fields with
  | nil => rfl
  | cons names fields ih =>
    rw [List.mapM_cons, List.mapM_cons, ih fun m hm other hother => h m hm other (List.mem_cons_of_mem _ hother),
      memberOf?_append members fun m hm => h m hm names List.mem_cons_self]

end GroundedQA.Json
