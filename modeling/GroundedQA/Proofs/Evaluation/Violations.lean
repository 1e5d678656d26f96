import GroundedQA.Evaluation.Dataset
import GroundedQA.Proofs.Failure
import GroundedQA.Proofs.Json.Documents
import Mathlib.Data.Prod.Lex
/-!
# The first violation of a dataset

`IsDataset` says which documents hold which samples, and `Dataset.Violates` what is wrong with a document, each
fault for itself, whatever else is wrong. The faults stand in an order (`DatasetFault.rank`): those of the document,
then those of its samples by place, and for one sample by check. A document that can be read is taken as the samples
that it holds, or refused with the first of its faults (`parse_firstViolation`).
-/

namespace GroundedQA

open Json

/-! ## The layout -/

/-- A text that is more than white space. -/
def Json.IsFilled (value : Json) (text : String) : Prop :=
  value = .text text ∧ ¬Text.blank text

/-- The reference answer stands under its main key, and only without that under the other. -/
def Sample.HasGroundTruth (members : List (Option String × Json)) (value : Json) : Prop :=
  lookup? members "ground_truth" = some value ∨
    lookup? members "ground_truth" = none ∧ lookup? members "groundTruth" = some value

/-- The contexts are missing, null or a list of texts. -/
inductive Sample.HasContexts : Option Json → Option (List String) → Prop
  | absent : HasContexts none none
  | null : HasContexts (some .null) none
  | list (texts : List String) : HasContexts (some (.texts texts)) (some texts)

/-- The item of a list that makes a sample. -/
inductive IsSample : Json → Sample → Prop
  | intro {members : List (Option String × Json)} {question groundTruth : Json} {sample : Sample}
      (hquestion : lookup? members "question" = some question) (hasked : question.IsFilled sample.question)
      (hgroundTruth : Sample.HasGroundTruth members groundTruth) (hanswer : groundTruth.IsFilled sample.groundTruth)
      (hcontexts : Sample.HasContexts (lookup? members "contexts") sample.contexts) :
      IsSample (.object members) sample

/-- The document that makes a list of samples. -/
inductive IsDataset : Json → List Sample → Prop
  | intro {members : List (Option String × Json)} {items : List Json} {samples : List Sample}
      (hsamples : lookup? members "samples" = some (.array items)) (hne : items ≠ [])
      (hitems : List.Forall₂ IsSample items samples) : IsDataset (.object members) samples

/-! ## The faults -/

/-- What is wrong with a sample, one thing without regard to others. -/
inductive Sample.Violates : Json → SampleFault → Prop
  | notAnObject {item : Json} (h : ∀ members, item ≠ .object members) : Violates item .notAnObject
  | noQuestion {members : List (Option String × Json)} (h : lookup? members "question" = none) :
      Violates (.object members) .noQuestion
  | noGroundTruth {members : List (Option String × Json)} (h : ∀ value, ¬HasGroundTruth members value) :
      Violates (.object members) .noGroundTruth
  | blankQuestion {members : List (Option String × Json)} {value : Json} (h : lookup? members "question" = some value)
      (hblank : ∀ text, ¬value.IsFilled text) : Violates (.object members) .blankQuestion
  | blankGroundTruth {members : List (Option String × Json)} {value : Json} (h : HasGroundTruth members value)
      (hblank : ∀ text, ¬value.IsFilled text) : Violates (.object members) .blankGroundTruth
  | contextsNotAList {members : List (Option String × Json)} {value : Json} (h : lookup? members "contexts" = some value)
      (hnull : value ≠ .null) (hlist : ∀ items, value ≠ .array items) : Violates (.object members) .contextsNotAList
  | contextNotText {members : List (Option String × Json)} {items : List Json} {place : ℕ} {item : Json}
      (h : lookup? members "contexts" = some (.array items)) (hitem : items[place]? = some item)
      (htext : ∀ text, item ≠ .text text) : Violates (.object members) (.contextNotText place)

/-- What is wrong with a document, one thing without regard to others. -/
inductive Dataset.Violates : Json → DatasetFault → Prop
  | notAnObject {document : Json} (h : ∀ members, document ≠ .object members) : Violates document .notAnObject
  | noSamplesKey {members : List (Option String × Json)} (h : lookup? members "samples" = none) :
      Violates (.object members) .noSamplesKey
  | samplesNotAList {members : List (Option String × Json)} {value : Json} (h : lookup? members "samples" = some value)
      (hlist : ∀ items, value ≠ .array items) : Violates (.object members) .samplesNotAList
  | noItems {members : List (Option String × Json)} (h : lookup? members "samples" = some (.array [])) :
      Violates (.object members) .noItems
  | sample {members : List (Option String × Json)} {items : List Json} {place : ℕ} {item : Json} {fault : SampleFault}
      (h : lookup? members "samples" = some (.array items)) (hitem : items[place]? = some item)
      (hfault : Sample.Violates item fault) : Violates (.object members) (.sample place fault)

/-! ## Their order -/

/-- Where a fault stands among those of one sample: by check, and those of its contexts by place. -/
def SampleFault.rank : SampleFault → ℕ ×ₗ ℕ
  | .notAnObject => toLex (0, 0)
  | .noQuestion => toLex (1, 0)
  | .noGroundTruth => toLex (2, 0)
  | .blankQuestion => toLex (3, 0)
  | .blankGroundTruth => toLex (4, 0)
  | .contextsNotAList => toLex (5, 0)
  | .contextNotText place => toLex (6, place)

/-- Where a fault stands: those of the document first, then those of the samples by place. -/
def DatasetFault.rank : DatasetFault → ℕ ×ₗ ℕ ×ₗ ℕ ×ₗ ℕ
  | .notAnObject => toLex (0, toLex (0, toLex (0, 0)))
  | .noSamplesKey => toLex (1, toLex (0, toLex (0, 0)))
  | .samplesNotAList => toLex (2, toLex (0, toLex (0, 0)))
  | .noItems => toLex (3, toLex (0, toLex (0, 0)))
  | .sample place fault => toLex (4, toLex (place, fault.rank))

theorem SampleFault.rank_injective {a b : SampleFault} (h : a.rank = b.rank) : a = b := by
  cases a <;> cases b <;> simp_all [rank]

/-- No two faults stand at one place of the order. -/
theorem DatasetFault.rank_injective {a b : DatasetFault} (h : a.rank = b.rank) : a = b := by
  cases a <;> cases b <;> simp_all [rank]
  exact SampleFault.rank_injective h.2

/-- A document has a fault and none that comes before it. -/
structure Dataset.FirstViolation (document : Json) (fault : DatasetFault) : Prop where
  violates : Violates document fault
  le_of_violates : ∀ other, Violates document other → fault.rank ≤ other.rank

/-! ## One sample -/

theorem filledText?_eq_some {value : Json} {text : String} : filledText? value = some text ↔ value.IsFilled text := by
  unfold filledText? IsFilled
  cases value with
  | string s => cases s <;> simp [Json.text?, Json.text, Option.filter_eq_some_iff]
  | null | bool | number | array | object => simp [Json.text?, Json.text]

theorem filledText?_eq_none {value : Json} : filledText? value = none ↔ ∀ text, ¬value.IsFilled text := by
  simp only [Option.eq_none_iff_forall_ne_some, ne_eq, filledText?_eq_some]

namespace Sample

variable {item : Json} {members : List (Option String × Json)}

theorem groundTruthMember?_eq_some {value : Json} :
    groundTruthMember? members = some value ↔ HasGroundTruth members value := by
  rw [groundTruthMember?, Option.or_eq_some_iff]
  rfl

theorem groundTruthMember?_eq_none : groundTruthMember? members = none ↔ ∀ value, ¬HasGroundTruth members value := by
  simp only [Option.eq_none_iff_forall_ne_some, ne_eq, groundTruthMember?_eq_some]

theorem contextAt_eq_ok {place : ℕ} {text : String} : contextAt item place = .ok text ↔ item = .text text := by
  unfold contextAt
  cases item with
  | string s => cases s <;> simp [Json.text?, Json.text]
  | null | bool | number | array | object => simp [Json.text?, Json.text]

theorem contextAt_eq_error {place : ℕ} {fault : SampleFault} :
    contextAt item place = .error fault ↔ (∀ text, item ≠ .text text) ∧ fault = .contextNotText place := by
  unfold contextAt
  cases item with
  | string s => cases s <;> simp [Json.text?, Json.text, eq_comm]
  | null | bool | number | array | object => simp [Json.text?, Json.text, eq_comm]

theorem contextsOf_array (items : List Json) :
    contextsOf (some (.array items)) =
      (items.zipIdx.mapM fun entry => contextAt entry.1 entry.2).map some := by
  show (items.zipIdx.mapM fun entry => contextAt entry.1 entry.2) >>= _ = _
  cases items.zipIdx.mapM fun entry => contextAt entry.1 entry.2 <;> rfl

/-- A list of texts is read as those texts, and no other list is. -/
theorem mapM_contextAt_eq_ok {items : List Json} {texts : List String} :
    (items.zipIdx.mapM fun entry => contextAt entry.1 entry.2) = .ok texts ↔ items = texts.map .text := by
  rw [mapM_zipIdx_eq_ok (R := fun item text => item = .text text) (fun _ _ _ => contextAt_eq_ok) 0,
    ← List.forall₂_map_right_iff, List.forall₂_eq_eq_eq]

theorem contextsOf_eq_ok {value : Option Json} {contexts : Option (List String)} :
    contextsOf value = .ok contexts ↔ HasContexts value contexts := by
  constructor
  · intro h
    rcases value with _ | value
    · cases h
      exact .absent
    cases value with
    | null =>
      cases h
      exact .null
    | array items =>
      rw [contextsOf_array] at h
      cases hitems : items.zipIdx.mapM fun entry => contextAt entry.1 entry.2 with
      | error fault =>
        rw [hitems] at h
        cases h
      | ok texts =>
        rw [hitems] at h
        cases h
        obtain rfl := mapM_contextAt_eq_ok.1 hitems
        exact .list texts
    | bool | number | string | object => cases h
  · rintro (_ | _ | texts)
    · rfl
    · rfl
    · rw [Json.texts, contextsOf_array, mapM_contextAt_eq_ok.2 rfl]
      rfl

/-- What is reported of the contexts is wrong with them. -/
theorem violates_of_contextsOf {fault : SampleFault} (h : contextsOf (lookup? members "contexts") = .error fault) :
    Violates (.object members) fault := by
  cases hvalue : lookup? members "contexts" with
  | none =>
    rw [hvalue] at h
    cases h
  | some value =>
    rw [hvalue] at h
    cases value with
    | null => cases h
    | array items =>
      rw [contextsOf_array] at h
      cases hitems : items.zipIdx.mapM fun entry => contextAt entry.1 entry.2 with
      | ok texts =>
        rw [hitems] at h
        cases h
      | error fault' =>
        rw [hitems] at h
        cases h
        obtain ⟨place, item, hitem, hfault⟩ := of_mapM_zipIdx_eq_error hitems
        obtain ⟨htext, rfl⟩ := contextAt_eq_error.1 hfault
        rw [Nat.zero_add]
        exact .contextNotText hvalue hitem htext
    | bool | number | string | object =>
      cases h
      exact .contextsNotAList hvalue (by simp) (by simp)

/-- A context that is no text is reported, unless an earlier one is. -/
theorem contextsOf_stops {items : List Json} {place : ℕ} (hitem : items[place]? = some item)
    (htext : ∀ text, item ≠ .text text) :
    ∃ first ≤ place, contextsOf (some (.array items)) = .error (.contextNotText first) := by
  have hfault : contextAt item (0 + place) = .error (.contextNotText (0 + place)) := contextAt_eq_error.2 ⟨htext, rfl⟩
  obtain ⟨first, other, fault, hle, -, hother, hmap⟩ :=
    mapM_zipIdx_stops (f := fun entry => contextAt entry.1 entry.2) hitem hfault
  obtain ⟨-, rfl⟩ := contextAt_eq_error.1 hother
  refine ⟨first, by omega, ?_⟩
  rw [contextsOf_array, hmap, Nat.zero_add]
  rfl

theorem ofDataset_object (members : List (Option String × Json)) :
    ofDataset (.object members) =
      match lookup? members "question" with
      | none => .error .noQuestion
      | some question =>
        match groundTruthMember? members with
        | none => .error .noGroundTruth
        | some groundTruth =>
          match filledText? question with
          | none => .error .blankQuestion
          | some question =>
            match filledText? groundTruth with
            | none => .error .blankGroundTruth
            | some groundTruth =>
              (contextsOf (lookup? members "contexts")).map fun contexts => ⟨question, groundTruth, contexts⟩ := by
  rw [ofDataset]
  cases lookup? members "question" with
  | none => rfl
  | some question =>
    cases groundTruthMember? members with
    | none => rfl
    | some groundTruth =>
      dsimp only
      cases filledText? question with
      | none => rfl
      | some question =>
        cases filledText? groundTruth with
        | none => rfl
        | some groundTruth => cases contextsOf (lookup? members "contexts") <;> rfl

theorem ofDataset_of_ne_object (h : ∀ members, item ≠ .object members) : ofDataset item = .error .notAnObject := by
  cases item with
  | object members => exact absurd rfl (h members)
  | null | bool | number | string | array => rfl

theorem ofDataset_eq_ok {sample : Sample} : ofDataset item = .ok sample ↔ IsSample item sample := by
  constructor
  · intro h
    cases item with
    | object members =>
      rw [ofDataset_object] at h
      cases hquestion : lookup? members "question" with
      | none => simp [hquestion] at h
      | some question =>
      cases hgroundTruth : groundTruthMember? members with
      | none => simp [hquestion, hgroundTruth] at h
      | some groundTruth =>
      cases hasked : filledText? question with
      | none => simp [hquestion, hgroundTruth, hasked] at h
      | some asked =>
      cases hanswer : filledText? groundTruth with
      | none => simp [hquestion, hgroundTruth, hasked, hanswer] at h
      | some answer =>
      cases hcontexts : contextsOf (lookup? members "contexts") with
      | error fault => simp [hquestion, hgroundTruth, hasked, hanswer, hcontexts, Except.map] at h
      | ok contexts =>
        simp only [hquestion, hgroundTruth, hasked, hanswer, hcontexts, Except.map, Except.ok.injEq] at h
        subst h
        exact .intro hquestion (filledText?_eq_some.1 hasked) (groundTruthMember?_eq_some.1 hgroundTruth)
          (filledText?_eq_some.1 hanswer) (contextsOf_eq_ok.1 hcontexts)
    | null | bool | number | string | array => cases h
  · rintro ⟨hquestion, hasked, hgroundTruth, hanswer, hcontexts⟩
    simp only [ofDataset_object, hquestion, groundTruthMember?_eq_some.2 hgroundTruth, filledText?_eq_some.2 hasked,
      filledText?_eq_some.2 hanswer, contextsOf_eq_ok.2 hcontexts, Except.map]

/-- What is reported of a sample is wrong with it. -/
theorem violates_of_ofDataset {fault : SampleFault} (h : ofDataset item = .error fault) : Violates item fault := by
  cases item with
  | object members =>
    rw [ofDataset_object] at h
    split at h
    next hquestion =>
      cases h
      exact .noQuestion hquestion
    next question hquestion =>
    split at h
    next hgroundTruth =>
      cases h
      exact .noGroundTruth (groundTruthMember?_eq_none.1 hgroundTruth)
    next groundTruth hgroundTruth =>
    split at h
    next hasked =>
      cases h
      exact .blankQuestion hquestion (filledText?_eq_none.1 hasked)
    next asked hasked =>
    split at h
    next hanswer =>
      cases h
      exact .blankGroundTruth (groundTruthMember?_eq_some.1 hgroundTruth) (filledText?_eq_none.1 hanswer)
    next answer hanswer =>
      cases hcontexts : contextsOf (lookup? members "contexts") with
      | ok contexts => simp [hcontexts, Except.map] at h
      | error fault' =>
        simp only [hcontexts, Except.map, Except.error.injEq] at h
        subst h
        exact violates_of_contextsOf hcontexts
  | null | bool | number | string | array =>
    cases h
    exact .notAnObject (by simp)

/-- What is wrong with the contexts is reported, unless it is something that is checked before them. -/
theorem ofDataset_of_contextsOf {fault : SampleFault} (h : contextsOf (lookup? members "contexts") = .error fault) :
    ofDataset (.object members) = .error fault ∨
      ∃ first, ofDataset (.object members) = .error first ∧ first.rank < SampleFault.contextsNotAList.rank := by
  rw [ofDataset_object, h]
  split
  · exact .inr ⟨_, rfl, by decide⟩
  split
  · exact .inr ⟨_, rfl, by decide⟩
  split
  · exact .inr ⟨_, rfl, by decide⟩
  split
  · exact .inr ⟨_, rfl, by decide⟩
  · exact .inl rfl

/-- What is wrong with a sample is reported, or something that comes before it. -/
theorem ofDataset_stops {fault : SampleFault} (h : Violates item fault) :
    ∃ first, ofDataset item = .error first ∧ first.rank ≤ fault.rank := by
  cases h with
  | notAnObject h => exact ⟨.notAnObject, ofDataset_of_ne_object h, le_refl _⟩
  | noQuestion h => exact ⟨.noQuestion, by simp only [ofDataset_object, h], le_refl _⟩
  | @noGroundTruth members h =>
    have hnone := groundTruthMember?_eq_none.2 h
    rw [ofDataset_object]
    split
    · exact ⟨_, rfl, by decide⟩
    · exact ⟨.noGroundTruth, by simp only [hnone], le_refl _⟩
  | @blankQuestion members value h hblank =>
    have hnone := filledText?_eq_none.2 hblank
    simp only [ofDataset_object, h]
    split
    · exact ⟨_, rfl, by decide⟩
    · exact ⟨.blankQuestion, by simp only [hnone], le_refl _⟩
  | @blankGroundTruth members value h hblank =>
    have hnone := filledText?_eq_none.2 hblank
    simp only [ofDataset_object, groundTruthMember?_eq_some.2 h]
    split
    · exact ⟨_, rfl, by decide⟩
    split
    · exact ⟨_, rfl, by decide⟩
    · exact ⟨.blankGroundTruth, by simp only [hnone], le_refl _⟩
  | @contextsNotAList members value h hnull hlist =>
    have hcontexts : contextsOf (some value) = .error .contextsNotAList := by
      cases value with
      | null => exact absurd rfl hnull
      | array items => exact absurd rfl (hlist items)
      | bool | number | string | object => rfl
    rw [← h] at hcontexts
    rcases ofDataset_of_contextsOf hcontexts with hfault | ⟨first, hfirst, hlt⟩
    · exact ⟨_, hfault, le_refl _⟩
    · exact ⟨first, hfirst, hlt.le⟩
  | @contextNotText members items place item h hitem htext =>
    obtain ⟨place', hle, hcontexts⟩ := contextsOf_stops hitem htext
    rw [← h] at hcontexts
    rcases ofDataset_of_contextsOf hcontexts with hfault | ⟨first, hfirst, hlt⟩
    · exact ⟨_, hfault, Prod.Lex.toLex_le_toLex.2 (.inr ⟨rfl, hle⟩)⟩
    · exact ⟨first, hfirst, hlt.le.trans (Prod.Lex.toLex_le_toLex.2 (.inl (Nat.lt_succ_self 5)))⟩

end Sample

namespace Dataset

variable {document : Json} {members : List (Option String × Json)}

/-! ## A document -/

theorem sampleAt_eq_ok {item : Json} {place : ℕ} {sample : Sample} :
    sampleAt item place = .ok sample ↔ IsSample item sample := by
  rw [sampleAt, mapError_eq_ok, Sample.ofDataset_eq_ok]

theorem sampleAt_eq_error {item : Json} {place : ℕ} {fault : DatasetFault} :
    sampleAt item place = .error fault ↔ ∃ cause, Sample.ofDataset item = .error cause ∧ fault = .sample place cause :=
  mapError_eq_error

theorem samplesOf_array {items : List Json} (h : lookup? members "samples" = some (.array items)) (hne : items ≠ []) :
    samplesOf (.object members) = items.zipIdx.mapM fun entry => sampleAt entry.1 entry.2 := by
  rw [samplesOf, h]
  cases items with
  | nil => exact absurd rfl hne
  | cons item items => rfl

theorem samplesOf_eq_ok {samples : List Sample} : samplesOf document = .ok samples ↔ IsDataset document samples := by
  constructor
  · intro h
    cases document with
    | object members =>
      cases hsamples : lookup? members "samples" with
      | none => simp [samplesOf, hsamples] at h
      | some value =>
        cases value with
        | array items =>
          cases items with
          | nil => simp [samplesOf, hsamples] at h
          | cons item items =>
            rw [samplesOf_array hsamples (by simp), mapM_zipIdx_eq_ok (fun _ _ _ => sampleAt_eq_ok) 0] at h
            exact .intro hsamples (by simp) h
        | null | bool | number | string | object => simp [samplesOf, hsamples] at h
    | null | bool | number | string | array => cases h
  · rintro ⟨hsamples, hne, hitems⟩
    rw [samplesOf_array hsamples hne]
    exact (mapM_zipIdx_eq_ok (fun _ _ _ => sampleAt_eq_ok) 0).2 hitems

/-- What is reported of a document is wrong with it. -/
theorem violates_of_samplesOf {fault : DatasetFault} (h : samplesOf document = .error fault) :
    Violates document fault := by
  cases document with
  | object members =>
    cases hsamples : lookup? members "samples" with
    | none =>
      simp only [samplesOf, hsamples, Except.error.injEq] at h
      subst h
      exact .noSamplesKey hsamples
    | some value =>
      cases value with
      | array items =>
        cases items with
        | nil =>
          simp only [samplesOf, hsamples, Except.error.injEq] at h
          subst h
          exact .noItems hsamples
        | cons item items =>
          rw [samplesOf_array hsamples (by simp)] at h
          obtain ⟨place, item, hitem, hfault⟩ := of_mapM_zipIdx_eq_error h
          obtain ⟨cause, hcause, rfl⟩ := sampleAt_eq_error.1 hfault
          rw [Nat.zero_add]
          exact .sample hsamples hitem (Sample.violates_of_ofDataset hcause)
      | null | bool | number | string | object =>
        simp only [samplesOf, hsamples, Except.error.injEq] at h
        subst h
        exact .samplesNotAList hsamples (by simp)
  | null | bool | number | string | array =>
    cases h
    exact .notAnObject (by simp)

/-- What is wrong with a document is reported, or something that comes before it. -/
theorem samplesOf_stops {fault : DatasetFault} (h : Violates document fault) :
    ∃ first, samplesOf document = .error first ∧ first.rank ≤ fault.rank := by
  cases h with
  | notAnObject h =>
    refine ⟨.notAnObject, ?_, le_refl _⟩
    cases document with
    | object members => exact absurd rfl (h members)
    | null | bool | number | string | array => rfl
  | noSamplesKey h => exact ⟨.noSamplesKey, by simp only [samplesOf, h], le_refl _⟩
  | @samplesNotAList members value h hlist =>
    refine ⟨.samplesNotAList, ?_, le_refl _⟩
    cases value with
    | array items => exact absurd rfl (hlist items)
    | null | bool | number | string | object => simp only [samplesOf, h]
  | noItems h => exact ⟨.noItems, by simp only [samplesOf, h], le_refl _⟩
  | @sample members items place item fault h hitem hfault =>
    obtain ⟨first, hfirst, hle⟩ := Sample.ofDataset_stops hfault
    have hne : items ≠ [] := by
      rintro rfl
      simp at hitem
    obtain ⟨j, other, fault', hj, -, hother, hmap⟩ :=
      mapM_zipIdx_stops (f := fun entry => sampleAt entry.1 entry.2) (n := 0) hitem
        (sampleAt_eq_error.2 ⟨first, hfirst, rfl⟩)
    refine ⟨fault', by rw [samplesOf_array h hne, hmap], ?_⟩
    -- An earlier sample comes first whatever is wrong with it; the same sample is at its first fault.
    rcases hj with hlt | ⟨rfl, rfl⟩
    · obtain ⟨cause, -, rfl⟩ := sampleAt_eq_error.1 hother
      exact Prod.Lex.toLex_le_toLex.2 (.inr ⟨rfl, Prod.Lex.toLex_le_toLex.2 (.inl (by simpa using hlt))⟩)
    · rw [Nat.zero_add]
      exact Prod.Lex.toLex_le_toLex.2 (.inr ⟨rfl, Prod.Lex.toLex_le_toLex.2 (.inr ⟨rfl, hle⟩)⟩)

/-- The fault that is reported is the first one. -/
theorem samplesOf_eq_error {fault : DatasetFault} :
    samplesOf document = .error fault ↔ FirstViolation document fault := by
  constructor
  · intro h
    refine ⟨violates_of_samplesOf h, fun other hother => ?_⟩
    obtain ⟨first, hfirst, hle⟩ := samplesOf_stops hother
    rw [h] at hfirst
    cases hfirst
    exact hle
  · intro h
    obtain ⟨first, hfirst, hle⟩ := samplesOf_stops h.violates
    have hge := h.le_of_violates first (violates_of_samplesOf hfirst)
    rw [hfirst, DatasetFault.rank_injective (le_antisymm hle hge)]

/-! ## Changes after the first violation -/

/-- Two documents have the same faults up to the place of one in the order. -/
def AgreeUpTo (fault : DatasetFault) (document other : Json) : Prop :=
  ∀ earlier : DatasetFault, earlier.rank ≤ fault.rank → (Violates document earlier ↔ Violates other earlier)

theorem FirstViolation.of_agreeUpTo {fault : DatasetFault} {other : Json} (h : FirstViolation document fault)
    (hagree : AgreeUpTo fault document other) : FirstViolation other fault where
  violates := (hagree fault (le_refl _)).1 h.violates
  le_of_violates f hf := by
    rcases le_total f.rank fault.rank with hle | hle
    · exact h.le_of_violates f ((hagree f hle).2 hf)
    · exact hle

theorem Violates.of_same_start {members' : List (Option String × Json)} {start rest rest' : List Json} {last : Json}
    (h : lookup? members "samples" = some (.array (start ++ last :: rest)))
    (h' : lookup? members' "samples" = some (.array (start ++ last :: rest'))) {fault : SampleFault}
    {earlier : DatasetFault} (hle : earlier.rank ≤ (DatasetFault.sample start.length fault).rank)
    (hviolates : Violates (.object members) earlier) : Violates (.object members') earlier := by
  cases hviolates with
  | notAnObject hne => exact absurd rfl (hne members)
  | noSamplesKey hnone => simp [h] at hnone
  | samplesNotAList hvalue hlist =>
    rw [h] at hvalue
    cases hvalue
    exact absurd rfl (hlist _)
  | noItems hnil => simp [h] at hnil
  | @sample _ items place item cause hitems hitem hcause =>
    rw [h] at hitems
    cases hitems
    have hplace : place < (start ++ [last]).length := by
      have hle' := (Prod.Lex.toLex_le_toLex.1 hle).resolve_left (lt_irrefl 4)
      rw [List.length_append, List.length_singleton, Nat.lt_succ_iff]
      rcases Prod.Lex.toLex_le_toLex.1 hle'.2 with hlt | ⟨heq, -⟩
      · exact hlt.le
      · exact heq.le
    refine .sample h' ?_ hcause
    rw [← hitem, List.append_cons, List.append_cons start last rest, List.getElem?_append_left hplace,
      List.getElem?_append_left hplace]

/-- What follows a sample has no part in the faults up to those of the sample. -/
theorem agreeUpTo_of_same_start {members' : List (Option String × Json)} (start : List Json) {rest rest' : List Json}
    {last : Json}
    (h : lookup? members "samples" = some (.array (start ++ last :: rest)))
    (h' : lookup? members' "samples" = some (.array (start ++ last :: rest'))) (fault : SampleFault) :
    AgreeUpTo (.sample start.length fault) (.object members) (.object members') :=
  fun _ hle => ⟨Violates.of_same_start h h' hle, Violates.of_same_start h' h hle⟩

/-! ## Texts -/

theorem parse_of_readable {text : String} (hparse : Json.parse? text = some document)
    (hreadable : document.readable maxDepth = true) : parse text = (samplesOf document).mapError .schema := by
  rw [parse, hparse, Option.filter_some, if_pos hreadable]

theorem parse_of_unreadable {text : String} (hparse : Json.parse? text = some document)
    (hunreadable : document.readable maxDepth = false) :
    parse text = .error (.datasetUnreadable "not a readable JSON document") := by
  rw [parse, hparse, Option.filter_some, if_neg (by simp [hunreadable])]

theorem parse_eq_ok {text : String} {samples : List Sample} (hparse : Json.parse? text = some document)
    (hreadable : document.readable maxDepth = true) : parse text = .ok samples ↔ IsDataset document samples := by
  rw [parse_of_readable hparse hreadable, mapError_eq_ok, samplesOf_eq_ok]

theorem parse_eq_error {text : String} {error : EvaluationError} (hparse : Json.parse? text = some document)
    (hreadable : document.readable maxDepth = true) :
    parse text = .error error ↔ ∃ fault, FirstViolation document fault ∧ error = .schema fault := by
  simp only [parse_of_readable hparse hreadable, mapError_eq_error, samplesOf_eq_error]

/-- A document that can be read is taken as the samples that it holds, or refused with the first of its faults,
so that what comes after the first fault makes no difference. A document that cannot be read is refused as such. -/
theorem parse_firstViolation {text : String} {document : Json} (hparse : Json.parse? text = some document) :
    (document.readable maxDepth = true →
      (∀ samples, parse text = .ok samples ↔ IsDataset document samples) ∧
      (∀ error, parse text = .error error ↔ ∃ fault, FirstViolation document fault ∧ error = .schema fault) ∧
      ∀ fault, parse text = .error (.schema fault) → ∀ text' document', Json.parse? text' = some document' →
        document'.readable maxDepth = true → AgreeUpTo fault document document' →
        parse text' = .error (.schema fault)) ∧
    (document.readable maxDepth = false → parse text = .error (.datasetUnreadable "not a readable JSON document")) := by
  refine ⟨fun hreadable => ⟨fun samples => parse_eq_ok hparse hreadable, fun error => parse_eq_error hparse hreadable,
    ?_⟩, parse_of_unreadable hparse⟩
  intro fault herror text' document' hparse' hreadable' hagree
  obtain ⟨first, hfirst, heq⟩ := (parse_eq_error hparse hreadable).1 herror
  cases heq
  exact (parse_eq_error hparse' hreadable').2 ⟨fault, hfirst.of_agreeUpTo hagree, rfl⟩

/-- A dataset of one good sample, one without a reference answer and with a blank question, and the given rest. -/
def lacking (rest : List Json) : Json :=
  .record [("samples", .array ([.record [("question", .text "ok"), ("ground_truth", .text "ok")],
    .record [("question", .text "")]] ++ rest))]

theorem parse_firstViolation_lacking :
    Json.parse? (lacking [.nat 3]).render = some (lacking [.nat 3]) ∧ (lacking [.nat 3]).readable maxDepth = true ∧
      parse (lacking [.nat 3]).render = .error (.schema (.sample 1 .noGroundTruth)) ∧
      parse (lacking []).render = .error (.schema (.sample 1 .noGroundTruth)) := by
  have hparse := parse?_render (lacking [.nat 3])
  have hreadable : (lacking [.nat 3]).readable maxDepth = true := by decide +kernel
  obtain ⟨-, herror, hsame⟩ := (parse_firstViolation hparse).1 hreadable
  have hfirst : FirstViolation (lacking [.nat 3]) (.sample 1 .noGroundTruth) := samplesOf_eq_error.1 rfl
  have hfault := (herror _).2 ⟨_, hfirst, rfl⟩
  refine ⟨hparse, hreadable, hfault, hsame _ hfault _ _ (parse?_render (lacking [])) (by decide +kernel) ?_⟩
  exact agreeUpTo_of_same_start [_] rfl rfl _

/-! ## Documents that cannot be read -/

/-- A dataset of one sample with a member beside, which is a number that binary64 does not reach. -/
def overflowing : Json :=
  .record [("samples", .array [.record [("question", .text "q"), ("ground_truth", .text "a"),
    ("note", .number ⟨false, 1, [], some 999⟩)]])]

/-- A document with the layout of a dataset is refused, for a number that no field is read from. -/
theorem parse_overflowing :
    overflowing.render = "\x7b\"samples\":[\x7b\"question\":\"q\",\"ground_truth\":\"a\",\"note\":1e999\x7d]\x7d" ∧
      Json.parse? overflowing.render = some overflowing ∧ IsDataset overflowing [⟨"q", "a", none⟩] ∧
      parse overflowing.render = .error (.datasetUnreadable "not a readable JSON document") := by
  have hparse := parse?_render overflowing
  exact ⟨by decide +kernel, hparse, samplesOf_eq_ok.1 rfl, parse_of_unreadable hparse (by decide +kernel)⟩

end Dataset

end GroundedQA
