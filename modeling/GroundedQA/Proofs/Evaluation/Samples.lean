import GroundedQA.Format.Evaluation
import GroundedQA.Proofs.Evaluation.Violations
import GroundedQA.Proofs.Json.Readable
/-!
# Datasets read as they are written

A sample is written as a record that the checks of a dataset take for that sample, whether its contexts are there,
empty or missing (`Sample.isSample_toJson`). So a list of samples is read back from the dataset that is written of
it (`Dataset.parse_render`).
-/

namespace GroundedQA

open Json

namespace Sample

/-- What is written of a sample is nothing that a document could not hold. -/
theorem readable_toJson (sample : Sample) (room : ℕ) : sample.toJson.readable (room + 2) := by
  refine readable_record _ fun m hm => ?_
  rcases List.mem_append.1 hm with hm | hm
  · simp only [List.mem_cons, List.not_mem_nil, or_false] at hm
    rcases hm with rfl | rfl
    · exact readable_text ..
    · exact readable_text ..
  · obtain ⟨texts, -, rfl⟩ := Option.map_eq_some_iff.1 (Option.mem_toList.1 hm)
    exact readable_texts room texts

/-- What is written of a sample with a question and a reference answer makes that sample. -/
theorem isSample_toJson {sample : Sample} (hquestion : ¬Text.blank sample.question)
    (hgroundTruth : ¬Text.blank sample.groundTruth) : IsSample sample.toJson sample := by
  obtain ⟨question, groundTruth, contexts⟩ := sample
  cases contexts with
  | none => exact .intro rfl ⟨rfl, hquestion⟩ (.inl rfl) ⟨rfl, hgroundTruth⟩ .absent
  | some texts => exact .intro rfl ⟨rfl, hquestion⟩ (.inl rfl) ⟨rfl, hgroundTruth⟩ (.list texts)

end Sample

namespace Dataset

/-- The document of a list of samples. -/
def toJson (samples : List Sample) : Json :=
  .record [("samples", .array (samples.map Sample.toJson))]

theorem readable_toJson (samples : List Sample) : (toJson samples).readable maxDepth := by
  refine readable_record 126 fun m hm => ?_
  obtain rfl := List.mem_singleton.1 hm
  refine readable_array 125 fun item hitem => ?_
  obtain ⟨sample, -, rfl⟩ := List.mem_map.1 hitem
  exact sample.readable_toJson 123

theorem isDataset_toJson {samples : List Sample} (hne : samples ≠ [])
    (hfilled : ∀ sample ∈ samples, ¬Text.blank sample.question ∧ ¬Text.blank sample.groundTruth) :
    IsDataset (toJson samples) samples := by
  refine .intro rfl (by simpa using hne) ?_
  rw [List.forall₂_map_left_iff, List.forall₂_same]
  intro sample hsample
  exact Sample.isSample_toJson (hfilled sample hsample).1 (hfilled sample hsample).2

/-- Samples with a question and a reference answer each are read back from the dataset that is written of them. -/
theorem parse_render {samples : List Sample} (hne : samples ≠ [])
    (hfilled : ∀ sample ∈ samples, ¬Text.blank sample.question ∧ ¬Text.blank sample.groundTruth) :
    parse (toJson samples).render = .ok samples :=
  (parse_eq_ok (parse?_render _) (readable_toJson samples)).2 (isDataset_toJson hne hfilled)

/-- Samples without contexts, with an empty list of them, and with a blank one and one of control characters and
characters beyond the first plane. -/
def mixed : List Sample :=
  [⟨"Where?", "In \"Paris\".\n", none⟩, ⟨"Why?\x00", "\\", some []⟩, ⟨"𝔸?", "é", some ["", " ", "\x1f\x7f😀"]⟩]

theorem parse_render_mixed : mixed ≠ [] ∧ parse (toJson mixed).render = .ok mixed :=
  ⟨by decide, parse_render (by decide) (by decide +kernel)⟩

end Dataset

end GroundedQA
