import GroundedQA.Proofs.Index.File
import GroundedQA.Proofs.Index.Searches
/-!
# An index answers the same from its file

Every component of a vector comes back with the bits that it was saved with (`toFloat32?_numeral32?`), so a
loaded index holds the very records of the one that was saved, and each search finds the same records with
the same scores (`load_save_bits`).
-/

namespace GroundedQA.VectorIndex

open Storage

variable {σ τ : Type}

/-- What insertions have put into an index comes back with every bit of its vectors, so a loaded index
gives each vector the same answer, and each text too with the embedder of before. So it does from a file
that has the members of objects, such as metadata, in another order. -/
theorem load_save_bits {embedder : Embedder σ} {index : VectorIndex σ} (h : Inserted embedder index)
    (hword : embedder.dimensions < 2 ^ 64) (disk : Disk) (path : String) (id : Uuid)
    (hsave : (index.save disk path id).1 = .ok ()) :
    (∀ (τ : Type) (loader : Embedder τ), loader.dimensions = index.dimensions →
      ∃ loaded, load loader (index.save disk path id).2 path = .ok loaded ∧
        loaded.records.map (fun record => record.vector.map Float32.toBits) =
          index.records.map (fun record => record.vector.map Float32.toBits) ∧
        loaded.records = index.records ∧
        (∀ vector k s t,
          ((searchByVector vector k).run.run ⟨loaded, t⟩).1 = ((searchByVector vector k).run.run ⟨index, s⟩).1) ∧
        ∀ (other : Disk) (j : Json), index.toFile.toJson.Rearranges j → other.occupied path = .ok true →
          other.read path = .ok j.render.toUTF8 → load loader other path = .ok loaded) ∧
    ∃ loaded, load embedder (index.save disk path id).2 path = .ok loaded ∧
      ∀ query k s, (search query k).run.run ⟨loaded, s⟩ = (search query k).run.run ⟨index, s⟩ := by
  have hsound := h.sound
  constructor
  · intro τ loader hdim
    have hload := load_save_eq hsound hword hsave loader
    rw [if_pos hdim] at hload
    refine ⟨_, hload, rfl, rfl, fun vector k s t => ?_, fun other j hj hoccupied hread => ?_⟩
    · rw [searchByVector_run, searchByVector_run]
    · rw [load_rearranged hsave hj hoccupied hread, hload]
  · have hload := load_save_eq hsound hword hsave embedder
    rw [if_pos hsound.dimensions_eq.symm] at hload
    refine ⟨_, hload, fun query k s => ?_⟩
    rw [← hsound.embedder_eq]

/-- An index of one record, the components of which need many digits: a subnormal number, the largest
number, minus zero, and the number whose decimal lies closest to the end of its interval. -/
def extreme : VectorIndex Unit :=
  ((VectorIndex.insert (fun _ => ⟨7⟩) [⟨"text", "doc", 0, .empty⟩]).run.run
    ⟨.new (.oneByOne 4 fun _ => pure ([0x00000001, 0x7f7fffff, 0x80000000, 0x15ae43fd].map Float32.ofBits)), ()⟩).2.index

theorem load_save_bits_extreme :
    extreme.records.map (fun record => record.vector.map Float32.toBits) =
      [[0x00000001, 0x7f7fffff, 0x80000000, 0x15ae43fd]] ∧
    ∃ loaded, load extreme.embedder (extreme.save .empty "index.json" ⟨1⟩).2 "index.json" = .ok loaded ∧
      loaded.records.map (fun record => record.vector.map Float32.toBits) =
        extreme.records.map (fun record => record.vector.map Float32.toBits) := by
  have hsave : (extreme.save .empty "index.json" ⟨1⟩).1 = .ok () := save_iff.2 accepts_empty
  obtain ⟨hload, -⟩ := load_save_bits (.insert .new _ _ (by decide) ()) (by decide) .empty "index.json" ⟨1⟩ hsave
  obtain ⟨loaded, hok, hbits, -⟩ := hload Unit extreme.embedder rfl
  exact ⟨by decide +kernel, loaded, hok, hbits⟩

end GroundedQA.VectorIndex
