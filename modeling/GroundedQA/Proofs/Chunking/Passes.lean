import GroundedQA.Proofs.Chunking.Boundaries
import GroundedQA.Proofs.Chunking.Slices
/-!
# One pass over a text

A pass that starts at ink of the text (`Pass.At`) takes some of it and gives a span, which is a slice
of the text (`Pass.At.isSlice_span`) and holds what ink the pass takes (`Pass.At.lt_reach`).
-/

namespace GroundedQA.Chunking

open Text

/-- The pass starts at position `start` of the text, where there is ink. -/
structure Pass.At (cs : List Char) (start : Nat) (pass : Pass) : Prop where
  rest : pass.rest = cs.drop start
  offset : pass.offset = byteLength (cs.take start)
  ink : InkAt cs start

/-- How many characters the span of a pass has. -/
def Pass.reach (pass : Pass) (chunker : Chunker) : Nat :=
  inkEnd (pass.rest.take (pass.cut chunker))

/-- The span that a pass which starts at ink gives. -/
def Pass.span (pass : Pass) (chunker : Chunker) : Span :=
  ⟨pass.offset, trimEnd (pass.rest.take (pass.cut chunker))⟩

/-! ## The cut of a pass -/

/-- A pass takes all that is left, when that fits; else it takes as much as it has to or its window. -/
theorem Pass.cut_cases (pass : Pass) (chunker : Chunker) :
    (pass.cut chunker = pass.rest.length ∧ pass.rest.length ≤ chunker.size) ∨
      chunker.size < pass.rest.length ∧
        (pass.leastCut chunker ≤ pass.cut chunker ∧ pass.cut chunker ≤ chunker.size ∨
          pass.cut chunker = chunker.size) := by
  unfold Pass.cut
  split
  · next h =>
    rw [List.isEmpty_iff, List.drop_eq_nil_iff] at h
    exact .inl ⟨rfl, h⟩
  · next h =>
    rw [List.isEmpty_iff, List.drop_eq_nil_iff] at h
    have hlen : (pass.rest.take chunker.size).length = chunker.size := by
      rw [List.length_take]
      omega
    refine .inr ⟨by omega, ?_⟩
    simpa [hlen] using cutPoint_cases (pass.rest.take chunker.size) (pass.leastCut chunker)

theorem Pass.cut_le_size (pass : Pass) (chunker : Chunker) : pass.cut chunker ≤ chunker.size := by
  rcases pass.cut_cases chunker with ⟨h, h'⟩ | ⟨-, ⟨-, h⟩ | h⟩ <;> omega

theorem Pass.cut_le_length (pass : Pass) (chunker : Chunker) : pass.cut chunker ≤ pass.rest.length := by
  rcases pass.cut_cases chunker with ⟨h, h'⟩ | ⟨h', ⟨-, h⟩ | h⟩ <;> omega

/-- A pass that leaves something takes more than the overlap. -/
theorem Pass.overlap_lt_cut {pass : Pass} {chunker : Chunker}
    (h : ¬ isBlank (pass.rest.drop (pass.cut chunker))) : chunker.overlap < pass.cut chunker := by
  have hlt := chunker.overlap_lt_size
  rcases pass.cut_cases chunker with ⟨hc, -⟩ | ⟨-, ⟨hc, -⟩ | hc⟩
  · simp [hc, isBlank] at h
  · have : chunker.overlap + 1 ≤ pass.leastCut chunker := by
      simp only [Pass.leastCut, Chunking.leastCut]
      omega
    omega
  · omega

theorem Pass.reach_le_cut (pass : Pass) (chunker : Chunker) : pass.reach chunker ≤ pass.cut chunker := by
  have := inkEnd_le (pass.rest.take (pass.cut chunker))
  rw [List.length_take] at this
  unfold Pass.reach
  omega

/-! ## A pass that starts at ink -/

namespace Pass.At

variable {cs : List Char} {start : Nat} {pass : Pass}

theorem inkAt_rest (h : pass.At cs start) {k : Nat} : InkAt pass.rest k ↔ InkAt cs (start + k) := by
  rw [h.rest, inkAt_drop]

theorem inkAt_rest_zero (h : pass.At cs start) : InkAt pass.rest 0 :=
  h.inkAt_rest.2 h.ink

theorem cut_pos (h : pass.At cs start) (chunker : Chunker) : 0 < pass.cut chunker := by
  have hlen := h.inkAt_rest_zero.lt
  have hsize := chunker.overlap_lt_size
  rcases pass.cut_cases chunker with ⟨hc, -⟩ | ⟨-, ⟨hc, -⟩ | hc⟩
  · omega
  · simp only [Pass.leastCut, Chunking.leastCut] at hc
    omega
  · omega

theorem inkAt_taken (h : pass.At cs start) (chunker : Chunker) :
    InkAt (pass.rest.take (pass.cut chunker)) 0 :=
  inkAt_take.2 ⟨h.cut_pos chunker, h.inkAt_rest_zero⟩

theorem reach_pos (h : pass.At cs start) (chunker : Chunker) : 0 < pass.reach chunker :=
  (h.inkAt_taken chunker).lt_inkEnd

/-- What ink the pass takes is in its span. -/
theorem lt_reach (h : pass.At cs start) (chunker : Chunker) {k : Nat} (hk : start ≤ k)
    (hcut : k < start + pass.cut chunker) (hink : InkAt cs k) : k < start + pass.reach chunker := by
  have hrest : InkAt pass.rest (k - start) := h.inkAt_rest.2 (by rwa [Nat.add_sub_cancel' hk])
  have := (inkAt_take.2 ⟨(by omega : k - start < pass.cut chunker), hrest⟩).lt_inkEnd
  unfold reach
  omega

/-- The span of a pass ends in ink. -/
theorem inkAt_reach (h : pass.At cs start) (chunker : Chunker) : InkAt cs (start + pass.reach chunker - 1) := by
  have hpos := h.reach_pos chunker
  have := (inkAt_take.1 (inkAt_inkEnd_sub_one hpos)).2
  rwa [h.inkAt_rest, ← Nat.add_sub_assoc (by exact hpos)] at this

theorem reach_le_length (h : pass.At cs start) (chunker : Chunker) :
    start + pass.reach chunker ≤ cs.length := by
  have := (h.inkAt_reach chunker).lt
  omega

/-- A pass without a next one leaves no ink. -/
theorem not_inkAt_of_next?_eq_none {chunker : Chunker} (h : pass.At cs start) (hnone : pass.next? chunker = none) {n : Nat}
    (hn : start + pass.reach chunker ≤ n) : ¬ InkAt cs n := by
  intro hink
  have hblank : isBlank (pass.rest.drop (pass.cut chunker)) := by
    by_contra hb
    simp [Pass.next?, hb] at hnone
  by_cases hcut : n < start + pass.cut chunker
  · have := h.lt_reach chunker (by omega) hcut hink
    omega
  · have hrest : InkAt pass.rest (n - start) := h.inkAt_rest.2 (by rwa [Nat.add_sub_cancel' (by omega)])
    exact not_isBlank_drop.2 ⟨n - start, by omega, hrest⟩ hblank

theorem span?_eq (h : pass.At cs start) (chunker : Chunker) : pass.span? chunker = some (pass.span chunker) := by
  have hblank : ¬ isBlank (pass.rest.take (pass.cut chunker)) :=
    not_isBlank_iff.2 ⟨0, h.inkAt_taken chunker⟩
  rw [Pass.span?, if_neg hblank, takeWhile_isSpace_of_inkAt (h.inkAt_taken chunker), trim,
    trimStart_of_inkAt (h.inkAt_taken chunker)]
  simp [Pass.span]

theorem isSlice_span (h : pass.At cs start) (chunker : Chunker) :
    (pass.span chunker).IsSlice cs start (start + pass.reach chunker) where
  first_le := Nat.le_add_right ..
  last_le := h.reach_le_length chunker
  offset := h.offset
  chars := by
    have hle : inkEnd (pass.rest.take (pass.cut chunker)) ≤ pass.cut chunker :=
      pass.reach_le_cut chunker
    rw [Pass.span, trimEnd_eq_take, List.take_take, Nat.min_eq_left hle, h.rest, List.drop_take,
      Nat.add_sub_cancel_left, reach, h.rest]

end Pass.At

end GroundedQA.Chunking
