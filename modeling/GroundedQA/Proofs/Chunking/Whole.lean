import GroundedQA.Proofs.Chunking.Bounds
import GroundedQA.Proofs.Chunking.Separators
/-!
# Texts that are one chunk

A text whose ink fits into the chunk size is one chunk, unless it is cut before the end of its ink. That happens
only when white space behind the ink makes what is left longer than a window, and then a separator inside the ink
may end the chunk (`split_eq_whole_iff`), as it does in `not_split_eq_whole`.
-/

namespace GroundedQA.Chunking

open Text

variable {chunker : Chunker} {cs : List Char}

/-- A text without the white space at either end, as a span of it. -/
def whole (cs : List Char) : Span :=
  ⟨byteLength (cs.takeWhile isSpace), trim cs⟩

theorem isBlank_drop_iff {n : Nat} : isBlank (cs.drop n) ↔ inkEnd cs ≤ n := by
  rw [← Nat.not_lt, lt_inkEnd_iff, ← not_isBlank_drop, not_not]

/-! ## The first pass -/

/-- The pass at the first ink of a text. -/
def Pass.atInk (cs : List Char) : Pass :=
  ⟨byteLength (cs.takeWhile isSpace), trimStart cs, none⟩

theorem first?_eq_some (h : ¬isBlank cs) : Pass.first? cs = some (Pass.atInk cs) :=
  if_neg h

theorem Pass.next?_eq_none_iff {pass : Pass} : pass.next? chunker = none ↔ inkEnd pass.rest ≤ pass.cut chunker := by
  rw [← isBlank_drop_iff, Pass.next?]
  dsimp only
  split
  · next h => exact iff_of_true rfl h
  · next h => exact iff_of_false (by simp) h

/-- A course ends with its first pass exactly when there is no next one. -/
theorem Course.length_eq_one_iff {pass : Pass} {passes : List Pass} (h : Course chunker pass passes) :
    passes.length = 1 ↔ pass.next? chunker = none := by
  cases h with
  | last hnone => simp [hnone]
  | step hnext hrest => simp [hnext, hrest.ne_nil]

/-- A pass that takes all ink that is left has the trimmed rest for its span. -/
theorem Pass.span_of_inkEnd_le {pass : Pass} (h : inkEnd pass.rest ≤ pass.cut chunker) :
    pass.span chunker = ⟨pass.offset, trimEnd pass.rest⟩ := by
  have hblank : ∀ k, pass.cut chunker ≤ k → k < pass.rest.length → ¬InkAt pass.rest k := fun k hk _ hink => by
    have := hink.lt_inkEnd
    omega
  have hend := inkEnd_take_eq (pass.cut_le_length chunker) hblank
  rw [List.take_length] at hend
  rw [Pass.span, trimEnd_eq_take, List.take_take, ← hend, Nat.min_eq_left h, ← trimEnd_eq_take]

/-- A text that is not blank is one chunk exactly when its first pass takes all of its ink. -/
theorem split_eq_whole_of_cut {text : String} (h : ¬isBlank text.toList) :
    chunker.split text = [whole text.toList] ↔
      inkEnd (Pass.atInk text.toList).rest ≤ (Pass.atInk text.toList).cut chunker := by
  -- A course has its first pass as its only one just when this has none to follow it.
  have hcourse := course_passes chunker (first?_eq_some h)
  rw [split_eq_map, ← Pass.next?_eq_none_iff]
  generalize passes chunker text.toList = passes at hcourse ⊢
  constructor
  · intro heq
    rw [← hcourse.length_eq_one_iff]
    simpa using congrArg List.length heq
  · intro hnone
    cases hcourse with
    | last _ =>
      rw [List.map_singleton, Pass.span_of_inkEnd_le (Pass.next?_eq_none_iff.1 hnone)]
      rfl
    | step hnext _ => rw [hnone] at hnext; cases hnext

/-! ## Short texts -/

/-- The cut of a pass takes all ink up to `n` when that and the rest fit into the window, or the window is not cut
before it. -/
theorem Pass.le_cut_iff {pass : Pass} {n : Nat} (hn : n ≤ pass.rest.length) :
    n ≤ pass.cut chunker ↔
      n ≤ chunker.size ∧ (pass.rest.length ≤ chunker.size ∨
        ¬CutBefore (pass.rest.take chunker.size) (pass.leastCut chunker) n) := by
  unfold Pass.cut
  split
  · next hfits =>
    rw [List.isEmpty_iff, List.drop_eq_nil_iff] at hfits
    exact iff_of_true hn ⟨by omega, .inl hfits⟩
  · next hlong =>
    rw [List.isEmpty_iff, List.drop_eq_nil_iff] at hlong
    have hwindow : (pass.rest.take chunker.size).length = chunker.size := by
      rw [List.length_take]
      omega
    by_cases hsize : n ≤ chunker.size
    · rw [← Nat.not_lt, cutPoint_lt_iff (by omega)]
      simp [hlong, hsize]
    · refine iff_of_false (fun hle => ?_) fun h => hsize h.1
      rcases cutPoint_cases (pass.rest.take chunker.size) (pass.leastCut chunker) with ⟨-, hcut⟩ | hcut <;> omega

/-- A text is one chunk, all of it but the white space at its ends, exactly when it is not blank, this fits into the
chunk size, and either what stands from its first ink on is no longer than a window or the first window is not cut
before the last ink. -/
theorem split_eq_whole_iff (chunker : Chunker) (text : String) :
    chunker.split text = [whole text.toList] ↔
      ¬blank text ∧ (trim text.toList).length ≤ chunker.size ∧
        ((trimStart text.toList).length ≤ chunker.size ∨
          ¬CutBefore ((trimStart text.toList).take chunker.size)
            (leastCut chunker.overlap (trimStart text.toList) none) (trim text.toList).length) := by
  by_cases hblank : isBlank text.toList
  · refine iff_of_false (fun h => ?_) fun h => h.1 hblank
    rw [split_eq_nil_iff.2 hblank] at h
    cases h
  · rw [split_eq_whole_of_cut hblank, Pass.le_cut_iff (inkEnd_le _)]
    exact ⟨fun h => ⟨hblank, h⟩, And.right⟩

/-- Not every short text is one chunk: with a line break behind them, two words that fill a chunk are cut between
them. -/
theorem not_split_eq_whole :
    ¬∀ (chunker : Chunker) (text : String), ¬blank text → (trim text.toList).length ≤ chunker.size →
      chunker.split text = [whole text.toList] := by
  intro h
  have hsplit : (Chunker.mk 5 0 (by decide)).split "ab cd\n" = [⟨0, ['a', 'b']⟩, ⟨3, ['c', 'd']⟩] := by decide +kernel
  have := h (Chunker.mk 5 0 (by decide)) "ab cd\n" (by decide +kernel) (by decide +kernel)
  rw [hsplit] at this
  cases this

example : (Chunker.mk 6 0 (by decide)).split "ab cd\n" = [whole "ab cd\n".toList] := by decide +kernel

end GroundedQA.Chunking
