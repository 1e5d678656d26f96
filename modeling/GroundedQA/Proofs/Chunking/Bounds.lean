import GroundedQA.Proofs.Chunking.Offsets
/-!
# Bounds of chunks and of chunking

What any caller may rely on, whatever the text is: the sizes that spans keep, the order in which they come, and
that the offsets they are found by are good ones (`split_bounds`).
-/

namespace GroundedQA.Chunking

open Text

variable {chunker : Chunker} {text : String}

/-! ## The sizes -/

/-- A chunker has the sizes it was made of. -/
theorem make_eq_ok {size overlap : Nat} (h : Chunker.make size overlap = .ok chunker) :
    chunker.size = size ∧ chunker.overlap = overlap := by
  unfold Chunker.make at h
  split at h
  · cases h
  · obtain rfl := Except.ok.inj h
    exact ⟨rfl, rfl⟩

/-! ## The spans -/

/-- The span of a pass is a slice of the text that begins and ends in ink. -/
theorem Pass.At.inkAt_span {cs : List Char} {start : Nat} {pass : Pass} (h : pass.At cs start) (chunker : Chunker) :
    InkAt (pass.span chunker).chars 0 ∧ InkAt (pass.span chunker).chars ((pass.span chunker).chars.length - 1) := by
  have hpos := h.reach_pos chunker
  have hslice := h.isSlice_span chunker
  have hlength : (pass.span chunker).chars.length = pass.reach chunker := by
    rw [hslice.length_chars, Nat.add_sub_cancel_left]
  have hinside {k : Nat} (hk : k < pass.reach chunker) (hink : InkAt cs (start + k)) : InkAt (pass.span chunker).chars k := by
    rw [hslice.chars, inkAt_drop, inkAt_take]
    exact ⟨Nat.add_lt_add_left hk start, hink⟩
  refine ⟨hinside hpos h.ink, ?_⟩
  rw [hlength]
  refine hinside (Nat.sub_lt hpos Nat.one_pos) ?_
  rw [← Nat.add_sub_assoc hpos]
  exact h.inkAt_reach chunker

theorem Pass.At.length_span_le {cs : List Char} {start : Nat} {pass : Pass} (h : pass.At cs start) :
    (pass.span chunker).chars.length ≤ chunker.size := by
  rw [(h.isSlice_span chunker).length_chars, Nat.add_sub_cancel_left]
  exact Nat.le_trans (pass.reach_le_cut chunker) (pass.cut_le_size chunker)

theorem exists_passAt_of_mem_split {span : Span} (h : span ∈ chunker.split text) :
    ∃ (pass : Pass) (start : Nat), pass.At text.toList start ∧ pass.span chunker = span := by
  rw [split_eq_map] at h
  obtain ⟨pass, hpass, rfl⟩ := List.mem_map.1 h
  obtain ⟨start, hat⟩ := exists_passAt hpass
  exact ⟨pass, start, hat, rfl⟩

/-- Of any two spans the earlier one begins before the later one, and does not end after it. -/
theorem pairwise_split (chunker : Chunker) (text : String) :
    (chunker.split text).Pairwise fun a b => a.offset < b.offset ∧ a.stop ≤ b.stop := by
  let Before (a b : Span) : Prop := a.offset < b.offset ∧ a.stop ≤ b.stop
  have htrans : Trans Before Before Before :=
    ⟨fun hab hbc => ⟨Nat.lt_trans hab.1 hbc.1, Nat.le_trans hab.2 hbc.2⟩⟩
  refine List.isChain_iff_pairwise.1 (isChain_split fun start s pass next h => ?_)
  have hpass := h.passAt.isSlice_span chunker
  have hnext := h.nextAt.isSlice_span chunker
  have hpos := h.startsWell.pos
  refine ⟨?_, ?_⟩
  · rw [hpass.offset, hnext.offset, byteLength_take_lt_iff h.nextAt.ink.lt.le]
    omega
  · rw [hpass.stop, hnext.stop]
    exact byteLength_take_le _ h.reach_le_reach

theorem Course.ne_nil {pass : Pass} {passes : List Pass} (h : Course chunker pass passes) : passes ≠ [] := by
  cases h <;> simp

theorem split_eq_nil_iff : chunker.split text = [] ↔ isBlank text.toList := by
  rw [split_eq_map, List.map_eq_nil_iff]
  rcases passes_cases chunker text.toList with ⟨hblank, hnil⟩ | ⟨pass, hat, hcourse⟩
  · exact iff_of_true hnil hblank
  · exact iff_of_false hcourse.ne_nil (not_isBlank_iff.2 ⟨_, hat.ink⟩)

/-- With any sizes of 64 bits that fit together, one more than the overlap is such a size too; going over a text
by byte offsets never takes a slice that is not there, and no more passes than the text has ink. The spans begin
and end in ink and are not too long; one that comes later begins later and ends no earlier. There is none exactly
when the text is blank. -/
theorem split_bounds {size overlap : UInt64} (h : Chunker.make size.toNat overlap.toNat = .ok chunker) (text : String) :
    (overlap + 1).toNat = overlap.toNat + 1 ∧
    splitBytes? size overlap text.toList (ink text.toList).length = some (chunker.split text) ∧
    (∀ span ∈ chunker.split text, span.chars ≠ [] ∧ span.chars.length ≤ size.toNat ∧
      InkAt span.chars 0 ∧ InkAt span.chars (span.chars.length - 1)) ∧
    (chunker.split text).Pairwise (fun a b => a.offset < b.offset ∧ a.stop ≤ b.stop) ∧
    (chunker.split text = [] ↔ isBlank text.toList) := by
  obtain ⟨hsize, hoverlap⟩ := make_eq_ok h
  refine ⟨toNat_overlap_succ hsize hoverlap, splitBytes?_eq hsize hoverlap text (Nat.le_refl _), fun span hspan => ?_,
    pairwise_split chunker text, split_eq_nil_iff⟩
  obtain ⟨pass, start, hat, rfl⟩ := exists_passAt_of_mem_split hspan
  obtain ⟨hfirst, hlast⟩ := hat.inkAt_span chunker
  exact ⟨List.ne_nil_of_length_pos hfirst.lt, hsize ▸ hat.length_span_le, hfirst, hlast⟩

/-- Wide characters, a run of white space longer than the overlap, and chunks that share words. -/
theorem split_bounds_words :
    Chunker.make (5 : UInt64).toNat (3 : UInt64).toNat = .ok ⟨5, 3, by decide⟩ ∧
    ((3 : UInt64) + 1).toNat = 4 ∧
    splitBytes? 5 3 "äö ü    ß, €".toList 6 = some ((Chunker.mk 5 3 (by decide)).split "äö ü    ß, €") ∧
    (Chunker.mk 5 3 (by decide)).split "äö ü    ß, €" ≠ [] := by
  have hmake : Chunker.make (5 : UInt64).toNat (3 : UInt64).toNat = .ok ⟨5, 3, by decide⟩ := rfl
  obtain ⟨hsucc, hbytes, -, -, hnil⟩ := split_bounds hmake "äö ü    ß, €"
  refine ⟨hmake, hsucc, hbytes, fun h => ?_⟩
  have := hnil.1 h
  revert this
  decide +kernel

end GroundedQA.Chunking
