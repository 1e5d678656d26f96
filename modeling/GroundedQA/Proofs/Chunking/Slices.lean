import GroundedQA.Chunking.Basic
import GroundedQA.Proofs.Text.Ink
/-!
# Slices of a text

A span tells where it stands by bytes. `Span.StandsIn` says that it is a slice of a text at its byte
offset, and `Span.IsSlice` which characters of the text it is; the one follows from the other.
-/

namespace GroundedQA.Chunking

open Text

/-- The span is a slice of the text, at its byte offset and between characters. -/
def Span.StandsIn (span : Span) (cs : List Char) : Prop :=
  ∃ before after, cs = before ++ span.chars ++ after ∧ byteLength before = span.offset

/-- The span is the characters of the text from position `first` up to position `last`. -/
structure Span.IsSlice (span : Span) (cs : List Char) (first last : Nat) : Prop where
  first_le : first ≤ last
  last_le : last ≤ cs.length
  offset : span.offset = byteLength (cs.take first)
  chars : span.chars = (cs.take last).drop first

/-! ## Bytes -/

@[simp] theorem byteLength_nil : byteLength [] = 0 := rfl

@[simp] theorem byteLength_cons (c : Char) (cs : List Char) :
    byteLength (c :: cs) = c.utf8Size + byteLength cs := rfl

@[simp] theorem byteLength_append (xs ys : List Char) :
    byteLength (xs ++ ys) = byteLength xs + byteLength ys := by
  induction xs with
  | nil => simp
  | cons c xs ih =>
    rw [List.cons_append, byteLength_cons, byteLength_cons, ih]
    omega

theorem byteLength_pos {cs : List Char} (h : cs ≠ []) : 0 < byteLength cs := by
  obtain ⟨c, cs, rfl⟩ := List.exists_cons_of_ne_nil h
  have := c.utf8Size_pos
  rw [byteLength_cons]
  omega

/-- A text from a position on is what stands up to a later one and the text from that on. -/
theorem take_drop_append {cs : List Char} {i j : Nat} (hij : i ≤ j) :
    (cs.take j).drop i ++ cs.drop j = cs.drop i := by
  conv_rhs => rw [← List.take_append_drop (j - i) (cs.drop i)]
  rw [List.drop_drop, Nat.add_sub_cancel' hij, List.drop_take]

/-- The bytes before a later position are those before an earlier one and those between. -/
theorem byteLength_take {cs : List Char} {i j : Nat} (hij : i ≤ j) :
    byteLength (cs.take j) = byteLength (cs.take i) + byteLength ((cs.take j).drop i) := by
  rw [← byteLength_append]
  congr 1
  have := List.take_append_drop i (cs.take j)
  rwa [List.take_take, Nat.min_eq_left hij, eq_comm] at this

theorem byteLength_take_le (cs : List Char) {i j : Nat} (hij : i ≤ j) :
    byteLength (cs.take i) ≤ byteLength (cs.take j) := by
  rw [byteLength_take hij]
  omega

theorem byteLength_take_lt_iff {cs : List Char} {i j : Nat} (hj : j ≤ cs.length) :
    byteLength (cs.take i) < byteLength (cs.take j) ↔ i < j := by
  constructor
  · intro h
    by_contra hij
    have := byteLength_take_le cs (Nat.le_of_not_lt hij)
    omega
  · intro hij
    have hne : (cs.take j).drop i ≠ [] := by
      rw [← List.length_pos_iff, List.length_drop, List.length_take]
      omega
    have := byteLength_pos hne
    rw [byteLength_take (Nat.le_of_lt hij)]
    omega

theorem byteLength_take_le_iff {cs : List Char} {i j : Nat} (hi : i ≤ cs.length) :
    byteLength (cs.take i) ≤ byteLength (cs.take j) ↔ i ≤ j := by
  rw [← Nat.not_lt, byteLength_take_lt_iff hi, Nat.not_lt]

/-- The beginning of a text is found by its number of bytes. -/
theorem length_eq_of_byteLength {cs before : List Char} {i : Nat} (hpre : before <+: cs) (hi : i ≤ cs.length)
    (h : byteLength before = byteLength (cs.take i)) : before.length = i := by
  have hle := hpre.length_le
  rw [List.prefix_iff_eq_take.1 hpre] at h
  have h1 := (byteLength_take_le_iff (j := i) hle).1 (Nat.le_of_eq h)
  have h2 := (byteLength_take_le_iff (j := before.length) hi).1 (Nat.le_of_eq h.symm)
  omega

namespace Span.IsSlice

variable {span : Span} {cs : List Char} {first last : Nat}

theorem stop (h : span.IsSlice cs first last) : span.stop = byteLength (cs.take last) := by
  rw [Span.stop, h.offset, h.chars, byteLength_take h.first_le]

theorem length_chars (h : span.IsSlice cs first last) : span.chars.length = last - first := by
  have := h.last_le
  simp [h.chars, this]

theorem standsIn (h : span.IsSlice cs first last) : span.StandsIn cs := by
  refine ⟨cs.take first, cs.drop last, ?_, h.offset.symm⟩
  have hle := h.first_le
  have htake : cs.take first = (cs.take last).take first := by rw [List.take_take, Nat.min_eq_left hle]
  rw [h.chars, htake, List.take_append_drop, List.take_append_drop]

end Span.IsSlice

end GroundedQA.Chunking
