import GroundedQA.Proofs.Chunking.Succession
/-!
# Neighbouring spans

What two consecutive spans of a text have to do with each other. With an overlap they share text,
unless the first is one character with a window of white space after it (`neighbours_overlap`). A
span never ends before its predecessor, and it ends behind it exactly when its window reaches ink
that stands there (`stop_lt_stop_iff`). The window need not: then the later span lies inside the
earlier one, as in `not_stop_lt_stop`.
-/

namespace GroundedQA.Chunking

open Text

/-- The text from the start of `b` to the end of `a` is not blank, and it ends `a` and begins `b`. -/
def Span.Overlaps (a b : Span) (cs : List Char) : Prop :=
  b.offset < a.stop ∧ ∃ shared : Span, shared.StandsIn cs ∧ shared.offset = b.offset ∧
    shared.stop = a.stop ∧ ¬ isBlank shared.chars ∧ shared.chars <:+ a.chars ∧ shared.chars <+: b.chars

/-- The span is one character, and at least `n` characters of white space follow it in the text. -/
def Span.IsLone (span : Span) (n : Nat) (cs : List Char) : Prop :=
  ∃ c blank, span.chars = [c] ∧ isBlank blank ∧ n ≤ blank.length ∧
    (Span.mk span.offset (c :: blank)).StandsIn cs

/-- Among the first `size` characters from the start of `b` on there is ink that stands behind `a`. -/
def Span.NewInkWithin (size : Nat) (a b : Span) (cs : List Char) : Prop :=
  ∃ between c, between.length < size ∧ ¬ isSpace c ∧ a.stop ≤ b.offset + byteLength between ∧
    (Span.mk b.offset (between ++ [c])).StandsIn cs

/-! ## Spans by positions -/

section Positions

variable {a b : Span} {cs : List Char} {first last first' last' : Nat}

theorem Span.IsSlice.overlaps (ha : a.IsSlice cs first last) (hb : b.IsSlice cs first' last')
    (hfirst : first ≤ first') (hlt : first' < last) (hlast : last ≤ last') (hink : InkAt cs first') :
    a.Overlaps b cs := by
  refine ⟨?_, ⟨b.offset, (cs.take last).drop first'⟩, ?_, rfl, ?_, ?_, ?_, ?_⟩
  · rw [hb.offset, ha.stop]
    exact (byteLength_take_lt_iff ha.last_le).2 hlt
  · have hslice : (Span.mk b.offset ((cs.take last).drop first')).IsSlice cs first' last :=
      ⟨by omega, ha.last_le, hb.offset, rfl⟩
    exact hslice.standsIn
  · rw [ha.stop, byteLength_take (Nat.le_of_lt hlt), Span.stop, hb.offset]
  · rw [not_isBlank_iff]
    exact ⟨0, inkAt_drop.2 (inkAt_take.2 ⟨hlt, hink⟩)⟩
  · rw [ha.chars]
    exact List.drop_suffix_drop_left _ hfirst
  · rw [hb.chars, List.drop_take, List.drop_take]
    exact List.take_prefix_take_left (by omega)

/-- Ink behind a span is a position from its end on. -/
theorem Span.IsSlice.newInkWithin_iff {size : Nat} (ha : a.IsSlice cs first last)
    (hb : b.IsSlice cs first' last') :
    a.NewInkWithin size b cs ↔ ∃ n, InkAt cs n ∧ last ≤ n ∧ first' ≤ n ∧ n < first' + size := by
  have hle : first' ≤ cs.length := Nat.le_trans hb.first_le hb.last_le
  constructor
  · rintro ⟨between, c, hlen, hc, hstop, before, after, hcs, hoff⟩
    have hcs' : cs = before ++ between ++ c :: after := by simp [hcs]
    have hbefore : before.length = first' :=
      length_eq_of_byteLength ⟨between ++ c :: after, by simp [hcs']⟩ hle (hoff.trans hb.offset)
    have hn : (before ++ between).length = first' + between.length := by rw [List.length_append, hbefore]
    refine ⟨first' + between.length, ?_, ?_, by omega, by omega⟩
    · rw [hcs', ← hn]
      exact inkAt_append_cons _ _ hc
    · rw [ha.stop, ← show byteLength before = b.offset from hoff, ← byteLength_append] at hstop
      rw [← byteLength_take_le_iff ha.last_le, ← hn, hcs', List.take_left]
      rwa [hcs'] at hstop
  · rintro ⟨n, ⟨c, hn, hc⟩, hlast, hfirst, hlt⟩
    obtain ⟨hnlt, rfl⟩ := List.getElem?_eq_some_iff.1 hn
    refine ⟨(cs.take n).drop first', _, ?_, hc, ?_, cs.take first', cs.drop (n + 1), ?_, hb.offset.symm⟩
    · rw [List.length_drop, List.length_take]
      omega
    · rw [ha.stop, hb.offset, ← byteLength_take hfirst]
      exact byteLength_take_le _ hlast
    · have hmid : cs.take first' ++ (cs.take n).drop first' = cs.take n := by
        have := List.take_append_drop first' (cs.take n)
        rwa [List.take_take, Nat.min_eq_left hfirst] at this
      rw [← List.append_assoc, hmid, List.take_append_getElem, List.take_append_drop]

theorem Span.IsSlice.isLone {n : Nat} (ha : a.IsSlice cs first (first + 1)) (hlen : first + 1 + n ≤ cs.length)
    (hblank : ∀ k, first + 1 ≤ k → k < first + 1 + n → ¬ InkAt cs k) : a.IsLone n cs := by
  have hcons (m : Nat) : (cs.take (first + 1 + m)).drop first =
      cs[first] :: (cs.take (first + 1 + m)).drop (first + 1) := by
    rw [List.drop_eq_getElem_cons (by rw [List.length_take]; omega), List.getElem_take]
  refine ⟨cs[first], (cs.take (first + 1 + n)).drop (first + 1), ?_, ?_, ?_, ?_⟩
  · rw [ha.chars, ← Nat.add_zero (first + 1), hcons 0]
    simp
  · by_contra hb
    obtain ⟨k, hk, hink⟩ := not_isBlank_drop.1 hb
    rw [inkAt_take] at hink
    exact hblank k hk hink.1 hink.2
  · rw [List.length_drop, List.length_take]
    omega
  · have hslice : (Span.mk a.offset (cs[first] :: (cs.take (first + 1 + n)).drop (first + 1))).IsSlice cs first
        (first + 1 + n) := ⟨by omega, hlen, ha.offset, (hcons n).symm⟩
    exact hslice.standsIn

end Positions

/-! ## Shared text -/

theorem Succeeds.overlaps_or_isLone {chunker : Chunker} {cs : List Char} {start s : Nat} {pass next : Pass}
    (h : Succeeds chunker cs start s pass next) (hov : 0 < chunker.overlap) :
    (pass.span chunker).Overlaps (next.span chunker) cs ∨
      (pass.span chunker).stop ≤ (next.span chunker).offset ∧
        (pass.span chunker).IsLone (chunker.size - 1) cs := by
  have ha := h.passAt.isSlice_span chunker
  have hb := h.nextAt.isSlice_span chunker
  have hpos := h.startsWell.pos
  -- The next pass starts inside the span of this one, or this one reaches over one character only.
  by_cases hlt : s < pass.reach chunker
  · exact .inl (ha.overlaps hb (by omega) (by omega) h.reach_le_reach h.nextAt.ink)
  · right
    have hone : pass.reach chunker = 1 := by
      rcases h.startsWell.inside hov with hin | hone
      · exact absurd hin hlt
      · exact hone
    obtain ⟨hlen, hblank⟩ := h.blank_after_of_reach_eq_one hov hone
    have hsize := chunker.overlap_lt_size
    rw [hone] at ha
    refine ⟨?_, ha.isLone (by omega) fun k hk hks => hblank k hk (by omega)⟩
    rw [ha.stop, hb.offset]
    exact byteLength_take_le _ (by omega)

/-- With an overlap, every two consecutive spans share text that is not blank, unless the first is
one character that at least `size - 1` characters of white space follow. So all of them do in a text
without such a run. -/
theorem neighbours_overlap (chunker : Chunker) (text : String) (hov : 0 < chunker.overlap) :
    ((chunker.split text).IsChain fun a b => a.Overlaps b text.toList ∨
      a.stop ≤ b.offset ∧ a.IsLone (chunker.size - 1) text.toList) ∧
    ((∀ run, run <:+: text.toList → isBlank run → run.length < chunker.size - 1) →
      (chunker.split text).IsChain fun a b => a.Overlaps b text.toList) := by
  have hchain : (chunker.split text).IsChain fun a b => a.Overlaps b text.toList ∨
      a.stop ≤ b.offset ∧ a.IsLone (chunker.size - 1) text.toList :=
    isChain_split fun start s pass next h => h.overlaps_or_isLone hov
  refine ⟨hchain, fun hruns => hchain.imp fun a b hab => ?_⟩
  rcases hab with hab | ⟨-, c, blank, -, hblank, hlen, before, after, hcs, -⟩
  · exact hab
  · have := hruns blank ⟨before ++ [c], after, by simp [hcs]⟩ hblank
    omega

/-- In a text of words with one space between them, chunks of five characters overlap; a letter with twenty spaces
after it is alone in its chunk and shares nothing with the next. -/
theorem neighbours_overlap_words :
    let words : Chunker := ⟨5, 2, by decide⟩
    let letters : Chunker := ⟨10, 3, by decide⟩
    let a : Span := ⟨0, "a".toList⟩
    let b : Span := ⟨21, "b".toList⟩
    (0 < words.overlap ∧ (∀ run, run <:+: "one two six".toList → isBlank run → run.length < words.size - 1) ∧
      words.split "one two six" =
        [⟨0, "one".toList⟩, ⟨2, "e two".toList⟩, ⟨5, "wo si".toList⟩, ⟨8, "six".toList⟩] ∧
      (words.split "one two six").IsChain fun a b => a.Overlaps b "one two six".toList) ∧
    0 < letters.overlap ∧ letters.split "a                    b" = [a, b] ∧
      a.stop ≤ b.offset ∧ a.IsLone (letters.size - 1) "a                    b".toList := by
  intro words letters a b
  have hruns : ∀ run, run <:+: "one two six".toList → isBlank run → run.length < words.size - 1 := by
    rintro run ⟨before, after, hcs⟩ hblank
    by_contra hlen
    have hlong : 4 ≤ run.length := Nat.le_of_not_lt hlen
    have hshort : ∀ i < 8, ¬ isBlank (("one two six".toList.drop i).take 4) := by decide
    have htotal : before.length + run.length + after.length = 11 := by
      simpa [Nat.add_assoc] using congrArg List.length hcs
    refine hshort before.length (by omega) ?_
    rw [← hcs, List.append_assoc, List.drop_left, List.take_append_of_le_length hlong]
    exact List.all_eq_true.2 fun c hc => isBlank_iff.1 hblank c (List.mem_of_mem_take hc)
  have hletters : letters.split "a                    b" = [a, b] := by decide +kernel
  obtain ⟨hchain, -⟩ := neighbours_overlap letters "a                    b" (by decide)
  rw [hletters, List.isChain_pair] at hchain
  have halone := hchain.resolve_left fun hoverlaps => absurd hoverlaps.1 (by decide)
  exact ⟨⟨by decide, hruns, by decide +kernel, (neighbours_overlap words "one two six" (by decide)).2 hruns⟩,
    by decide, hletters, halone⟩

/-! ## Growing ends -/

/-- No span ends before its predecessor. It ends behind it exactly when there is ink behind the
predecessor among the first `size` characters from the start of the span on. -/
theorem stop_lt_stop_iff (chunker : Chunker) (text : String) :
    (chunker.split text).IsChain fun a b => a.stop ≤ b.stop ∧
      (a.stop < b.stop ↔ a.NewInkWithin chunker.size b text.toList) := by
  refine isChain_split fun start s pass next h => ?_
  have ha := h.passAt.isSlice_span chunker
  have hb := h.nextAt.isSlice_span chunker
  rw [ha.newInkWithin_iff hb, ← h.reach_lt_reach_iff, ha.stop, hb.stop]
  exact ⟨byteLength_take_le _ h.reach_le_reach, byteLength_take_lt_iff hb.last_le⟩

/-- Chunks of three characters that overlap by two do not always end one behind the other: after
`abc` comes `bc`, whose window ends with the space. -/
theorem not_stop_lt_stop :
    ¬ ∀ (chunker : Chunker) (text : String), (chunker.split text).IsChain fun a b => a.stop < b.stop := by
  intro h
  have hsplit := h (Chunker.mk 3 2 (by decide)) "abc def"
  revert hsplit
  decide +kernel

end GroundedQA.Chunking
