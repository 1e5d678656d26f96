import GroundedQA.Proofs.Chunking.Succession
/-!
# The spans of a text hold all of its ink

Every character of a text that is no white space is in a span (`Course.exists_reach`), and the spans,
each without what the one before it has covered, put the ink of the text together again
(`Course.ink_continuation`). `split_covers` states both for the spans of any text, and that without an
overlap the spans are apart, so that nothing has to be left out of them.
-/

namespace GroundedQA.Chunking

open Text

/-- The text without its first `n` bytes; of a character that they cut, nothing is kept. -/
def dropBytes : Nat → List Char → List Char
  | 0, cs => cs
  | _ + 1, [] => []
  | n + 1, c :: cs => dropBytes (n + 1 - c.utf8Size) cs

/-- What spans say of a text behind its byte `stop`: each is taken without the part that the one
before it covers, the first without what stands before `stop`. -/
def continuation (stop : Nat) : List Span → List Char
  | [] => []
  | span :: spans => dropBytes (stop - span.offset) span.chars ++ continuation span.stop spans

/-- The text that spans make when each is taken without what its predecessor covers. -/
def reassemble (spans : List Span) : List Char :=
  continuation 0 spans

/-! ## Bytes that are left out -/

theorem dropBytes_append (xs ys : List Char) : dropBytes (byteLength xs) (xs ++ ys) = ys := by
  induction xs with
  | nil => simp [dropBytes]
  | cons c xs ih =>
    have hpos := c.utf8Size_pos
    have hlen : byteLength (c :: xs) = c.utf8Size - 1 + byteLength xs + 1 := by
      rw [byteLength_cons]
      omega
    rw [List.cons_append, hlen, dropBytes, show c.utf8Size - 1 + byteLength xs + 1 - c.utf8Size = byteLength xs by omega]
    exact ih

/-- A slice without what stands before a position is the slice from there on. -/
theorem Span.IsSlice.dropBytes_chars {span : Span} {cs : List Char} {first last k : Nat}
    (h : span.IsSlice cs first last) (hk : k ≤ last) :
    dropBytes (byteLength (cs.take k) - span.offset) span.chars = (cs.take last).drop (max k first) := by
  rw [h.offset, h.chars]
  by_cases hle : k ≤ first
  · have := byteLength_take_le cs hle
    rw [Nat.max_eq_right hle, Nat.sub_eq_zero_of_le this, dropBytes]
  · have hfirst : first ≤ k := by omega
    have hsplit : (cs.take last).drop first = (cs.take k).drop first ++ (cs.take last).drop k := by
      conv_lhs => rw [← List.take_append_drop (k - first) ((cs.take last).drop first)]
      rw [List.drop_drop, Nat.add_sub_cancel' hfirst, List.take_drop, Nat.add_sub_cancel' hfirst,
        List.take_take, Nat.min_eq_left hk]
    rw [Nat.max_eq_left hfirst, byteLength_take hfirst, Nat.add_sub_cancel_left, hsplit, dropBytes_append]

/-! ## Along a course -/

/-- Ink from the start of a course on is in the span of one of its passes. -/
theorem Course.exists_reach {chunker : Chunker} {cs : List Char} {start : Nat} {pass : Pass}
    {passes : List Pass} (hcourse : Course chunker pass passes) (h : pass.At cs start) {n : Nat}
    (hn : start ≤ n) (hink : InkAt cs n) :
    ∃ p ∈ passes, ∃ first, p.At cs first ∧ first ≤ n ∧ n < first + p.reach chunker := by
  induction hcourse generalizing start with
  | last hnone =>
    refine ⟨_, List.mem_singleton_self _, start, h, hn, ?_⟩
    by_contra hlt
    exact h.not_inkAt_of_next?_eq_none hnone (by omega) hink
  | @step pass next passes hnext _ ih =>
    obtain ⟨s, hs⟩ := h.succeeds hnext
    -- Ink is in the span of the pass or, as there is none in between, at the next start or later.
    by_cases hlt : n < start + pass.reach chunker
    · exact ⟨_, List.mem_cons_self, start, h, hn, hlt⟩
    · have hge : start + s ≤ n := by
        by_contra hbetween
        exact hs.not_inkAt_between (by omega) (by omega) hink
      obtain ⟨p, hp, hreach⟩ := ih hs.nextAt hge
      exact ⟨p, List.mem_cons_of_mem _ hp, hreach⟩

/-- The spans of a course, from a position `k` of its text on: their ink is what the text has there,
if there is none between `k` and the start. The induction takes for `k` the end of each span. -/
theorem Course.ink_continuation {chunker : Chunker} {cs : List Char} {start : Nat} {pass : Pass}
    {passes : List Pass} (hcourse : Course chunker pass passes) (h : pass.At cs start) {k : Nat}
    (hk : k ≤ start + pass.reach chunker) (hblank : ∀ n, k ≤ n → n < start → ¬ InkAt cs n) :
    ink (continuation (byteLength (cs.take k)) (passes.map (·.span chunker))) = ink (cs.drop k) := by
  have hspan {start : Nat} {pass : Pass} (h : pass.At cs start) {k : Nat} (hk : k ≤ start + pass.reach chunker) :
      dropBytes (byteLength (cs.take k) - (pass.span chunker).offset) (pass.span chunker).chars ++
        cs.drop (start + pass.reach chunker) = cs.drop (max k start) := by
    rw [(h.isSlice_span chunker).dropBytes_chars hk, take_drop_append (by omega)]
  induction hcourse generalizing start k with
  | @last pass hnone =>
    have hrest : ink (cs.drop (start + pass.reach chunker)) = [] := by
      rw [ink_eq_nil_iff]
      by_contra hb
      obtain ⟨n, hn, hink⟩ := not_isBlank_drop.1 hb
      exact h.not_inkAt_of_next?_eq_none hnone hn hink
    rw [ink_drop_eq (Nat.le_max_left k start) fun n hkn hn => hblank n hkn (by omega), ← hspan h hk,
      ink_append, hrest]
    simp [continuation]
  | @step pass next passes hnext _ ih =>
    obtain ⟨s, hs⟩ := h.succeeds hnext
    have hnext := ih hs.nextAt hs.reach_le_reach fun n hn hlt => hs.not_inkAt_between hn hlt
    rw [ink_drop_eq (Nat.le_max_left k start) fun n hkn hn => hblank n hkn (by omega), ← hspan h hk,
      List.map_cons, continuation, (h.isSlice_span chunker).stop, ink_append, ink_append, hnext]

/-! ## The spans of a text -/

/-- Spans of which each stands behind the one before say all that they hold. -/
theorem continuation_eq_flatMap {spans : List Span} (h : spans.IsChain fun a b => a.stop ≤ b.offset)
    {stop : Nat} (hstop : ∀ a ∈ spans.head?, stop ≤ a.offset) :
    continuation stop spans = spans.flatMap (·.chars) := by
  induction spans generalizing stop with
  | nil => rfl
  | cons a spans ih =>
    have hzero : stop - a.offset = 0 := Nat.sub_eq_zero_of_le (hstop a rfl)
    rw [continuation, hzero, dropBytes, ih h.tail fun b hb => h.rel_head? hb, List.flatMap_cons]

theorem ink_reassemble_split (chunker : Chunker) (text : String) :
    ink (reassemble (chunker.split text)) = ink text.toList := by
  rw [reassemble, split_eq_map]
  rcases passes_cases chunker text.toList with ⟨hblank, hnil⟩ | ⟨pass, hat, hcourse⟩
  · rw [hnil, ink_eq_nil_iff.2 hblank]
    rfl
  · have := hcourse.ink_continuation hat (k := 0) (by omega) fun n _ hn hink => by
      have := nextInk_le (Nat.zero_le n) hink
      omega
    simpa using this

theorem exists_span_of_ink (chunker : Chunker) (text : String) {before after : List Char} {c : Char}
    (hcs : text.toList = before ++ c :: after) (hc : ¬ isSpace c) :
    ∃ span ∈ chunker.split text, span.offset ≤ byteLength before ∧
      byteLength before + c.utf8Size ≤ span.stop := by
  have hink : InkAt text.toList before.length := hcs ▸ inkAt_append_cons before after hc
  have hbefore : text.toList.take before.length = before := by simp [hcs]
  have hthrough : byteLength (text.toList.take (before.length + 1)) = byteLength before + c.utf8Size := by
    simp [hcs, List.take_append, List.take_of_length_le]
  rw [split_eq_map]
  rcases passes_cases chunker text.toList with ⟨hblank, -⟩ | ⟨pass, hat, hcourse⟩
  · exact absurd hblank (not_isBlank_iff.2 ⟨_, hink⟩)
  · obtain ⟨p, hp, first, hpat, hle, hlt⟩ :=
      hcourse.exists_reach hat (nextInk_le (Nat.zero_le _) hink) hink
    have hslice := hpat.isSlice_span chunker
    refine ⟨p.span chunker, List.mem_map_of_mem hp, ?_, ?_⟩
    · rw [hslice.offset]
      conv_rhs => rw [← hbefore]
      exact byteLength_take_le _ hle
    · rw [hslice.stop, ← hthrough]
      exact byteLength_take_le _ hlt

theorem standsIn_of_mem_split {chunker : Chunker} {text : String} {span : Span}
    (h : span ∈ chunker.split text) : span.StandsIn text.toList := by
  rw [split_eq_map] at h
  obtain ⟨p, hp, rfl⟩ := List.mem_map.1 h
  rcases passes_cases chunker text.toList with ⟨-, hnil⟩ | ⟨pass, hat, hcourse⟩
  · simp [hnil] at hp
  · obtain ⟨start, hpat⟩ := hcourse.passAt hat p hp
    exact (hpat.isSlice_span chunker).standsIn

/-- Without an overlap no span begins before its predecessor has ended. -/
theorem isChain_stop_le_offset {chunker : Chunker} (h0 : chunker.overlap = 0) (text : String) :
    (chunker.split text).IsChain fun a b => a.stop ≤ b.offset := by
  refine isChain_split fun start s pass next h => ?_
  rw [(h.passAt.isSlice_span chunker).stop, (h.nextAt.isSlice_span chunker).offset]
  have hs := h.start_eq
  rw [h0, nextStart_zero] at hs
  have hle := le_nextInk pass.rest (pass.cut chunker)
  have hreach := pass.reach_le_cut chunker
  exact byteLength_take_le _ (by omega)

/-- The spans of a text are slices of it, and each of its characters that is no white space is in one
of them. When each span is taken without what its predecessor covers, they hold all these characters
in order and once. Without an overlap the spans are apart, and hold them as they are. -/
theorem split_covers (chunker : Chunker) (text : String) :
    (∀ span ∈ chunker.split text, span.StandsIn text.toList) ∧
    (∀ before c after, text.toList = before ++ c :: after → ¬ isSpace c →
      ∃ span ∈ chunker.split text, span.offset ≤ byteLength before ∧
        byteLength before + c.utf8Size ≤ span.stop) ∧
    ink (reassemble (chunker.split text)) = ink text.toList ∧
    (chunker.overlap = 0 → (chunker.split text).Pairwise (fun a b => a.stop ≤ b.offset) ∧
      ink ((chunker.split text).flatMap (·.chars)) = ink text.toList) := by
  refine ⟨fun span hspan => standsIn_of_mem_split hspan,
    fun before c after hcs hc => exists_span_of_ink chunker text hcs hc,
    ink_reassemble_split chunker text, fun h0 => ⟨?_, ?_⟩⟩
  · have htrans : Trans (fun a b : Span => a.stop ≤ b.offset) (fun a b : Span => a.stop ≤ b.offset)
        (fun a b : Span => a.stop ≤ b.offset) :=
      ⟨fun {a b c} hab hbc => Nat.le_trans hab (Nat.le_trans (Nat.le_add_right b.offset _) hbc)⟩
    exact List.isChain_iff_pairwise.1 (isChain_stop_le_offset h0 text)
  · rw [← ink_reassemble_split chunker text, reassemble,
      continuation_eq_flatMap (isChain_stop_le_offset h0 text) fun _ _ => Nat.zero_le _]

/-- A text with white space at both ends and wide characters, cut without an overlap. -/
theorem split_covers_words :
    Span.mk 1 ['ä', 'ö', 'ü'] ∈ (Chunker.mk 4 0 (by decide)).split " äöü  words\n" ∧
    (Span.mk 1 ['ä', 'ö', 'ü']).StandsIn " äöü  words\n".toList ∧
    ¬ isSpace 'ö' ∧
    (∃ span ∈ (Chunker.mk 4 0 (by decide)).split " äöü  words\n", span.offset ≤ byteLength [' ', 'ä'] ∧
      byteLength [' ', 'ä'] + 'ö'.utf8Size ≤ span.stop) ∧
    (Chunker.mk 4 0 (by decide)).overlap = 0 ∧
    ink (((Chunker.mk 4 0 (by decide)).split " äöü  words\n").flatMap (·.chars)) =
      ink " äöü  words\n".toList := by
  have hmem : Span.mk 1 ['ä', 'ö', 'ü'] ∈ (Chunker.mk 4 0 (by decide)).split " äöü  words\n" := by
    decide +kernel
  obtain ⟨hstands, hink, -, happart⟩ := split_covers (Chunker.mk 4 0 (by decide)) " äöü  words\n"
  exact ⟨hmem, hstands _ hmem, by decide, hink [' ', 'ä'] 'ö' ('ü' :: "  words\n".toList) (by decide +kernel)
    (by decide), rfl, (happart rfl).2⟩

end GroundedQA.Chunking
