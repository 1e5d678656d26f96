import GroundedQA.Proofs.Chunking.Offsets
/-!
# Overlaps and words

How much of a text two consecutive chunks share, and where in it the later one starts. A word begins at ink with
white space before it (`WordAt`). The start of the next chunk is `StartsAligned`: behind it the chunk has at most the
overlap left, or a word without white space; and when a word begins in the window of the overlap, the next chunk
starts at the earliest one.
-/

namespace GroundedQA.Chunking

open Text

/-- A word begins at position `n`: there is ink, and white space right before it. -/
def WordAt (cs : List Char) (n : Nat) : Prop :=
  InkAt cs n ∧ ∃ m c, n = m + 1 ∧ cs[m]? = some c ∧ isSpace c

/-- A word begins at position `n`, which is one of the last `count` before `edge`. -/
structure WordAmong (count : Nat) (cs : List Char) (edge n : Nat) : Prop where
  wordAt : WordAt cs n
  edge_le : edge ≤ n + count
  lt_edge : n < edge

/-- What is asked of the start `s` of the chunk after `rest.take cut` when there is an overlap. -/
structure StartsAligned (overlap : Nat) (rest : List Char) (cut s : Nat) : Prop where
  shares : inkEnd (rest.take cut) ≤ s + overlap ∨
    WordAt rest s ∧ ∀ k, s ≤ k → k < inkEnd (rest.take cut) → InkAt rest k
  earliest : ∀ n, WordAmong overlap rest cut n → WordAmong overlap rest cut s ∧ s ≤ n

/-- The characters of the text that stand in both spans. -/
def Span.shared (cs : List Char) (a b : Span) : List Char :=
  (slice? cs (max a.offset b.offset) (min a.stop b.stop)).getD []

/-- The span ends with the word, and white space stands before that in it. -/
def Span.EndsWithWord (span : Span) (word : List Char) : Prop :=
  word ≠ [] ∧ (∀ c ∈ word, ¬isSpace c) ∧ ∃ before c, span.chars = before ++ c :: word ∧ isSpace c

/-! ## The beginnings of words -/

variable {cs : List Char} {i k n : Nat}

theorem wordAt_succ_iff : WordAt cs (n + 1) ↔ InkAt cs (n + 1) ∧ ∃ c, cs[n]? = some c ∧ isSpace c := by
  simp only [WordAt, Nat.add_right_cancel_iff]
  constructor
  · rintro ⟨hink, m, c, rfl, hc⟩
    exact ⟨hink, c, hc⟩
  · rintro ⟨hink, c, hc⟩
    exact ⟨hink, n, c, rfl, hc⟩

theorem wordAt_take : WordAt (cs.take i) n ↔ n < i ∧ WordAt cs n := by
  cases n with
  | zero => simp [WordAt]
  | succ n =>
    rw [wordAt_succ_iff, wordAt_succ_iff, inkAt_take, and_assoc]
    refine and_congr_right fun hlt => ?_
    rw [List.getElem?_take_of_lt (Nat.lt_of_succ_lt hlt)]

theorem wordAt_drop : WordAt (cs.drop i) (n + 1) ↔ WordAt cs (i + n + 1) := by
  rw [wordAt_succ_iff, wordAt_succ_iff, inkAt_drop, List.getElem?_drop, Nat.add_assoc]

theorem wordAt_of_trimEnd (h : WordAt (trimEnd cs) n) : WordAt cs n := by
  rw [trimEnd_eq_take] at h
  exact (wordAt_take.1 h).2

theorem wordAt_cons {before : Char} : WordAt (before :: cs) (n + 1 + 1) ↔ WordAt cs (n + 1) := by
  rw [wordAt_succ_iff, wordAt_succ_iff]
  simp [InkAt]

/-! ## Finding them -/

/-- The word that is found is the earliest. -/
theorem wordStart?_earliest {before : Char} (h : wordStart? before cs = some n) :
    WordAt (before :: cs) (n + 1) ∧ ∀ m, WordAt (before :: cs) (m + 1) → n ≤ m := by
  induction cs generalizing before n with
  | nil => simp [wordStart?] at h
  | cons c cs ih =>
    rw [wordStart?] at h
    split at h
    · next hc =>
      obtain rfl : 0 = n := by simpa using h
      simp only [Bool.and_eq_true, Bool.not_eq_true'] at hc
      refine ⟨wordAt_succ_iff.2 ⟨⟨c, rfl, by simp [hc.2]⟩, before, rfl, hc.1⟩, fun m _ => Nat.zero_le m⟩
    · next hc =>
      obtain ⟨k, hk, rfl⟩ := Option.map_eq_some_iff.1 h
      obtain ⟨hword, hleast⟩ := ih hk
      refine ⟨wordAt_cons.2 hword, fun m hm => ?_⟩
      cases m with
      | zero =>
        obtain ⟨⟨d, hd, hink⟩, e, he, hspace⟩ := wordAt_succ_iff.1 hm
        simp_all
      | succ m => exact Nat.succ_le_succ (hleast m (wordAt_cons.1 hm))

/-- When no word is found, none begins there. -/
theorem not_wordAt_of_wordStart?_eq_none {before : Char} (h : wordStart? before cs = none) (m : Nat) :
    ¬WordAt (before :: cs) (m + 1) := by
  induction cs generalizing before m with
  | nil =>
    intro hm
    have := hm.1.lt
    simp at this
  | cons c cs ih =>
    rw [wordStart?] at h
    split at h
    · cases h
    · next hc =>
      intro hm
      cases m with
      | zero =>
        obtain ⟨⟨d, hd, hink⟩, e, he, hspace⟩ := wordAt_succ_iff.1 hm
        simp_all
      | succ m => exact ih (Option.map_eq_none_iff.1 h) m (wordAt_cons.1 hm)

/-- What is found from a position on is the earliest beginning of a word from there on. -/
theorem wordStartFrom?_earliest (hi : 0 < i) (h : wordStartFrom? cs i = some n) :
    i ≤ n ∧ WordAt cs n ∧ ∀ m, i ≤ m → WordAt cs m → n ≤ m := by
  obtain ⟨i, rfl⟩ := Nat.exists_eq_add_of_lt hi
  unfold wordStartFrom? at h
  split at h
  · cases h
  · next before rest hrest =>
    obtain ⟨k, hk, rfl⟩ := Option.map_eq_some_iff.1 h
    obtain ⟨hword, hleast⟩ := wordStart?_earliest hk
    rw [← hrest, wordAt_drop] at hword
    refine ⟨Nat.le_add_left .., ?_, fun m hm hat => ?_⟩
    · rwa [show k + (0 + i + 1) = 0 + i + 1 - 1 + k + 1 by omega]
    · obtain ⟨j, rfl⟩ := Nat.exists_eq_add_of_le hm
      have := hleast j (by rw [← hrest, wordAt_drop, show 0 + i + 1 - 1 + j + 1 = 0 + i + 1 + j by omega]; exact hat)
      omega

theorem not_wordAt_of_wordStartFrom?_eq_none (hi : 0 < i) (h : wordStartFrom? cs i = none) (hn : i ≤ n) :
    ¬WordAt cs n := by
  obtain ⟨i, rfl⟩ := Nat.exists_eq_add_of_lt hi
  obtain ⟨j, rfl⟩ := Nat.exists_eq_add_of_le hn
  intro hat
  unfold wordStartFrom? at h
  split at h
  · next hnil =>
    have := hat.1.lt
    rw [List.drop_eq_nil_iff] at hnil
    omega
  · next before rest hrest =>
    refine not_wordAt_of_wordStart?_eq_none (Option.map_eq_none_iff.1 h) j ?_
    rwa [← hrest, wordAt_drop, show 0 + i + 1 - 1 + j + 1 = 0 + i + 1 + j by omega]

/-- White space stands right before the last word of a text, unless that is the whole text. -/
theorem exists_eq_append_lastWord (h : lastWordLength cs < cs.length) :
    ∃ before c word, cs = before ++ c :: word ∧ isSpace c ∧ word.length = lastWordLength cs := by
  have hsplit := List.takeWhile_append_dropWhile (p := fun c => !isSpace c) (l := cs.reverse)
  cases hrest : cs.reverse.dropWhile fun c => !isSpace c with
  | nil =>
    have hlen := congrArg List.length hsplit
    rw [hrest, List.append_nil, List.length_reverse] at hlen
    exact absurd hlen (Nat.ne_of_lt h)
  | cons c before =>
    have hspace := List.head_dropWhile_not (fun c => !isSpace c) (hrest ▸ List.cons_ne_nil c before)
    simp only [hrest, List.head_cons, Bool.not_eq_false'] at hspace
    refine ⟨before.reverse, c, (cs.reverse.takeWhile fun c => !isSpace c).reverse, ?_, hspace, List.length_reverse⟩
    rw [hrest] at hsplit
    simpa using (congrArg List.reverse hsplit).symm

/-- The last word of a text that ends in one begins a word, unless it is the whole text. -/
theorem wordAt_lastWord (hlast : InkAt cs (cs.length - 1)) (h : lastWordLength cs < cs.length) :
    WordAt cs (cs.length - lastWordLength cs) := by
  have hpos := lastWordLength_pos hlast
  have hink := inkAt_lastWord (Nat.le_refl (cs.length - lastWordLength cs)) (by omega)
  obtain ⟨before, c, word, hcs, hspace, hword⟩ := exists_eq_append_lastWord h
  have hlen : cs.length - lastWordLength cs = before.length + 1 := by
    rw [← hword, hcs, List.length_append, List.length_cons]
    omega
  rw [hlen] at hink ⊢
  exact wordAt_succ_iff.2 ⟨hink, c, by simp [hcs], hspace⟩

/-! ## The start of the next chunk -/

/-- Where the next chunk starts when no word begins from `window` up to the cut and nothing but white space stands
there. -/
theorem startsAligned_of_blank {overlap window cut : Nat} {rest : List Char} (hwin : 0 < window) (hcut : window ≤ cut)
    (hnone : ∀ n, ¬WordAmong overlap rest cut n)
    (hblank : ∀ k, window ≤ k → k < cut → ¬InkAt rest k) {body : List Char} (hbody : body = trimEnd (rest.take window)) :
    StartsAligned overlap rest cut
      (if 0 < body.length - lastWordLength body then body.length - lastWordLength body
      else if 1 < body.length then max (body.length - overlap) 1
      else nextInk rest cut) := by
  have hend : inkEnd (rest.take cut) = body.length := by
    rw [inkEnd_take_eq hcut hblank, hbody, inkEnd]
  refine ⟨?_, fun n hn => absurd hn (hnone n)⟩
  rw [hend]
  split
  · next hword =>
    have hlast : InkAt body (body.length - 1) := by
      have hpos : 0 < inkEnd (rest.take window) := by
        rw [← inkEnd_take_eq hcut hblank, hend]
        omega
      have hat := inkAt_trimEnd.2 (inkAt_inkEnd_sub_one hpos)
      rwa [inkEnd, ← hbody] at hat
    have hat := wordAt_lastWord hlast (by omega)
    refine .inr ⟨?_, fun k hge hlt => ?_⟩
    · rw [hbody] at hat ⊢
      exact (wordAt_take.1 (wordAt_of_trimEnd hat)).2
    · have hink := inkAt_lastWord hge hlt
      rw [hbody, inkAt_trimEnd, inkAt_take] at hink
      exact hink.2
  split
  · exact .inl (by omega)
  · have := le_nextInk rest cut
    exact .inl (by omega)

/-- With an overlap, the chunk after `rest.take cut` starts aligned. -/
theorem startsAligned_nextStart {overlap cut : Nat} {rest : List Char} (hov : 0 < overlap) (hcut : overlap < cut) :
    StartsAligned overlap rest cut (nextStart overlap rest cut) := by
  have hreach : inkEnd (rest.take cut) ≤ cut := by
    have := inkEnd_le (rest.take cut)
    rw [List.length_take] at this
    omega
  unfold nextStart
  rw [if_neg (by omega)]
  dsimp only
  cases hfound : wordStartFrom? (rest.take cut) (cut - overlap) with
  | some s =>
    obtain ⟨hge, hword, hleast⟩ := wordStartFrom?_earliest (by omega) hfound
    obtain ⟨hlt, hword⟩ := wordAt_take.1 hword
    have hedge : cut ≤ s + overlap := by omega
    refine ⟨.inl (Nat.le_trans hreach hedge), fun n hn => ⟨⟨hword, hedge, hlt⟩, ?_⟩⟩
    have hwindow := hn.edge_le
    exact hleast n (by omega) (wordAt_take.2 ⟨hn.lt_edge, hn.wordAt⟩)
  | none =>
    -- No word begins in the window, so that only the bound is left to show.
    have hnone (n : Nat) : ¬WordAmong overlap rest cut n := by
      intro hn
      have hwindow := hn.edge_le
      exact not_wordAt_of_wordStartFrom?_eq_none (by omega) hfound (show cut - overlap ≤ n by omega)
        (wordAt_take.2 ⟨hn.lt_edge, hn.wordAt⟩)
    dsimp only
    split
    · next hinside =>
      have := le_nextInk rest (cut - overlap)
      exact ⟨.inl (by omega), fun n hn => absurd hn (hnone n)⟩
    · next hbeyond =>
      refine startsAligned_of_blank (by omega) (by omega) hnone (fun k hge hlt hink => ?_) rfl
      exact hbeyond (Nat.lt_of_le_of_lt (nextInk_le hge hink) hlt)

/-! ## Neighbouring spans -/

/-- Two slices share the characters from the later start up to the earlier end. -/
theorem Span.IsSlice.shared {a b : Span} {first last first' last' : Nat} (ha : a.IsSlice cs first last)
    (hb : b.IsSlice cs first' last') (hfirst : first ≤ first') (hlast : last ≤ last') :
    a.shared cs b = (cs.take last).drop first' := by
  have hoffset : max a.offset b.offset = byteLength (cs.take first') := by
    rw [ha.offset, hb.offset]
    exact max_eq_right (byteLength_take_le cs hfirst)
  have hstop : min a.stop b.stop = byteLength (cs.take last) := by
    rw [ha.stop, hb.stop]
    exact min_eq_left (byteLength_take_le cs hlast)
  rw [Span.shared, hoffset, hstop]
  by_cases hle : first' ≤ last
  · rw [slice?_take hle ha.last_le, Option.getD_some]
  · have hlt : ¬byteLength (cs.take first') ≤ byteLength (cs.take last) := by
      rw [byteLength_take_le_iff (Nat.le_trans hb.first_le hb.last_le)]
      exact hle
    rw [slice?, if_neg hlt, Option.getD_none, eq_comm, List.drop_eq_nil_iff, List.length_take]
    omega

/-- A slice from its start up to its end, in which a word begins that no white space follows, ends with that word. -/
theorem Span.IsSlice.endsWithWord {a : Span} {first last n : Nat} (ha : a.IsSlice cs first last) (hfirst : first < n)
    (hlast : n < last) (hword : WordAt cs n) (hink : ∀ k, n ≤ k → k < last → InkAt cs k) :
    a.EndsWithWord ((cs.take last).drop n) := by
  have hlen := ha.last_le
  refine ⟨?_, fun c hc => ?_, ?_⟩
  · rw [← List.length_pos_iff, List.length_drop, List.length_take]
    omega
  · obtain ⟨i, hi⟩ := List.mem_iff_getElem?.1 hc
    have hlt := (List.getElem?_eq_some_iff.1 hi).1
    rw [List.length_drop, List.length_take] at hlt
    rw [List.getElem?_drop, List.getElem?_take_of_lt (by omega)] at hi
    obtain ⟨d, hd, hs⟩ := hink (n + i) (by omega) (by omega)
    rw [hi] at hd
    exact Option.some.inj hd ▸ hs
  · obtain ⟨-, m, c, rfl, hc, hspace⟩ := hword
    refine ⟨(cs.take m).drop first, c, ?_, hspace⟩
    obtain ⟨hm, rfl⟩ := List.getElem?_eq_some_iff.1 hc
    have hdrop : (cs.take last).drop m = cs[m] :: (cs.take last).drop (m + 1) := by
      rw [List.drop_eq_getElem_cons (by rw [List.length_take]; omega), List.getElem_take]
    have htake : cs.take m = (cs.take last).take m := by rw [List.take_take, Nat.min_eq_left (by omega)]
    rw [ha.chars, ← hdrop, htake, take_drop_append (by omega)]

namespace Succeeds

variable {chunker : Chunker} {start s : Nat} {pass next : Pass}

theorem startsAligned (h : Succeeds chunker cs start s pass next) (hov : 0 < chunker.overlap) :
    StartsAligned chunker.overlap pass.rest (pass.cut chunker) s := by
  rw [h.start_eq]
  exact startsAligned_nextStart hov (Pass.overlap_lt_cut h.not_isBlank)

/-- A word that begins in the window of the overlap begins behind the start of the pass. -/
theorem wordAmong_iff (h : Succeeds chunker cs start s pass next) :
    WordAmong chunker.overlap cs (start + pass.cut chunker) (start + k) ↔
      WordAmong chunker.overlap pass.rest (pass.cut chunker) k := by
  have hcut := Pass.overlap_lt_cut h.not_isBlank
  have hword (hk : 0 < k) : WordAt cs (start + k) ↔ WordAt pass.rest k := by
    obtain ⟨k, rfl⟩ := Nat.exists_eq_add_of_lt hk
    rw [h.passAt.rest, wordAt_drop]
    rfl
  constructor
  · rintro ⟨hat, hedge, hlt⟩
    exact ⟨(hword (by omega)).1 hat, by omega, by omega⟩
  · rintro ⟨hat, hedge, hlt⟩
    exact ⟨(hword (by omega)).2 hat, by omega, by omega⟩

/-- The text that the spans of two passes share is short, or it is the last word of the earlier one. -/
theorem shared_bounded (h : Succeeds chunker cs start s pass next) (hov : 0 < chunker.overlap) :
    ((pass.span chunker).shared cs (next.span chunker)).length ≤ chunker.overlap ∨
      (pass.span chunker).EndsWithWord ((pass.span chunker).shared cs (next.span chunker)) := by
  have ha := h.passAt.isSlice_span chunker
  have hb := h.nextAt.isSlice_span chunker
  have hpos := h.startsWell.pos
  rw [ha.shared hb (by omega) h.reach_le_reach]
  have hlength : ((cs.take (start + pass.reach chunker)).drop (start + s)).length = pass.reach chunker - s := by
    rw [List.length_drop, List.length_take_of_le ha.last_le]
    omega
  by_cases hshort : pass.reach chunker ≤ s + chunker.overlap
  · exact .inl (by omega)
  rcases (h.startsAligned hov).shares with hbound | ⟨hword, hink⟩
  · exact absurd hbound hshort
  · refine .inr (ha.endsWithWord (by omega) (by omega) ?_ fun k hge hlt => ?_)
    · obtain ⟨m, rfl⟩ := Nat.exists_eq_add_of_lt hpos
      rw [h.passAt.rest, wordAt_drop] at hword
      exact hword
    · have := hink (k - start) (by omega) (by show k - start < pass.reach chunker; omega)
      rwa [h.passAt.inkAt_rest, Nat.add_sub_cancel' (by omega)] at this

/-- When a word begins in the window of the overlap, the next pass starts at the earliest. -/
theorem earliest (h : Succeeds chunker cs start s pass next) (hov : 0 < chunker.overlap) {n : Nat}
    (hn : WordAmong chunker.overlap cs (start + pass.cut chunker) n) :
    WordAmong chunker.overlap cs (start + pass.cut chunker) (start + s) ∧ start + s ≤ n := by
  have hedge := hn.edge_le
  have hcut := Pass.overlap_lt_cut h.not_isBlank
  obtain ⟨k, rfl⟩ := Nat.exists_eq_add_of_le (show start ≤ n by omega)
  obtain ⟨hstart, hle⟩ := (h.startsAligned hov).earliest k (h.wordAmong_iff.1 hn)
  exact ⟨h.wordAmong_iff.2 hstart, Nat.add_le_add_left hle start⟩

end Succeeds

/-- With an overlap, what two consecutive spans of a text share has no more characters than the overlap, or it is the
last word of the earlier span. When a word begins among the last characters of the overlap before the cut of the
earlier chunk, the later one starts at the earliest such word; so it starts inside a word only when none begins there. -/
theorem overlap_bounded_and_aligned (chunker : Chunker) (text : String) (hov : 0 < chunker.overlap) :
    (passes chunker text.toList).map (·.span? chunker) = (chunker.split text).map some ∧
    (passes chunker text.toList).IsChain fun pass next => ∃ a b start start',
      pass.span? chunker = some a ∧ pass.At text.toList start ∧
      next.span? chunker = some b ∧ b.offset = byteLength (text.toList.take start') ∧
      start < start' ∧ start' < text.toList.length ∧
      ((a.shared text.toList b).length ≤ chunker.overlap ∨ a.EndsWithWord (a.shared text.toList b)) ∧
      (∀ n, WordAmong chunker.overlap text.toList (start + pass.cut chunker) n →
        WordAmong chunker.overlap text.toList (start + pass.cut chunker) start' ∧ start' ≤ n) ∧
      (InkAt text.toList (start' - 1) →
        ∀ n, ¬WordAmong chunker.overlap text.toList (start + pass.cut chunker) n) := by
  refine ⟨map_span?_passes chunker text, (isChain_passes chunker text.toList).imp fun pass next h => ?_⟩
  obtain ⟨start, s, h⟩ := h
  have hpos := h.startsWell.pos
  refine ⟨pass.span chunker, next.span chunker, start, start + s, h.passAt.span?_eq chunker, h.passAt,
    h.nextAt.span?_eq chunker, h.nextAt.offset, by omega, h.nextAt.ink.lt, h.shared_bounded hov,
    fun n hn => h.earliest hov hn, fun hinside n hn => ?_⟩
  obtain ⟨-, m, c, hm, hc, hspace⟩ := (h.earliest hov hn).1.wordAt
  obtain ⟨d, hd, hink⟩ := hinside
  rw [hm, Nat.add_sub_cancel, hc] at hd
  exact hink (Option.some.inj hd ▸ hspace)

/-- Chunks that overlap by one character share a word of three when only white space stands before the cut. -/
theorem overlap_bounded_and_aligned_lastWord :
    let chunker : Chunker := ⟨8, 1, by decide⟩
    let a : Span := ⟨0, "one two".toList⟩
    let b : Span := ⟨4, "two six".toList⟩
    0 < chunker.overlap ∧ chunker.split "one two six" = [a, b] ∧
      a.shared "one two six".toList b = "two".toList ∧ a.EndsWithWord "two".toList := by
  intro chunker a b
  have hpasses : passes chunker "one two six".toList =
      [⟨0, "one two six".toList, none⟩, ⟨4, "two six".toList, some 4⟩] := by decide
  have hshared : a.shared "one two six".toList b = "two".toList := by decide
  have hchain := (overlap_bounded_and_aligned chunker "one two six" (by decide)).2
  rw [hpasses, List.isChain_pair] at hchain
  obtain ⟨a', b', start, start', ha, -, hb, -, -, -, hbounded, -⟩ := hchain
  obtain rfl : a = a' := Option.some.inj (.trans (by decide) ha)
  obtain rfl : b = b' := Option.some.inj (.trans (by decide) hb)
  rw [hshared] at hbounded
  refine ⟨by decide, by decide, hshared, hbounded.resolve_left (by decide)⟩

end GroundedQA.Chunking
