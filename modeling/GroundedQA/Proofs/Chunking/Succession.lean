import GroundedQA.Proofs.Chunking.Passes
import Mathlib.Data.List.Chain
/-!
# The passes over a text

How a pass and its next one lie in the text, by positions. The next pass takes more of the text, so
its span does not end before that of the pass (`Succeeds.reach_le_reach`); it ends behind it exactly
when its window holds ink that is not in that span (`Succeeds.reach_lt_reach_iff`).

All passes over a text are a `Course`: each is followed by its next, up to one after which only white
space is left. The bound on their number is never what ends them.
-/

namespace GroundedQA.Chunking

open Text

/-- `next` is the pass after `pass`, which starts at position `start` of the text, and it starts `s`
characters after it. -/
structure Succeeds (chunker : Chunker) (cs : List Char) (start s : Nat) (pass next : Pass) : Prop where
  passAt : pass.At cs start
  not_isBlank : ¬ isBlank (pass.rest.drop (pass.cut chunker))
  nextAt : next.At cs (start + s)
  startsWell : StartsWell chunker.overlap pass.rest (pass.cut chunker) s
  start_eq : s = nextStart chunker.overlap pass.rest (pass.cut chunker)
  taken : next.taken = some (pass.cut chunker - s)

theorem Pass.At.succeeds {chunker : Chunker} {cs : List Char} {start : Nat} {pass next : Pass}
    (h : pass.At cs start) (hnext : pass.next? chunker = some next) :
    ∃ s, Succeeds chunker cs start s pass next := by
  unfold Pass.next? at hnext
  dsimp only at hnext
  split at hnext
  · simp at hnext
  next hblank =>
  obtain rfl := Option.some.inj hnext
  have hwell := startsWell_nextStart h.inkAt_rest_zero (Pass.overlap_lt_cut hblank) hblank
  refine ⟨_, h, hblank, ⟨?_, ?_, h.inkAt_rest.1 hwell.inkAt⟩, hwell, rfl, rfl⟩
  · simp [h.rest, List.drop_drop]
  · rw [h.offset, h.rest, byteLength_take (Nat.le_add_right ..), List.drop_take, Nat.add_sub_cancel_left]

namespace Succeeds

variable {chunker : Chunker} {cs : List Char} {start s : Nat} {pass next : Pass}

/-- A pass leaves no ink for which the next one starts too late. -/
theorem start_le (h : Succeeds chunker cs start s pass next) {n : Nat} (hn : InkAt cs n)
    (hcut : start + pass.cut chunker ≤ n) : start + s ≤ n := by
  have hrest : InkAt pass.rest (n - start) :=
    h.passAt.inkAt_rest.2 (by rwa [Nat.add_sub_cancel' (by omega)])
  have := Nat.le_trans h.startsWell.le_nextInk (nextInk_le (by omega) hrest)
  omega

/-- Between the span of a pass and the start of the next one there is no ink. -/
theorem not_inkAt_between (h : Succeeds chunker cs start s pass next) {n : Nat}
    (hn : start + pass.reach chunker ≤ n) (hlt : n < start + s) : ¬ InkAt cs n := by
  intro hink
  by_cases hcut : n < start + pass.cut chunker
  · have := h.passAt.lt_reach chunker (by omega) hcut hink
    omega
  · have := h.start_le hink (by omega)
    omega

/-- The least cut of the next pass lies behind the first ink that the pass has left. -/
theorem nextInk_lt_leastCut (h : Succeeds chunker cs start s pass next) :
    nextInk next.rest (pass.cut chunker - s) < next.leastCut chunker := by
  simp only [Pass.leastCut, Chunking.leastCut, h.taken, Option.elim_some]
  omega

/-- The next pass takes more of the text. -/
theorem cut_lt_cut (h : Succeeds chunker cs start s pass next) :
    start + pass.cut chunker < start + s + next.cut chunker := by
  obtain ⟨n, hcut, hn⟩ := not_isBlank_drop.1 h.not_isBlank
  have hlt := (h.passAt.inkAt_rest.1 hn).lt
  have hpos := h.startsWell.pos
  have hsize := pass.cut_le_size chunker
  have hlen : next.rest.length = cs.length - (start + s) := by rw [h.nextAt.rest, List.length_drop]
  rcases next.cut_cases chunker with ⟨hc, -⟩ | ⟨-, ⟨hc, -⟩ | hc⟩
  · omega
  · -- The least cut was chosen to lie behind what the pass took.
    have := h.nextInk_lt_leastCut
    have := le_nextInk next.rest (pass.cut chunker - s)
    omega
  · omega

/-- No span ends before the one in front of it. -/
theorem reach_le_reach (h : Succeeds chunker cs start s pass next) :
    start + pass.reach chunker ≤ start + s + next.reach chunker := by
  have hcut := h.cut_lt_cut
  have hreach := pass.reach_le_cut chunker
  by_contra hlt
  have := h.nextAt.lt_reach chunker (by omega) (by omega) (h.passAt.inkAt_reach chunker)
  omega

/-- The span of the next pass ends behind that of the pass exactly when the window of the next pass
holds ink that stands behind it. -/
theorem reach_lt_reach_iff (h : Succeeds chunker cs start s pass next) :
    start + pass.reach chunker < start + s + next.reach chunker ↔
      ∃ n, InkAt cs n ∧ start + pass.reach chunker ≤ n ∧ start + s ≤ n ∧ n < start + s + chunker.size := by
  constructor
  · intro hlt
    have hpos := h.nextAt.reach_pos chunker
    have hcut := next.reach_le_cut chunker
    have hsize := next.cut_le_size chunker
    exact ⟨start + s + next.reach chunker - 1, h.nextAt.inkAt_reach chunker, by omega, by omega, by omega⟩
  · rintro ⟨n, hn, hge, hsn, hlt⟩
    have hcut : start + pass.cut chunker ≤ n := by
      by_contra hc
      have := h.passAt.lt_reach chunker (by omega) (by omega) hn
      omega
    have hrest : InkAt next.rest (n - (start + s)) :=
      h.nextAt.inkAt_rest.2 (by rwa [Nat.add_sub_cancel' hsn])
    rcases next.cut_cases chunker with ⟨hc, -⟩ | ⟨-, ⟨hc, -⟩ | hc⟩
    · have hrestlt := hrest.lt
      have := h.nextAt.lt_reach chunker hsn (by omega) hn
      omega
    · -- The cut is no less than the least one, which lies behind the first ink not taken before.
      have hink := inkAt_nextInk (not_isBlank_drop.2 ⟨_, (by omega : pass.cut chunker - s ≤ _), hrest⟩)
      have hle := le_nextInk next.rest (pass.cut chunker - s)
      have hleast := h.nextInk_lt_leastCut
      have := h.nextAt.lt_reach chunker (by omega) (by omega) (h.nextAt.inkAt_rest.1 hink)
      have := pass.reach_le_cut chunker
      omega
    · have := h.nextAt.lt_reach chunker hsn (by omega) hn
      omega

/-- With an overlap, a span of one character is all that the window of its pass holds. -/
theorem blank_after_of_reach_eq_one (h : Succeeds chunker cs start s pass next) (hov : 0 < chunker.overlap)
    (hone : pass.reach chunker = 1) :
    start + chunker.size < cs.length ∧ ∀ k, start + 1 ≤ k → k < start + chunker.size → ¬ InkAt cs k := by
  obtain ⟨n, hcut, hn⟩ := not_isBlank_drop.1 h.not_isBlank
  have hpos := h.passAt.cut_pos chunker
  have hlen : pass.rest.length = cs.length - start := by rw [h.passAt.rest, List.length_drop]
  rcases pass.cut_cases chunker with ⟨hc, -⟩ | ⟨hlt, ⟨hc, -⟩ | hc⟩
  · have := hn.lt
    omega
  · -- Such a cut leaves a second character of ink in the span.
    have hsecond := inkAt_nextInk (not_isBlank_drop.2 ⟨n, (by omega : 1 ≤ n), hn⟩)
    have hleast : nextInk pass.rest 1 < pass.leastCut chunker := by
      simp only [Pass.leastCut, Chunking.leastCut, if_pos hov]
      omega
    have := (inkAt_take.2 ⟨(by omega : _ < pass.cut chunker), hsecond⟩).lt_inkEnd
    have := le_nextInk pass.rest 1
    unfold Pass.reach at hone
    omega
  · refine ⟨by omega, fun k hk hks hink => ?_⟩
    have := h.passAt.lt_reach chunker (by omega) (by omega) hink
    omega

end Succeeds

/-! ## Along the passes of a text -/

/-- The passes from one on, each followed by its next, up to one after which nothing is left. -/
inductive Course (chunker : Chunker) : Pass → List Pass → Prop
  | last {pass : Pass} : pass.next? chunker = none → Course chunker pass [pass]
  | step {pass next : Pass} {passes : List Pass} :
      pass.next? chunker = some next → Course chunker next passes → Course chunker pass (pass :: passes)

/-- The first pass starts at the first ink of the text. -/
theorem first?_spec {cs : List Char} {pass : Pass} (h : Pass.first? cs = some pass) :
    pass.At cs (nextInk cs 0) := by
  unfold Pass.first? at h
  split at h
  · simp at h
  next hblank =>
  obtain rfl := Option.some.inj h
  have hnext : nextInk cs 0 = (cs.takeWhile isSpace).length := by simp [nextInk]
  refine ⟨?_, ?_, inkAt_nextInk (by simpa using hblank)⟩
  · have := congrArg (List.drop (cs.takeWhile isSpace).length) (takeWhile_append_trimStart cs)
    rwa [List.drop_left, ← hnext] at this
  · rw [hnext, ← List.prefix_iff_eq_take.1 (List.takeWhile_prefix isSpace)]

/-- As many passes as there are characters left are enough. -/
theorem course_run {chunker : Chunker} {cs : List Char} {bound start : Nat} {pass : Pass}
    (h : pass.At cs start) (hbound : cs.length ≤ bound + start) :
    Course chunker pass (Pass.run chunker bound pass) := by
  induction bound generalizing start pass with
  | zero =>
    have := h.ink.lt
    omega
  | succ bound ih =>
    rw [Pass.run]
    split
    · next hnone => exact .last hnone
    · next next hnext =>
      obtain ⟨s, hs⟩ := h.succeeds hnext
      have := hs.startsWell.pos
      exact .step hnext (ih hs.nextAt (by omega))

theorem first?_eq_none {cs : List Char} (h : Pass.first? cs = none) : isBlank cs := by
  by_contra hblank
  simp [Pass.first?, hblank] at h

theorem course_passes (chunker : Chunker) {cs : List Char} {pass : Pass} (h : Pass.first? cs = some pass) :
    Course chunker pass (passes chunker cs) := by
  rw [passes, h]
  exact course_run (first?_spec h) (by omega)

/-- The passes over a text are a course from its first ink, or there is no ink. -/
theorem passes_cases (chunker : Chunker) (cs : List Char) :
    (isBlank cs ∧ passes chunker cs = []) ∨
      ∃ pass, pass.At cs (nextInk cs 0) ∧ Course chunker pass (passes chunker cs) := by
  cases hfirst : Pass.first? cs with
  | none => exact .inl ⟨first?_eq_none hfirst, by rw [passes, hfirst]⟩
  | some pass => exact .inr ⟨pass, first?_spec hfirst, course_passes chunker hfirst⟩

/-- Along a course every pass starts at ink of the text. -/
theorem Course.passAt {chunker : Chunker} {cs : List Char} {start : Nat} {pass : Pass} {passes : List Pass}
    (hcourse : Course chunker pass passes) (h : pass.At cs start) :
    ∀ p ∈ passes, ∃ start, p.At cs start := by
  induction hcourse generalizing start with
  | last _ => simpa using ⟨start, h⟩
  | step hnext _ ih =>
    obtain ⟨s, hs⟩ := h.succeeds hnext
    intro p hp
    rcases List.mem_cons.1 hp with rfl | hp
    · exact ⟨start, h⟩
    · exact ih hs.nextAt p hp

/-- Along a course each pass succeeds the one before. -/
theorem Course.isChain {chunker : Chunker} {cs : List Char} {start : Nat} {pass : Pass} {passes : List Pass}
    (hcourse : Course chunker pass passes) (h : pass.At cs start) :
    passes.IsChain fun p q => ∃ start s, Succeeds chunker cs start s p q := by
  induction hcourse generalizing start with
  | last _ => exact .singleton _
  | step hnext hrest ih =>
    obtain ⟨s, hs⟩ := h.succeeds hnext
    have htail := ih hs.nextAt
    cases hrest with
    | last _ => exact .cons_cons ⟨start, s, hs⟩ htail
    | step _ _ => exact .cons_cons ⟨start, s, hs⟩ htail

theorem exists_passAt {chunker : Chunker} {cs : List Char} {pass : Pass} (h : pass ∈ passes chunker cs) :
    ∃ start, pass.At cs start := by
  rcases passes_cases chunker cs with ⟨-, hnil⟩ | ⟨first, hat, hcourse⟩
  · simp [hnil] at h
  · exact hcourse.passAt hat pass h

theorem isChain_passes (chunker : Chunker) (cs : List Char) :
    (passes chunker cs).IsChain fun pass next => ∃ start s, Succeeds chunker cs start s pass next := by
  rcases passes_cases chunker cs with ⟨-, hnil⟩ | ⟨pass, hat, hcourse⟩
  · simp [hnil]
  · exact hcourse.isChain hat

/-- Every pass gives a span, so the spans of a text are those of its passes. -/
theorem split_eq_map (chunker : Chunker) (text : String) :
    chunker.split text = (passes chunker text.toList).map (·.span chunker) := by
  rw [Chunker.split, ← List.filterMap_eq_map]
  refine List.filterMap_congr fun pass hpass => ?_
  obtain ⟨start, hat⟩ := exists_passAt hpass
  exact hat.span?_eq chunker

/-- Every pass has its span, and the spans are those of the text. -/
theorem map_span?_passes (chunker : Chunker) (text : String) :
    (passes chunker text.toList).map (·.span? chunker) = (chunker.split text).map some := by
  rw [split_eq_map, List.map_map]
  refine List.map_congr_left fun pass hpass => ?_
  obtain ⟨start, hat⟩ := exists_passAt hpass
  exact hat.span?_eq chunker

/-- What holds of the spans of any two consecutive passes holds of any two consecutive spans. -/
theorem isChain_split {chunker : Chunker} {text : String} {R : Span → Span → Prop}
    (h : ∀ start s pass next, Succeeds chunker text.toList start s pass next →
      R (pass.span chunker) (next.span chunker)) :
    (chunker.split text).IsChain R := by
  rw [split_eq_map, List.isChain_map]
  refine (isChain_passes chunker text.toList).imp fun pass next hsucc => ?_
  obtain ⟨start, s, hs⟩ := hsucc
  exact h start s pass next hs

end GroundedQA.Chunking
