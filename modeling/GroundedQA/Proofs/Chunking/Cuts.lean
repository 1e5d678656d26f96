import GroundedQA.Proofs.Chunking.Separators
import GroundedQA.Proofs.Chunking.Succession
/-!
# The cut of a chunk in its text

Where the cut of a chunk lies, said of the text and not of the window. A separator ends at a position when the
text from the start of the chunk up to there ends with it (`EndsAt`). `cutPoint` looks at all ends of a level and
takes the last; `searchCut` goes down the levels and looks only at the last place of each separator, and finds
the same cut (`searchCut_eq_cutPoint`).
-/

namespace GroundedQA.Chunking

open Text

/-- The text from `start` up to position `n` ends with one of the separators, and `n` is a position from `least`
up to `edge`. -/
structure EndsAt (separators : List (List Char)) (cs : List Char) (start least edge n : Nat) : Prop where
  least_le : least ≤ n
  le_edge : n ≤ edge
  ends : ∃ sep ∈ separators, sep <:+ (cs.take n).drop start

/-- The last position of the text at which it goes on with `sep`. -/
def lastAt? (sep : List Char) : List Char → Option Nat
  | [] => none
  | c :: cs =>
    match lastAt? sep cs with
    | some n => some (n + 1)
    | none => if sep.isPrefixOf (c :: cs) then some 0 else none

/-- The largest end, at least `least`, among the ends of the last place of each separator. -/
def searchEnd? (window : List Char) (least : Nat) (separators : List (List Char)) : Option Nat :=
  ((separators.filterMap fun sep => (lastAt? sep window).map (· + sep.length)).filter (least ≤ ·)).max?

/-- The cut that is found level by level; the edge of the window when no level is left. -/
def searchCut (window : List Char) (least : Nat) : List (List (List Char)) → Nat
  | [] => window.length
  | separators :: lower =>
    match searchEnd? window least separators with
    | some n => n
    | none => searchCut window least lower

/-! ## The last place of a separator -/

variable {separators : List (List Char)} {window sep : List Char} {least n : Nat}

/-- A place of the separator that is found is one. -/
theorem lastAt?_spec (h : lastAt? sep window = some n) :
    ∃ before after, window = before ++ sep ++ after ∧ before.length = n := by
  induction window generalizing n with
  | nil => simp [lastAt?] at h
  | cons c cs ih =>
    rw [lastAt?] at h
    split at h
    · next m hm =>
      obtain ⟨before, after, rfl, rfl⟩ := ih hm
      exact ⟨c :: before, after, rfl, by simpa using h⟩
    · split at h
      · next hbegins =>
        obtain ⟨after, hafter⟩ := List.isPrefixOf_iff_prefix.1 hbegins
        exact ⟨[], after, hafter.symm, by simpa using h⟩
      · simp at h

/-- No place of the separator lies behind the one that is found. -/
theorem le_lastAt? (hsep : sep ≠ []) {before after : List Char} (h : window = before ++ sep ++ after) :
    ∃ m, lastAt? sep window = some m ∧ before.length ≤ m := by
  induction window generalizing before with
  | nil => simp_all
  | cons c cs ih =>
    rw [lastAt?]
    cases before with
    | nil =>
      have hbegins : sep.isPrefixOf (c :: cs) := List.isPrefixOf_iff_prefix.2 ⟨after, h.symm⟩
      cases lastAt? sep cs with
      | none => exact ⟨0, by simp [hbegins], Nat.le_refl _⟩
      | some m => exact ⟨m + 1, rfl, Nat.zero_le _⟩
    | cons b before =>
      obtain ⟨m, hm, hle⟩ := ih (List.cons.inj h).2
      exact ⟨m + 1, by rw [hm], Nat.succ_le_succ hle⟩

theorem mem_searchEnds :
    n ∈ (separators.filterMap fun sep => (lastAt? sep window).map (· + sep.length)).filter (least ≤ ·) ↔
      least ≤ n ∧ ∃ sep ∈ separators, ∃ m, lastAt? sep window = some m ∧ m + sep.length = n := by
  simp only [List.mem_filter, List.mem_filterMap, Option.map_eq_some_iff, decide_eq_true_eq, and_comm]

/-- Only the last place of each separator of a level need be looked at. -/
theorem searchEnd?_eq_lastEnd? (hne : [] ∉ separators) :
    searchEnd? window least separators = lastEnd? window least separators := by
  -- What the search looks at is usable, and from no usable end is there something larger left out.
  have husable {n : Nat} (hn : least ≤ n ∧ ∃ sep ∈ separators, ∃ m, lastAt? sep window = some m ∧ m + sep.length = n) :
      UsableEnd separators window least n := by
    obtain ⟨hle, sep, hsep, m, hm, rfl⟩ := hn
    obtain ⟨before, after, hwindow, rfl⟩ := lastAt?_spec hm
    exact ⟨hle, before, after, sep, hsep, hwindow, rfl⟩
  have hlooked {n : Nat} (hn : UsableEnd separators window least n) :
      ∃ k, n ≤ k ∧ least ≤ k ∧ ∃ sep ∈ separators, ∃ m, lastAt? sep window = some m ∧ m + sep.length = k := by
    obtain ⟨hle, before, after, sep, hsep, hwindow, rfl⟩ := hn
    obtain ⟨m, hm, hlast⟩ := le_lastAt? (fun h => hne (h ▸ hsep)) hwindow
    exact ⟨m + sep.length, by omega, by omega, sep, hsep, m, hm, rfl⟩
  ext n
  rw [searchEnd?, List.max?_eq_some_iff, lastEnd?_eq_some_iff hne]
  simp only [mem_searchEnds]
  constructor
  · rintro ⟨hn, hmax⟩
    refine ⟨husable hn, fun m hm => ?_⟩
    obtain ⟨k, hmk, hk⟩ := hlooked hm
    exact Nat.le_trans hmk (hmax k hk)
  · rintro ⟨hn, hmax⟩
    obtain ⟨k, hnk, hk⟩ := hlooked hn
    obtain rfl : n = k := Nat.le_antisymm hnk (hmax k (husable hk))
    exact ⟨hk, fun m hm => hmax m (husable hm)⟩

/-- The search down the levels finds the cut point. -/
theorem searchCut_eq_cutPoint (window : List Char) (least : Nat) :
    searchCut window least separatorLevels = cutPoint window least := by
  have hlevels {levels : List (List (List Char))} (hne : ∀ level ∈ levels, [] ∉ level) :
      searchCut window least levels = (levels.findSome? (lastEnd? window least)).getD window.length := by
    induction levels with
    | nil => rfl
    | cons level lower ih =>
      rw [searchCut, searchEnd?_eq_lastEnd? (hne level List.mem_cons_self), List.findSome?_cons]
      cases lastEnd? window least level with
      | some n => rfl
      | none => exact ih fun other hother => hne other (List.mem_cons_of_mem _ hother)
  exact hlevels fun level => nil_notMem_of_mem_separatorLevels

/-! ## Ends in the text -/

/-- A usable end is a position of the window up to which it ends with a separator. -/
theorem usableEnd_iff :
    UsableEnd separators window least n ↔
      least ≤ n ∧ n ≤ window.length ∧ ∃ sep ∈ separators, sep <:+ window.take n := by
  constructor
  · rintro ⟨hle, before, after, sep, hsep, rfl, rfl⟩
    refine ⟨hle, by simp, sep, hsep, before, ?_⟩
    rw [← List.length_append, List.take_left]
  · rintro ⟨hle, hlen, sep, hsep, before, hbefore⟩
    refine ⟨hle, before, window.drop n, sep, hsep, ?_, ?_⟩
    · rw [hbefore, List.take_append_drop]
    · have := congrArg List.length hbefore
      rw [List.length_append, List.length_take] at this
      omega

/-- The usable ends of a window are the ends of its separators in the text. -/
theorem usableEnd_window_iff {cs : List Char} {start size : Nat} (hedge : start + size ≤ cs.length) :
    UsableEnd separators ((cs.drop start).take size) least n ↔
      EndsAt separators cs start (start + least) (start + size) (start + n) := by
  have hlen : ((cs.drop start).take size).length = size := by
    rw [List.length_take, List.length_drop]
    omega
  have htake (hn : n ≤ size) : ((cs.drop start).take size).take n = (cs.take (start + n)).drop start := by
    rw [List.take_take, Nat.min_eq_left hn, List.drop_take, Nat.add_sub_cancel_left]
  rw [usableEnd_iff, hlen]
  constructor
  · rintro ⟨hle, hn, sep, hsep, hends⟩
    exact ⟨by omega, by omega, sep, hsep, htake hn ▸ hends⟩
  · rintro ⟨hle, hn, sep, hsep, hends⟩
    exact ⟨by omega, by omega, sep, hsep, htake (by omega) ▸ hends⟩

/-- The cut at the last end of the best level: of the levels with an end in the text between `least` and `edge`,
the first; and the edge when there is none. -/
def IsBestCut (cs : List Char) (start least edge cut : Nat) : Prop :=
  (∃ higher level lower, separatorLevels = higher ++ level :: lower ∧
    (∀ other ∈ higher, ∀ n, ¬EndsAt other cs start least edge n) ∧
    EndsAt level cs start least edge cut ∧ ∀ n, EndsAt level cs start least edge n → n ≤ cut) ∨
  (∀ level ∈ separatorLevels, ∀ n, ¬EndsAt level cs start least edge n) ∧ cut = edge

theorem isBestCut_cutPoint {cs : List Char} {start size : Nat} (hedge : start + size ≤ cs.length) (least : Nat) :
    IsBestCut cs start (start + least) (start + size)
      (start + cutPoint ((cs.drop start).take size) least) := by
  have hlen : ((cs.drop start).take size).length = size := by
    rw [List.length_take, List.length_drop]
    omega
  -- A separator ends at no position before the start of the chunk.
  have hends {level : List (List Char)} {n : Nat} (hn : EndsAt level cs start (start + least) (start + size) n) :
      ∃ k, n = start + k ∧ UsableEnd level ((cs.drop start).take size) least k := by
    have hle := hn.least_le
    obtain ⟨k, rfl⟩ := Nat.exists_eq_add_of_le (Nat.le_trans (Nat.le_add_right ..) hle)
    exact ⟨k, rfl, (usableEnd_window_iff hedge).2 hn⟩
  have hnone {level : List (List Char)} (hlevel : level ∈ separatorLevels)
      (h : lastEnd? ((cs.drop start).take size) least level = none) (n : Nat) :
      ¬EndsAt level cs start (start + least) (start + size) n := by
    intro hn
    obtain ⟨k, -, hk⟩ := hends hn
    exact (lastEnd?_eq_none_iff (nil_notMem_of_mem_separatorLevels hlevel)).1 h k hk
  unfold cutPoint
  cases hfound : separatorLevels.findSome? (lastEnd? ((cs.drop start).take size) least) with
  | none =>
    rw [List.findSome?_eq_none_iff] at hfound
    refine .inr ⟨fun level hlevel => hnone hlevel (hfound level hlevel), ?_⟩
    rw [Option.getD_none, hlen]
  | some last =>
    obtain ⟨higher, level, lower, hlevels, hlast, hhigher⟩ := List.findSome?_eq_some_iff.1 hfound
    have hlevel : level ∈ separatorLevels := by simp [hlevels]
    obtain ⟨husable, hlargest⟩ := (lastEnd?_eq_some_iff (nil_notMem_of_mem_separatorLevels hlevel)).1 hlast
    refine .inl ⟨higher, level, lower, hlevels, fun other hother => ?_, ?_, fun n hn => ?_⟩
    · exact hnone (by simp [hlevels, hother]) (hhigher other hother)
    · exact (usableEnd_window_iff hedge).1 husable
    · obtain ⟨k, rfl, hk⟩ := hends hn
      exact Nat.add_le_add_left (hlargest k hk) start

/-- A best cut is never at a lower level than one that has an end. -/
theorem IsBestCut.endsAt {cs : List Char} {start least edge cut : Nat} (h : IsBestCut cs start least edge cut)
    {higher lower : List (List (List Char))} {level : List (List Char)}
    (hlevels : separatorLevels = higher ++ level :: lower) {n : Nat} (hn : EndsAt level cs start least edge n) :
    ∃ best ∈ higher ++ [level], EndsAt best cs start least edge cut := by
  rcases h with ⟨above, best, below, hbest, habove, hcut, -⟩ | ⟨hnone, -⟩
  · refine ⟨best, ?_, hcut⟩
    rw [hlevels, List.append_eq_append_iff] at hbest
    rcases hbest with ⟨between, rfl, hlower⟩ | ⟨between, rfl, hlower⟩
    · -- The best level is the given one or stands below it; below it the given one would have no end.
      cases between with
      | nil => simp_all
      | cons other between =>
        obtain rfl : level = other := (List.cons.inj hlower).1
        exact absurd hn (habove level (by simp) n)
    · cases between with
      | nil => simp_all
      | cons other between =>
        obtain rfl : best = other := (List.cons.inj hlower).1
        simp
  · exact absurd hn (hnone level (by simp [hlevels]) n)

/-! ## The cuts of a text -/

/-- A pass starts at one position of the text only. -/
theorem Pass.At.start_unique {cs : List Char} {start other : Nat} {pass : Pass} (h : pass.At cs start)
    (h' : pass.At cs other) : start = other := by
  have hoffset := h.offset.symm.trans h'.offset
  have hle := (byteLength_take_le_iff h.ink.lt.le).1 hoffset.le
  have hge := (byteLength_take_le_iff h'.ink.lt.le).1 hoffset.ge
  exact Nat.le_antisymm hle hge

/-- The spans of a text are those of its passes. Every chunk that is not the rest of the text ends at the best cut of
its window: the last place, from the least acceptable one up to the edge, at which a separator of the best level that
has any such place ends; at the edge when no level has one. That is the cut which the search down the levels finds.
When a separator of some level ends there in the window, the chunk ends with one of that level or of a higher one. -/
theorem cut_at_best_separator (chunker : Chunker) (text : String) :
    (passes chunker text.toList).map (·.span? chunker) = (chunker.split text).map some ∧
    ∀ pass ∈ passes chunker text.toList, ∃ start, pass.At text.toList start ∧
      pass.span? chunker = some ⟨byteLength (text.toList.take start),
        trimEnd ((text.toList.take (start + pass.cut chunker)).drop start)⟩ ∧
      (start + chunker.size < text.toList.length →
        pass.cut chunker = searchCut ((text.toList.drop start).take chunker.size) (pass.leastCut chunker)
          separatorLevels ∧
        IsBestCut text.toList start (start + pass.leastCut chunker) (start + chunker.size)
          (start + pass.cut chunker) ∧
        ∀ higher level lower, separatorLevels = higher ++ level :: lower →
          (∃ n, EndsAt level text.toList start (start + pass.leastCut chunker) (start + chunker.size) n) →
          ∃ best ∈ higher ++ [level], EndsAt best text.toList start (start + pass.leastCut chunker)
            (start + chunker.size) (start + pass.cut chunker)) := by
  refine ⟨map_span?_passes chunker text, fun pass hpass => ?_⟩
  obtain ⟨start, hat⟩ := exists_passAt hpass
  have hspan : pass.span chunker = ⟨byteLength (text.toList.take start),
      trimEnd ((text.toList.take (start + pass.cut chunker)).drop start)⟩ := by
    rw [Pass.span, hat.offset, hat.rest, List.drop_take, Nat.add_sub_cancel_left]
  refine ⟨start, hat, hspan ▸ hat.span?_eq chunker, fun hedge => ?_⟩
  have hcut : pass.cut chunker = cutPoint ((text.toList.drop start).take chunker.size) (pass.leastCut chunker) := by
    have hrest : ¬(pass.rest.drop chunker.size).isEmpty := by
      rw [List.isEmpty_iff, List.drop_eq_nil_iff, hat.rest, List.length_drop]
      omega
    rw [Pass.cut, if_neg hrest, hat.rest]
  have hbest : IsBestCut text.toList start (start + pass.leastCut chunker) (start + chunker.size)
      (start + pass.cut chunker) := by
    rw [hcut]
    exact isBestCut_cutPoint hedge.le _
  refine ⟨?_, hbest, ?_⟩
  · rw [hcut, searchCut_eq_cutPoint]
  · rintro higher level lower hlevels ⟨n, hn⟩
    exact hbest.endsAt hlevels hn

/-- The window of the first chunk ends after a space, but a sentence ends before. -/
theorem cut_at_sentence_end :
    let chunker : Chunker := ⟨8, 2, by decide⟩
    let pass : Pass := ⟨0, "Ab. cd ef gh".toList, none⟩
    pass ∈ passes chunker "Ab. cd ef gh".toList ∧ 0 + chunker.size < "Ab. cd ef gh".toList.length ∧
      pass.span? chunker = some ⟨0, "Ab.".toList⟩ ∧ ⟨0, "Ab.".toList⟩ ∈ chunker.split "Ab. cd ef gh" ∧
      IsBestCut "Ab. cd ef gh".toList 0 3 8 4 := by
  intro chunker pass
  have hpass : pass ∈ passes chunker "Ab. cd ef gh".toList := by decide
  have hat : pass.At "Ab. cd ef gh".toList 0 := ⟨rfl, rfl, 'A', rfl, by decide⟩
  obtain ⟨hspans, hcuts⟩ := cut_at_best_separator chunker "Ab. cd ef gh"
  obtain ⟨start, hstart, hspan, hbest⟩ := hcuts pass hpass
  obtain rfl := hstart.start_unique hat
  have hmem := List.mem_map_of_mem (f := (·.span? chunker)) hpass
  rw [hspans, hspan] at hmem
  obtain ⟨span, hsplit, hsame⟩ := List.mem_map.1 hmem
  obtain rfl := Option.some.inj hsame
  exact ⟨hpass, by decide, hspan, hsplit, (hbest (by decide)).2.1⟩

end GroundedQA.Chunking
