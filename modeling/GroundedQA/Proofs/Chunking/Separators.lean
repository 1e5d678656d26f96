import GroundedQA.Proofs.Chunking.Boundaries
/-!
# Cuts and separators

Which cut the rule for the end of a chunk chooses, said of the separators that stand in the window. A level of
separators is usable at the positions at which one of them ends, far enough into the window; `lastEnd?` finds
the last of these (`lastEnd?_eq_some_iff`). So a cut lies before a position exactly when the first usable level
is not usable from there on (`cutPoint_lt_iff`).
-/

namespace GroundedQA.Chunking

open Text

/-- One of the separators ends at position `n` of the window, which is no less than `least`. -/
def UsableEnd (separators : List (List Char)) (window : List Char) (least n : Nat) : Prop :=
  least ≤ n ∧ ∃ before after, ∃ sep ∈ separators, window = before ++ sep ++ after ∧ n = before.length + sep.length

/-- The first level of separators that has a usable end in the window has none at position `n` or later. -/
def CutBefore (window : List Char) (least n : Nat) : Prop :=
  ∃ higher level lower, separatorLevels = higher ++ level :: lower ∧
    (∀ other ∈ higher, ∀ m, ¬UsableEnd other window least m) ∧
    (∃ m, UsableEnd level window least m) ∧ ∀ m, UsableEnd level window least m → m < n

variable {separators : List (List Char)} {window : List Char} {least n : Nat}

theorem mem_separatorEnds (hne : [] ∉ separators) {start : Nat} {cs : List Char} :
    n ∈ separatorEnds separators start cs ↔
      ∃ before after, ∃ sep ∈ separators, cs = before ++ sep ++ after ∧ n = start + before.length + sep.length := by
  induction cs generalizing start with
  | nil =>
    simp only [separatorEnds, List.not_mem_nil, false_iff]
    rintro ⟨before, after, sep, hsep, hcs, -⟩
    obtain rfl : sep = [] := by simp_all
    exact hne hsep
  | cons c cs ih =>
    rw [separatorEnds, List.mem_append, ih]
    constructor
    · rintro (h | ⟨before, after, sep, hsep, rfl, rfl⟩)
      · obtain ⟨sep, hsep, rfl⟩ := List.mem_map.1 h
        obtain ⟨hsep, hprefix⟩ := List.mem_filter.1 hsep
        obtain ⟨after, hafter⟩ := List.isPrefixOf_iff_prefix.1 hprefix
        exact ⟨[], after, sep, hsep, hafter.symm, rfl⟩
      · exact ⟨c :: before, after, sep, hsep, rfl, by rw [List.length_cons]; omega⟩
    · rintro ⟨before, after, sep, hsep, hcs, rfl⟩
      cases before with
      | nil =>
        have hprefix : sep.isPrefixOf (c :: cs) := List.isPrefixOf_iff_prefix.2 ⟨after, hcs.symm⟩
        exact .inl (List.mem_map.2 ⟨sep, List.mem_filter.2 ⟨hsep, hprefix⟩, rfl⟩)
      | cons b before =>
        exact .inr ⟨before, after, sep, hsep, (List.cons.inj hcs).2, by rw [List.length_cons]; omega⟩

theorem mem_usableEnds (hne : [] ∉ separators) :
    n ∈ (separatorEnds separators 0 window).filter (least ≤ ·) ↔ UsableEnd separators window least n := by
  rw [List.mem_filter, mem_separatorEnds hne, UsableEnd, and_comm]
  simp

/-- The last usable end of a level is found, if there is one. -/
theorem lastEnd?_eq_some_iff (hne : [] ∉ separators) :
    lastEnd? window least separators = some n ↔
      UsableEnd separators window least n ∧ ∀ m, UsableEnd separators window least m → m ≤ n := by
  rw [lastEnd?, List.max?_eq_some_iff]
  simp only [mem_usableEnds hne]

theorem lastEnd?_eq_none_iff (hne : [] ∉ separators) :
    lastEnd? window least separators = none ↔ ∀ m, ¬UsableEnd separators window least m := by
  rw [lastEnd?, List.max?_eq_none_iff, List.eq_nil_iff_forall_not_mem]
  simp only [mem_usableEnds hne]

/-- A separator is never empty. -/
theorem nil_notMem_of_mem_separatorLevels {level : List (List Char)} (h : level ∈ separatorLevels) : [] ∉ level := by
  have hall : ∀ level ∈ separatorLevels, [] ∉ level := by decide
  exact hall level h

/-- A window is cut before one of its positions exactly when its first usable level is not usable from there on. -/
theorem cutPoint_lt_iff (hn : n ≤ window.length) : cutPoint window least < n ↔ CutBefore window least n := by
  unfold cutPoint CutBefore
  constructor
  · intro hlt
    cases hfound : separatorLevels.findSome? (lastEnd? window least) with
    | none =>
      rw [hfound, Option.getD_none] at hlt
      omega
    | some last =>
      rw [hfound, Option.getD_some] at hlt
      obtain ⟨higher, level, lower, hlevels, hlast, hhigher⟩ := List.findSome?_eq_some_iff.1 hfound
      have hne : ∀ other ∈ higher ++ level :: lower, [] ∉ other :=
        fun other hother => nil_notMem_of_mem_separatorLevels (hlevels ▸ hother)
      obtain ⟨husable, hlargest⟩ := (lastEnd?_eq_some_iff (hne level (by simp))).1 hlast
      refine ⟨higher, level, lower, hlevels, fun other hother => ?_, ⟨last, husable⟩, fun m hm => ?_⟩
      · exact (lastEnd?_eq_none_iff (hne other (List.mem_append_left _ hother))).1 (hhigher other hother)
      · exact Nat.lt_of_le_of_lt (hlargest m hm) hlt
  · rintro ⟨higher, level, lower, hlevels, hhigher, ⟨m, hm⟩, hbefore⟩
    have hne : ∀ other ∈ higher ++ level :: lower, [] ∉ other :=
      fun other hother => nil_notMem_of_mem_separatorLevels (hlevels ▸ hother)
    cases hlast : lastEnd? window least level with
    | none => exact absurd hm ((lastEnd?_eq_none_iff (hne level (by simp))).1 hlast m)
    | some last =>
      have hfound : separatorLevels.findSome? (lastEnd? window least) = some last :=
        List.findSome?_eq_some_iff.2 ⟨higher, level, lower, hlevels, hlast, fun other hother =>
          (lastEnd?_eq_none_iff (hne other (List.mem_append_left _ hother))).2 (hhigher other hother)⟩
      rw [hfound, Option.getD_some]
      exact hbefore last ((lastEnd?_eq_some_iff (hne level (by simp))).1 hlast).1

end GroundedQA.Chunking
