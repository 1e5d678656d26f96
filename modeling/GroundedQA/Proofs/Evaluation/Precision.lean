import GroundedQA.Proofs.Evaluation.Judges
/-!
# Average precision rewards early hits

The precisions at the ranks with a yes add up rank by rank (`sumPrecision_concat`), so what their sum can be is shown
from the first rank to the last: it is `0` only without a yes, it is the number of yes only when no yes stands behind a
no (`YesFirst`), and it grows when a yes is moved up by one rank. Their mean, which is what the program computes over
exact numbers, inherits all of this (`averagePrecision_rewardsEarlyYes`).
-/

namespace GroundedQA.Evaluation

variable {verdicts others : List Bool} {verdict : Bool}

/-! ## Shares -/

/-- The share does not depend on the order. -/
theorem shareOfYes_perm (h : verdicts.Perm others) : shareOfYes verdicts = shareOfYes others := by
  rw [shareOfYes, shareOfYes, h.count_eq, h.length_eq]

theorem shareOfYes_pos (h : true ∈ verdicts) : 0 < shareOfYes verdicts := by
  have hcount : 0 < verdicts.count true := List.count_pos_iff.2 h
  have hlength : 0 < verdicts.length := List.length_pos_of_mem h
  exact div_pos (Nat.cast_pos.2 hcount) (Nat.cast_pos.2 hlength)

theorem shareOfYes_eq_one_iff (hne : verdicts ≠ []) :
    shareOfYes verdicts = 1 ↔ ∀ verdict ∈ verdicts, verdict = true := by
  have hlength : (verdicts.length : ℚ) ≠ 0 := Nat.cast_ne_zero.2 (List.length_pos_iff.2 hne).ne'
  rw [shareOfYes, div_eq_one_iff_eq hlength, Nat.cast_inj, List.count_eq_length]
  simp only [eq_comm (a := true)]

/-- A yes further up has the greater share of yes before and at it. -/
theorem shareOfYes_lt_of_earlier (before : List Bool) :
    shareOfYes (before ++ [false, true]) < shareOfYes (before ++ [true]) := by
  have hcount : (before ++ [false, true]).count true = before.count true + 1 := by simp
  have hcount' : (before ++ [true]).count true = before.count true + 1 := by simp
  rw [shareOfYes, shareOfYes, hcount, hcount', List.length_append, List.length_append]
  exact div_lt_div_of_pos_left (Nat.cast_pos.2 (Nat.succ_pos _)) (Nat.cast_pos.2 (Nat.succ_pos _))
    (Nat.cast_lt.2 (Nat.lt_succ_self _))

/-! ## Verdicts in which the yes stand first -/

/-- No yes stands behind a no. -/
def YesFirst (verdicts : List Bool) : Prop :=
  verdicts.Pairwise fun earlier later => later = true → earlier = true

theorem yesFirst_concat :
    YesFirst (verdicts ++ [verdict]) ↔ YesFirst verdicts ∧ (verdict = true → ∀ earlier ∈ verdicts, earlier = true) := by
  rw [YesFirst, List.pairwise_append]
  simp only [List.pairwise_singleton, List.mem_singleton, forall_eq, true_and]
  exact and_congr_right fun _ => ⟨fun h hverdict earlier hmem => h earlier hmem hverdict,
    fun h earlier hmem hverdict => h hverdict earlier hmem⟩

/-- Such verdicts are a block of yes with only no behind it. -/
theorem yesFirst_iff : YesFirst verdicts ↔ ∃ yes no, verdicts = List.replicate yes true ++ List.replicate no false := by
  constructor
  · intro h
    induction verdicts with
    | nil => exact ⟨0, 0, rfl⟩
    | cons first rest ih =>
      obtain ⟨hfirst, hrest⟩ := List.pairwise_cons.1 h
      cases first with
      | true =>
        obtain ⟨yes, no, rfl⟩ := ih hrest
        exact ⟨yes + 1, no, rfl⟩
      | false =>
        -- Behind a first no there are only no.
        have hno : rest = List.replicate rest.length false := by
          refine List.eq_replicate_iff.2 ⟨rfl, fun later hlater => Bool.eq_false_iff.2 fun hyes => ?_⟩
          cases hfirst later hlater hyes
        exact ⟨0, rest.length + 1, congrArg (false :: ·) hno⟩
  · rintro ⟨yes, no, rfl⟩
    refine List.pairwise_append.2 ⟨?_, ?_, ?_⟩
    · exact List.pairwise_replicate.2 (.inr id)
    · exact List.pairwise_replicate.2 (.inr id)
    · intro earlier hearlier _ _ _
      exact List.eq_of_mem_replicate hearlier

/-! ## The sum of the precisions -/

theorem sumPrecision_eq_zero_iff (verdicts : List Bool) : sumPrecision verdicts = 0 ↔ true ∉ verdicts := by
  induction verdicts using List.reverseRecOn with
  | nil => simp [sumPrecision]
  | append_singleton verdicts verdict ih =>
    rw [sumPrecision_concat]
    cases verdict with
    | false => simpa using ih
    | true =>
      have hlast : true ∈ verdicts ++ [true] := by simp
      have hpos := add_pos_of_nonneg_of_pos (sumPrecision_bounds verdicts).1 (shareOfYes_pos hlast)
      rw [if_pos rfl]
      exact iff_of_false hpos.ne' (not_not_intro hlast)

/-- Each precision is `1` at most, and all of them are only when the yes stand first. -/
theorem sumPrecision_eq_count_iff (verdicts : List Bool) :
    sumPrecision verdicts = verdicts.count true ↔ YesFirst verdicts := by
  induction verdicts using List.reverseRecOn with
  | nil => simp [sumPrecision, YesFirst]
  | append_singleton verdicts verdict ih =>
    rw [sumPrecision_concat, yesFirst_concat, ← ih]
    cases verdict with
    | false => simp
    | true =>
      have hsum := (sumPrecision_bounds verdicts).2
      have hshare := (shareOfYes_mem_unit (verdicts ++ [true])).2
      have hone : shareOfYes (verdicts ++ [true]) = 1 ↔ ∀ earlier ∈ verdicts, earlier = true := by
        rw [shareOfYes_eq_one_iff (by simp)]
        simp [or_imp]
      rw [if_pos rfl, List.count_append, List.count_singleton_self, Nat.cast_add, Nat.cast_one,
        add_eq_add_iff_eq_and_eq hsum hshare, hone]
      exact and_congr_right fun _ => ⟨fun h _ => h, fun h => h rfl⟩

theorem sumPrecision_append_no (verdicts : List Bool) (no : ℕ) :
    sumPrecision (verdicts ++ List.replicate no false) = sumPrecision verdicts := by
  induction no with
  | zero => rw [List.replicate_zero, List.append_nil]
  | succ no ih =>
    rw [List.replicate_succ', ← List.append_assoc, sumPrecision_concat, ih, if_neg Bool.false_ne_true, add_zero]

theorem swap_perm (before after : List Bool) :
    (before ++ false :: true :: after).Perm (before ++ true :: false :: after) :=
  (List.Perm.swap true false after).append_left before

/-- When a yes is moved up by one rank, its precision grows and no other changes. -/
theorem sumPrecision_lt_swap (before after : List Bool) :
    sumPrecision (before ++ false :: true :: after) < sumPrecision (before ++ true :: false :: after) := by
  induction after using List.reverseRecOn with
  | nil =>
    have hlate :
        sumPrecision (before ++ [false, true]) = sumPrecision before + shareOfYes (before ++ [false, true]) := by
      rw [List.append_cons, sumPrecision_concat, sumPrecision_concat, ← List.append_cons]
      simp
    have hearly : sumPrecision (before ++ [true, false]) = sumPrecision before + shareOfYes (before ++ [true]) := by
      rw [List.append_cons, sumPrecision_concat, sumPrecision_concat]
      simp
    rw [hlate, hearly]
    exact add_lt_add_right (shareOfYes_lt_of_earlier before) _
  | append_singleton after verdict ih =>
    -- The verdict behind them has the same verdicts before it, in another order.
    have hconcat (first second : Bool) :
        before ++ first :: second :: (after ++ [verdict]) = (before ++ first :: second :: after) ++ [verdict] := by simp
    rw [hconcat, hconcat, sumPrecision_concat, sumPrecision_concat,
      shareOfYes_perm ((swap_perm before after).append_right [verdict])]
    exact add_lt_add_left ih _

/-! ## The mean of the precisions -/

/-- A score of verdicts in the order of rank that is the higher, the further up the yes stand. -/
structure RewardsEarlyYes (score : List Bool → ℚ) : Prop where
  mem_unit : ∀ verdicts, 0 ≤ score verdicts ∧ score verdicts ≤ 1
  eq_zero_iff : ∀ verdicts, score verdicts = 0 ↔ true ∉ verdicts
  eq_one_iff : ∀ verdicts, score verdicts = 1 ↔
    ∃ yes no, 0 < yes ∧ verdicts = List.replicate yes true ++ List.replicate no false
  append_no : ∀ verdicts no, score (verdicts ++ List.replicate no false) = score verdicts
  lt_swap : ∀ before after, score (before ++ false :: true :: after) < score (before ++ true :: false :: after)

theorem meanPrecision_eq_zero_iff (verdicts : List Bool) : meanPrecision verdicts = 0 ↔ true ∉ verdicts := by
  rw [meanPrecision, div_eq_zero_iff, sumPrecision_eq_zero_iff, Nat.cast_eq_zero, List.count_eq_zero, or_self]

theorem meanPrecision_eq_one_iff (verdicts : List Bool) :
    meanPrecision verdicts = 1 ↔ ∃ yes no, 0 < yes ∧ verdicts = List.replicate yes true ++ List.replicate no false := by
  by_cases hyes : true ∈ verdicts
  · have hcount : (verdicts.count true : ℚ) ≠ 0 := Nat.cast_ne_zero.2 (List.count_pos_iff.2 hyes).ne'
    rw [meanPrecision, div_eq_one_iff_eq hcount, sumPrecision_eq_count_iff, yesFirst_iff]
    refine exists_congr fun yes => exists_congr fun no => ⟨?_, And.right⟩
    rintro rfl
    refine ⟨Nat.pos_of_ne_zero ?_, rfl⟩
    rintro rfl
    simp at hyes
  · rw [(meanPrecision_eq_zero_iff verdicts).2 hyes]
    refine iff_of_false zero_ne_one ?_
    rintro ⟨yes, no, hpos, rfl⟩
    exact hyes (List.mem_append_left _ (List.mem_replicate.2 ⟨hpos.ne', rfl⟩))

theorem meanPrecision_append_no (verdicts : List Bool) (no : ℕ) :
    meanPrecision (verdicts ++ List.replicate no false) = meanPrecision verdicts := by
  have hcount : (verdicts ++ List.replicate no false).count true = verdicts.count true := by
    simp [List.count_append, List.count_replicate]
  rw [meanPrecision, meanPrecision, sumPrecision_append_no, hcount]

theorem meanPrecision_lt_swap (before after : List Bool) :
    meanPrecision (before ++ false :: true :: after) < meanPrecision (before ++ true :: false :: after) := by
  have hcount : (before ++ false :: true :: after).count true = (before ++ true :: false :: after).count true :=
    (swap_perm before after).count_eq true
  have hyes : true ∈ before ++ true :: false :: after := by simp
  rw [meanPrecision, meanPrecision, hcount]
  exact div_lt_div_of_pos_right (sumPrecision_lt_swap before after) (Nat.cast_pos.2 (List.count_pos_iff.2 hyes))

/-- Over exact numbers the average precision is a number within `0` and `1`. It is `0` exactly without a yes and `1`
exactly for a block of yes with only no behind it; more no at the end do not change it, and to move a yes up by one
rank makes it greater. -/
theorem averagePrecision_rewardsEarlyYes :
    ∃ score : List Bool → ℚ, (∀ verdicts, averagePrecision verdicts = Exact.finite (score verdicts)) ∧
      RewardsEarlyYes score :=
  ⟨meanPrecision, averagePrecision_eq,
    { mem_unit := meanPrecision_mem_unit
      eq_zero_iff := meanPrecision_eq_zero_iff
      eq_one_iff := meanPrecision_eq_one_iff
      append_no := meanPrecision_append_no
      lt_swap := meanPrecision_lt_swap }⟩

example : averagePrecision [true, false, true] = Exact.finite (5 / 6) := by decide +kernel

end GroundedQA.Evaluation
