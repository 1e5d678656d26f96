import GroundedQA.Text.Blank
import Mathlib.Data.List.DropRight
/-!
# Ink

What is no white space in a text is its ink. Ink is looked at in two ways: as the list of the
characters that are left without white space, and by the positions at which such a character stands.
-/

namespace GroundedQA.Text

/-- The characters that are no white space, in order. -/
def ink (cs : List Char) : List Char :=
  cs.filter fun c => !isSpace c

/-- A character that is no white space stands at position `i`. -/
def InkAt (cs : List Char) (i : Nat) : Prop :=
  ∃ c, cs[i]? = some c ∧ ¬ isSpace c

/-- Where the ink of a text ends. -/
def inkEnd (cs : List Char) : Nat :=
  (trimEnd cs).length

theorem ink_append (xs ys : List Char) : ink (xs ++ ys) = ink xs ++ ink ys :=
  List.filter_append ..

theorem ink_eq_nil_iff {cs : List Char} : ink cs = [] ↔ isBlank cs := by
  simp [ink, isBlank_iff]

/-! ## Positions -/

theorem InkAt.lt {cs : List Char} {i : Nat} (h : InkAt cs i) : i < cs.length := by
  obtain ⟨c, hc, -⟩ := h
  exact (List.getElem?_eq_some_iff.1 hc).1

theorem inkAt_drop {cs : List Char} {i k : Nat} : InkAt (cs.drop i) k ↔ InkAt cs (i + k) := by
  simp [InkAt, List.getElem?_drop]

theorem inkAt_take {cs : List Char} {n k : Nat} : InkAt (cs.take n) k ↔ k < n ∧ InkAt cs k := by
  unfold InkAt
  rw [List.getElem?_take]
  by_cases h : k < n <;> simp [h]

theorem inkAt_append_of_le {xs ys : List Char} {k : Nat} (h : xs.length ≤ k) :
    InkAt (xs ++ ys) k ↔ InkAt ys (k - xs.length) := by
  simp [InkAt, List.getElem?_append_right h]

theorem inkAt_append_cons (before after : List Char) {c : Char} (h : ¬ isSpace c) :
    InkAt (before ++ c :: after) before.length :=
  ⟨c, by simp, h⟩

theorem not_isBlank_iff {cs : List Char} : ¬ isBlank cs ↔ ∃ i, InkAt cs i := by
  rw [isBlank_iff]
  constructor
  · intro h
    push Not at h
    obtain ⟨c, hc, hs⟩ := h
    obtain ⟨i, hi⟩ := List.mem_iff_getElem?.1 hc
    exact ⟨i, c, hi, by simpa using hs⟩
  · rintro ⟨i, c, hc, hs⟩ h
    exact hs (h c (List.mem_of_getElem? hc))

theorem not_isBlank_drop {cs : List Char} {i : Nat} :
    ¬ isBlank (cs.drop i) ↔ ∃ k, i ≤ k ∧ InkAt cs k := by
  rw [not_isBlank_iff]
  constructor
  · rintro ⟨k, hk⟩
    exact ⟨i + k, by omega, inkAt_drop.1 hk⟩
  · rintro ⟨k, hik, hk⟩
    exact ⟨k - i, inkAt_drop.2 (by rwa [Nat.add_sub_cancel' hik])⟩

/-- Between two positions without ink the ink that follows is the same. -/
theorem ink_drop_eq {cs : List Char} {i j : Nat} (hij : i ≤ j) (h : ∀ k, i ≤ k → k < j → ¬ InkAt cs k) :
    ink (cs.drop i) = ink (cs.drop j) := by
  have hsplit : cs.drop i = (cs.drop i).take (j - i) ++ cs.drop j := by
    conv_lhs => rw [← List.take_append_drop (j - i) (cs.drop i)]
    rw [List.drop_drop, Nat.add_sub_cancel' hij]
  have hblank : ink ((cs.drop i).take (j - i)) = [] := by
    have : isBlank ((cs.drop i).take (j - i)) := by
      by_contra hb
      obtain ⟨k, hk⟩ := not_isBlank_iff.1 hb
      rw [inkAt_take, inkAt_drop] at hk
      exact h (i + k) (by omega) (by omega) hk.2
    exact ink_eq_nil_iff.2 this
  rw [hsplit, ink_append, hblank, List.nil_append]

/-! ## Trimming -/

theorem trimStart_of_inkAt {cs : List Char} (h : InkAt cs 0) : trimStart cs = cs := by
  obtain ⟨c, hc, hs⟩ := h
  obtain ⟨cs, rfl⟩ : ∃ ds, cs = c :: ds := by
    cases cs with
    | nil => simp at hc
    | cons d ds => exact ⟨ds, by simpa using hc⟩
  simp [trimStart, hs]

theorem takeWhile_isSpace_of_inkAt {cs : List Char} (h : InkAt cs 0) : cs.takeWhile isSpace = [] := by
  have := takeWhile_append_trimStart cs
  rw [trimStart_of_inkAt h] at this
  simpa using this

theorem inkAt_trimStart {cs : List Char} (h : ¬ isBlank cs) : InkAt (trimStart cs) 0 := by
  have hne : trimStart cs ≠ [] := fun he => h (trimStart_eq_nil.1 he)
  refine ⟨(trimStart cs).head hne, by rw [← List.head?_eq_getElem?, List.head?_eq_some_head], ?_⟩
  have := List.head_dropWhile_not isSpace hne
  simpa [trimStart] using this

/-- Trimming at the end takes off white space and nothing else. -/
theorem trimEnd_append (cs : List Char) : ∃ blank, isBlank blank ∧ trimEnd cs ++ blank = cs := by
  refine ⟨(cs.reverse.takeWhile isSpace).reverse, ?_, ?_⟩
  · rw [isBlank_iff]
    intro c hc
    exact List.mem_takeWhile_imp (List.mem_reverse.1 hc)
  · rw [trimEnd, ← List.reverse_append, List.takeWhile_append_dropWhile, List.reverse_reverse]

theorem trimEnd_eq_take (cs : List Char) : trimEnd cs = cs.take (inkEnd cs) := by
  obtain ⟨blank, -, h⟩ := trimEnd_append cs
  exact List.prefix_iff_eq_take.1 ⟨blank, h⟩

theorem inkEnd_le (cs : List Char) : inkEnd cs ≤ cs.length := by
  obtain ⟨blank, -, h⟩ := trimEnd_append cs
  have := congrArg List.length h
  rw [List.length_append] at this
  unfold inkEnd
  omega

theorem InkAt.lt_inkEnd {cs : List Char} {k : Nat} (h : InkAt cs k) : k < inkEnd cs := by
  obtain ⟨blank, hb, ha⟩ := trimEnd_append cs
  by_contra hk
  rw [← ha, inkAt_append_of_le (Nat.le_of_not_lt hk)] at h
  exact not_isBlank_iff.2 ⟨_, h⟩ hb

theorem inkAt_inkEnd_sub_one {cs : List Char} (h : 0 < inkEnd cs) : InkAt cs (inkEnd cs - 1) := by
  have hne : cs.rdropWhile isSpace ≠ [] := List.length_pos_iff.1 h
  refine ⟨(cs.rdropWhile isSpace).getLast hne, ?_, List.rdropWhile_last_not isSpace cs hne⟩
  have hlast : (trimEnd cs)[inkEnd cs - 1]? = some ((cs.rdropWhile isSpace).getLast hne) := by
    rw [List.getLast_eq_getElem]
    exact List.getElem?_eq_getElem _
  rw [trimEnd_eq_take, List.getElem?_take_of_lt (by omega)] at hlast
  exact hlast

/-- The ink ends after position `k` exactly when there is ink at `k` or later. -/
theorem lt_inkEnd_iff {cs : List Char} {k : Nat} : k < inkEnd cs ↔ ∃ j, k ≤ j ∧ InkAt cs j := by
  constructor
  · intro h
    exact ⟨inkEnd cs - 1, by omega, inkAt_inkEnd_sub_one (by omega)⟩
  · rintro ⟨j, hkj, hj⟩
    exact Nat.lt_of_le_of_lt hkj hj.lt_inkEnd

theorem inkAt_trimEnd {cs : List Char} {k : Nat} : InkAt (trimEnd cs) k ↔ InkAt cs k := by
  rw [trimEnd_eq_take, inkAt_take]
  exact ⟨And.right, fun h => ⟨h.lt_inkEnd, h⟩⟩

/-- White space at the end of a piece of a text does not move the end of its ink. -/
theorem inkEnd_take_eq {cs : List Char} {i j : Nat} (hij : i ≤ j) (h : ∀ k, i ≤ k → k < j → ¬ InkAt cs k) :
    inkEnd (cs.take j) = inkEnd (cs.take i) := by
  refine eq_of_forall_lt_iff fun n => ?_
  simp only [lt_inkEnd_iff, inkAt_take]
  constructor
  · rintro ⟨k, hnk, hkj, hk⟩
    exact ⟨k, hnk, by_contra fun hik => h k (by omega) hkj hk, hk⟩
  · rintro ⟨k, hnk, hki, hk⟩
    exact ⟨k, hnk, by omega, hk⟩

/-- Trimming takes off white space and nothing else. -/
theorem exists_trim (cs : List Char) :
    ∃ front back, isBlank front ∧ isBlank back ∧ cs = front ++ trim cs ++ back := by
  obtain ⟨back, hback, hend⟩ := trimEnd_append (trimStart cs)
  refine ⟨cs.takeWhile isSpace, back, isBlank_iff.2 fun c hc => List.mem_takeWhile_imp hc, hback, ?_⟩
  rw [List.append_assoc, trim, hend, takeWhile_append_trimStart]

theorem trim_trim (cs : List Char) : trim (trim cs) = trim cs := by
  by_cases hblank : isBlank cs
  · rw [trim, trim, trimStart_eq_nil.2 hblank]
    rfl
  · have hink : InkAt (trim cs) 0 := inkAt_trimEnd.2 (inkAt_trimStart hblank)
    rw [trim, trimStart_of_inkAt hink]
    exact List.rdropWhile_idempotent isSpace (trimStart cs)

end GroundedQA.Text
