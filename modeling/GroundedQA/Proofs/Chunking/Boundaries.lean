import GroundedQA.Chunking.Overlap
import GroundedQA.Proofs.Text.Ink
/-!
# Where chunks end and begin

What the rules for the end of a chunk and for the start of the next one come to, whatever text they
are applied to. `cutPoint_cases` says that a cut is far enough or at the edge of its window, and
`nextStart_spec` that the next start holds ink, lies past the old start, and leaves out no ink.
-/

namespace GroundedQA.Chunking

open Text

/-! ## The next ink -/

theorem le_nextInk (cs : List Char) (i : Nat) : i ≤ nextInk cs i := by
  simp [nextInk]

theorem nextInk_le {cs : List Char} {i k : Nat} (hik : i ≤ k) (hk : InkAt cs k) : nextInk cs i ≤ k := by
  by_contra hlt
  obtain ⟨c, hc, hs⟩ := hk
  have hj : k - i < ((cs.drop i).takeWhile isSpace).length := by
    unfold nextInk at hlt
    omega
  have hspace := List.mem_takeWhile_imp (List.getElem_mem hj)
  have hat := List.prefix_iff_getElem?.1 (List.takeWhile_prefix isSpace) _ hj
  rw [List.getElem?_drop, Nat.add_sub_cancel' hik, hc] at hat
  exact hs (Option.some.inj hat ▸ hspace)

theorem inkAt_nextInk {cs : List Char} {i : Nat} (h : ¬ isBlank (cs.drop i)) : InkAt cs (nextInk cs i) := by
  have hink := inkAt_trimStart h
  have hrest := takeWhile_append_trimStart (cs.drop i)
  rw [nextInk, ← inkAt_drop, ← hrest, inkAt_append_of_le (by simp [trimStart])]
  simpa [trimStart] using hink

/-! ## The end of a chunk -/

theorem separatorEnds_bounds {separators : List (List Char)} {start : Nat} {cs : List Char} {n : Nat}
    (h : n ∈ separatorEnds separators start cs) : n ≤ start + cs.length := by
  induction cs generalizing start with
  | nil => simp [separatorEnds] at h
  | cons c cs ih =>
    rw [separatorEnds, List.mem_append] at h
    rcases h with h | h
    · obtain ⟨sep, hsep, rfl⟩ := List.mem_map.1 h
      have hpre := (List.isPrefixOf_iff_prefix.1 (List.mem_filter.1 hsep).2).length_le
      omega
    · have := ih h
      rw [List.length_cons]
      omega

theorem lastEnd?_bounds {window : List Char} {least n : Nat} {separators : List (List Char)}
    (h : lastEnd? window least separators = some n) : least ≤ n ∧ n ≤ window.length := by
  have hmem := List.mem_filter.1 (List.max?_mem h)
  have hle := separatorEnds_bounds hmem.1
  exact ⟨by simpa using hmem.2, by omega⟩

/-- A cut lies as far as it has to, inside the window, or at the edge of the window. -/
theorem cutPoint_cases (window : List Char) (least : Nat) :
    (least ≤ cutPoint window least ∧ cutPoint window least ≤ window.length) ∨
      cutPoint window least = window.length := by
  unfold cutPoint
  cases h : separatorLevels.findSome? (lastEnd? window least) with
  | none => exact .inr rfl
  | some n =>
    obtain ⟨level, -, hlevel⟩ := List.exists_of_findSome?_eq_some h
    exact .inl (lastEnd?_bounds hlevel)

/-! ## The start of the next chunk -/

theorem wordStart?_spec {before : Char} {cs : List Char} {n : Nat} (h : wordStart? before cs = some n) :
    InkAt cs n := by
  induction cs generalizing before n with
  | nil => simp [wordStart?] at h
  | cons c cs ih =>
    rw [wordStart?] at h
    split at h
    · next hc =>
      obtain rfl : 0 = n := by simpa using h
      simp only [Bool.and_eq_true, Bool.not_eq_true'] at hc
      exact ⟨c, rfl, by simp [hc.2]⟩
    · obtain ⟨m, hm, rfl⟩ := Option.map_eq_some_iff.1 h
      simpa [InkAt] using ih hm

theorem wordStartFrom?_spec {cs : List Char} {i n : Nat} (hi : 0 < i) (h : wordStartFrom? cs i = some n) :
    i ≤ n ∧ InkAt cs n := by
  unfold wordStartFrom? at h
  split at h
  · simp at h
  · next before rest hrest =>
    obtain ⟨m, hm, rfl⟩ := Option.map_eq_some_iff.1 h
    refine ⟨by omega, ?_⟩
    have hink : InkAt (cs.drop (i - 1)) (m + 1) := by
      rw [hrest]
      simpa [InkAt] using wordStart?_spec hm
    rw [inkAt_drop] at hink
    rwa [show m + i = i - 1 + (m + 1) by omega]

/-- Every character of the last word of a text is ink. -/
theorem inkAt_lastWord {cs : List Char} {k : Nat} (hk : cs.length - lastWordLength cs ≤ k)
    (hlt : k < cs.length) : InkAt cs k := by
  have hj : cs.length - 1 - k < (cs.reverse.takeWhile fun c => !isSpace c).length := by
    unfold lastWordLength at hk
    omega
  have hink := List.mem_takeWhile_imp (List.getElem_mem hj)
  refine ⟨_, ?_, by simpa using hink⟩
  rw [← List.prefix_iff_getElem?.1 (List.takeWhile_prefix _) _ hj, List.getElem?_reverse (by omega)]
  congr 1
  omega

theorem lastWordLength_pos {cs : List Char} (h : InkAt cs (cs.length - 1)) : 0 < lastWordLength cs := by
  have hlt := h.lt
  obtain ⟨c, hc, hs⟩ := h
  have hlast : cs.reverse.head? = some c := by
    rw [List.head?_reverse, List.getLast?_eq_getElem?, hc]
  cases hr : cs.reverse with
  | nil => simp [hr] at hlast
  | cons d ds =>
    obtain rfl : d = c := by simpa [hr] using hlast
    simp [lastWordLength, hr, hs]

/-- What is asked of the start `s` of the chunk after `rest.take cut`: it holds ink, lies past the old
start and leaves out no ink after the cut. With an overlap it lies inside the chunk, unless that is
one character and white space after it. -/
structure StartsWell (overlap : Nat) (rest : List Char) (cut s : Nat) : Prop where
  pos : 0 < s
  inkAt : InkAt rest s
  le_nextInk : s ≤ nextInk rest cut
  inside : 0 < overlap → s < inkEnd (rest.take cut) ∨ inkEnd (rest.take cut) = 1

theorem StartsWell.of_lt {overlap cut s : Nat} {rest : List Char} (hpos : 0 < s) (hs : InkAt rest s)
    (hlt : s < cut) : StartsWell overlap rest cut s where
  pos := hpos
  inkAt := hs
  le_nextInk := Nat.le_trans (Nat.le_of_lt hlt) (Chunking.le_nextInk rest cut)
  inside _ := .inl (inkAt_take.2 ⟨hlt, hs⟩).lt_inkEnd

/-- Where the next chunk starts when there is only white space from `window` up to the cut: at the
last word before, inside it, or after the cut when that word is one character and the chunk. -/
theorem startsWell_of_blank {overlap window cut : Nat} {rest : List Char} (hink : InkAt rest 0)
    (hwin : 0 < window) (hcut : window ≤ cut) (hov : 0 < overlap) (hrest : ¬ isBlank (rest.drop cut))
    (hblank : ∀ k, window ≤ k → k < cut → ¬ InkAt rest k) {body : List Char}
    (hbody : body = trimEnd (rest.take window)) :
    StartsWell overlap rest cut
      (if 0 < body.length - lastWordLength body then body.length - lastWordLength body
      else if 1 < body.length then max (body.length - overlap) 1
      else nextInk rest cut) := by
  have hin {k : Nat} : InkAt body k ↔ k < window ∧ InkAt rest k := by
    rw [hbody, inkAt_trimEnd, inkAt_take]
  have hlen : body.length = inkEnd (rest.take window) := by rw [hbody, inkEnd]
  have hpos : 0 < body.length := (hin.2 ⟨hwin, hink⟩).lt
  have hlast : InkAt body (body.length - 1) := by
    rw [hlen] at hpos ⊢
    rw [hbody, inkAt_trimEnd]
    exact inkAt_inkEnd_sub_one hpos
  have hword := lastWordLength_pos hlast
  -- At the last word, if that is not the whole of it; else inside the word, if it is long enough.
  split
  · next hws =>
    have hat := hin.1 (inkAt_lastWord (Nat.le_refl _) (by omega))
    exact .of_lt hws hat.2 (by omega)
  split
  · next hws hlong =>
    have hat := hin.1 (inkAt_lastWord (k := max (body.length - overlap) 1) (by omega) (by omega))
    exact .of_lt (by omega) hat.2 (by omega)
  · have hnext := inkAt_nextInk hrest
    have hle := le_nextInk rest cut
    refine ⟨by omega, hnext, Nat.le_refl _, fun _ => .inr ?_⟩
    rw [inkEnd_take_eq hcut hblank, ← hlen]
    omega

theorem startsWell_nextStart {overlap cut : Nat} {rest : List Char} (hink : InkAt rest 0)
    (hcut : overlap < cut) (hrest : ¬ isBlank (rest.drop cut)) :
    StartsWell overlap rest cut (nextStart overlap rest cut) := by
  have hnext := inkAt_nextInk hrest
  have hle := le_nextInk rest cut
  unfold nextStart
  split
  · exact ⟨by omega, hnext, Nat.le_refl _, fun h => absurd h (by omega)⟩
  dsimp only
  -- A word that begins in the last `overlap` characters before the cut.
  split
  · next s hs =>
    obtain ⟨hge, hat⟩ := wordStartFrom?_spec (by omega) hs
    rw [inkAt_take] at hat
    exact .of_lt (by omega) hat.2 hat.1
  -- No word begins there, but one goes on.
  split
  · next hlt =>
    have hge := le_nextInk rest (cut - overlap)
    exact .of_lt (by omega) (inkAt_nextInk (not_isBlank_drop.2 ⟨_, by omega, hnext⟩)) hlt
  · next hge =>
    refine startsWell_of_blank hink (by omega) (by omega) (by omega) hrest (fun k h1 h2 hk => ?_) rfl
    exact hge (Nat.lt_of_le_of_lt (nextInk_le h1 hk) h2)

theorem nextStart_zero (rest : List Char) (cut : Nat) : nextStart 0 rest cut = nextInk rest cut := by
  simp [nextStart]

end GroundedQA.Chunking
