import GroundedQA.Proofs.Chunking.Succession
import Mathlib.Order.MinMax
/-!
# Chunking by byte offsets

The chunker once more, with every position a byte offset into the text and with sizes of 64 bits. Whatever
it looks at is cut out of the text between two offsets by `slice?`, which gives nothing when they are out of
order or inside a character; then the whole gives nothing, as it does when the passes exceed a bound.

It is the chunker of before (`splitBytes?_eq`): no slice fails, no sum of sizes overflows, and as many passes
as the text has ink are enough.
-/

namespace GroundedQA.Chunking

open Text

/-! ## Slices -/

/-- How many characters the first `offset` bytes of a text are; nothing when they end inside a character or
the text is shorter. -/
def charCount? : List Char → Nat → Option Nat
  | _, 0 => some 0
  | [], _ + 1 => none
  | c :: cs, offset + 1 =>
    if c.utf8Size ≤ offset + 1 then (charCount? cs (offset + 1 - c.utf8Size)).map (· + 1) else none

/-- The text between two byte offsets. -/
def slice? (cs : List Char) (first last : Nat) : Option (List Char) :=
  if first ≤ last then do
    let i ← charCount? cs first
    let j ← charCount? cs last
    return (cs.take j).drop i
  else none

theorem charCount?_take {cs : List Char} {i : Nat} (hi : i ≤ cs.length) :
    charCount? cs (byteLength (cs.take i)) = some i := by
  induction cs generalizing i with
  | nil =>
    obtain rfl : i = 0 := by simpa using hi
    rfl
  | cons c cs ih =>
    cases i with
    | zero => simp [charCount?]
    | succ i =>
      have hpos := c.utf8Size_pos
      have hlen : byteLength ((c :: cs).take (i + 1)) = c.utf8Size - 1 + byteLength (cs.take i) + 1 := by
        rw [List.take_succ_cons, byteLength_cons]
        omega
      rw [hlen, charCount?, if_pos (by omega),
        show c.utf8Size - 1 + byteLength (cs.take i) + 1 - c.utf8Size = byteLength (cs.take i) by omega,
        ih (by simpa using hi), Option.map_some]

theorem charCount?_eq_some {cs : List Char} {offset i : Nat} (h : charCount? cs offset = some i) :
    i ≤ cs.length ∧ byteLength (cs.take i) = offset := by
  induction cs generalizing offset i with
  | nil =>
    cases offset with
    | zero =>
      obtain rfl : 0 = i := by simpa [charCount?] using h
      simp
    | succ offset => simp [charCount?] at h
  | cons c cs ih =>
    cases offset with
    | zero =>
      obtain rfl : 0 = i := by simpa [charCount?] using h
      simp
    | succ offset =>
      rw [charCount?] at h
      split at h
      · next hle =>
        obtain ⟨j, hj, rfl⟩ := Option.map_eq_some_iff.1 h
        obtain ⟨hlen, hbytes⟩ := ih hj
        refine ⟨by simpa using hlen, ?_⟩
        rw [List.take_succ_cons, byteLength_cons, hbytes]
        omega
      · cases h

/-- A slice is there exactly when it stands in the text at its first offset and ends at its last. -/
theorem slice?_eq_some_iff {cs piece : List Char} {first last : Nat} :
    slice? cs first last = some piece ↔ ∃ i j, (Span.mk first piece).IsSlice cs i j ∧ last = byteLength (cs.take j) := by
  constructor
  · intro h
    unfold slice? at h
    split at h
    · next hle =>
      obtain ⟨i, hi, h⟩ := Option.bind_eq_some_iff.1 h
      obtain ⟨j, hj, h⟩ := Option.bind_eq_some_iff.1 h
      obtain ⟨hilen, hfirst⟩ := charCount?_eq_some hi
      obtain ⟨hjlen, hlast⟩ := charCount?_eq_some hj
      rw [← hfirst, ← hlast] at hle
      have hij := (byteLength_take_le_iff hilen).1 hle
      exact ⟨i, j, ⟨hij, hjlen, hfirst.symm, (Option.some.inj h).symm⟩, hlast.symm⟩
    · cases h
  · rintro ⟨i, j, hslice, rfl⟩
    have hoffset : first = byteLength (cs.take i) := hslice.offset
    have hchars : piece = (cs.take j).drop i := hslice.chars
    have hij := hslice.first_le
    have hj := hslice.last_le
    rw [slice?, hoffset, hchars, if_pos (byteLength_take_le cs hij), charCount?_take (by omega), charCount?_take hj]
    rfl

variable {cs : List Char} {i j : Nat}

theorem slice?_take (hij : i ≤ j) (hj : j ≤ cs.length) :
    slice? cs (byteLength (cs.take i)) (byteLength (cs.take j)) = some ((cs.take j).drop i) :=
  slice?_eq_some_iff.2 ⟨i, j, ⟨hij, hj, rfl, rfl⟩, rfl⟩

theorem slice?_take_add {n : Nat} (h : i + n ≤ cs.length) :
    slice? cs (byteLength (cs.take i)) (byteLength (cs.take (i + n))) = some ((cs.drop i).take n) := by
  rw [slice?_take (Nat.le_add_right i n) h, List.drop_take, Nat.add_sub_cancel_left]

theorem length_take_drop {n : Nat} (h : i + n ≤ cs.length) : ((cs.drop i).take n).length = n := by
  rw [List.length_take, List.length_drop]
  omega

theorem slice?_before (hi : i ≤ cs.length) : slice? cs 0 (byteLength (cs.take i)) = some (cs.take i) := by
  simpa using slice?_take (Nat.zero_le i) hi

theorem slice?_after (hi : i ≤ cs.length) : slice? cs (byteLength (cs.take i)) (byteLength cs) = some (cs.drop i) := by
  simpa using slice?_take hi (Nat.le_refl cs.length)

/-! ## Ways to move in a text -/

/-- The offset `n` characters further on, or the end of the text. -/
def forward? (cs : List Char) (offset n : Nat) : Option Nat := do
  let rest ← slice? cs offset (byteLength cs)
  return offset + byteLength (rest.take n)

/-- The offset `n` characters further back, or the start of the text. -/
def back? (cs : List Char) (offset n : Nat) : Option Nat := do
  let before ← slice? cs 0 offset
  return byteLength (before.take (before.length - n))

/-- The offset of the next character that is no white space, or the end of the text. -/
def nextInk? (cs : List Char) (offset : Nat) : Option Nat := do
  let rest ← slice? cs offset (byteLength cs)
  return offset + byteLength (rest.takeWhile isSpace)

theorem byteLength_take_add (cs : List Char) (i n : Nat) :
    byteLength (cs.take i) + byteLength ((cs.drop i).take n) = byteLength (cs.take (i + n)) := by
  rw [List.take_add, byteLength_append]

theorem forward?_take (hi : i ≤ cs.length) (n : Nat) :
    forward? cs (byteLength (cs.take i)) n = some (byteLength (cs.take (i + n))) := by
  rw [forward?, slice?_after hi, ← byteLength_take_add]
  rfl

theorem back?_take (hi : i ≤ cs.length) (n : Nat) :
    back? cs (byteLength (cs.take i)) n = some (byteLength (cs.take (i - n))) := by
  rw [back?, slice?_before hi, Option.bind_eq_bind, Option.bind_some, List.length_take, Nat.min_eq_left hi,
    List.take_take, Nat.min_eq_left (Nat.sub_le i n)]
  rfl

theorem nextInk?_take (hi : i ≤ cs.length) :
    nextInk? cs (byteLength (cs.take i)) = some (byteLength (cs.take (nextInk cs i))) := by
  have hspace : (cs.drop i).takeWhile isSpace = (cs.drop i).take ((cs.drop i).takeWhile isSpace).length :=
    List.prefix_iff_eq_take.1 (List.takeWhile_prefix isSpace)
  rw [nextInk?, slice?_after hi, nextInk, ← byteLength_take_add, ← hspace]
  rfl

theorem nextInk_le_length (hi : i ≤ cs.length) : nextInk cs i ≤ cs.length := by
  have := (List.takeWhile_prefix (l := cs.drop i) isSpace).length_le
  rw [List.length_drop] at this
  unfold nextInk
  omega

theorem nextInk_drop (cs : List Char) (i j : Nat) : i + nextInk (cs.drop i) j = nextInk cs (i + j) := by
  rw [nextInk, nextInk, List.drop_drop, Nat.add_assoc]

theorem monotone_byteLength_take (cs : List Char) : Monotone fun i => byteLength (cs.take i) :=
  fun _ _ hij => byteLength_take_le cs hij

theorem byteLength_take_max (cs : List Char) (i j : Nat) :
    max (byteLength (cs.take i)) (byteLength (cs.take j)) = byteLength (cs.take (max i j)) :=
  (monotone_byteLength_take cs).map_max.symm

/-! ## The end of a chunk -/

/-- The offset behind the next character that is no white space. -/
def pastInk? (cs : List Char) (offset : Nat) : Option Nat := do
  forward? cs (← nextInk? cs offset) 1

/-- With an overlap, the offset behind the second such character of a chunk. -/
def pastSecond? (overlap : UInt64) (cs : List Char) (start : Nat) : Option Nat :=
  if overlap = 0 then some 0 else do pastInk? cs (← forward? cs start 1)

/-- The least acceptable cut, when the pass before has cut at the offset `before`. -/
def leastCut? (overlap : UInt64) (cs : List Char) (start : Nat) (before : Option Nat) : Option Nat := do
  let pastOverlap ← forward? cs start (overlap + 1).toNat
  let pastTaken ← before.elim (some 0) (pastInk? cs)
  let pastSecond ← pastSecond? overlap cs start
  return max (max pastOverlap pastTaken) pastSecond

/-- The end of the best separator in the window that reaches to the offset `edge`, or that edge. -/
def cutPoint? (cs : List Char) (start least edge : Nat) : Option Nat := do
  let window ← slice? cs start edge
  let ends := fun separators => (separatorEnds separators 0 window).map fun n => start + byteLength (window.take n)
  return (separatorLevels.findSome? fun separators => ((ends separators).filter (least ≤ ·)).max?).getD edge

/-- Where the pass that starts at an offset cuts. -/
def cut? (size overlap : UInt64) (cs : List Char) (start : Nat) (before : Option Nat) : Option Nat := do
  let edge ← forward? cs start size.toNat
  if byteLength cs ≤ edge then return byteLength cs
  else cutPoint? cs start (← leastCut? overlap cs start before) edge

/-- Of two positions, one of them inside the text, the offsets are in the same order. -/
theorem byteLength_take_le_iff_of_lt (hj : j < cs.length) :
    byteLength (cs.take i) ≤ byteLength (cs.take j) ↔ i ≤ j := by
  constructor
  · intro h
    by_contra hij
    have hlt : byteLength (cs.take j) < byteLength (cs.take (j + 1)) :=
      (byteLength_take_lt_iff hj).2 (Nat.lt_succ_self j)
    have := byteLength_take_le cs (show j + 1 ≤ i by omega)
    omega
  · exact byteLength_take_le cs

theorem max?_map {f : Nat → Nat} (hf : Monotone f) (ns : List Nat) : (ns.map f).max? = ns.max?.map f := by
  induction ns with
  | nil => rfl
  | cons n ns ih =>
    rw [List.map_cons, List.max?_cons, List.max?_cons, ih]
    cases ns.max? with
    | none => rfl
    | some m => simp [hf.map_max]

/-- The usable ends of a level as offsets are the offsets of its usable ends. -/
theorem max?_usableEnds {start least n : Nat} (hn : start + n < cs.length) {window : List Char}
    (hwindow : window = (cs.drop start).take n) (separators : List (List Char)) :
    (((separatorEnds separators 0 window).map fun m => byteLength (cs.take start) + byteLength (window.take m)).filter
        (byteLength (cs.take (start + least)) ≤ ·)).max? =
      (lastEnd? window least separators).map fun m => byteLength (cs.take (start + m)) := by
  have hlength : window.length = n := hwindow ▸ length_take_drop hn.le
  have hle : ∀ m ∈ separatorEnds separators 0 window, m ≤ n := fun m hm => by
    have := separatorEnds_bounds hm
    omega
  have hoffset : ∀ m ∈ separatorEnds separators 0 window,
      byteLength (cs.take start) + byteLength (window.take m) = byteLength (cs.take (start + m)) := by
    intro m hm
    rw [hwindow, List.take_take, Nat.min_eq_left (hle m hm), byteLength_take_add]
  have hmono : Monotone fun m => byteLength (cs.take (start + m)) :=
    fun _ _ h => byteLength_take_le cs (Nat.add_le_add_left h start)
  rw [lastEnd?, ← max?_map hmono, List.map_congr_left hoffset, List.filter_map]
  congr 2
  refine List.filter_congr fun m hm => ?_
  have hlt : start + m < cs.length := by
    have := hle m hm
    omega
  simp only [Function.comp_apply, byteLength_take_le_iff_of_lt hlt, Nat.add_le_add_iff_left]

theorem cutPoint?_take {start least n : Nat} (hn : start + n < cs.length) :
    cutPoint? cs (byteLength (cs.take start)) (byteLength (cs.take (start + least))) (byteLength (cs.take (start + n))) =
      some (byteLength (cs.take (start + cutPoint ((cs.drop start).take n) least))) := by
  obtain ⟨window, hwindow⟩ : ∃ window, window = (cs.drop start).take n := ⟨_, rfl⟩
  have hlength : window.length = n := hwindow ▸ length_take_drop hn.le
  rw [cutPoint?, slice?_take_add hn.le, ← hwindow, cutPoint]
  simp only [Option.bind_eq_bind, Option.bind_some, max?_usableEnds hn hwindow, hlength]
  rw [← Function.comp_def (Option.map _) (lastEnd? window least), ← List.map_findSome?]
  cases separatorLevels.findSome? (lastEnd? window least) <;> rfl

/-- The cut of the pass before, as the offset `before` in the text: behind it comes the same ink as behind the
first `taken` characters from the start of the pass on. -/
inductive Recalls (cs : List Char) (start : Nat) : (taken before : Option Nat) → Prop
  | first : Recalls cs start none none
  | later {taken k : Nat} (hk : k ≤ cs.length) (hink : nextInk cs k = start + nextInk (cs.drop start) taken) :
    Recalls cs start (some taken) (some (byteLength (cs.take k)))

theorem pastInk?_take (hi : i ≤ cs.length) :
    pastInk? cs (byteLength (cs.take i)) = some (byteLength (cs.take (nextInk cs i + 1))) := by
  rw [pastInk?, nextInk?_take hi, Option.bind_eq_bind, Option.bind_some, forward?_take (nextInk_le_length hi)]

theorem leastCut?_take {overlap : UInt64} {start : Nat} {taken before : Option Nat}
    (hsucc : (overlap + 1).toNat = overlap.toNat + 1) (hink : InkAt cs start) (h : Recalls cs start taken before) :
    leastCut? overlap cs (byteLength (cs.take start)) before =
      some (byteLength (cs.take (start + leastCut overlap.toNat (cs.drop start) taken))) := by
  have hstart := hink.lt
  have hpast : before.elim (some 0) (pastInk? cs) =
      some (byteLength (cs.take (taken.elim 0 fun n => start + nextInk (cs.drop start) n + 1))) := by
    cases h with
    | first => rfl
    | later hk hnext => rw [Option.elim_some, pastInk?_take hk, hnext, Option.elim_some]
  have hsecond : pastSecond? overlap cs (byteLength (cs.take start)) =
      some (byteLength (cs.take (if 0 < overlap.toNat then start + nextInk (cs.drop start) 1 + 1 else 0))) := by
    unfold pastSecond?
    by_cases hov : overlap = 0
    · rw [if_pos hov, hov]
      rfl
    · have hpos : 0 < overlap.toNat := Nat.pos_of_ne_zero fun h0 => hov (UInt64.toNat_inj.1 h0)
      rw [if_neg hov, if_pos hpos, forward?_take hstart.le, Option.bind_eq_bind, Option.bind_some,
        pastInk?_take hstart, nextInk_drop]
  rw [leastCut?, forward?_take hstart.le, hsucc, hpast, hsecond]
  simp only [Option.bind_eq_bind, Option.bind_some, byteLength_take_max, leastCut]
  congr 3
  cases taken <;> simp only [Option.elim_none, Option.elim_some] <;> split <;> omega

theorem cut?_take {size overlap : UInt64} {chunker : Chunker} (hsize : chunker.size = size.toNat)
    (hoverlap : chunker.overlap = overlap.toNat) (hsucc : (overlap + 1).toNat = overlap.toNat + 1) {start : Nat}
    {pass : Pass} (hat : pass.At cs start) {before : Option Nat} (h : Recalls cs start pass.taken before) :
    cut? size overlap cs (byteLength (cs.take start)) before =
      some (byteLength (cs.take (start + pass.cut chunker))) := by
  have hstart := hat.ink.lt
  rw [cut?, forward?_take hstart.le, ← hsize]
  simp only [Option.bind_eq_bind, Option.bind_some]
  by_cases hedge : cs.length ≤ start + chunker.size
  · have hrest : pass.rest.length ≤ chunker.size := by
      rw [hat.rest, List.length_drop]
      omega
    have hcut : start + pass.cut chunker = cs.length := by
      rw [Pass.cut, if_pos (by simpa using hrest), hat.rest, List.length_drop]
      omega
    rw [List.take_of_length_le hedge, if_pos (Nat.le_refl _), hcut, List.take_length]
    rfl
  · have hrest : chunker.size < pass.rest.length := by
      rw [hat.rest, List.length_drop]
      omega
    have hlt : byteLength (cs.take (start + chunker.size)) < byteLength cs := by
      conv_rhs => rw [← List.take_length (l := cs)]
      exact (byteLength_take_lt_iff (Nat.le_refl _)).2 (by omega)
    rw [if_neg (by omega), leastCut?_take hsucc hat.ink h, Option.bind_some, cutPoint?_take (by omega), Pass.cut,
      if_neg (by simpa using hrest), Pass.leastCut, hat.rest, hoverlap]

/-! ## The start of the next chunk -/

/-- Where the first word begins, given what stands before the text, if anything does. -/
def firstWord? : Option Char → List Char → Option Nat
  | _, [] => none
  | before, c :: cs => if !isSpace c && before.any isSpace then some 0 else (firstWord? (some c) cs).map (· + 1)

/-- Where the next chunk starts when only white space stands between the offset `window` and the cut. -/
def lastWordStart? (overlap : UInt64) (cs : List Char) (start window cut : Nat) : Option Nat := do
  let chunk ← slice? cs start window
  if isBlank chunk then nextInk? cs cut
  else
    let last := start + byteLength (trimEnd chunk).dropLast
    let before ← slice? cs 0 last
    let wordStart := byteLength (before.take (before.length - lastWordLength before))
    if start < wordStart then return wordStart
    else if start < last then
      return max (← back? cs (start + byteLength (trimEnd chunk)) overlap.toNat) (← forward? cs start 1)
    else nextInk? cs cut

/-- Where the chunk after the one between `start` and `cut` starts. -/
def nextStart? (overlap : UInt64) (cs : List Char) (start cut : Nat) : Option Nat :=
  if overlap = 0 then nextInk? cs cut
  else do
    let window ← back? cs cut overlap.toNat
    let before ← slice? cs 0 window
    let among ← slice? cs window cut
    match firstWord? before.getLast? among with
    | some n => return window + byteLength (among.take n)
    | none =>
      let fallback ← nextInk? cs window
      if fallback < cut then return fallback
      else lastWordStart? overlap cs start window cut

theorem firstWord?_some (before : Char) (cs : List Char) : firstWord? (some before) cs = wordStart? before cs := by
  induction cs generalizing before with
  | nil => rfl
  | cons c cs ih => rw [firstWord?, wordStart?, ih, Option.any_some, Bool.and_comm]

theorem wordStartFrom?_eq (hi : 0 < i) (hlen : i ≤ cs.length) :
    wordStartFrom? cs i = (firstWord? (cs.take i).getLast? (cs.drop i)).map (· + i) := by
  have hlt : i - 1 < cs.length := by omega
  have hlast : (cs.take i).getLast? = some cs[i - 1] := by
    rw [List.getLast?_eq_getElem?, List.length_take, Nat.min_eq_left hlen, List.getElem?_take_of_lt (by omega),
      List.getElem?_eq_getElem hlt]
  rw [wordStartFrom?, List.drop_eq_getElem_cons hlt, Nat.sub_add_cancel hi, hlast, firstWord?_some]

theorem lastWordLength_le (cs : List Char) : lastWordLength cs ≤ cs.length := by
  have := (List.takeWhile_prefix (l := cs.reverse) fun c => !isSpace c).length_le
  rwa [List.length_reverse] at this

theorem lastWordLength_append (xs ys : List Char) :
    lastWordLength (xs ++ ys) =
      if lastWordLength ys = ys.length then ys.length + lastWordLength xs else lastWordLength ys := by
  unfold lastWordLength
  rw [List.reverse_append, List.takeWhile_append, List.length_reverse]
  split
  · rw [List.length_append, List.length_reverse]
  · rfl

theorem lastWordLength_take_succ {n : Nat} (h : InkAt cs n) :
    lastWordLength (cs.take (n + 1)) = lastWordLength (cs.take n) + 1 := by
  obtain ⟨c, hc, hs⟩ := h
  have hone : lastWordLength [c] = 1 := by simp [lastWordLength, hs]
  rw [List.take_add_one, hc, Option.toList_some, lastWordLength_append, hone, List.length_singleton, if_pos rfl,
    Nat.add_comm]

/-- Where the word before a position begins, told from a later start on: at that start or before it, if there is
only this word from the start on. -/
theorem wordStart_cases {start n : Nat} (hn : start + n ≤ cs.length) :
    lastWordLength ((cs.drop start).take n) = n ∧ start + n - lastWordLength (cs.take (start + n)) ≤ start ∨
      lastWordLength ((cs.drop start).take n) < n ∧
        start + n - lastWordLength (cs.take (start + n)) = start + (n - lastWordLength ((cs.drop start).take n)) := by
  have hle := lastWordLength_le ((cs.drop start).take n)
  rw [length_take_drop hn] at hle
  rw [List.take_add, lastWordLength_append, length_take_drop hn]
  split <;> omega

/-- A text that begins with ink, cut off and trimmed, is cut off behind ink. -/
theorem exists_trimEnd_take {window : Nat} (hink : InkAt cs 0) (hwindow : 0 < window) :
    ∃ n < window, InkAt cs n ∧ trimEnd (cs.take window) = cs.take (n + 1) := by
  have hpos := (inkAt_take.2 ⟨hwindow, hink⟩).lt_inkEnd
  obtain ⟨hlt, hat⟩ := inkAt_take.1 (inkAt_inkEnd_sub_one hpos)
  refine ⟨_, hlt, hat, ?_⟩
  rw [trimEnd_eq_take, List.take_take]
  congr 1
  omega

/-- The last word is looked for before the ink at `start + n`, the last in front of the window. -/
theorem lastWordStart?_trimmed {overlap : UInt64} {start window n : Nat} (cut : Nat) (hle : start + window ≤ cs.length)
    (hn : n < window) (hlast : InkAt (cs.drop start) n)
    (htrim : trimEnd ((cs.drop start).take window) = (cs.drop start).take (n + 1)) :
    lastWordStart? overlap cs (byteLength (cs.take start)) (byteLength (cs.take (start + window))) cut =
      if start < start + n - lastWordLength (cs.take (start + n)) then
        some (byteLength (cs.take (start + n - lastWordLength (cs.take (start + n)))))
      else if 0 < n then some (byteLength (cs.take (start + max (n + 1 - overlap.toNat) 1)))
      else nextInk? cs cut := by
  have hfilled : ¬ isBlank ((cs.drop start).take window) := not_isBlank_iff.2 ⟨n, inkAt_take.2 ⟨hn, hlast⟩⟩
  have hinner : ((cs.drop start).take (n + 1)).dropLast = (cs.drop start).take n := by
    rw [List.dropLast_eq_take, length_take_drop (by omega), List.take_take, Nat.add_sub_cancel,
      Nat.min_eq_left (Nat.le_succ n)]
  have hbefore : (cs.take (start + n)).length = start + n := List.length_take_of_le (by omega)
  rw [lastWordStart?, slice?_take_add hle]
  simp only [Option.bind_eq_bind, Option.bind_some]
  rw [if_neg hfilled, htrim, hinner, byteLength_take_add, byteLength_take_add, slice?_before (by omega), Option.bind_some,
    hbefore, List.take_take, Nat.min_eq_left (Nat.sub_le ..)]
  simp only [byteLength_take_lt_iff (show start + n - lastWordLength (cs.take (start + n)) ≤ cs.length by omega),
    byteLength_take_lt_iff (show start + n ≤ cs.length by omega)]
  split
  · rfl
  · by_cases hlong : 0 < n
    · rw [if_pos (by omega), if_pos hlong, back?_take (by omega), forward?_take (by omega), Option.bind_some,
        Option.bind_some, byteLength_take_max]
      congr 3
      omega
    · rw [if_neg (by omega), if_neg hlong]

theorem lastWordStart?_take {overlap : UInt64} {start window cut : Nat} (hink : InkAt cs start) (hwindow : 0 < window)
    (hle : start + window ≤ cs.length) (hcut : start + cut ≤ cs.length) {body : List Char}
    (hbody : body = trimEnd ((cs.drop start).take window)) :
    lastWordStart? overlap cs (byteLength (cs.take start)) (byteLength (cs.take (start + window)))
        (byteLength (cs.take (start + cut))) =
      some (byteLength (cs.take (start +
        (if 0 < body.length - lastWordLength body then body.length - lastWordLength body
        else if 1 < body.length then max (body.length - overlap.toNat) 1
        else nextInk (cs.drop start) cut)))) := by
  obtain ⟨n, hn, hlast, htrim⟩ := exists_trimEnd_take (inkAt_drop.2 hink) hwindow
  rw [hbody, lastWordStart?_trimmed _ hle hn hlast htrim, htrim, length_take_drop (by omega), lastWordLength_take_succ hlast,
    Nat.add_sub_add_right, nextInk?_take hcut, ← nextInk_drop]
  rcases wordStart_cases (show start + n ≤ cs.length by omega) with ⟨hword, hbeyond⟩ | ⟨hword, hinside⟩
  · have hnone : ¬ 0 < n - lastWordLength ((cs.drop start).take n) := by omega
    rw [if_neg (by omega), if_neg hnone]
    by_cases hlong : 0 < n
    · rw [if_pos hlong, if_pos (by omega)]
    · rw [if_neg hlong, if_neg (by omega)]
  · rw [hinside, if_pos (by omega), if_pos (by omega)]

/-- What stands before a position inside a chunk is a character of the chunk. -/
theorem exists_getLast?_take {start window cut : Nat} (hwindow : 0 < window) (hle : window ≤ cut)
    (hcut : start + cut ≤ cs.length) :
    ∃ before, (cs.take (start + window)).getLast? = some before ∧
      (((cs.drop start).take cut).take window).getLast? = some before := by
  have hne : (cs.drop start).take window ≠ [] := by
    rw [← List.length_pos_iff, length_take_drop (by omega)]
    exact hwindow
  have hlast := List.getLast?_eq_some_getLast hne
  refine ⟨_, ?_, by rw [List.take_take, Nat.min_eq_left hle, hlast]⟩
  rw [List.take_add, List.getLast?_append_of_ne_nil _ hne, hlast]

theorem nextStart?_take {overlap : UInt64} {start cut : Nat} (hink : InkAt cs start) (hov : overlap.toNat < cut)
    (hcut : start + cut ≤ cs.length) :
    nextStart? overlap cs (byteLength (cs.take start)) (byteLength (cs.take (start + cut))) =
      some (byteLength (cs.take (start + nextStart overlap.toNat (cs.drop start) cut))) := by
  unfold nextStart? nextStart
  by_cases hzero : overlap = 0
  · rw [if_pos hzero, if_pos (by rw [hzero]; rfl), nextInk?_take hcut, nextInk_drop]
  have hpos : 0 < overlap.toNat := Nat.pos_of_ne_zero fun h0 => hzero (UInt64.toNat_inj.1 h0)
  rw [if_neg hzero, if_neg hpos.ne', back?_take hcut]
  obtain ⟨window, hwindow⟩ : ∃ window, window = cut - overlap.toNat := ⟨_, rfl⟩
  have hback : start + cut - overlap.toNat = start + window := by omega
  have hwindowle : start + window ≤ cs.length := by omega
  obtain ⟨chunk, hchunk⟩ : ∃ chunk, chunk = (cs.drop start).take cut := ⟨_, rfl⟩
  obtain ⟨before, hbefore⟩ := exists_getLast?_take (show 0 < window by omega) (show window ≤ cut by omega) hcut
  rw [← hchunk] at hbefore
  have hlength : chunk.length = cut := hchunk ▸ length_take_drop hcut
  have hamong : (cs.take (start + cut)).drop (start + window) = chunk.drop window := by
    rw [hchunk, List.drop_take, List.drop_take, List.drop_drop, Nat.add_sub_add_left]
  dsimp only
  rw [← hwindow, ← hchunk, wordStartFrom?_eq (by omega) (by omega), hbefore.2, firstWord?_some]
  simp only [Option.bind_eq_bind, Option.bind_some, hback, slice?_before hwindowle,
    slice?_take (show start + window ≤ start + cut by omega) hcut, hamong, hbefore.1, firstWord?_some]
  cases hword : wordStart? before (chunk.drop window) with
  | some n =>
    have hn := (wordStart?_spec hword).lt
    rw [List.length_drop] at hn
    have htake : (chunk.drop window).take n = (cs.drop (start + window)).take n := by
      rw [hchunk, List.drop_take, List.drop_drop, List.take_take, Nat.min_eq_left (by omega)]
    simp only [Option.map_some, htake, byteLength_take_add, Nat.add_assoc, Nat.add_comm n window]
    rfl
  | none =>
    have hfallback : byteLength (cs.take (nextInk cs (start + window))) < byteLength (cs.take (start + cut)) ↔
        nextInk (cs.drop start) window < cut := by
      rw [byteLength_take_lt_iff hcut, ← nextInk_drop, Nat.add_lt_add_iff_left]
    simp only [Option.map_none, nextInk?_take hwindowle, Option.bind_some, hfallback]
    split
    · rw [← nextInk_drop]
      rfl
    · have hbody : (cs.drop start).take window = chunk.take window := by
        rw [hchunk, List.take_take, Nat.min_eq_left (by omega)]
      rw [lastWordStart?_take hink (by omega) hwindowle hcut rfl, hbody]

/-! ## The passes -/

/-- The spans of the passes from the one on that starts at an offset; nothing if there are more than `bound`
passes. -/
def spansFrom? (size overlap : UInt64) (cs : List Char) (bound start : Nat) (before : Option Nat) : Option (List Span) :=
  if byteLength cs ≤ start then some []
  else
    match bound with
    | 0 => none
    | bound + 1 => do
      let cut ← cut? size overlap cs start before
      let chunk ← slice? cs start cut
      let span? := if isBlank chunk then none else some ⟨start + byteLength (chunk.takeWhile isSpace), trim chunk⟩
      let rest ← slice? cs cut (byteLength cs)
      if isBlank rest then return span?.toList
      else return span?.toList ++ (← spansFrom? size overlap cs bound (← nextStart? overlap cs start cut) (some cut))

/-- The spans of a text; nothing if that takes more than `bound` passes. -/
def splitBytes? (size overlap : UInt64) (cs : List Char) (bound : Nat) : Option (List Span) := do
  spansFrom? size overlap cs bound (← nextInk? cs 0) none

/-- A later start leaves less ink. -/
theorem length_ink_drop_lt {i j : Nat} (hij : i < j) (h : InkAt cs i) :
    (ink (cs.drop j)).length < (ink (cs.drop i)).length := by
  obtain ⟨c, hc, hs⟩ := h
  obtain ⟨hlt, rfl⟩ := List.getElem?_eq_some_iff.1 hc
  have hrest : (ink (cs.drop j)).length ≤ (ink (cs.drop (i + 1))).length :=
    ((List.drop_sublist_drop_left cs hij).filter _).length_le
  have hfirst : ink (cs.drop i) = cs[i] :: ink (cs.drop (i + 1)) := by
    rw [List.drop_eq_getElem_cons hlt, ink, List.filter_cons_of_pos (by simpa using hs), ink]
  rw [hfirst, List.length_cons]
  exact Nat.lt_succ_of_le hrest

/-- What the next pass recalls is the cut of this one. -/
theorem Succeeds.recalls {chunker : Chunker} {start s : Nat} {pass next : Pass} (h : Succeeds chunker cs start s pass next) :
    Recalls cs (start + s) next.taken (some (byteLength (cs.take (start + pass.cut chunker)))) := by
  have hlength : pass.rest.length = cs.length - start := by rw [h.passAt.rest, List.length_drop]
  have hcut := pass.cut_le_length chunker
  have hstart := h.passAt.ink.lt
  rw [h.taken]
  refine .later (by omega) ?_
  rw [nextInk_drop]
  by_cases hle : s ≤ pass.cut chunker
  · congr 1
    omega
  · -- The next pass starts at the first ink behind the cut.
    have hink := h.nextAt.ink
    have hnext := h.startsWell.le_nextInk
    have hrest := nextInk_drop cs start (pass.cut chunker)
    rw [← h.passAt.rest] at hrest
    have hbehind := nextInk_le (show start + pass.cut chunker ≤ start + s by omega) hink
    have hself := nextInk_le (Nat.le_refl _) hink
    have hge := le_nextInk cs (start + s)
    rw [show start + s + (pass.cut chunker - s) = start + s by omega]
    omega

theorem taken_of_first? {pass : Pass} (h : Pass.first? cs = some pass) : pass.taken = none := by
  unfold Pass.first? at h
  split at h
  · cases h
  · cases h
    rfl

variable {size overlap : UInt64} {chunker : Chunker}

/-- One pass by offsets: its span, and then those of the passes from the next start on. -/
theorem spansFrom?_succ (hsize : chunker.size = size.toNat) (hoverlap : chunker.overlap = overlap.toNat)
    (hsucc : (overlap + 1).toNat = overlap.toNat + 1) {start bound : Nat} {pass : Pass} (hat : pass.At cs start)
    {before : Option Nat} (hrecalls : Recalls cs start pass.taken before) :
    spansFrom? size overlap cs (bound + 1) (byteLength (cs.take start)) before =
      if isBlank (pass.rest.drop (pass.cut chunker)) then some [pass.span chunker]
      else do
        let next ← nextStart? overlap cs (byteLength (cs.take start)) (byteLength (cs.take (start + pass.cut chunker)))
        let spans ← spansFrom? size overlap cs bound next (some (byteLength (cs.take (start + pass.cut chunker))))
        return pass.span chunker :: spans := by
  have hstart := hat.ink.lt
  have hcut := pass.cut_le_length chunker
  have hlength : pass.rest.length = cs.length - start := by rw [hat.rest, List.length_drop]
  have hinside : ¬ byteLength cs ≤ byteLength (cs.take start) := by
    have := (byteLength_take_lt_iff (Nat.le_refl cs.length)).2 hstart
    rw [List.take_length] at this
    omega
  have hchunk : slice? cs (byteLength (cs.take start)) (byteLength (cs.take (start + pass.cut chunker))) =
      some (pass.rest.take (pass.cut chunker)) := by
    rw [slice?_take_add (by omega), hat.rest]
  have hspan : (if isBlank (pass.rest.take (pass.cut chunker)) then none else
      some (Span.mk (byteLength (cs.take start) + byteLength ((pass.rest.take (pass.cut chunker)).takeWhile isSpace))
        (trim (pass.rest.take (pass.cut chunker))))) = some (pass.span chunker) := by
    rw [← hat.span?_eq chunker, Pass.span?, hat.offset]
  rw [spansFrom?, if_neg hinside, cut?_take hsize hoverlap hsucc hat hrecalls]
  simp only [Option.bind_eq_bind, Option.bind_some, hchunk, slice?_after (show start + pass.cut chunker ≤ cs.length by omega),
    ← List.drop_drop, ← hat.rest, hspan]
  rfl

theorem spansFrom?_course (hsize : chunker.size = size.toNat) (hoverlap : chunker.overlap = overlap.toNat)
    (hsucc : (overlap + 1).toNat = overlap.toNat + 1) {start bound : Nat} {pass : Pass} {passes : List Pass}
    (hcourse : Course chunker pass passes) (hat : pass.At cs start) {before : Option Nat}
    (hrecalls : Recalls cs start pass.taken before) (hbound : (ink (cs.drop start)).length ≤ bound) :
    spansFrom? size overlap cs bound (byteLength (cs.take start)) before = some (passes.map (·.span chunker)) := by
  induction hcourse generalizing start bound before with
  | @last pass hnone =>
    have hless := length_ink_drop_lt (Nat.lt_succ_self start) hat.ink
    obtain ⟨bound, rfl⟩ : ∃ n, bound = n + 1 := ⟨bound - 1, by omega⟩
    have hblank : isBlank (pass.rest.drop (pass.cut chunker)) := by
      by_contra hb
      simp [Pass.next?, hb] at hnone
    rw [spansFrom?_succ hsize hoverlap hsucc hat hrecalls, if_pos hblank]
    rfl
  | @step pass next passes hnext _ ih =>
    obtain ⟨s, hs⟩ := hat.succeeds hnext
    have hpos := hs.startsWell.pos
    have hless := length_ink_drop_lt (show start < start + s by omega) hat.ink
    obtain ⟨bound, rfl⟩ : ∃ n, bound = n + 1 := ⟨bound - 1, by omega⟩
    have hcut := pass.cut_le_length chunker
    have hlength : pass.rest.length = cs.length - start := by rw [hat.rest, List.length_drop]
    have hstart := hat.ink.lt
    have hov : overlap.toNat < pass.cut chunker := hoverlap ▸ Pass.overlap_lt_cut hs.not_isBlank
    rw [spansFrom?_succ hsize hoverlap hsucc hat hrecalls, if_neg hs.not_isBlank,
      nextStart?_take hat.ink hov (by omega), ← hat.rest, ← hoverlap, ← hs.start_eq, Option.bind_eq_bind,
      Option.bind_some, ih hs.nextAt hs.recalls (by omega)]
    rfl

/-- One more than the overlap is still a size. -/
theorem toNat_overlap_succ {size overlap : UInt64} (hsize : chunker.size = size.toNat)
    (hoverlap : chunker.overlap = overlap.toNat) : (overlap + 1).toNat = overlap.toNat + 1 := by
  have hlt := chunker.overlap_lt_size
  have hword := size.toNat_lt
  rw [UInt64.toNat_add]
  exact Nat.mod_eq_of_lt (by show overlap.toNat + 1 < _; omega)

/-- By offsets and with sizes of 64 bits, the spans of a text are the same: all slices that are taken on the way
are there, the sum of the overlap and one does not overflow, and there are no more passes than there is ink. -/
theorem splitBytes?_eq (hsize : chunker.size = size.toNat) (hoverlap : chunker.overlap = overlap.toNat) (text : String)
    {bound : Nat} (hbound : (ink text.toList).length ≤ bound) :
    splitBytes? size overlap text.toList bound = some (chunker.split text) := by
  have hsucc := toNat_overlap_succ hsize hoverlap
  have hzero := nextInk?_take (Nat.zero_le text.toList.length)
  rw [List.take_zero, byteLength_nil] at hzero
  rw [splitBytes?, hzero, split_eq_map, Option.bind_eq_bind, Option.bind_some]
  cases hfirst : Pass.first? text.toList with
  | none =>
    have hend : nextInk text.toList 0 = text.toList.length := by
      rw [nextInk, List.drop_zero, Nat.zero_add, List.takeWhile_eq_self_iff.2 (isBlank_iff.1 (first?_eq_none hfirst))]
    rw [passes, hfirst, hend, List.take_length, spansFrom?.eq_def, if_pos (Nat.le_refl _)]
    rfl
  | some pass =>
    have hfewer : (ink (text.toList.drop (nextInk text.toList 0))).length ≤ (ink text.toList).length :=
      ((List.drop_sublist _ _).filter _).length_le
    have hrecalls : Recalls text.toList (nextInk text.toList 0) pass.taken none := by
      rw [taken_of_first? hfirst]
      exact .first
    exact spansFrom?_course hsize hoverlap hsucc (course_passes chunker hfirst) (first?_spec hfirst) hrecalls (by omega)

end GroundedQA.Chunking
