import GroundedQA.Evaluation.Statements
import GroundedQA.Proofs.Text.Ink
/-!
# The statements of a text

Every statement is a piece of the text, one behind the other, and no letter or digit of the text is
in none of them (`StandInOrder`, `IsStatement`). Inside a statement nothing ends one: such a text is
`Unbroken`, and `sentences_append` says what the scan makes of it with something behind it. So
statements on lines of their own are found again as they are.
-/

namespace GroundedQA.Evaluation

open Text

variable {cs piece : List Char} {pieces : List (List Char)}

/-! ## Letters and digits -/

/-- White space is no letter or digit: the two tables have no code point in common. -/
theorem not_isSpace_of_isAlphanumeric {c : Char} (h : isAlphanumeric c) : ¬ isSpace c := by
  have hapart : ∀ space ∈ spaceRanges, ∀ letter ∈ alphanumericRanges, space.2 < letter.1 ∨ letter.2 < space.1 := by
    decide +kernel
  intro hc
  obtain ⟨letter, hletter, hlower, hupper⟩ := inRanges_iff.1 h
  obtain ⟨space, hspace, hfrom, hto⟩ := inRanges_iff.1 hc
  have := hapart space hspace letter hletter
  omega

/-- The letters and digits of a text, in order. -/
def content (cs : List Char) : List Char :=
  cs.filter isAlphanumeric

theorem content_of_isBlank (h : isBlank cs) : content cs = [] :=
  List.filter_eq_nil_iff.2 fun c hc halnum => not_isSpace_of_isAlphanumeric halnum (isBlank_iff.1 h c hc)

theorem content_append (xs ys : List Char) : content (xs ++ ys) = content xs ++ content ys :=
  List.filter_append ..

theorem content_flatten (pieces : List (List Char)) : content pieces.flatten = (pieces.map content).flatten :=
  List.filter_flatten ..

theorem content_ne_nil_iff : content cs ≠ [] ↔ hasContent cs := by
  simp [content, hasContent]

theorem content_trim (cs : List Char) : content (trim cs) = content cs := by
  obtain ⟨front, back, hfront, hback, hcs⟩ := exists_trim cs
  rw [congrArg content hcs, content_append, content_append, content_of_isBlank hfront, content_of_isBlank hback,
    List.nil_append, List.append_nil]

/-! ## The pieces of a text -/

/-- The pieces stand in the text one behind the other, with anything before, between and after them. -/
inductive StandInOrder : List (List Char) → List Char → Prop
  | nil (after : List Char) : StandInOrder [] after
  | cons (before : List Char) {piece after : List Char} {pieces : List (List Char)} :
      StandInOrder pieces after → StandInOrder (piece :: pieces) (before ++ piece ++ after)

namespace StandInOrder

theorem behind (front : List Char) (h : StandInOrder pieces cs) : StandInOrder pieces (front ++ cs) := by
  cases h with
  | nil => exact .nil _
  | cons before h => simpa only [List.append_assoc] using h.cons (front ++ before)

theorem map_trim (h : StandInOrder pieces cs) : StandInOrder (pieces.map trim) cs := by
  induction h with
  | nil after => exact .nil after
  | @cons before piece after pieces _ ih =>
    obtain ⟨front, back, -, -, hpiece⟩ := exists_trim piece
    have htext : before ++ piece ++ after = before ++ front ++ trim piece ++ (back ++ after) := by
      rw [congrArg (before ++ · ++ after) hpiece]
      simp only [List.append_assoc]
    rw [htext, List.map_cons]
    exact (ih.behind back).cons (before ++ front)

theorem filter (kept : List Char → Bool) (h : StandInOrder pieces cs) : StandInOrder (pieces.filter kept) cs := by
  induction h with
  | nil after => exact .nil after
  | @cons before piece after pieces _ ih =>
    rw [List.filter_cons]
    split
    · exact ih.cons before
    · exact ih.behind (before ++ piece)

end StandInOrder

/-- There is a first sentence, the text begins with it, and the others stand in what follows. -/
theorem exists_sentences (cs : List Char) :
    ∃ first rest after, sentences cs = first :: rest ∧ cs = first ++ after ∧ StandInOrder rest after := by
  induction cs with
  | nil => exact ⟨[], [], [], rfl, rfl, .nil []⟩
  | cons c cs ih =>
    obtain ⟨first, rest, after, hsentences, hcs, horder⟩ := ih
    have hall : StandInOrder (sentences cs) cs := by
      rw [hsentences, hcs]
      exact horder.cons []
    rw [sentences]
    split
    · exact ⟨[], sentences cs, c :: cs, rfl, rfl, hall.behind [c]⟩
    split
    · exact ⟨[c], sentences cs, cs, rfl, rfl, hall⟩
    · exact ⟨c :: first, rest, after, by rw [hsentences, consFirst], by rw [hcs, List.cons_append], horder⟩

/-- Only the line breaks of a text are in none of its sentences. -/
theorem flatten_sentences (cs : List Char) : (sentences cs).flatten = cs.filter (· ≠ '\n') := by
  induction cs with
  | nil => rfl
  | cons c cs ih =>
    rw [sentences]
    split
    · next hc => simp [hc, ih]
    · next hc =>
      split
      · simp [hc, ih]
      · obtain ⟨first, rest, -, hsentences, -⟩ := exists_sentences cs
        rw [hsentences, List.flatten_cons] at ih
        rw [hsentences, consFirst, List.flatten_cons, List.cons_append, ih, List.filter_cons_of_pos (by simp [hc])]

/-! ## Texts that nothing breaks -/

/-- No line break is in the text, and no end of a statement but at its end. -/
def Unbroken (cs : List Char) : Prop :=
  ∀ before c after, cs = before ++ c :: after → c ≠ '\n' ∧ (endsStatement c after → after = [])

theorem endsStatement_append (c : Char) {after : List Char} (h : after ≠ []) (more : List Char) :
    endsStatement c (after ++ more) = endsStatement c after := by
  rw [endsStatement, List.head?_append_of_ne_nil _ h, endsStatement]

theorem Unbroken.slice {s : List Char} (h : Unbroken cs) (hs : s <:+: cs) : Unbroken s := by
  obtain ⟨front, back, rfl⟩ := hs
  rintro before c after rfl
  obtain ⟨hc, hend⟩ := h (front ++ before) c (after ++ back) (by simp)
  refine ⟨hc, fun hends => by_contra fun hne => hne ?_⟩
  rw [endsStatement_append c hne] at hend
  exact (List.append_eq_nil_iff.1 (hend hends)).1

theorem unbroken_nil : Unbroken [] := by
  intro before c after h
  simp at h

theorem unbroken_cons {c : Char} :
    Unbroken (c :: cs) ↔ c ≠ '\n' ∧ (endsStatement c cs → cs = []) ∧ Unbroken cs := by
  constructor
  · intro h
    obtain ⟨hc, hend⟩ := h [] c cs rfl
    exact ⟨hc, hend, h.slice (List.suffix_cons c cs).isInfix⟩
  · rintro ⟨hc, hend, h⟩ before d after hcs
    cases before with
    | nil =>
      obtain ⟨rfl, rfl⟩ := List.cons.inj hcs
      exact ⟨hc, hend⟩
    | cons b before => exact h before d after (List.cons.inj hcs).2

theorem unbroken_of_mem_sentences (h : piece ∈ sentences cs) : Unbroken piece := by
  induction cs generalizing piece with
  | nil =>
    obtain rfl := List.mem_singleton.1 h
    exact unbroken_nil
  | cons c cs ih =>
    obtain ⟨first, rest, after, hsentences, hcs, -⟩ := exists_sentences cs
    rw [sentences] at h
    split at h
    · rcases List.mem_cons.1 h with rfl | h
      · exact unbroken_nil
      · exact ih h
    next hc =>
      split at h
      · rcases List.mem_cons.1 h with rfl | h
        · exact unbroken_cons.2 ⟨hc, fun _ => rfl, unbroken_nil⟩
        · exact ih h
      next hend =>
        rw [hsentences, consFirst] at h
        rcases List.mem_cons.1 h with rfl | h
        -- What follows begins with its first sentence, so `c` ends a statement in front of both or of neither.
        · refine unbroken_cons.2 ⟨hc, fun hends => by_contra fun hne => hend ?_, ih (hsentences ▸ List.mem_cons_self)⟩
          rwa [hcs, endsStatement_append c hne]
        · exact ih (hsentences ▸ List.mem_cons_of_mem _ h)

/-- In front of an end of a statement an unbroken text is the next sentence, perhaps with an empty one behind it. -/
theorem sentences_append {after : List Char} {more : List (List Char)} (h : Unbroken cs)
    (hafter : sentences after = [] :: more) :
    sentences (cs ++ after) = cs :: more ∨ sentences (cs ++ after) = cs :: [] :: more := by
  induction cs with
  | nil => exact .inl hafter
  | cons c cs ih =>
    obtain ⟨hc, hend, hcs⟩ := unbroken_cons.1 h
    rw [List.cons_append, sentences, if_neg hc]
    split
    -- Only the last character can end a statement, and the empty sentence stands behind it.
    · next hends =>
      have hnil : cs = [] := by_contra fun hne => hne (hend (endsStatement_append c hne after ▸ hends))
      exact .inr (by rw [hnil, List.nil_append, hafter])
    · exact (ih hcs).imp (fun h => by rw [h, consFirst]) (fun h => by rw [h, consFirst])

/-! ## Statements -/

/-- What a statement looks like. -/
structure IsStatement (piece : List Char) : Prop where
  trimmed : trim piece = piece
  no_newline : '\n' ∉ piece
  has_content : ∃ c ∈ piece, isAlphanumeric c
  full_width_last : ∀ before c after, piece = before ++ c :: after → c ∈ fullWidthMarks → after = []
  plain_last : ∀ before c d after, piece = before ++ c :: d :: after → c ∈ plainMarks → ¬ isSpace d

theorem isStatement_iff : IsStatement piece ↔ trim piece = piece ∧ Unbroken piece ∧ hasContent piece := by
  constructor
  · intro h
    refine ⟨h.trimmed, fun before c after hpiece => ⟨?_, fun hends => ?_⟩, List.any_eq_true.2 h.has_content⟩
    · rintro rfl
      exact h.no_newline (hpiece ▸ List.mem_append_right _ List.mem_cons_self)
    · simp only [endsStatement, Bool.or_eq_true, Bool.and_eq_true, List.contains_iff_mem] at hends
      rcases hends with hmark | ⟨hmark, hspace⟩
      · exact h.full_width_last before c after hpiece hmark
      · cases after with
        | nil => rfl
        | cons d after => exact absurd hspace (h.plain_last before c d after hpiece hmark)
  · rintro ⟨htrim, hunbroken, hcontent⟩
    refine ⟨htrim, fun hmem => ?_, List.any_eq_true.1 hcontent, fun before c after hpiece hmark => ?_,
      fun before c d after hpiece hmark hspace => ?_⟩
    · obtain ⟨before, after, hpiece⟩ := List.append_of_mem hmem
      exact (hunbroken before '\n' after hpiece).1 rfl
    · exact (hunbroken before c after hpiece).2 (by simp [endsStatement, hmark])
    · have := (hunbroken before c (d :: after) hpiece).2 (by simp [endsStatement, hmark, hspace])
      cases this

theorem isStatement_of_mem (h : piece ∈ statementsOf cs) : IsStatement piece := by
  obtain ⟨hmem, hcontent⟩ := List.mem_filter.1 h
  obtain ⟨sentence, hsentence, rfl⟩ := List.mem_map.1 hmem
  obtain ⟨front, back, -, -, hsplit⟩ := exists_trim sentence
  exact isStatement_iff.2
    ⟨trim_trim sentence, (unbroken_of_mem_sentences hsentence).slice ⟨front, back, hsplit.symm⟩, hcontent⟩

theorem statementsOf_inOrder (cs : List Char) : StandInOrder (statementsOf cs) cs := by
  obtain ⟨first, rest, after, hsentences, hcs, horder⟩ := exists_sentences cs
  have hall : StandInOrder (sentences cs) cs := by
    rw [hsentences, hcs]
    exact horder.cons []
  exact hall.map_trim.filter hasContent

/-- What holds no letter or digit adds nothing to the content. -/
theorem content_flatten_filter (pieces : List (List Char)) :
    content (pieces.filter hasContent).flatten = content pieces.flatten := by
  induction pieces with
  | nil => rfl
  | cons piece pieces ih =>
    rw [List.filter_cons]
    split
    · rw [List.flatten_cons, List.flatten_cons, content_append, content_append, ih]
    · next hcontent =>
      rw [List.flatten_cons, content_append, not_not.1 (mt content_ne_nil_iff.1 hcontent), List.nil_append, ih]

theorem content_statementsOf (cs : List Char) : content (statementsOf cs).flatten = content cs := by
  have htrim : ((sentences cs).map trim).map content = (sentences cs).map content := by
    rw [List.map_map]
    exact List.map_congr_left fun piece _ => content_trim piece
  have hnewline : content (cs.filter (· ≠ '\n')) = content cs := by
    rw [content, List.filter_filter]
    refine List.filter_congr fun c _ => ?_
    by_cases hc : c = '\n'
    · subst hc
      decide +kernel
    · simp [hc]
  rw [statementsOf, content_flatten_filter, content_flatten, htrim, ← content_flatten, flatten_sentences, hnewline]

theorem statementsOf_append {after : List Char} {more : List (List Char)} (h : IsStatement piece)
    (hafter : sentences after = [] :: more) :
    statementsOf (piece ++ after) = piece :: (more.map trim).filter hasContent := by
  obtain ⟨htrim, hunbroken, hcontent⟩ := isStatement_iff.1 h
  have hempty : hasContent (trim []) = false := rfl
  rcases sentences_append hunbroken hafter with hsentences | hsentences
  · rw [statementsOf, hsentences, List.map_cons, htrim, List.filter_cons_of_pos hcontent]
  · rw [statementsOf, hsentences, List.map_cons, htrim, List.filter_cons_of_pos hcontent, List.map_cons,
      List.filter_cons_of_neg (by simp [hempty])]

/-- Statements on lines of their own are found again as they are. -/
theorem statementsOf_intercalate (h : ∀ piece ∈ pieces, IsStatement piece) :
    statementsOf (['\n'].intercalate pieces) = pieces := by
  induction pieces with
  | nil => rfl
  | cons piece pieces ih =>
    obtain ⟨hpiece, hpieces⟩ := List.forall_mem_cons.1 h
    cases pieces with
    | nil =>
      have hend : sentences [] = [[]] := rfl
      simpa using statementsOf_append hpiece hend
    | cons next pieces =>
      have hline : sentences ('\n' :: ['\n'].intercalate (next :: pieces)) = [] :: sentences _ := rfl
      have := statementsOf_append hpiece hline
      rw [← statementsOf, ih hpieces] at this
      simpa using this

/-- The statements of a text stand in it one behind the other and hold all its letters and digits. What is a statement
is taken as one again, alone or on a line behind the others. -/
theorem statements_stable (text : String) :
    StandInOrder ((statements text).map String.toList) text.toList ∧
    (∀ statement ∈ statements text, IsStatement statement.toList) ∧
    content ((statements text).flatMap String.toList) = content text.toList ∧
    statements ("\n".intercalate (statements text)) = statements text ∧
    ∀ statement ∈ statements text, statements statement = [statement] := by
  have htoList : (statements text).map String.toList = statementsOf text.toList := by
    simp [statements]
  have hall : ∀ statement ∈ statements text, IsStatement statement.toList := fun statement hmem =>
    isStatement_of_mem (htoList ▸ List.mem_map_of_mem hmem)
  have hlines (lines : List String) (h : ∀ line ∈ lines, IsStatement line.toList) :
      statements ("\n".intercalate lines) = lines := by
    rw [statements, String.toList_intercalate]
    rw [show "\n".toList = ['\n'] from rfl, statementsOf_intercalate (by simpa using h)]
    simp
  refine ⟨htoList ▸ statementsOf_inOrder text.toList, hall, ?_, hlines _ hall, fun statement hmem => ?_⟩
  · rw [List.flatMap_def, htoList, content_statementsOf]
  · simpa using hlines [statement] (by simpa using hall statement hmem)

/-- A decimal, an ellipsis, a full-width mark, a wide space and a fragment that is no statement. -/
def mixedText : String := "Pi is 3.14... a！b.\u3000?\n c"

theorem statements_stable_mixed :
    "Pi is 3.14..." ∈ statements mixedText ∧ IsStatement "Pi is 3.14...".toList ∧
    statements "Pi is 3.14..." = ["Pi is 3.14..."] ∧
    StandInOrder (["Pi is 3.14...", "a！", "b.", "c"].map String.toList) mixedText.toList ∧
    statements "Pi is 3.14...\na！\nb.\nc" = ["Pi is 3.14...", "a！", "b.", "c"] := by
  have hstatements : statements mixedText = ["Pi is 3.14...", "a！", "b.", "c"] := by decide +kernel
  have hmem : "Pi is 3.14..." ∈ statements mixedText := hstatements ▸ List.mem_cons_self
  obtain ⟨horder, hall, -, hlines, hone⟩ := statements_stable mixedText
  rw [hstatements] at horder hlines
  exact ⟨hmem, hall _ hmem, hone _ hmem, horder, hlines⟩

end GroundedQA.Evaluation
