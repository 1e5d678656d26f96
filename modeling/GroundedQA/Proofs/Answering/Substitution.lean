import GroundedQA.Proofs.Answering.Template
import Mathlib.Logic.ExistsUnique
/-!
# Rendering puts in all values at once

A text can be laid out as literal text with placeholders in between, and there is one way only in which every
placeholder that stands in the text is one of those in between (`Layout.covers_iff`). A prompt is this layout of
its template with the values in their places, whatever these hold (`Template.render_simultaneous`); so the parts of
a template may be rendered apart where no placeholder stands across their border.
-/

namespace GroundedQA

open Text

namespace Placeholder

/-- The placeholder as it stands in a template. -/
def spelling (placeholder : Placeholder) : List Char := placeholder.text.toList

/-- The placeholder stands in the text `cs`, behind the text `before`. -/
def StandsBehind (placeholder : Placeholder) (before cs : List Char) : Prop :=
  ∃ after, cs = before ++ placeholder.spelling ++ after

end Placeholder

open Placeholder

/-- A text in parts: literal text with a placeholder behind it, any number of times, and literal text at the end. -/
structure Layout where
  parts : List (List Char × Placeholder)
  last : List Char
deriving DecidableEq

namespace Layout

/-- The parts with a text for each placeholder. -/
def filledParts (value : Placeholder → List Char) (parts : List (List Char × Placeholder)) : List Char :=
  parts.flatMap fun part => part.1 ++ value part.2

/-- The layout with a text for each placeholder. -/
def fill (value : Placeholder → List Char) (layout : Layout) : List Char :=
  filledParts value layout.parts ++ layout.last

/-- The text that is laid out. -/
def text (layout : Layout) : List Char := layout.fill spelling

def literals (layout : Layout) : List (List Char) :=
  layout.parts.map Prod.fst ++ [layout.last]

/-- The placeholder is one of the layout, behind the text `before`. -/
def HasAt (layout : Layout) (before : List Char) (placeholder : Placeholder) : Prop :=
  ∃ done literal rest, layout.parts = done ++ (literal, placeholder) :: rest ∧
    before = filledParts spelling done ++ literal

/-- The layout is one of the text `cs`, and has all placeholders that stand in it. -/
structure Covers (layout : Layout) (cs : List Char) : Prop where
  text_eq : layout.text = cs
  hasAt : ∀ before placeholder, placeholder.StandsBehind before cs → layout.HasAt before placeholder

/-! ## Segment by segment -/

/-- The layout with a segment in front. -/
def cons : Segment → Layout → Layout
  | .letter c, ⟨[], last⟩ => ⟨[], c :: last⟩
  | .letter c, ⟨(literal, placeholder) :: parts, last⟩ => ⟨(c :: literal, placeholder) :: parts, last⟩
  | .hole placeholder, ⟨parts, last⟩ => ⟨([], placeholder) :: parts, last⟩

def empty : Layout := ⟨[], []⟩

/-- The layout of a text as it is read from left to right. -/
def ofText (cs : List Char) : Layout :=
  (Segment.ofText cs).foldr cons empty

variable {layout tail : Layout} {cs before rest : List Char} {placeholder other : Placeholder} {c : Char}

theorem eq_empty_or_cons (layout : Layout) : layout = empty ∨ ∃ segment tail, layout = cons segment tail := by
  obtain ⟨_ | ⟨⟨_ | ⟨c, literal⟩, placeholder⟩, parts⟩, last⟩ := layout
  · cases last with
    | nil => exact .inl rfl
    | cons c last => exact .inr ⟨.letter c, ⟨[], last⟩, rfl⟩
  · exact .inr ⟨.hole placeholder, ⟨parts, last⟩, rfl⟩
  · exact .inr ⟨.letter c, ⟨(literal, placeholder) :: parts, last⟩, rfl⟩

theorem fill_cons (value : Placeholder → List Char) (segment : Segment) (layout : Layout) :
    (cons segment layout).fill value = segment.fill value ++ layout.fill value := by
  cases segment with
  | letter c =>
    obtain ⟨_ | ⟨part, parts⟩, last⟩ := layout
    · rfl
    · rfl
  | hole placeholder => simp [cons, fill, filledParts, Segment.fill]

theorem fill_ofText (value : Placeholder → List Char) (cs : List Char) :
    (ofText cs).fill value = (Segment.ofText cs).flatMap (Segment.fill value) := by
  unfold ofText
  induction Segment.ofText cs with
  | nil => rfl
  | cons segment segments ih => rw [List.foldr_cons, fill_cons, ih, List.flatMap_cons]

theorem ofText_nil : ofText [] = empty := by
  rw [ofText, Segment.ofText_nil, List.foldr_nil]

theorem ofText_of_hole? (h : Segment.hole? cs = some (placeholder, rest)) :
    ofText cs = cons (.hole placeholder) (ofText rest) := by
  rw [ofText, Segment.ofText_of_hole? h, List.foldr_cons, ofText]

theorem ofText_cons (h : Segment.hole? (c :: cs) = none) : ofText (c :: cs) = cons (.letter c) (ofText cs) := by
  rw [ofText, Segment.ofText_cons h, List.foldr_cons, ofText]

theorem spelling_ne_nil (placeholder : Placeholder) : spelling placeholder ≠ [] := by
  simp [spelling, Segment.text_ne_empty]

theorem not_hasAt_empty : ¬empty.HasAt before placeholder := by
  rintro ⟨done, literal, rest, hparts, -⟩
  simp [empty] at hparts

theorem hasAt_cons_letter :
    (cons (.letter c) layout).HasAt before placeholder ↔
      ∃ after, before = c :: after ∧ layout.HasAt after placeholder := by
  obtain ⟨_ | ⟨⟨first, other⟩, parts⟩, last⟩ := layout
  · refine iff_of_false ?_ ?_
    · rintro ⟨done, literal, rest, hparts, -⟩
      simp [cons] at hparts
    · rintro ⟨after, -, done, literal, rest, hparts, -⟩
      simp at hparts
  · constructor
    · rintro ⟨_ | ⟨part, done⟩, literal, rest, hparts, rfl⟩
      · cases hparts
        exact ⟨first, rfl, [], first, parts, rfl, rfl⟩
      · obtain ⟨rfl, rfl⟩ := List.cons.inj hparts
        exact ⟨_, rfl, (first, other) :: done, literal, rest, rfl, rfl⟩
    · rintro ⟨after, rfl, _ | ⟨part, done⟩, literal, rest, hparts, rfl⟩
      · cases hparts
        exact ⟨[], c :: first, parts, rfl, rfl⟩
      · obtain ⟨rfl, rfl⟩ := List.cons.inj hparts
        exact ⟨(c :: first, other) :: done, literal, rest, rfl, rfl⟩

theorem hasAt_cons_hole :
    (cons (.hole other) layout).HasAt before placeholder ↔
      before = [] ∧ placeholder = other ∨ ∃ after, before = spelling other ++ after ∧ layout.HasAt after placeholder := by
  constructor
  · rintro ⟨_ | ⟨part, done⟩, literal, rest, hparts, rfl⟩
    · cases hparts
      exact .inl ⟨rfl, rfl⟩
    · obtain ⟨rfl, htail⟩ := List.cons.inj hparts
      exact .inr ⟨filledParts spelling done ++ literal, by simp [filledParts], done, literal, rest, htail, rfl⟩
  · rintro (⟨rfl, rfl⟩ | ⟨after, rfl, done, literal, rest, hparts, rfl⟩)
    · exact ⟨[], [], layout.parts, rfl, rfl⟩
    · exact ⟨([], other) :: done, literal, rest, by simp [cons, hparts], by simp [filledParts]⟩

/-! ## The layout of a text -/

theorem covers_nil : layout.Covers [] ↔ layout = empty := by
  constructor
  · rintro ⟨htext, -⟩
    rcases eq_empty_or_cons layout with rfl | ⟨segment, tail, rfl⟩
    · rfl
    · rw [text, fill_cons] at htext
      cases segment with
      | letter c => cases htext
      | hole placeholder => exact absurd (List.append_eq_nil_iff.1 htext).1 (spelling_ne_nil placeholder)
  · rintro rfl
    refine ⟨rfl, fun before placeholder ⟨after, h⟩ => ?_⟩
    have := spelling_ne_nil placeholder
    simp_all

/-- A text that begins with a placeholder is laid out as this and what follows it. -/
theorem covers_hole :
    layout.Covers (spelling placeholder ++ rest) ↔
      ∃ tail, layout = cons (.hole placeholder) tail ∧ tail.Covers rest := by
  constructor
  · rintro ⟨htext, hall⟩
    have hfirst := hall [] placeholder ⟨rest, rfl⟩
    rcases eq_empty_or_cons layout with rfl | ⟨segment, tail, rfl⟩
    · exact absurd hfirst not_hasAt_empty
    cases segment with
    | letter c =>
      obtain ⟨after, hafter, -⟩ := hasAt_cons_letter.1 hfirst
      cases hafter
    | hole other =>
      obtain rfl : placeholder = other := by
        rcases hasAt_cons_hole.1 hfirst with ⟨-, rfl⟩ | ⟨after, hafter, -⟩
        · rfl
        · exact absurd (List.append_eq_nil_iff.1 hafter.symm).1 (spelling_ne_nil other)
      rw [text, fill_cons] at htext
      refine ⟨tail, rfl, List.append_cancel_left htext, fun before other ⟨after, hrest⟩ => ?_⟩
      have hother := hall (spelling placeholder ++ before) other ⟨after, by simp [hrest]⟩
      rcases hasAt_cons_hole.1 hother with ⟨hnil, -⟩ | ⟨after, hafter, htail⟩
      · exact absurd (List.append_eq_nil_iff.1 hnil).1 (spelling_ne_nil placeholder)
      · rwa [List.append_cancel_left hafter]
  · rintro ⟨tail, rfl, htext, hall⟩
    refine ⟨by rw [text, fill_cons, ← htext]; rfl, fun before other ⟨after, h⟩ => hasAt_cons_hole.2 ?_⟩
    rcases Segment.text_append_cases h with ⟨hnil, hsame, -⟩ | ⟨between, hbefore, hrest⟩
    · exact .inl ⟨hnil, hsame⟩
    · exact .inr ⟨between, hbefore, hall between other ⟨after, hrest⟩⟩

theorem ne_of_hole?_eq_none (h : Segment.hole? cs = none) (placeholder : Placeholder) (rest : List Char) :
    cs ≠ spelling placeholder ++ rest := by
  intro hcs
  rw [Segment.hole?_eq_some_iff.2 hcs] at h
  cases h

/-- A text that does not begin with a placeholder is laid out as its first character and what follows it. -/
theorem covers_letter (hnone : Segment.hole? (c :: cs) = none) :
    layout.Covers (c :: cs) ↔ ∃ tail, layout = cons (.letter c) tail ∧ tail.Covers cs := by
  constructor
  · rintro ⟨htext, hall⟩
    rcases eq_empty_or_cons layout with rfl | ⟨segment, tail, rfl⟩
    · cases htext
    rw [text, fill_cons] at htext
    cases segment with
    | letter d =>
      obtain ⟨rfl, htail⟩ := List.cons.inj htext
      refine ⟨tail, rfl, htail, fun before other ⟨after, hcs⟩ => ?_⟩
      obtain ⟨after, hafter, hother⟩ := hasAt_cons_letter.1 (hall (d :: before) other ⟨after, by rw [hcs]; rfl⟩)
      rwa [(List.cons.inj hafter).2]
    | hole placeholder => exact absurd htext.symm (ne_of_hole?_eq_none hnone placeholder _)
  · rintro ⟨tail, rfl, htext, hall⟩
    refine ⟨by rw [text, fill_cons, ← htext]; rfl, fun before other ⟨after, h⟩ => hasAt_cons_letter.2 ?_⟩
    cases before with
    | nil => exact absurd h (ne_of_hole?_eq_none hnone other after)
    | cons b before =>
      obtain ⟨rfl, hcs⟩ := List.cons.inj h
      exact ⟨before, rfl, hall before other ⟨after, hcs⟩⟩

/-- A text has one layout with all its placeholders, the one that it is read as. -/
theorem covers_iff : layout.Covers cs ↔ layout = ofText cs := by
  induction cs using Segment.ofText.induct generalizing layout with
  | case1 cs placeholder rest hhole ih =>
    rw [ofText_of_hole? hhole, Segment.hole?_eq_some_iff.1 hhole]
    refine covers_hole.trans ?_
    simp only [ih, exists_eq_right]
  | case2 hnone => rw [covers_nil, ofText_nil]
  | case3 c cs hnone ih =>
    rw [ofText_cons hnone, covers_letter hnone]
    simp only [ih, exists_eq_right]

theorem text_ofText (cs : List Char) : (ofText cs).text = cs :=
  (covers_iff.2 rfl).text_eq

/-! ## What stands between -/

theorem literals_cons_hole (placeholder : Placeholder) (layout : Layout) :
    (cons (.hole placeholder) layout).literals = [] :: layout.literals := rfl

/-- A letter in front of a layout belongs to its first literal text, with which its text begins. -/
theorem exists_literals_cons_letter (c : Char) (layout : Layout) :
    ∃ first others, layout.literals = first :: others ∧
      (cons (.letter c) layout).literals = (c :: first) :: others ∧ first <+: layout.text := by
  obtain ⟨_ | ⟨⟨first, placeholder⟩, parts⟩, last⟩ := layout
  · exact ⟨last, [], rfl, rfl, List.prefix_rfl⟩
  · exact ⟨first, _, rfl, rfl, spelling placeholder ++ (Layout.mk parts last).text, by simp [text, fill, filledParts]⟩

/-- What stands between the placeholders of a text holds none itself. -/
theorem not_occurs_literal {literal : List Char} (h : literal ∈ (ofText cs).literals) (placeholder : Placeholder) :
    ¬Occurs (spelling placeholder) literal := by
  have hnil : ¬Occurs (spelling placeholder) [] := by
    rintro ⟨before, after, h⟩
    have := spelling_ne_nil placeholder
    simp_all
  induction cs using Segment.ofText.induct generalizing literal with
  | case1 cs other rest hhole ih =>
    rw [ofText_of_hole? hhole, literals_cons_hole] at h
    rcases List.mem_cons.1 h with rfl | h
    · exact hnil
    · exact ih h
  | case2 hnone =>
    rw [ofText_nil] at h
    obtain rfl := List.mem_singleton.1 h
    exact hnil
  | case3 c cs hnone ih =>
    obtain ⟨first, others, hliterals, hcons, hprefix⟩ := exists_literals_cons_letter c (ofText cs)
    rw [ofText_cons hnone, hcons] at h
    rw [text_ofText] at hprefix
    rcases List.mem_cons.1 h with rfl | h
    · rintro ⟨before, after, hfirst⟩
      cases before with
      | nil =>
        -- The text itself would begin with the placeholder.
        obtain ⟨rest, rfl⟩ := hprefix
        exact ne_of_hole?_eq_none hnone placeholder (after ++ rest) (by simpa using congrArg (· ++ rest) hfirst)
      | cons b before => exact ih (hliterals ▸ List.mem_cons_self) ⟨before, after, (List.cons.inj hfirst).2⟩
    · exact ih (hliterals ▸ List.mem_cons_of_mem _ h)

end Layout

/-! ## Texts one behind the other -/

/-- No placeholder in the text `xs ++ ys` begins in `xs` and ends in `ys`. -/
def NoneAcross (xs ys : List Char) : Prop :=
  ∀ (before : List Char) (placeholder : Placeholder), placeholder.StandsBehind before (xs ++ ys) →
    before.length + placeholder.spelling.length ≤ xs.length ∨ xs.length ≤ before.length

theorem NoneAcross.of_append (front : List Char) {xs ys : List Char} (h : NoneAcross (front ++ xs) ys) :
    NoneAcross xs ys := by
  intro before placeholder ⟨after, hcs⟩
  have := h (front ++ before) placeholder ⟨after, by simp [hcs]⟩
  simp only [List.length_append] at this
  omega

theorem Segment.hole?_append_eq_none {c : Char} {xs ys : List Char} (hnone : hole? (c :: xs) = none)
    (h : NoneAcross (c :: xs) ys) : hole? (c :: xs ++ ys) = none := by
  rw [Option.eq_none_iff_forall_ne_some]
  rintro ⟨placeholder, rest⟩ hsome
  rw [hole?_eq_some_iff] at hsome
  rcases h [] placeholder ⟨rest, hsome⟩ with hinside | hbehind
  · have hprefix : placeholder.text.toList <+: c :: xs :=
      List.prefix_of_prefix_length_le ⟨rest, hsome.symm⟩ (List.prefix_append _ ys) (by simpa [spelling] using hinside)
    obtain ⟨after, hafter⟩ := hprefix
    exact Layout.ne_of_hole?_eq_none hnone placeholder after hafter.symm
  · simp at hbehind

/-- Where no placeholder stands across the border of two texts, they can be read apart. -/
theorem Segment.ofText_append {xs ys : List Char} (h : NoneAcross xs ys) :
    ofText (xs ++ ys) = ofText xs ++ ofText ys := by
  induction xs using ofText.induct with
  | case1 xs placeholder rest hhole ih =>
    rw [ofText_of_hole? hhole, List.cons_append]
    obtain rfl := hole?_eq_some_iff.1 hhole
    rw [List.append_assoc, ofText_of_hole? (hole?_eq_some_iff.2 rfl), ih (h.of_append _)]
  | case2 hnone => rw [ofText_nil, List.nil_append, List.nil_append]
  | case3 c xs hnone ih =>
    have hxs : NoneAcross xs ys := NoneAcross.of_append [c] h
    rw [ofText_cons hnone, List.cons_append, List.cons_append, ← ih hxs]
    exact ofText_cons (hole?_append_eq_none hnone h)

/-- Of two placeholders in a text, the one that begins later begins behind the other. -/
theorem Placeholder.StandsBehind.apart {cs before before' : List Char} {placeholder placeholder' : Placeholder}
    (h : placeholder.StandsBehind before cs) (h' : placeholder'.StandsBehind before' cs)
    (hlt : before.length < before'.length) : before.length + placeholder.spelling.length ≤ before'.length := by
  obtain ⟨after, h⟩ := h
  obtain ⟨after', h'⟩ := h'
  rw [List.append_assoc] at h h'
  obtain ⟨between, rfl⟩ : before <+: before' :=
    List.prefix_of_prefix_length_le ⟨_, h.symm⟩ ⟨_, h'.symm⟩ (Nat.le_of_lt hlt)
  rw [h, List.append_assoc] at h'
  have hrest := List.append_cancel_left h'
  rw [← List.append_assoc] at hrest
  rcases Segment.text_append_cases hrest with ⟨rfl, -, -⟩ | ⟨rest, rfl, -⟩
  · simp at hlt
  · simp only [List.length_append, spelling]
    omega

namespace Template

/-- What becomes of a text that is rendered, be it a template or a part of one. -/
def rendering (contexts : List String) (question text : String) : String :=
  .ofList ((Segment.ofText text.toList).flatMap (Segment.fill (value contexts question)))

theorem rendering_append (contexts : List String) (question : String) {first second : String}
    (h : NoneAcross first.toList second.toList) :
    rendering contexts question (first ++ second) =
      rendering contexts question first ++ rendering contexts question second := by
  rw [rendering, String.toList_append, Segment.ofText_append h, List.flatMap_append, String.ofList_append]
  rfl

/-- The placeholders of a template do not overlap, so there is one layout that has all of them, and what stands
between holds none. A prompt is this layout with the values in place of the placeholders, whatever the values are. So
two texts are rendered as their renderings one behind the other, if no placeholder stands across their border. -/
theorem render_simultaneous (template : Template) (contexts : List String) (question : String) :
    (∀ (before : List Char) (placeholder : Placeholder) (before' : List Char) (placeholder' : Placeholder),
      placeholder.StandsBehind before template.text.toList →
      placeholder'.StandsBehind before' template.text.toList → before.length < before'.length →
      before.length + placeholder.spelling.length ≤ before'.length) ∧
    (∃! layout : Layout, layout.Covers template.text.toList) ∧
    (∀ layout : Layout, layout.Covers template.text.toList →
      (∀ literal ∈ layout.literals, ∀ placeholder : Placeholder, ¬Occurs placeholder.spelling literal) ∧
      template.render contexts question = .ofList (layout.fill (value contexts question))) ∧
    (∀ other : Template, other.render contexts question = rendering contexts question other.text) ∧
    ∀ first second : String, NoneAcross first.toList second.toList →
      rendering contexts question (first ++ second) =
        rendering contexts question first ++ rendering contexts question second := by
  refine ⟨fun _ _ _ _ h h' hlt => h.apart h' hlt, ⟨_, Layout.covers_iff.2 rfl, fun _ => Layout.covers_iff.1⟩,
    fun layout hcovers => ?_, fun _ => rfl, fun _ _ h => rendering_append contexts question h⟩
  rw [Layout.covers_iff] at hcovers
  refine ⟨fun literal hliteral placeholder => Layout.not_occurs_literal (hcovers ▸ hliteral) placeholder, ?_⟩
  rw [hcovers, Layout.fill_ofText]
  rfl

/-- A template with more braces than those of its placeholders. -/
def embraced : Template where
  text := "\x7b" ++ Placeholder.question.text ++ Placeholder.context.text ++ "\x7d"
  holds_context := by decide +kernel
  holds_question := by decide +kernel

def embracedLayout : Layout := ⟨[(['\x7b'], .question), ([], .context)], ['\x7d']⟩

theorem covers_embraced : embracedLayout.Covers embraced.text.toList := by
  have htext : embraced.text.toList =
      '\x7b' :: (spelling .question ++ (spelling .context ++ ['\x7d'])) := by decide +kernel
  rw [htext]
  refine (Layout.covers_letter (by decide +kernel)).2 ⟨⟨[([], .question), ([], .context)], ['\x7d']⟩, rfl, ?_⟩
  refine Layout.covers_hole.2 ⟨⟨[([], .context)], ['\x7d']⟩, rfl, Layout.covers_hole.2 ⟨⟨[], ['\x7d']⟩, rfl, ?_⟩⟩
  exact (Layout.covers_letter (by decide +kernel)).2 ⟨.empty, rfl, Layout.covers_nil.2 rfl⟩

/-- Between the two placeholders the template can be parted. -/
theorem noneAcross_embraced :
    NoneAcross ("\x7b" ++ Placeholder.question.text).toList (Placeholder.context.text ++ "\x7d").toList := by
  have htext : ("\x7b" ++ Placeholder.question.text).toList ++ (Placeholder.context.text ++ "\x7d").toList =
      embraced.text.toList := by decide +kernel
  intro before placeholder h
  obtain ⟨_ | ⟨_, _ | ⟨_, done⟩⟩, literal, rest, hparts, rfl⟩ := covers_embraced.hasAt before placeholder (htext ▸ h)
  · cases hparts
    exact .inl (by decide +kernel)
  · cases hparts
    exact .inr (by decide +kernel)
  · simp [embracedLayout] at hparts

/-- Values that hold a placeholder, or make one with the brace in front of them. -/
theorem render_simultaneous_embraced :
    ['\x7b'].length + (spelling .question).length ≤ ('\x7b' :: spelling .question).length ∧
    embracedLayout.Covers embraced.text.toList ∧
    embraced.render [Placeholder.question.text, "b"] "context\x7d" =
      "\x7bcontext\x7d" ++ Placeholder.question.text ++ "\n\nb\x7d" ∧
    NoneAcross ("\x7b" ++ Placeholder.question.text).toList (Placeholder.context.text ++ "\x7d").toList ∧
    rendering ["a"] "q" ("\x7b" ++ Placeholder.question.text ++ (Placeholder.context.text ++ "\x7d")) =
      rendering ["a"] "q" ("\x7b" ++ Placeholder.question.text) ++
        rendering ["a"] "q" (Placeholder.context.text ++ "\x7d") := by
  obtain ⟨hapart, -, hrender, -, -⟩ := embraced.render_simultaneous [Placeholder.question.text, "b"] "context\x7d"
  obtain ⟨-, -, -, -, happend⟩ := embraced.render_simultaneous ["a"] "q"
  have hquestion : Placeholder.question.StandsBehind ['\x7b'] embraced.text.toList :=
    ⟨spelling .context ++ ['\x7d'], by decide +kernel⟩
  have hcontext : Placeholder.context.StandsBehind ('\x7b' :: spelling .question) embraced.text.toList :=
    ⟨['\x7d'], by decide +kernel⟩
  exact ⟨hapart _ _ _ _ hquestion hcontext (by decide +kernel), covers_embraced,
    (hrender _ covers_embraced).2.trans (by decide +kernel), noneAcross_embraced, happend _ _ noneAcross_embraced⟩

end Template

end GroundedQA
