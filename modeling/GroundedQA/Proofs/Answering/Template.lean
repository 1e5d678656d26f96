import GroundedQA.Answering.Template
/-!
# What a prompt holds

A template has both placeholders, and no way of reading it misses one: they begin with a character that stands
nowhere else in them, so they cannot overlap (`hole_mem_ofText`). Hence every prompt holds what goes into them
(`Template.occurs_render`).
-/

namespace GroundedQA

open Text

namespace Segment

/-- A placeholder begins with a brace and has no other of that kind. -/
theorem exists_text_eq (placeholder : Placeholder) :
    ∃ name, placeholder.text.toList = '\x7b' :: name ∧ '\x7b' ∉ name := by
  cases placeholder with
  | context => exact ⟨_, rfl, by decide +kernel⟩
  | question => exact ⟨_, rfl, by decide +kernel⟩

/-- A text begins with a placeholder exactly when it is told to. -/
theorem hole?_eq_some_iff {cs rest : List Char} {placeholder : Placeholder} :
    hole? cs = some (placeholder, rest) ↔ cs = placeholder.text.toList ++ rest := by
  have hother : ∀ rest, after? Placeholder.context.text.toList (Placeholder.question.text.toList ++ rest) = none :=
    fun _ => rfl
  constructor
  · intro h
    unfold hole? at h
    split at h
    · next r hr =>
      cases h
      exact after?_eq_some_iff.1 hr
    · obtain ⟨r, hr, he⟩ := Option.map_eq_some_iff.1 h
      cases he
      exact after?_eq_some_iff.1 hr
  · rintro rfl
    unfold hole?
    cases placeholder with
    | context => rw [after?_eq_some_iff.2 rfl]
    | question => rw [hother, after?_eq_some_iff.2 rfl, Option.map_some]

theorem text_ne_empty (placeholder : Placeholder) : placeholder.text ≠ "" := by
  cases placeholder <;> decide

/-- A placeholder in a text that begins with one is that one, or stands behind all of it. -/
theorem text_append_cases {placeholder other : Placeholder} {rest before after : List Char}
    (h : other.text.toList ++ rest = before ++ placeholder.text.toList ++ after) :
    before = [] ∧ placeholder = other ∧ after = rest ∨
      ∃ between, before = other.text.toList ++ between ∧ rest = between ++ placeholder.text.toList ++ after := by
  by_cases hbefore : before = []
  · left
    rw [hbefore, List.nil_append] at h
    have hsame := (hole?_eq_some_iff.2 h).symm.trans (hole?_eq_some_iff.2 rfl)
    cases hsame
    exact ⟨hbefore, rfl, rfl⟩
  · right
    obtain ⟨name, hname, hbrace⟩ := exists_text_eq other
    obtain ⟨name', hname', -⟩ := exists_text_eq placeholder
    rw [List.append_assoc] at h
    rcases List.append_eq_append_iff.1 h with ⟨between, hbetween, hrest⟩ | ⟨inside, hinside, hrest⟩
    · exact ⟨between, hbetween, by rw [hrest, List.append_assoc]⟩
    · cases inside with
      | nil => exact ⟨[], by simpa using hinside.symm, by simpa using hrest.symm⟩
      | cons c inside =>
        -- The brace of the placeholder would be one inside the other.
        obtain ⟨b, before, rfl⟩ := List.exists_cons_of_ne_nil hbefore
        rw [hname, List.cons_append] at hinside
        rw [hname', List.cons_append, List.cons_append] at hrest
        have hmem : '\x7b' ∈ name := by
          rw [(List.cons.inj hinside).2, (List.cons.inj hrest).1]
          simp
        exact absurd hmem hbrace

theorem ofText_of_hole? {cs rest : List Char} {placeholder : Placeholder} (h : hole? cs = some (placeholder, rest)) :
    ofText cs = .hole placeholder :: ofText rest := by
  rw [ofText]
  split
  · next heq =>
    rw [h] at heq
    cases heq
    rfl
  · next heq =>
    rw [h] at heq
    cases heq

theorem ofText_cons {c : Char} {cs : List Char} (h : hole? (c :: cs) = none) :
    ofText (c :: cs) = .letter c :: ofText cs := by
  rw [ofText]
  split
  · next heq =>
    rw [h] at heq
    cases heq
  · rfl

theorem ofText_nil : ofText [] = [] := by
  rw [ofText]
  split
  · next h => exact absurd (length_of_hole? h) (Nat.not_lt_zero _)
  · rfl

/-- A placeholder that stands somewhere in a text is one of its parts. -/
theorem hole_mem_ofText {placeholder : Placeholder} {cs : List Char} (h : Occurs placeholder.text.toList cs) :
    .hole placeholder ∈ ofText cs := by
  induction cs using ofText.induct with
  | case1 cs other rest hhole ih =>
    rw [ofText_of_hole? hhole]
    obtain ⟨before, after, hcs⟩ := h
    rw [hole?_eq_some_iff.1 hhole] at hcs
    rcases text_append_cases hcs with ⟨-, rfl, -⟩ | ⟨between, -, hrest⟩
    · exact List.mem_cons_self
    · exact List.mem_cons_of_mem _ (ih ⟨between, after, hrest⟩)
  | case2 hhole =>
    obtain ⟨before, after, hcs⟩ := h
    simp [text_ne_empty] at hcs
  | case3 c cs hhole ih =>
    rw [ofText_cons hhole]
    obtain ⟨before, after, hcs⟩ := h
    cases before with
    | nil =>
      rw [List.nil_append] at hcs
      rw [hole?_eq_some_iff.2 hcs] at hhole
      cases hhole
    | cons b before =>
      rw [List.cons_append, List.cons_append] at hcs
      exact List.mem_cons_of_mem _ (ih ⟨before, after, (List.cons.inj hcs).2⟩)

end Segment

namespace Template

theorem occurs_text (template : Template) (placeholder : Placeholder) :
    Occurs placeholder.text.toList template.text.toList := by
  cases placeholder with
  | context => exact cut?_isSome.1 template.holds_context
  | question => exact cut?_isSome.1 template.holds_question

/-- A prompt holds what goes into each of the placeholders. -/
theorem occurs_render (template : Template) (contexts : List String) (question : String) (placeholder : Placeholder) :
    Occurs (value contexts question placeholder) (template.render contexts question).toList := by
  obtain ⟨before, after, hsegments⟩ := List.append_of_mem (Segment.hole_mem_ofText (template.occurs_text placeholder))
  let fill := Segment.fill (value contexts question)
  refine ⟨before.flatMap fill, after.flatMap fill, ?_⟩
  rw [render, String.toList_ofList, hsegments, List.flatMap_append, List.flatMap_cons, List.append_assoc]
  rfl

end Template

end GroundedQA
