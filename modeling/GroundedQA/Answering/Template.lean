import GroundedQA.Error
import GroundedQA.Text.Search
/-!
# Prompt templates

A template is a text with placeholders for the contexts and for the question, of which it has to
hold one each at least. Rendering replaces all of them at once: what is put in is not looked at
again, so a placeholder in a context or in a question stays as it is.
-/

namespace GroundedQA

open Text

/-- A part of a template: a character that stands for itself, or a placeholder. -/
inductive Segment where
  | letter (c : Char)
  | hole (placeholder : Placeholder)
deriving DecidableEq, Repr

namespace Segment

/-- The placeholder that a text begins with, and what follows it. -/
def hole? (cs : List Char) : Option (Placeholder × List Char) :=
  match after? Placeholder.context.text.toList cs with
  | some rest => some (.context, rest)
  | none => (after? Placeholder.question.text.toList cs).map (.question, ·)

theorem length_of_hole? {cs rest : List Char} {placeholder : Placeholder}
    (h : hole? cs = some (placeholder, rest)) : rest.length < cs.length := by
  have context : Placeholder.context.text.toList.length = 9 := by decide +kernel
  have question : Placeholder.question.text.toList.length = 10 := by decide +kernel
  rw [hole?] at h
  split at h
  · next r hr =>
    obtain ⟨rfl, rfl⟩ : Placeholder.context = placeholder ∧ r = rest := by simpa using h
    rw [after?_eq_some_iff.1 hr, List.length_append]
    omega
  · obtain ⟨r, hr, he⟩ := Option.map_eq_some_iff.1 h
    obtain ⟨rfl, rfl⟩ : Placeholder.question = placeholder ∧ r = rest := by simpa using he
    rw [after?_eq_some_iff.1 hr, List.length_append]
    omega

def ofText (cs : List Char) : List Segment :=
  match _here : hole? cs with
  | some (placeholder, rest) => .hole placeholder :: ofText rest
  | none =>
    match cs with
    | [] => []
    | c :: cs => .letter c :: ofText cs
termination_by cs.length
decreasing_by
  · exact length_of_hole? _here
  · simp

/-- What a segment becomes, given what goes into the placeholders. -/
def fill (value : Placeholder → List Char) : Segment → List Char
  | .letter c => [c]
  | .hole placeholder => value placeholder

end Segment

/-- A text that holds both placeholders. -/
structure Template where
  text : String
  holds_context : holds text Placeholder.context.text
  holds_question : holds text Placeholder.question.text

namespace Template

/-- The template of a text, unless a placeholder is missing. -/
def make (text : String) : Except ConfigFault Template :=
  if context : holds text Placeholder.context.text then
    if question : holds text Placeholder.question.text then .ok ⟨text, context, question⟩
    else .error (.missingPlaceholder .question)
  else .error (.missingPlaceholder .context)

def contextSeparator : String := "\n\n"

def value (contexts : List String) (question : String) : Placeholder → List Char
  | .context => (contextSeparator.intercalate contexts).toList
  | .question => question.toList

/-- The prompt for a question and the contexts to answer it from. -/
def render (template : Template) (contexts : List String) (question : String) : String :=
  .ofList ((Segment.ofText template.text.toList).flatMap (Segment.fill (value contexts question)))

/-- What the standard template asks for. -/
def standardTask : String :=
  "Use the following pieces of context to answer the question at the end. " ++
  "If you don't know the answer, just say that you don't know, don't try to make up an answer.\n\n"

/-- The template used when no other is given. -/
def standard : Template where
  text := standardTask ++ Placeholder.context.text ++ "\n\nQuestion: " ++ Placeholder.question.text ++
    "\nHelpful Answer:"
  holds_context := by simpa only [String.append_assoc] using holds_append standardTask _ _
  holds_question := holds_append ..

instance : Inhabited Template := ⟨standard⟩

end Template

end GroundedQA
