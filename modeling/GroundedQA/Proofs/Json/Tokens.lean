import GroundedQA.Proofs.Json.Strings
import GroundedQA.Proofs.Number.Numeral
import Mathlib.Data.List.Chain
/-!
# Tokens read as they are written

A token is read off the start of a text that begins with it (`Token.first?_render`); only a number
needs something after it that cannot go on it. In a sequence in which no number is right after
another each token is followed so, and the sequence reads back (`Token.lex?_render`).
-/

namespace GroundedQA.Json

open Number

/-- A token that marks where a number ends. -/
def Token.NotNumber : Token → Prop
  | .number _ => False
  | _ => True

/-- Nothing of the second token can go on the first: they are not two numbers. -/
def Token.Apart (a b : Token) : Prop :=
  a.NotNumber ∨ b.NotNumber

/-- The characters that a numeral may begin with. -/
def beginsNumeral (c : Char) : Prop :=
  c = '-' ∨ ∃ d : Digit, c = d.toChar

theorem render_numeral (n : Numeral) : ∃ c cs, n.render = c :: cs ∧ beginsNumeral c := by
  obtain ⟨d, ds, hd⟩ := List.exists_cons_of_ne_nil (digits_ne_nil n.whole)
  unfold Numeral.render
  rw [hd]
  cases n.negative with
  | true => exact ⟨'-', _, rfl, .inl rfl⟩
  | false => exact ⟨d.toChar, _, rfl, .inr ⟨d, rfl⟩⟩

theorem ne_of_beginsNumeral {c : Char} (h : beginsNumeral c) :
    c ∉ ['[', ']', '\x7b', '\x7d', ',', ':', 'n', 't', 'f', '"'] ∧ isFiller c = false := by
  rcases h with rfl | ⟨d, rfl⟩
  · decide
  · revert d
    decide

/-- What begins as a numeral is read as one. -/
theorem Token.first?_numeral {c : Char} (h : beginsNumeral c) (cs : List Char) :
    Token.first? (c :: cs) = (Numeral.lex? (c :: cs)).map fun (n, rest) => (.number n, rest) := by
  have hc := (ne_of_beginsNumeral h).1
  simp only [List.mem_cons, List.not_mem_nil, or_false, not_or] at hc
  rw [Token.first?] <;> simp [hc]

/-- A token is read off the start of a text that begins with it. -/
theorem Token.first?_render (t : Token) (rest : List Char) (h : t.NotNumber ∨ Numeral.Ends rest) :
    Token.first? (t.render ++ rest) = some (t, rest) := by
  match t with
  | .openArray | .closeArray | .openObject | .closeObject | .comma | .colon | .null | .bool true | .bool false =>
    rfl
  | .string s =>
    obtain ⟨cs, hcs, hlex⟩ := lexString?_render s rest
    rw [Token.render, hcs, Token.first?, hlex]
    rfl
  | .number n =>
    obtain ⟨c, cs, hcs, hc⟩ := render_numeral n
    have hlex := Numeral.lex?_render n rest (h.resolve_left id)
    rw [hcs, List.cons_append] at hlex
    rw [Token.render, hcs, List.cons_append, Token.first?_numeral hc, hlex]
    rfl

/-- A token begins with a character that may not stand between tokens. -/
theorem Token.render_cons (t : Token) : ∃ c cs, t.render = c :: cs ∧ isFiller c = false := by
  match t with
  | .openArray | .closeArray | .openObject | .closeObject | .comma | .colon | .null | .bool true | .bool false =>
    exact ⟨_, _, rfl, rfl⟩
  | .string none | .string (some _) => exact ⟨_, _, rfl, rfl⟩
  | .number n =>
    obtain ⟨c, cs, hcs, hc⟩ := render_numeral n
    exact ⟨c, cs, hcs, (ne_of_beginsNumeral hc).2⟩

/-- No other token than a number can go on a numeral in front of it. -/
theorem Token.ends_render {t : Token} (h : t.NotNumber) (rest : List Char) :
    Numeral.Ends (t.render ++ rest) := by
  intro c hc
  match t with
  | .openArray | .closeArray | .openObject | .closeObject | .comma | .colon | .null | .bool true | .bool false |
    .string none | .string (some _) =>
    obtain rfl := Option.some.inj hc
    decide
  | .number _ => exact h.elim

/-- What is written after a token ends it, if the next token is apart from it. -/
theorem Token.ends_of_isChain {t : Token} {ts : List Token} (h : (t :: ts).IsChain Token.Apart) :
    t.NotNumber ∨ Numeral.Ends (ts.flatMap Token.render) := by
  cases ts with
  | nil =>
    right
    intro c hc
    simp at hc
  | cons u us =>
    rcases (List.isChain_cons_cons.1 h).1 with ht | hu
    · exact .inl ht
    · exact .inr (Token.ends_render hu _)

theorem Token.lexUpTo_render {ts : List Token} (h : ts.IsChain Token.Apart) {bound : Nat} (hb : ts.length ≤ bound) :
    Token.lexUpTo bound (ts.flatMap Token.render) = some ts := by
  induction ts generalizing bound with
  | nil => cases bound <;> rfl
  | cons t ts ih =>
    obtain ⟨bound, rfl⟩ : ∃ k, bound = k + 1 := ⟨bound - 1, by simp at hb; omega⟩
    obtain ⟨c, cs, hcs, hc⟩ := t.render_cons
    have hfirst := t.first?_render (ts.flatMap Token.render) (Token.ends_of_isChain h)
    have hrest := ih h.of_cons (Nat.le_of_succ_le_succ hb)
    rw [hcs, List.cons_append] at hfirst
    simp [Token.lexUpTo, hcs, hc, hfirst, hrest]

theorem Token.length_le_render (ts : List Token) : ts.length ≤ (ts.flatMap Token.render).length := by
  induction ts with
  | nil => exact Nat.le_refl 0
  | cons t ts ih =>
    obtain ⟨c, cs, hcs, -⟩ := t.render_cons
    rw [List.flatMap_cons, List.length_append, hcs]
    simp only [List.length_cons]
    omega

/-- A sequence of tokens reads back from its text, if no number is right after another. -/
theorem Token.lex?_render {ts : List Token} (h : ts.IsChain Token.Apart) :
    Token.lex? (ts.flatMap Token.render) = some ts :=
  Token.lexUpTo_render h (Token.length_le_render ts)

end GroundedQA.Json
