import GroundedQA.Number.Numeral
import GroundedQA.Proofs.Number.Digits
/-!
# Numerals read as they are written

Every numeral is taken off the start of a text that begins with it (`Numeral.lex?_render`), unless
what follows could be more of it.
-/

namespace GroundedQA.Number.Numeral

/-- The text cannot go on a numeral in front of it. -/
def Ends (rest : List Char) : Prop :=
  ∀ c ∈ rest.head?, digit? c = none ∧ c ≠ '.' ∧ c ≠ 'e' ∧ c ≠ 'E'

/-- The fraction of a numeral as it is written. -/
def renderFraction (fraction : List Digit) : List Char :=
  if fraction.isEmpty then [] else '.' :: fraction.map Digit.toChar

theorem takeDigits_digits (n : Nat) (rest : List Char) (h : ∀ c ∈ rest.head?, digit? c = none) :
    ∃ d ds, digits n = d :: ds ∧ takeDigits ((digits n).map Digit.toChar ++ rest) = (d :: ds, rest) := by
  obtain ⟨d, ds, hd⟩ := List.exists_cons_of_ne_nil (digits_ne_nil n)
  exact ⟨d, ds, hd, hd ▸ takeDigits_append _ rest h⟩

theorem toChar_ne_sign (d : Digit) : d.toChar ≠ '-' ∧ d.toChar ≠ '+' := by
  revert d
  decide

theorem lexWhole?_render (n : Nat) (rest : List Char) (h : ∀ c ∈ rest.head?, digit? c = none) :
    lexWhole? ((digits n).map Digit.toChar ++ rest) = some (digits n, rest) := by
  obtain ⟨d, ds, hd, ht⟩ := takeDigits_digits n rest h
  rw [lexWhole?, ht]
  dsimp only
  rw [if_neg fun hzero => digits_head hd hzero.2 hzero.1, hd]

theorem lexFraction?_render (fraction : List Digit) (rest : List Char)
    (h : ∀ c ∈ rest.head?, digit? c = none ∧ c ≠ '.') :
    lexFraction? (renderFraction fraction ++ rest) = some (fraction, rest) := by
  cases fraction with
  | nil =>
    cases rest with
    | nil => rfl
    | cons c cs =>
      have hc := (h c rfl).2
      simp [renderFraction, lexFraction?, hc]
  | cons d ds =>
    have ht := takeDigits_append (d :: ds) rest fun c hc => (h c hc).1
    simp only [renderFraction, List.isEmpty_cons, Bool.false_eq_true, if_false, List.cons_append, lexFraction?]
    rw [ht]

theorem lexExponent?_render (n : Nat) (rest : List Char) (h : ∀ c ∈ rest.head?, digit? c = none) :
    lexExponent? ((digits n).map Digit.toChar ++ rest) = some ((n : Int), rest) := by
  obtain ⟨d, ds, hd, ht⟩ := takeDigits_digits n rest h
  have hv := ofDigits_digits n
  rw [hd] at ht hv ⊢
  obtain ⟨hminus, hplus⟩ := toChar_ne_sign d
  simp only [List.map_cons, List.cons_append] at ht ⊢
  simp [lexExponent?, hminus, hplus, ht, hv]

theorem lexExponent?_render_neg (n : Nat) (rest : List Char) (h : ∀ c ∈ rest.head?, digit? c = none) :
    lexExponent? ('-' :: (digits n).map Digit.toChar ++ rest) = some (-(n : Int), rest) := by
  obtain ⟨d, ds, hd, ht⟩ := takeDigits_digits n rest h
  have hv := ofDigits_digits n
  rw [hd] at ht hv ⊢
  simp only [List.map_cons, List.cons_append] at ht ⊢
  simp [lexExponent?, ht, hv]

theorem lexPower?_render (exponent : Option Int) (rest : List Char) (h : Ends rest) :
    lexPower? (renderExponent exponent ++ rest) = some (exponent, rest) := by
  have hdigit : ∀ c ∈ rest.head?, digit? c = none := fun c hc => (h c hc).1
  match exponent with
  | none =>
    cases rest with
    | nil => rfl
    | cons c cs =>
      obtain ⟨-, -, he, hE⟩ := h c rfl
      simp [renderExponent, lexPower?, he, hE]
  | some (.ofNat n) =>
    simp only [renderExponent, List.cons_append, lexPower?]
    rw [lexExponent?_render n rest hdigit]
    rfl
  | some (.negSucc n) =>
    simp only [renderExponent, List.cons_append, lexPower?]
    rw [← List.cons_append, lexExponent?_render_neg (n + 1) rest hdigit]
    rfl

/-- What may stand after a fraction, if the text may stand after the exponent. -/
theorem Ends.renderExponent {rest : List Char} (h : Ends rest) (exponent : Option Int) :
    ∀ c ∈ (renderExponent exponent ++ rest).head?, digit? c = none ∧ c ≠ '.' := by
  intro c hc
  match exponent with
  | none => exact ⟨(h c hc).1, (h c hc).2.1⟩
  | some (.ofNat n) | some (.negSucc n) =>
    obtain rfl : 'e' = c := by simpa [Numeral.renderExponent] using hc
    decide

theorem Ends.renderFraction {rest : List Char} (h : ∀ c ∈ rest.head?, digit? c = none) (fraction : List Digit) :
    ∀ c ∈ (renderFraction fraction ++ rest).head?, digit? c = none := by
  intro c hc
  cases fraction with
  | nil => exact h c hc
  | cons d ds =>
    obtain rfl : '.' = c := by simpa [Numeral.renderFraction] using hc
    decide

/-- A numeral is read as it is written, whatever follows that cannot go on it. -/
theorem lex?_render (n : Numeral) (rest : List Char) (h : Ends rest) : lex? (n.render ++ rest) = some (n, rest) := by
  obtain ⟨negative, whole, fraction, exponent⟩ := n
  -- From the end: each part is followed by one that cannot go on it.
  have hexp := lexPower?_render exponent rest h
  have hfrac := lexFraction?_render fraction _ (h.renderExponent exponent)
  have hwhole := lexWhole?_render whole _
    (Ends.renderFraction (fun c hc => (h.renderExponent exponent c hc).1) fraction)
  have hsign : lexSign ((if negative then ['-'] else []) ++ ((digits whole).map Digit.toChar ++
      (renderFraction fraction ++ (renderExponent exponent ++ rest)))) =
      (negative, (digits whole).map Digit.toChar ++ (renderFraction fraction ++ (renderExponent exponent ++ rest))) := by
    cases negative with
    | true => rfl
    | false =>
      -- The whole part begins with a digit, which is not taken for a sign.
      obtain ⟨d, ds, hd⟩ := List.exists_cons_of_ne_nil (digits_ne_nil whole)
      simp [hd, lexSign, (toChar_ne_sign d).1]
  have hrender : Numeral.render ⟨negative, whole, fraction, exponent⟩ ++ rest =
      (if negative then ['-'] else []) ++ ((digits whole).map Digit.toChar ++
        (renderFraction fraction ++ (renderExponent exponent ++ rest))) := by
    simp [Numeral.render, Numeral.renderFraction]
  rw [hrender, lex?, hsign]
  simp [hwhole, hfrac, hexp, ofDigits_digits]

end GroundedQA.Number.Numeral
