import GroundedQA.Json.Bytes
import GroundedQA.Json.Printer
import GroundedQA.Proofs.Json.Tokens
/-!
# Documents read as they are written

The tokens of a value never put one number right after another (`isChain_tokens`), and the value is
read off the start of a sequence that begins with them (`ofTokens?_tokens`). Together with the law of
tokens this gives back every value from its text (`parse?_render`) and from its bytes
(`ofBytes?_render`), strings without a text and repeated keys included.
-/

namespace GroundedQA.Json

/-! ## Numbers stand apart -/

theorem isChain_cons_of_notNumber {t : Token} (ht : t.NotNumber) {ts : List Token} (h : ts.IsChain Token.Apart) :
    (t :: ts).IsChain Token.Apart := by
  cases ts with
  | nil => exact .singleton t
  | cons u us => exact .cons_cons (.inl ht) h

mutual

/-- Before a token that is no number, the tokens of a value keep numbers apart. -/
theorem isChain_tokens (j : Json) {t : Token} (ht : t.NotNumber) {ts : List Token}
    (h : (t :: ts).IsChain Token.Apart) : (j.tokens ++ t :: ts).IsChain Token.Apart := by
  match j with
  | .null | .bool _ | .string _ => exact isChain_cons_of_notNumber (by trivial) h
  | .number n => exact .cons_cons (.inr ht) h
  | .array items =>
    rw [tokens, List.cons_append, List.append_assoc]
    refine isChain_cons_of_notNumber (by trivial) (isChain_items items (by trivial) ?_)
    exact isChain_cons_of_notNumber (by trivial) h
  | .object members =>
    rw [tokens, List.cons_append, List.append_assoc]
    refine isChain_cons_of_notNumber (by trivial) (isChain_members members (by trivial) ?_)
    exact isChain_cons_of_notNumber (by trivial) h

theorem isChain_items (items : List Json) {t : Token} (ht : t.NotNumber) {ts : List Token}
    (h : (t :: ts).IsChain Token.Apart) :
    (commaSeparated (itemTokens items) ++ t :: ts).IsChain Token.Apart := by
  match items with
  | [] => exact h
  | [item] => exact isChain_tokens item ht h
  | item :: next :: items =>
    have hnext := isChain_items (next :: items) ht h
    -- The comma keeps the last token of the item from the first of the next one.
    have hcomma : Token.NotNumber .comma := trivial
    rw [itemTokens, itemTokens, commaSeparated, List.append_assoc]
    · exact isChain_tokens item hcomma (isChain_cons_of_notNumber hcomma hnext)
    · simp

theorem isChain_members (members : List (Option String × Json)) {t : Token} (ht : t.NotNumber) {ts : List Token}
    (h : (t :: ts).IsChain Token.Apart) :
    (commaSeparated (memberTokens members) ++ t :: ts).IsChain Token.Apart := by
  match members with
  | [] => exact h
  | [(key, value)] =>
    refine isChain_cons_of_notNumber (by trivial) (isChain_cons_of_notNumber (by trivial) ?_)
    exact isChain_tokens value ht h
  | (key, value) :: next :: members =>
    have hnext := isChain_members (next :: members) ht h
    have hcomma : Token.NotNumber .comma := trivial
    rw [memberTokens, memberTokens, commaSeparated, List.append_assoc]
    · refine isChain_cons_of_notNumber (by trivial) (isChain_cons_of_notNumber (by trivial) ?_)
      exact isChain_tokens value hcomma (isChain_cons_of_notNumber hcomma hnext)
    · simp

end

/-! ## Values -/

/-- No value begins with a closing bracket. -/
theorem tokens_cons (j : Json) : ∃ t ts, j.tokens = t :: ts ∧ t ≠ .closeArray := by
  cases j with
  | null | bool | number | string | array | object => exact ⟨_, _, rfl, by simp⟩

theorem ofTokens?_openArray {fuel : Nat} {tokens : List Token} (h : ∀ rest, tokens ≠ .closeArray :: rest) :
    ofTokens? (fuel + 1) (.openArray :: tokens) =
      (itemsOf? fuel tokens).map fun (items, rest) => (.array items, rest) := by
  rw [ofTokens?]
  exact h

mutual

/-- A value is read off the start of a sequence that begins with its tokens. -/
theorem ofTokens?_tokens (j : Json) {fuel : Nat} (h : j.tokens.length < fuel) (rest : List Token) :
    ofTokens? fuel (j.tokens ++ rest) = some (j, rest) := by
  obtain ⟨fuel, rfl⟩ : ∃ k, fuel = k + 1 := ⟨fuel - 1, by omega⟩
  match j with
  | .null | .bool _ | .number _ | .string _ | .array [] | .object [] => rfl
  | .array (item :: items) =>
    have hitems := itemsOf?_tokens (item :: items) (by simp) fuel (by simp [tokens] at h; omega) rest
    simp only [tokens, List.cons_append, List.append_assoc, List.nil_append]
    rw [ofTokens?_openArray, hitems]
    · rfl
    · -- The item is not taken for the end of an empty array.
      obtain ⟨t, ts, ht, hne⟩ := tokens_cons item
      intro rest' hrest
      cases items <;> simp [itemTokens, commaSeparated, ht, hne] at hrest
  | .object ((key, value) :: members) =>
    have hmembers := membersOf?_tokens ((key, value) :: members) (by simp) fuel (by simp [tokens] at h; omega) rest
    simp only [tokens, List.cons_append, List.append_assoc, List.nil_append]
    rw [ofTokens?, hmembers]
    · rfl
    · intro rest' hrest
      cases members <;> simp [memberTokens, commaSeparated] at hrest

theorem itemsOf?_tokens (items : List Json) (hne : items ≠ []) (fuel : Nat)
    (h : (commaSeparated (itemTokens items)).length + 1 < fuel) (rest : List Token) :
    itemsOf? fuel (commaSeparated (itemTokens items) ++ .closeArray :: rest) = some (items, rest) := by
  obtain ⟨fuel, rfl⟩ : ∃ k, fuel = k + 1 := ⟨fuel - 1, by omega⟩
  match items with
  | [] => exact absurd rfl hne
  | [item] =>
    simp only [itemTokens, commaSeparated] at h ⊢
    rw [itemsOf?, ofTokens?_tokens item (by omega)]
  | item :: next :: items =>
    simp only [itemTokens, commaSeparated, List.length_append, List.length_cons] at h
    have hrest := itemsOf?_tokens (next :: items) (by simp) fuel (by simp only [itemTokens]; omega) rest
    simp only [itemTokens, commaSeparated, List.append_assoc, List.cons_append] at hrest ⊢
    rw [itemsOf?, ofTokens?_tokens item (by omega)]
    dsimp only
    rw [hrest]
    rfl

theorem membersOf?_tokens (members : List (Option String × Json)) (hne : members ≠ []) (fuel : Nat)
    (h : (commaSeparated (memberTokens members)).length + 1 < fuel) (rest : List Token) :
    membersOf? fuel (commaSeparated (memberTokens members) ++ .closeObject :: rest) = some (members, rest) := by
  obtain ⟨fuel, rfl⟩ : ∃ k, fuel = k + 1 := ⟨fuel - 1, by omega⟩
  match members with
  | [] => exact absurd rfl hne
  | [(key, value)] =>
    simp only [memberTokens, commaSeparated, List.length_cons] at h
    simp only [memberTokens, commaSeparated, List.cons_append]
    rw [membersOf?, ofTokens?_tokens value (by omega)]
  | (key, value) :: next :: members =>
    simp only [memberTokens, commaSeparated, List.length_append, List.length_cons] at h
    have hrest := membersOf?_tokens (next :: members) (by simp) fuel (by simp only [memberTokens]; omega) rest
    simp only [memberTokens, commaSeparated, List.append_assoc, List.cons_append] at hrest ⊢
    rw [membersOf?, ofTokens?_tokens value (by omega)]
    dsimp only
    rw [hrest]
    rfl

end

/-! ## Texts -/

theorem ofTokenList?_tokens (j : Json) : ofTokenList? j.tokens = some j := by
  have h := ofTokens?_tokens j (Nat.lt_succ_self _) []
  rw [List.append_nil] at h
  rw [ofTokenList?, h]

/-- Every value reads back from its text. -/
theorem parse?_render (j : Json) : parse? j.render = some j := by
  have hchain : j.tokens.IsChain Token.Apart := by
    -- The law is about tokens that something follows; it does not matter what.
    have h := isChain_tokens j (t := .comma) trivial (.singleton _)
    exact h.left_of_append
  rw [parse?, render, String.toList_ofList, Token.lex?_render hchain]
  exact ofTokenList?_tokens j

/-- Every value reads back from the bytes of its text. -/
theorem ofBytes?_render (j : Json) : ofBytes? j.render.toUTF8 = some j := by
  rw [ofBytes?_toUTF8, parse?_render]

end GroundedQA.Json
