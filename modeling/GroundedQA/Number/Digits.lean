import GroundedQA.Number.Power
/-!
# Decimal digits

`digits n` are the digits of a natural number, most significant first and without a leading zero,
and `ofDigits` is the number that a list of digits spells. `ofDigits_digits` says that nothing is
lost, so a decimal that was printed reads back (`readDecimal?_decimal`).
-/

namespace GroundedQA.Number

abbrev Digit := Fin 10

instance neZero_ten : @NeZero Nat .ofOfNat0 10 := ⟨by decide⟩

def Digit.toChar (d : Digit) : Char :=
  Char.ofNat (48 + d.val)

def digit? (c : Char) : Option Digit :=
  if h : 48 ≤ c.toNat ∧ c.toNat < 58 then some ⟨c.toNat - 48, by omega⟩ else none

/-- Goes on with the number `n`, after which digits have been gathered that spell `group` and count
`scale`. Digits join the number eighteen at a time, so that a long run of them is cheap to read. -/
def joinDigits (n group scale : Nat) : List Digit → Nat
  | [] => n * scale + group
  | d :: ds =>
    if scale < 10 ^ 18 then joinDigits n (group * 10 + d.val) (scale * 10) ds
    else joinDigits (n * scale + group) d.val 10 ds

/-- The number that the digits spell, most significant first. -/
def ofDigits (ds : List Digit) : Nat :=
  joinDigits 0 0 1 ds

/-- Puts the digits of `n` before `acc`; the first argument bounds how many there are. -/
def digitsOnto : Nat → Nat → List Digit → List Digit
  | 0, _, acc => acc
  | fuel + 1, n, acc =>
    let last : Digit := ⟨n % 10, Nat.mod_lt _ (by decide)⟩
    if n < 10 then last :: acc else digitsOnto fuel (n / 10) (last :: acc)

/-- The digits of `n`, most significant first; `0` has one digit. -/
def digits (n : Nat) : List Digit :=
  digitsOnto (n + 1) n []

/-- The digits that a text begins with, and what follows them. -/
def takeDigits : List Char → List Digit × List Char
  | [] => ([], [])
  | c :: cs =>
    match digit? c with
    | none => ([], c :: cs)
    | some d => let (ds, rest) := takeDigits cs; (d :: ds, rest)

/-- `n` in decimal. -/
def decimal (n : Nat) : String :=
  .ofList ((digits n).map Digit.toChar)

/-- Without one leading plus sign. -/
def withoutPlus : List Char → List Char
  | '+' :: cs => cs
  | cs => cs

/-- Reads a decimal: one digit or more, after a plus sign or not, and nothing else. -/
def readDecimal? (s : String) : Option Nat :=
  match takeDigits (withoutPlus s.toList) with
  | (d :: ds, []) => some (ofDigits (d :: ds))
  | _ => none

/-! ## Laws -/

theorem joinDigits_eq_foldl (n group scale : Nat) (ds : List Digit) :
    joinDigits n group scale ds = ds.foldl (fun n d => n * 10 + d.val) (n * scale + group) := by
  induction ds generalizing n group scale with
  | nil => rfl
  | cons d ds ih =>
    unfold joinDigits
    split
    · rw [ih, List.foldl_cons, Nat.add_mul, Nat.mul_assoc, Nat.add_assoc]
    · rw [ih, List.foldl_cons]

/-- Each digit counts ten times as much as the one after it. -/
theorem ofDigits_eq_foldl (ds : List Digit) : ofDigits ds = ds.foldl (fun n d => n * 10 + d.val) 0 := by
  rw [ofDigits, joinDigits_eq_foldl]

theorem ofDigits_cons_foldl (ds : List Digit) (n : Nat) :
    ds.foldl (fun n d => n * 10 + d.val) n = n * 10 ^ ds.length + ofDigits ds := by
  rw [ofDigits_eq_foldl]
  induction ds generalizing n with
  | nil => simp
  | cons d ds ih =>
    simp only [List.foldl_cons, List.length_cons]
    rw [ih, ih (0 * 10 + d.val), Nat.pow_succ, Nat.add_mul]
    grind

theorem ofDigits_cons (d : Digit) (ds : List Digit) :
    ofDigits (d :: ds) = d.val * 10 ^ ds.length + ofDigits ds := by
  rw [ofDigits_eq_foldl, List.foldl_cons, ofDigits_cons_foldl]
  simp

theorem ofDigits_digitsOnto (fuel n : Nat) (acc : List Digit) (h : n < fuel) :
    ofDigits (digitsOnto fuel n acc) = n * 10 ^ acc.length + ofDigits acc := by
  induction fuel generalizing n acc with
  | zero => omega
  | succ fuel ih =>
    unfold digitsOnto
    split
    · next hn => simp [ofDigits_cons, Nat.mod_eq_of_lt hn]
    · next hn =>
      rw [ih (n / 10) _ (by omega), ofDigits_cons, List.length_cons, Nat.pow_succ]
      have := Nat.div_add_mod n 10
      calc n / 10 * (10 ^ acc.length * 10) + (n % 10 * 10 ^ acc.length + ofDigits acc)
          = (10 * (n / 10) + n % 10) * 10 ^ acc.length + ofDigits acc := by grind
        _ = n * 10 ^ acc.length + ofDigits acc := by rw [this]

/-- The digits of a number spell it. -/
theorem ofDigits_digits (n : Nat) : ofDigits (digits n) = n := by
  rw [digits, ofDigits_digitsOnto _ _ _ (Nat.lt_succ_self n)]
  simp [ofDigits_eq_foldl]

theorem digit?_toChar (d : Digit) : digit? d.toChar = some d := by
  revert d; decide

theorem digitsOnto_ne_nil (fuel n : Nat) (acc : List Digit) : digitsOnto (fuel + 1) n acc ≠ [] := by
  induction fuel generalizing n acc with
  | zero => unfold digitsOnto; split <;> simp [digitsOnto]
  | succ fuel ih =>
    unfold digitsOnto
    split
    · simp
    · exact ih (n / 10) _

theorem digits_ne_nil (n : Nat) : digits n ≠ [] :=
  digitsOnto_ne_nil n n []

/-- Digits are taken up to the first character that is none. -/
theorem takeDigits_append (ds : List Digit) (rest : List Char)
    (h : ∀ c ∈ rest.head?, digit? c = none) :
    takeDigits (ds.map Digit.toChar ++ rest) = (ds, rest) := by
  induction ds with
  | nil =>
    cases rest with
    | nil => rfl
    | cons c cs => simp [takeDigits, h c (by simp)]
  | cons d ds ih => simp [takeDigits, digit?_toChar, ih]

theorem withoutPlus_digit (d : Digit) (cs : List Char) : withoutPlus (d.toChar :: cs) = d.toChar :: cs := by
  have : d.toChar ≠ '+' := by
    clear cs
    revert d
    decide
  simp [withoutPlus, this]

/-- A decimal that was printed reads back. -/
theorem readDecimal?_decimal (n : Nat) : readDecimal? (decimal n) = some n := by
  have hv := ofDigits_digits n
  obtain ⟨d, ds, hd⟩ := List.exists_cons_of_ne_nil (digits_ne_nil n)
  have ht : takeDigits (d.toChar :: ds.map Digit.toChar) = (d :: ds, []) := by
    simpa using takeDigits_append (d :: ds) [] (by simp)
  rw [hd] at hv
  simp [readDecimal?, decimal, hd, withoutPlus_digit, ht, hv]

example : readDecimal? "+007" = some 7 ∧ readDecimal? "" = none ∧ readDecimal? " 5" = none := by cbv

end GroundedQA.Number
