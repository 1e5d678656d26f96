import GroundedQA.Number.Power
/-!
# Names in ASCII letters

Punycode writes a text with letters, digits and hyphens: first the ASCII characters of the text, then
where each other character is to be inserted, as numbers in the order of the characters. A number has
as many digits as it needs, each below thirty-six, and how soon its digits end follows the size of
the numbers before it. Reading refuses numbers of 32 bits and more.
-/

namespace GroundedQA.Remote.Domain.Punycode

/-- The digit of a value below thirty-six. -/
def digitChar (n : Nat) : Char :=
  if n < 26 then Char.ofNat ('a'.toNat + n) else Char.ofNat ('0'.toNat + (n - 26))

def digitValue? (c : Char) : Option Nat :=
  if 'a' ≤ c ∧ c ≤ 'z' then some (c.toNat - 'a'.toNat)
  else if '0' ≤ c ∧ c ≤ '9' then some (c.toNat - '0'.toNat + 26)
  else none

/-- The first value that does not end a number, for the digit at a place, which counts by
thirty-sixes. -/
def threshold (bias place : Nat) : Nat :=
  max 1 (min 26 (place - bias))

theorem one_le_threshold (bias place : Nat) : 1 ≤ threshold bias place := by
  unfold threshold; omega

/-- Divides until the number is small, and counts thirty-six for each time. -/
def settle (n count : Nat) : Nat :=
  if 455 < n then settle (n / 35) (count + 36) else count + 36 * n / (n + 38)
termination_by n
decreasing_by omega

/-- The bias after a number, when the text so far has the given size. -/
def adapt (number size : Nat) (isFirst : Bool) : Nat :=
  let n := if isFirst then number / 700 else number / 2
  settle (n + n / size) 0

/-! ## Writing -/

def numberDigits (bias place n : Nat) : List Char :=
  let t := threshold bias place
  if n < t then [digitChar n]
  else digitChar (t + (n - t) % (36 - t)) :: numberDigits bias (place + 36) ((n - t) / (36 - t))
termination_by n
decreasing_by
  have := one_le_threshold bias place
  exact Nat.lt_of_le_of_lt (Nat.div_le_self _ _) (by omega)

/-- A text that is being written. -/
structure Writing where
  /-- The digits so far, in reverse. -/
  out : List Char
  bias : Nat := 72
  /-- How many characters of the text are written. -/
  count : Nat
  /-- No number is written yet. -/
  isFirst : Bool := true
  /-- The number that is due. -/
  number : Nat := 0

/-- Passes a character of the text while those with the code point `n` are inserted. -/
def Writing.pass (n : Nat) (w : Writing) (c : Char) : Writing :=
  if c.toNat < n then { w with number := w.number + 1 }
  else if c.toNat = n then
    { out := (numberDigits w.bias 36 w.number).reverse ++ w.out
      bias := adapt w.number (w.count + 1) w.isFirst
      count := w.count + 1
      isFirst := false }
  else w

/-- Inserts the characters with the code points given in ascending order; all before `next` are
inserted already. -/
def Writing.insertAll (text : List Char) : Nat → List Nat → Writing → Writing
  | _, [], w => w
  | next, n :: ns, w =>
    let w := text.foldl (Writing.pass n) { w with number := w.number + (n - next) * (w.count + 1) }
    insertAll text (n + 1) ns { w with number := w.number + 1 }

/-- The written form of a text. -/
def encode (text : List Char) : List Char :=
  let ascii := text.filter fun c => c.toNat < 0x80
  let others := ((text.map Char.toNat).filter (0x80 ≤ ·)).eraseDups.mergeSort
  let written := Writing.insertAll text 0x80 others { out := [], count := ascii.length }
  (if ascii.isEmpty then [] else ascii ++ ['-']) ++ written.out.reverse

/-! ## Reading -/

/-- Adds the number that a text begins with to `total`, and gives what follows it. The weight is that
of the digit at the place. -/
def addNumber? (bias : Nat) : Nat → Nat → Nat → List Char → Option (Nat × List Char)
  | _, _, _, [] => none
  | place, weight, total, c :: cs => do
    let digit ← digitValue? c
    let total := total + digit * weight
    if 2 ^ 32 ≤ total then none
    let t := threshold bias place
    if digit < t then some (total, cs)
    else
      let weight := weight * (36 - t)
      if 2 ^ 32 ≤ weight then none
      else addNumber? bias (place + 36) weight total cs

theorem length_lt_of_addNumber? {bias place weight total n : Nat} {cs rest : List Char}
    (h : addNumber? bias place weight total cs = some (n, rest)) : rest.length < cs.length := by
  induction cs generalizing place weight total with
  | nil => simp [addNumber?] at h
  | cons c cs ih =>
    simp only [addNumber?, Option.bind_eq_bind, Option.bind_eq_some_iff] at h
    obtain ⟨digit, -, h⟩ := h
    split at h
    · simp at h
    · split at h
      · simp_all
      · split at h
        · simp at h
        · exact Nat.lt_succ_of_lt (ih h)

/-- Inserts the characters whose numbers a text holds. `place` is where the last one was inserted, plus
one, and `point` its code point. -/
def insertAll? (bias place point : Nat) (text : List Char) (cs : List Char) : Option (List Char) :=
  if cs.isEmpty then some text
  else
    match _h : addNumber? bias 36 1 place cs with
    | none => none
    | some (total, rest) =>
      let size := text.length + 1
      let point := point + total / size
      if point.isValidChar then
        insertAll? (adapt (total - place) size (place = 0)) (total % size + 1) point
          (text.insertIdx (total % size) (.ofNat point)) rest
      else none
termination_by cs.length
decreasing_by exact length_lt_of_addNumber? _h

/-- The text that a written form stands for. What stands before the last hyphen, unless that comes
first, is in ASCII. -/
def decode? (cs : List Char) : Option (List Char) :=
  let numbers := (cs.reverse.takeWhile (· ≠ '-')).reverse
  let before := cs.take (cs.length - numbers.length)
  if before.length = 1 then none else insertAll? 72 0 0x80 before.dropLast numbers

example : encode "bücher".toList = "bcher-kva".toList := by cbv
example : decode? "bcher-kva".toList = some "bücher".toList := by cbv

end GroundedQA.Remote.Domain.Punycode
