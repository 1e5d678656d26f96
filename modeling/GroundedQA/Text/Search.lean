/-!
# Finding a text in a text

`cut? pat cs` splits `cs` around the first occurrence of `pat`. `Occurs pat cs` says what an
occurrence is, and `cut?_isSome` that one is found exactly when there is one.
-/

namespace GroundedQA.Text

/-- `cs` without the text `pat` it begins with, or nothing when it does not begin with `pat`. -/
def after? : List Char → List Char → Option (List Char)
  | [], cs => some cs
  | _ :: _, [] => none
  | p :: ps, c :: cs => if p = c then after? ps cs else none

/-- What stands before and after the first occurrence of `pat` in `cs`. -/
def cut? (pat : List Char) : List Char → Option (List Char × List Char)
  | [] => if pat.isEmpty then some ([], []) else none
  | c :: cs =>
    match after? pat (c :: cs) with
    | some rest => some ([], rest)
    | none => (cut? pat cs).map fun (before, rest) => (c :: before, rest)

/-- The text `pat` stands somewhere in `cs`. -/
def contains (pat cs : List Char) : Bool :=
  (cut? pat cs).isSome

/-- The text `pat` stands somewhere in `s`. -/
def holds (s pat : String) : Bool :=
  contains pat.toList s.toList

/-- The text `pat` stands somewhere in `cs`, as a statement. -/
def Occurs (pat cs : List Char) : Prop :=
  ∃ before rest, cs = before ++ pat ++ rest

theorem after?_eq_some_iff {pat cs rest : List Char} : after? pat cs = some rest ↔ cs = pat ++ rest := by
  induction pat generalizing cs with
  | nil => simp [after?, eq_comm]
  | cons p ps ih =>
    cases cs with
    | nil => simp [after?]
    | cons c cs =>
      by_cases h : p = c
      · simp [after?, h, ih]
      · simp [after?, h, Ne.symm h]

theorem eq_of_cut? {pat cs before rest : List Char} (h : cut? pat cs = some (before, rest)) :
    cs = before ++ pat ++ rest := by
  induction cs generalizing before with
  | nil =>
    cases pat <;> simp_all [cut?]
  | cons c cs ih =>
    rw [cut?] at h
    split at h
    · next r hr =>
      obtain ⟨rfl, rfl⟩ : [] = before ∧ r = rest := by simpa using h
      simpa using after?_eq_some_iff.1 hr
    · obtain ⟨⟨b, r⟩, hb, he⟩ := Option.map_eq_some_iff.1 h
      obtain ⟨rfl, rfl⟩ : c :: b = before ∧ r = rest := by simpa using he
      simp [ih hb]

theorem cut?_isSome {pat cs : List Char} : (cut? pat cs).isSome ↔ Occurs pat cs := by
  constructor
  · intro h
    obtain ⟨⟨before, rest⟩, h⟩ := Option.isSome_iff_exists.1 h
    exact ⟨before, rest, eq_of_cut? h⟩
  · rintro ⟨before, rest, rfl⟩
    induction before with
    | nil =>
      cases hp : pat ++ rest with
      | nil => simp_all [cut?]
      | cons c cs =>
        have : after? pat (c :: cs) = some rest := by rw [after?_eq_some_iff, hp]
        simp [cut?, hp, this]
    | cons c before ih =>
      simp only [List.cons_append, cut?]
      split
      · rfl
      · simpa using ih

theorem holds_append (before pat rest : String) : holds (before ++ pat ++ rest) pat := by
  rw [holds, contains, cut?_isSome]
  exact ⟨before.toList, rest.toList, by simp⟩

end GroundedQA.Text
