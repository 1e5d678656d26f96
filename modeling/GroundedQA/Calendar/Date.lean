/-!
# Dates

Dates of the Gregorian calendar, carried on before its introduction, with a year 0. A date is a day
of a month of a year; `Date.next` and `Date.previous` are the days after and before it.
-/

namespace GroundedQA.Calendar

/-- A day, by its year, month and place in the month, both counted from one. -/
structure Date where
  year : Int
  month : Nat
  day : Nat
deriving DecidableEq, Repr

/-- Years divisible by four are leap years, but of full centuries only every fourth. -/
def isLeapYear (year : Int) : Bool :=
  year % 4 = 0 && (year % 100 ≠ 0 || year % 400 = 0)

def daysInMonth (year : Int) (month : Nat) : Nat :=
  if month = 2 then if isLeapYear year then 29 else 28
  else if month = 4 ∨ month = 6 ∨ month = 9 ∨ month = 11 then 30
  else 31

namespace Date

/-- The first and the last year of the calendar. -/
def firstYear : Int := -262143

def lastYear : Int := 262142

/-- The day is in the calendar. -/
def isValid (date : Date) : Bool :=
  firstYear ≤ date.year && date.year ≤ lastYear && 1 ≤ date.month && date.month ≤ 12 &&
    1 ≤ date.day && date.day ≤ daysInMonth date.year date.month

/-- The day after. -/
def next (date : Date) : Date :=
  if date.day < daysInMonth date.year date.month then { date with day := date.day + 1 }
  else if date.month < 12 then { date with month := date.month + 1, day := 1 }
  else ⟨date.year + 1, 1, 1⟩

/-- The day before. -/
def previous (date : Date) : Date :=
  if 1 < date.day then { date with day := date.day - 1 }
  else if 1 < date.month then
    { date with month := date.month - 1, day := daysInMonth date.year (date.month - 1) }
  else ⟨date.year - 1, 12, 31⟩

example : next ⟨2024, 2, 28⟩ = ⟨2024, 2, 29⟩ ∧ next ⟨1900, 2, 28⟩ = ⟨1900, 3, 1⟩ := by decide
example : previous ⟨2000, 3, 1⟩ = ⟨2000, 2, 29⟩ ∧ previous ⟨1, 1, 1⟩ = ⟨0, 12, 31⟩ := by decide

end Date

end GroundedQA.Calendar
