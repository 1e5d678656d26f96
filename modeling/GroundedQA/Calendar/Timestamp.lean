import GroundedQA.Calendar.Date
import GroundedQA.Number.Digits
import GroundedQA.Number.Power
import GroundedQA.Text.Blank
/-!
# Timestamps

A timestamp is a moment of universal time, to the nanosecond. It is written as
`2024-01-02T03:04:05.678Z`, with as few groups of three fraction digits as it takes. A year of more
than four digits, or before the year 0, has a sign.

It is read from a date, a `T` or a blank, a time and the offset from universal time, for which
`Z` or `UTC` stands for none. Fields may be short, and blanks may stand around them.
-/

namespace GroundedQA.Calendar

open Number Text

/-- A moment of universal time. In a leap second, `second` is the one before it and `nanosecond`
goes on beyond a thousand million. -/
structure Timestamp where
  date : Date
  /-- Seconds since midnight. -/
  second : Nat
  nanosecond : Nat
deriving DecidableEq, Repr

namespace Timestamp

def secondsPerDay : Nat := 86400

def nanosPerSecond : Nat := 1000000000

/-! ## Writing -/

/-- `n` with zeros before it up to the given width. -/
def padded (width n : Nat) : List Char :=
  let ds := (digits n).map Digit.toChar
  List.replicate (width - ds.length) '0' ++ ds

def renderYear (year : Int) : List Char :=
  if 0 ≤ year ∧ year ≤ 9999 then padded 4 year.toNat
  else (if year < 0 then '-' else '+') :: padded 4 year.natAbs

def renderFraction (nanos : Nat) : List Char :=
  if nanos = 0 then []
  else if nanos % 1000000 = 0 then '.' :: padded 3 (nanos / 1000000)
  else if nanos % 1000 = 0 then '.' :: padded 6 (nanos / 1000)
  else '.' :: padded 9 nanos

/-- The written form. -/
def render (t : Timestamp) : String :=
  let second := t.second % 60 + t.nanosecond / nanosPerSecond
  .ofList <| renderYear t.date.year ++ '-' :: padded 2 t.date.month ++ '-' :: padded 2 t.date.day ++
    'T' :: padded 2 (t.second / 3600) ++ ':' :: padded 2 (t.second / 60 % 60) ++
    ':' :: padded 2 second ++ renderFraction (t.nanosecond % nanosPerSecond) ++ ['Z']

/-! ## Reading

Each reader gives what a text begins with, and what follows that. -/

/-- A number of at most `most` digits, after blanks or not. -/
def number? (most : Nat) (cs : List Char) : Option (Nat × List Char) :=
  let cs := trimStart cs
  match (takeDigits (cs.take most)).1 with
  | [] => none
  | ds => some (ofDigits ds, cs.drop ds.length)

/-- A year: four digits at most, or any number of them after a sign. -/
def year? (cs : List Char) : Option (Int × List Char) :=
  match trimStart cs with
  | '-' :: cs => (signed? cs).map fun (n, rest) => (-(n : Int), rest)
  | '+' :: cs => (signed? cs).map fun (n, rest) => ((n : Int), rest)
  | cs => (number? 4 cs).map fun (n, rest) => ((n : Int), rest)
where
  /-- Digits, right after a sign. -/
  signed? (cs : List Char) : Option (Nat × List Char) :=
    match takeDigits cs with
    | ([], _) => none
    | (ds, rest) => some (ofDigits ds, rest)

/-- A mark, after blanks or not. -/
def mark? (mark : Char) (cs : List Char) : Option (List Char) :=
  match trimStart cs with
  | c :: cs => if c = mark then some cs else none
  | [] => none

/-- A date that is in the calendar. -/
def date? (cs : List Char) : Option (Date × List Char) := do
  let (year, cs) ← year? cs
  let (month, cs) ← number? 2 (← mark? '-' cs)
  let (day, cs) ← number? 2 (← mark? '-' cs)
  let date : Date := ⟨year, month, day⟩
  if date.isValid then some (date, cs) else none

/-- A fraction of a second in nanoseconds; digits beyond the ninth do not count. -/
def fraction? : List Char → Option (Nat × List Char)
  | '.' :: cs =>
    match takeDigits cs with
    | ([], _) => none
    | (ds, rest) =>
      let kept := ds.take 9
      some (ofDigits kept * 10 ^ (9 - kept.length), rest)
  | cs => some (0, cs)

/-- The second of the day and the nanoseconds. -/
def time? (cs : List Char) : Option ((Nat × Nat) × List Char) := do
  let (hour, cs) ← number? 2 cs
  let (minute, cs) ← number? 2 (← mark? ':' cs)
  let (second, cs) ← number? 2 (← mark? ':' cs)
  let (nanos, cs) ← fraction? cs
  if hour < 24 && minute < 60 && second ≤ 60 then
    let leap := if second = 60 then 1 else 0
    some ((hour * 3600 + minute * 60 + (second - leap), leap * nanosPerSecond + nanos), cs)
  else none

/-- Two digits, one right after the other. -/
def twoDigits? : List Char → Option (Nat × List Char)
  | a :: b :: cs => do return ((← digit? a).val * 10 + (← digit? b).val, cs)
  | _ => none

/-- An offset in seconds after its sign; colons and blanks may stand before its minutes. -/
def hoursAndMinutes? (cs : List Char) : Option (Nat × List Char) := do
  let (hours, cs) ← twoDigits? cs
  let (minutes, cs) ← twoDigits? (cs.dropWhile fun c => c = ':' || isSpace c)
  let seconds := hours * 3600 + minutes * 60
  if minutes < 60 && seconds < secondsPerDay then some (seconds, cs) else none

/-- The offset from universal time, in seconds. -/
def offset? (cs : List Char) : Option (Int × List Char) :=
  match cs with
  | 'Z' :: cs | 'z' :: cs => some (0, cs)
  | '+' :: cs => (hoursAndMinutes? cs).map fun (n, rest) => ((n : Int), rest)
  | '-' :: cs | '\u2212' :: cs => (hoursAndMinutes? cs).map fun (n, rest) => (-(n : Int), rest)
  | a :: b :: c :: cs => if [a, b, c].map Char.toUpper = ['U', 'T', 'C'] then some (0, cs) else none
  | _ => none

/-- The moment that a date and a second of its day are, at an offset from universal time. -/
def atOffset? (date : Date) (second nanosecond : Nat) (offset : Int) : Option Timestamp :=
  let universal : Int := second - offset
  let date :=
    if universal < 0 then date.previous
    else if secondsPerDay ≤ universal then date.next
    else date
  if date.isValid then some ⟨date, (universal % secondsPerDay).toNat, nanosecond⟩ else none

def parse? (s : String) : Option Timestamp := do
  let (date, cs) ← date? s.toList
  match cs with
  | separator :: cs =>
    if separator = 'T' || separator = 't' || separator = ' ' then
      let ((second, nanosecond), cs) ← time? cs
      let (offset, cs) ← offset? (trimStart cs)
      if isBlank cs then atOffset? date second nanosecond offset else none
    else none
  | [] => none

example : (parse? "2024-03-01 0:30:00.5+01:00").map render = some "2024-02-29T23:30:00.500Z" := by
  decide +kernel
example : (parse? "2016-12-31T23:59:60Z").map render = some "2016-12-31T23:59:60Z" := by decide +kernel
example : parse? "2023-02-29T00:00:00Z" = none := by decide +kernel

end Timestamp

end GroundedQA.Calendar
