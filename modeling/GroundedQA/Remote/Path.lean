import GroundedQA.Remote.Percent
import GroundedQA.Text.Pieces
/-!
# Paths

A path is given by its steps. `directSteps` takes the steps that only stay or go back out of it, so
that a path says where it leads in one way.
-/

namespace GroundedQA.Remote

open Text

def pathReserved : List Char := " \"#<>?`\x7b\x7d".toList

/-- A step with its dots written plainly. -/
def plainDots : List Char → List Char
  | '%' :: '2' :: 'e' :: cs | '%' :: '2' :: 'E' :: cs => '.' :: plainDots cs
  | c :: cs => c :: plainDots cs
  | [] => []

def staysPut (step : List Char) : Bool :=
  plainDots step = ['.']

def goesBack (step : List Char) : Bool :=
  plainDots step = ['.', '.']

/-- The step names a drive, which steps back do not leave. -/
def isDrive : List Char → Bool
  | [letter, mark] => letter.isAlpha && (mark = ':' || mark = '|')
  | _ => false

/-- The steps without those that stay or go back, after the steps so far, which stand in reverse; a
path that ends in one of these ends in a slash. -/
def directStepsAfter (done : List (List Char)) : List (List Char) → List (List Char)
  | [] => done.reverse
  | step :: rest =>
    if staysPut step || goesBack step then
      let done := if goesBack step && !done.head?.any isDrive then done.tail else done
      directStepsAfter (if rest.isEmpty then [] :: done else done) rest
    else directStepsAfter (step :: done) rest

/-- The steps without those that stay or go back. -/
def directSteps (steps : List (List Char)) : List (List Char) :=
  directStepsAfter [] steps

/-- The steps of a path on a drive or a disk: no empty steps come first, and a drive that comes first
is written with a colon. -/
def fileSteps (steps : List (List Char)) : List (List Char) :=
  match directSteps steps with
  | first :: rest =>
    if isDrive first then (first.take 1 ++ [':']) :: rest
    else
      match (first :: rest).dropWhile List.isEmpty with
      | [] => [[]]
      | steps => steps
  | [] => [[]]

/-- The path begins with a drive. -/
def startsWithDrive (steps : List (List Char)) : Bool :=
  (directSteps steps).head?.any isDrive

/-- The written form of steps: a slash comes before each. -/
def renderSteps (steps : List (List Char)) : String :=
  .ofList <| steps.flatMap fun step => '/' :: percentEncode pathReserved step

end GroundedQA.Remote
