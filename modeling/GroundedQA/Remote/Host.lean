import GroundedQA.Number.Digits
import GroundedQA.Number.Power
import GroundedQA.Remote.Domain.Name
import GroundedQA.Remote.Percent
/-!
# Hosts

The host of an address is a name or a number: one of 32 bits, written as four bytes with dots
between, or one of 128 bits, written as eight groups of hexadecimal digits with colons between and
in brackets, where one run of zeros may be left out.
-/

namespace GroundedQA.Remote

open Text

/-- The host of an address; its name may be empty. -/
inductive Host where
  | name (text : String)
  | short (number : UInt32)
  | long (groups : Vector UInt16 8)
deriving DecidableEq, Repr

/-! ## Numbers of 32 bits -/

namespace ShortNumber

/-- The number that digits of a base spell. -/
def inBase? (base : Nat) (cs : List Char) : Option Nat :=
  (cs.mapM fun c => (hexValue? c).filter (· < base)).map (·.foldl (fun n d => n * base + d) 0)

/-- A part of a number: in base sixteen after `0x`, in base eight after another zero, and in base ten
otherwise. -/
def part? : List Char → Option Nat
  | [] => none
  | '0' :: 'x' :: cs | '0' :: 'X' :: cs => inBase? 16 cs
  | ['0'] => some 0
  | '0' :: cs => inBase? 8 cs
  | cs => inBase? 10 cs

/-- The parts of a name between its dots; a dot at the end is left out. -/
def parts (name : List Char) : List (List Char) :=
  let parts := pieces (· = '.') name
  if parts.length ≠ 1 ∧ parts.getLast? = some [] then parts.dropLast else parts

/-- A name is a number or nothing when its last part is digits only or a part of a number. -/
def isMeant (name : List Char) : Bool :=
  match (parts name).getLast? with
  | none | some [] => false
  | some part => part.all Char.isDigit || (part? part).isSome

/-- The number that a name of at most four parts spells. Each but the last is one byte, and the last
fills all bytes that are left. -/
def ofName? (name : List Char) : Option UInt32 := do
  let numbers ← (parts name).mapM part?
  let last ← numbers.getLast?
  let bytes := numbers.dropLast
  if 3 < bytes.length || bytes.any (256 ≤ ·) || 256 ^ (4 - bytes.length) ≤ last then none
  return .ofNat (bytes.foldl (fun n byte => n * 256 + byte) 0 * 256 ^ (4 - bytes.length) + last)

/-- The four bytes, with dots between. -/
def render (number : UInt32) : String :=
  ".".intercalate <| [24, 16, 8, 0].map fun shift =>
    Number.decimal ((number.toNat >>> shift) % 256)

end ShortNumber

/-! ## Numbers of 128 bits -/

namespace LongNumber

/-- A group has one digit to four. -/
def group? (cs : List Char) : Option Nat :=
  if cs.isEmpty || 4 < cs.length then none else hexNumber? cs

/-- A byte in decimal, without leading zeros. -/
def byte? (cs : List Char) : Option Nat := do
  let n ← Number.readDecimal? (.ofList cs)
  if 256 ≤ n || Number.decimal n ≠ .ofList cs then none else some n

/-- The two groups that four bytes with dots between make. -/
def dotted? (cs : List Char) : Option (List Nat) := do
  let [a, b, c, d] ← (pieces (· = '.') cs).mapM byte? | none
  return [a * 256 + b, c * 256 + d]

/-- The groups of a text with colons between; at the end of the number the last may be two, as four
bytes. -/
def groups? (isEnd : Bool) (cs : List Char) : Option (List Nat) :=
  go (pieces (· = ':') cs)
where
  go : List (List Char) → Option (List Nat)
    | [] => some []
    | [last] =>
      if isEnd && last.contains '.' then dotted? last else (group? last).map fun n => [n]
    | group :: rest => do return (← group? group) :: (← go rest)

/-- What stands before the first two colons in a row and after them. -/
def splitAtGap? : List Char → Option (List Char × List Char)
  | [] => none
  | ':' :: ':' :: cs => some ([], cs)
  | c :: cs => (splitAtGap? cs).map fun (before, after) => (c :: before, after)

/-- The groups of a text that may be empty. -/
def groupsOrNone? (isEnd : Bool) (cs : List Char) : Option (List Nat) :=
  if cs.isEmpty then some [] else groups? isEnd cs

/-- Eight groups as they are. -/
def ofGroups? (groups : List Nat) : Option (Vector UInt16 8) :=
  let words := (groups.map Nat.toUInt16).toArray
  if h : words.size = 8 then some ⟨words, h⟩ else none

/-- The number that a text spells. Where groups are left out, at least one is. -/
def ofText? (cs : List Char) : Option (Vector UInt16 8) :=
  match splitAtGap? cs with
  | none => (groups? true cs).bind ofGroups?
  | some (before, after) => do
    let before ← groupsOrNone? false before
    let after ← groupsOrNone? true after
    if 7 < before.length + after.length then none
    ofGroups? (before ++ List.replicate (8 - (before.length + after.length)) 0 ++ after)

/-- How many groups are zero from a place on. -/
def zerosFrom (groups : List UInt16) (place : Nat) : Nat :=
  ((groups.drop place).takeWhile (· = 0)).length

/-- The place of the first of the longest runs of zeros. -/
def longestZeros (groups : List UInt16) : Nat :=
  (List.range groups.length).foldl
    (fun best place => if zerosFrom groups best < zerosFrom groups place then place else best) 0

/-- The groups with colons between; the first of the longest runs of zeros is left out, if it is not
one group alone. -/
def render (number : Vector UInt16 8) : String :=
  let groups := number.toList
  let text := fun groups : List UInt16 =>
    ":".intercalate (groups.map fun group => String.ofList (hexDigits group.toNat))
  let place := longestZeros groups
  let count := zerosFrom groups place
  if count < 2 then text groups
  else text (groups.take place) ++ "::" ++ text (groups.drop (place + count))

end LongNumber

/-! ## Hosts -/

namespace Host

/-- The written form. -/
def render : Host → String
  | .name text => text
  | .short number => ShortNumber.render number
  | .long groups => "[" ++ LongNumber.render groups ++ "]"

/-- A number in brackets, given from after the first of them. -/
def ofBracketed? (cs : List Char) : Option Host :=
  if cs.getLast? = some ']' then (LongNumber.ofText? cs.dropLast).map .long else none

/-- The host of an address whose scheme is of the web, or of a file. -/
def ofDomain? : List Char → Option Host
  | '[' :: cs => ofBracketed? cs
  | cs => do
    let name ← Domain.toAscii? (← percentDecoded? cs).toList
    if name.isEmpty then none
    else if ShortNumber.isMeant name then (ShortNumber.ofName? name).map .short
    else return .name (.ofList name)

/-- The characters that a host of another scheme cannot have. -/
def misplaced : List Char := "\x00\t\n\r #/:<>?@[\\]^|".toList

/-- The host of an address of another scheme, whose name is taken as it is. -/
def ofPlain? : List Char → Option Host
  | '[' :: cs => ofBracketed? cs
  | cs => if cs.any misplaced.contains then none else some (.name (.ofList (percentEncode [] cs)))

end Host

example : (Host.ofDomain? "0x7F.1".toList).map Host.render = some "127.0.0.1" := by decide +kernel
example : (Host.ofDomain? "[1:0:0:2::]".toList).map Host.render = some "[1:0:0:2::]" := by decide +kernel

end GroundedQA.Remote
