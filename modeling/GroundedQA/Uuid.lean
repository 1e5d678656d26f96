import GroundedQA.Text.Hex
/-!
# Record identifiers

Records and evaluation runs carry UUIDs. They are written as 32 lower-case hexadecimal digits in
groups of 8, 4, 4, 4 and 12; they are read in that form, also in braces or after `urn:uuid:`, or
without the hyphens, with all letters in either case.
-/

namespace GroundedQA

/-- A universally unique identifier. -/
structure Uuid where
  bits : BitVec 128
deriving DecidableEq, Repr, Inhabited

namespace Uuid

def hexDigits (u : Uuid) : List Char :=
  Text.hexPadded 32 u.bits.toNat

/-- The digits without hyphens. -/
def simple (u : Uuid) : String :=
  .ofList u.hexDigits

/-- Puts hyphens between the groups. -/
def hyphenate (ds : List Char) : List Char :=
  ds.take 8 ++ '-' :: (ds.drop 8).take 4 ++ '-' :: (ds.drop 12).take 4 ++
    '-' :: (ds.drop 16).take 4 ++ '-' :: ds.drop 20

/-- The written form. -/
def render (u : Uuid) : String :=
  .ofList (hyphenate u.hexDigits)

/-- Reads 32 digits. -/
def ofHex? (ds : List Char) : Option Uuid :=
  if ds.length = 32 then (Text.hexNumber? ds).map fun n => ⟨BitVec.ofNat 128 n⟩ else none

/-- Reads digits with hyphens between the groups. -/
def ofHyphenated? (cs : List Char) : Option Uuid :=
  let ds := cs.take 8 ++ (cs.drop 9).take 4 ++ (cs.drop 14).take 4 ++ (cs.drop 19).take 4 ++ cs.drop 24
  if cs.length = 36 && hyphenate ds == cs then ofHex? ds else none

/-- Reads any of the written forms. -/
def parse? (s : String) : Option Uuid :=
  let cs := s.toList
  match cs with
  | '\x7b' :: rest => if rest.getLast? = some '\x7d' then ofHyphenated? rest.dropLast else none
  | _ =>
    if (cs.take 9).map Char.toLower = "urn:uuid:".toList then ofHyphenated? (cs.drop 9)
    else if cs.length = 32 then ofHex? cs
    else ofHyphenated? cs

example : (parse? "67E55044-10b1-426f-9247-bb680e5fe0c8").map render
    = some "67e55044-10b1-426f-9247-bb680e5fe0c8" := by decide +kernel
example : (parse? "URN:uuid:67e55044-10b1-426f-9247-bb680e5fe0c8").isSome := by decide +kernel
example : parse? "67e55044-10b1-426f-9247bb-680e5fe0c8" = none := by decide +kernel

end Uuid

end GroundedQA
