import GroundedQA.Text.Hex
/-!
# Percent signs

In addresses a byte may be written as a percent sign and two hexadecimal digits. Each part of an
address has its own characters that may not stand for themselves; control characters and all beyond
ASCII never do.
-/

namespace GroundedQA.Remote

open Text

def charBytes (c : Char) : List UInt8 :=
  (String.singleton c).toUTF8.toList

/-- A byte as a percent sign and two upper-case digits. -/
def percentByte (byte : UInt8) : List Char :=
  '%' :: (hexPadded 2 byte.toNat).map Char.toUpper

/-- A character that stands for itself in no part of an address. -/
def isNeverPlain (c : Char) : Bool :=
  c.toNat < 0x20 || 0x7F ≤ c.toNat

/-- Writes the characters that are reserved, and those that are never plain, byte by byte. -/
def percentEncode (reserved : List Char) (cs : List Char) : List Char :=
  cs.flatMap fun c =>
    if isNeverPlain c || reserved.contains c then (charBytes c).flatMap percentByte else [c]

/-- The bytes of a text in which percent signs with two digits stand for bytes. -/
def percentDecode : List Char → List UInt8
  | '%' :: a :: b :: cs =>
    match hexValue? a, hexValue? b with
    | some m, some n => (m * 16 + n).toUInt8 :: percentDecode cs
    | _, _ => '%'.toUInt8 :: percentDecode (a :: b :: cs)
  | c :: cs => charBytes c ++ percentDecode cs
  | [] => []

/-- The text that is written with percent signs, if its bytes are one. -/
def percentDecoded? (cs : List Char) : Option String :=
  String.fromUTF8? ⟨(percentDecode cs).toArray⟩

example : percentEncode [' '] "a b".toList = "a%20b".toList := by decide +kernel

end GroundedQA.Remote
