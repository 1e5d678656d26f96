import GroundedQA.Json.Parser
/-!
# JSON documents as bytes

A document in a file is a sequence of bytes, which should be characters in UTF-8. A byte that belongs
to no character does the harm that half of a surrogate pair does: the string that it stands in is
well-formed but spells no text, so it may only stand where nobody reads it. Outside strings, and
right after a backslash, such a byte is no JSON.
-/

namespace GroundedQA.Json

/-- The characters of a text in UTF-8, and nothing for each byte that belongs to none. -/
def characters (content : ByteArray) : List (Option Char) :=
  go 0 []
where
  /-- What stands before the byte at `place` is done, in reverse. -/
  go (place : Nat) (done : List (Option Char)) : List (Option Char) :=
    if place < content.size then
      match content.utf8DecodeChar? place with
      | some c => go (place + c.utf8Size) (some c :: done)
      | none => go (place + 1) (none :: done)
    else done.reverse
  termination_by content.size - place
  decreasing_by
    · have := c.utf8Size_pos
      omega
    · omega

/-- Where a character of a document stands. -/
inductive Surroundings where
  | outside
  | inString
  | afterBackslash
deriving DecidableEq, Repr

namespace Surroundings

/-- Where the character after `c` stands. -/
def next : Surroundings → Char → Surroundings
  | outside, '"' => inString
  | outside, _ => outside
  | inString, '"' => outside
  | inString, '\\' => afterBackslash
  | inString, _ => inString
  | afterBackslash, _ => inString

/-- What does the harm of a byte that belongs to no character. In a string these are two second
halves of surrogate pairs, the last of which no half before or after it can complete. -/
def harm : Surroundings → List Char
  | inString => "\\udc00\\udc00".toList
  | _ => ['\x00']

end Surroundings

/-- The document with every byte that belongs to no character spelled as characters that do the same
harm. -/
def spellHarm : Surroundings → List (Option Char) → List Char
  | _, [] => []
  | place, some c :: rest => c :: spellHarm (place.next c) rest
  | place, none :: rest => place.harm ++ spellHarm place rest

/-- The value that the bytes of a document write, if they are one. -/
def ofBytes? (content : ByteArray) : Option Json :=
  match String.fromUTF8? content with
  | some s => parse? s
  | none => parse? (.ofList (spellHarm .outside (characters content)))

theorem fromUTF8?_toUTF8 (s : String) : String.fromUTF8? s.toUTF8 = some s := by
  simp [String.fromUTF8?, String.fromUTF8, s.isValidUTF8]

theorem ofBytes?_toUTF8 (s : String) : ofBytes? s.toUTF8 = parse? s := by
  rw [ofBytes?, fromUTF8?_toUTF8]

example : characters ⟨#[0x22, 0xC3, 0x22, 0xC3, 0xA9]⟩ = [some '"', none, some '"', some 'é'] := by
  cbv

end GroundedQA.Json
