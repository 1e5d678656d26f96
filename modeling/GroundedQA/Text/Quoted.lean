import GroundedQA.Text.Hex
import GroundedQA.Text.Printable
/-!
# Text in quotes

A text is shown between double quotes, with what cannot be seen or would be misread escaped:
`\0`, `\t`, `\r`, `\n`, `\"` and `\\` have short forms, other characters that do not show by
themselves are written by code point, as `\u` and the hexadecimal digits in braces.
-/

namespace GroundedQA.Text

/-- One character as it stands between quotes. -/
def quotedChar (c : Char) : List Char :=
  if c = '\x00' then ['\\', '0']
  else if c = '\t' then ['\\', 't']
  else if c = '\r' then ['\\', 'r']
  else if c = '\n' then ['\\', 'n']
  else if c = '"' then ['\\', '"']
  else if c = '\\' then ['\\', '\\']
  else if isPrintable c then [c]
  else ['\\', 'u', '\x7b'] ++ hexDigits c.toNat ++ ['\x7d']

/-- The text between quotes, with its unseen characters escaped. -/
def quoted (s : String) : String :=
  .ofList (['"'] ++ s.toList.flatMap quotedChar ++ ['"'])

def quotedList (ss : List String) : String :=
  "[" ++ ", ".intercalate (ss.map quoted) ++ "]"

example : quotedChar '\'' = ['\''] ∧ quotedChar '"' = ['\\', '"'] := by decide +kernel
example : quotedChar '\u200b' = "\\u\x7b200b\x7d".toList := by decide +kernel

end GroundedQA.Text
