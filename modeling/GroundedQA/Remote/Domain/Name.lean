import GroundedQA.Remote.Domain.Composition
import GroundedQA.Remote.Domain.Direction
import GroundedQA.Remote.Domain.Folding
import GroundedQA.Remote.Domain.Joining
import GroundedQA.Remote.Domain.Punycode
/-!
# Names of hosts

A host has a name of labels with dots between. `toAscii?` folds a name, checks its labels, and writes
those beyond ASCII in letters, digits and hyphens after the mark `xn--`. A label that has the mark
already must hold what folding leaves as it is.
-/

namespace GroundedQA.Remote.Domain

open Text

/-- A label of a name: what it says, and how it is written in ASCII. -/
structure Label where
  text : List Char
  ascii : List Char

/-- What labels that are written in letters, digits and hyphens begin with. -/
def asciiMark : List Char := "xn--".toList

/-- The longest text of a label that is not in ASCII. -/
def longestText : Nat := 1000

/-- The longest written form that is read, apart from its mark. -/
def longestWritten : Nat := 2000

/-- A character that has no place in a name, because it has a meaning in addresses or is not seen. -/
def isDenied (c : Char) : Bool :=
  c.toNat ≤ 0x20 || c.toNat = 0x7F || "%#/:<>?@[\\]^|".toList.contains c

def isAscii (cs : List Char) : Bool :=
  cs.all fun c => c.toNat < 0x80

/-- The text of a label, given what follows the mark. -/
def writtenText? (cs : List Char) : Option (List Char) := do
  if cs.isEmpty || cs.getLast? = some '-' || !isAscii cs || longestWritten < cs.length then none
  let text ← Punycode.decode? cs
  if longestText < text.length || asciiMark.isPrefixOf text then none
  if text.all isFolded && composed text = text then some text else none

def Label.ofFolded? (cs : List Char) : Option Label := do
  if asciiMark.isPrefixOf cs then
    let text ← writtenText? (cs.drop asciiMark.length)
    return ⟨text, cs⟩
  else if isAscii cs then return ⟨cs, cs⟩
  else if longestText < cs.length then none
  else return ⟨cs, asciiMark ++ Punycode.encode cs⟩

/-- The label holds no denied character and does not begin with a mark, and its joiners fit. -/
def Label.isSound (label : Label) : Bool :=
  !label.text.any isDenied && !label.text.head?.any isMark && joinersFit [] label.text

/-- The labels of a name, if it can be folded and all of them are sound. -/
def labels? (name : List Char) : Option (List Label) := do
  let folded ← name.mapM fold?
  let labels ← (pieces (· = '.') (composed folded.flatten)).mapM Label.ofFolded?
  if labels.all Label.isSound then some labels else none

/-- The name in ASCII. -/
def toAscii? (name : List Char) : Option (List Char) := do
  let labels ← labels? name
  let isBound := labels.any fun label => label.text.any turnsBack
  if isBound && !labels.all (keepsDirection ·.text) then none
  return ['.'].intercalate (labels.map (·.ascii))

end GroundedQA.Remote.Domain
