import GroundedQA.Chunking.Overlap
import GroundedQA.Document
import GroundedQA.Settings
/-!
# Chunking

A chunker goes over a text in passes. A pass knows the text from its start on and how much of that
the pass before has taken; it takes a chunk, and the next pass starts inside that chunk or right
after it. What a pass took, without the white space at either end, is a span of the text. Lengths
are counted in characters, offsets in bytes.
-/

namespace GroundedQA

open Text Chunking

/-- Sizes that fit together, in characters. -/
structure Chunker where
  size : Nat
  overlap : Nat
  overlap_lt_size : overlap < size

/-- A chunker of the given sizes, if they fit together. -/
def Chunker.make (size overlap : Nat) : Except ConfigFault Chunker :=
  match h : checkChunking size overlap with
  | .error fault => .error fault
  | .ok () => .ok ⟨size, overlap, checkChunking_eq_ok.1 h⟩

def Chunker.ofSettings (settings : RetrievalSettings) : Except ConfigFault Chunker :=
  Chunker.make settings.chunkSize settings.chunkOverlap

namespace Chunking

/-- The number of bytes of a text in UTF-8. -/
def byteLength (cs : List Char) : Nat :=
  cs.foldr (fun c n => c.utf8Size + n) 0

/-- A piece of a text and the number of bytes before it. -/
structure Span where
  offset : Nat
  chars : List Char
deriving DecidableEq, Repr

def Span.text (span : Span) : String := .ofList span.chars

/-- The byte offset at which a span ends. -/
def Span.stop (span : Span) : Nat := span.offset + byteLength span.chars

/-- One pass of a chunker: the number of bytes before its start, the text from there on, and how
many characters of that the pass before has taken, if there was one. -/
structure Pass where
  offset : Nat
  rest : List Char
  taken : Option Nat
deriving DecidableEq, Repr

/-- The least acceptable cut of the pass. -/
def Pass.leastCut (pass : Pass) (chunker : Chunker) : Nat :=
  Chunking.leastCut chunker.overlap pass.rest pass.taken

/-- How many characters the pass takes: all that are left when they fit into the chunk size. -/
def Pass.cut (pass : Pass) (chunker : Chunker) : Nat :=
  if (pass.rest.drop chunker.size).isEmpty then pass.rest.length
  else cutPoint (pass.rest.take chunker.size) (pass.leastCut chunker)

/-- What the pass takes, trimmed; nothing when that is blank. -/
def Pass.span? (pass : Pass) (chunker : Chunker) : Option Span :=
  let chunk := pass.rest.take (pass.cut chunker)
  if isBlank chunk then none
  else some ⟨pass.offset + byteLength (chunk.takeWhile isSpace), trim chunk⟩

/-- The pass after this one, unless only white space is left. -/
def Pass.next? (pass : Pass) (chunker : Chunker) : Option Pass :=
  let cut := pass.cut chunker
  if isBlank (pass.rest.drop cut) then none
  else
    let start := nextStart chunker.overlap pass.rest cut
    some ⟨pass.offset + byteLength (pass.rest.take start), pass.rest.drop start, some (cut - start)⟩

/-- The pass at the start of a text, unless that is blank. -/
def Pass.first? (cs : List Char) : Option Pass :=
  if isBlank cs then none
  else some ⟨byteLength (cs.takeWhile isSpace), trimStart cs, none⟩

/-- The passes from this one on, at most as many as the first argument says. -/
def Pass.run (chunker : Chunker) : Nat → Pass → List Pass
  | 0, _ => []
  | bound + 1, pass =>
    pass :: match pass.next? chunker with
      | none => []
      | some pass => Pass.run chunker bound pass

/-- The passes over a text; each starts after the one before, so there are no more of them than
characters. -/
def passes (chunker : Chunker) (cs : List Char) : List Pass :=
  match Pass.first? cs with
  | none => []
  | some pass => Pass.run chunker cs.length pass

end Chunking

def Chunker.split (chunker : Chunker) (text : String) : List Span :=
  (passes chunker text.toList).filterMap (·.span? chunker)

def Document.chunkAt (document : Document) (place : Nat) (span : Span) : Chunk where
  text := span.text
  sourceId := document.id
  sequenceIndex := place
  metadata := (document.metadata.insert chunkIndexKey (Number.decimal place)).insert startIndexKey
    (Number.decimal span.offset)

/-- The chunks of a document, in the order of its text. -/
def Chunker.chunk (chunker : Chunker) (document : Document) : List Chunk :=
  (chunker.split document.text).zipIdx.map fun (span, place) => document.chunkAt place span

end GroundedQA
