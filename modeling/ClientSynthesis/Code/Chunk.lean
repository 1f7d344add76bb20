import ClientSynthesis.Text.Blank
import ClientSynthesis.Text.Lines

/-!
# Chunks of program text

Generated text is a list of chunks, each of which is code or documentation. Whether documentation is
wanted is asked once, when the chunks are put together; the chunks themselves do not depend on it.
-/

namespace ClientSynthesis.Code

/-- A stretch of generated text that ends at the end of a line. -/
inductive Chunk where
  | code (text : String)
  | doc (text : String)
  deriving DecidableEq, Repr

/-- The text of a chunk, with or without documentation. -/
def Chunk.text (docs : Bool) : Chunk → String
  | .code text => text
  | .doc text => if docs then text else ""

/-- Chunks put together, with or without documentation. -/
def render (docs : Bool) (chunks : List Chunk) : String :=
  String.join (chunks.map (Chunk.text docs))

/-! ### Documentation comments -/

/-- The comment line for a line of documentation. White space at its end is dropped. -/
def docLine (line : List Char) : List Char :=
  if line.all Text.isBlank then "///".toList else "/// ".toList ++ Text.trimEnd line

/-- The comment lines for a documentation text. There is always at least one. -/
def docLines (text : List Char) : List (List Char) :=
  match Text.lines text with
  | [] => ["///".toList]
  | lines => lines.map docLine

/-- A documentation text as an indented comment. -/
def docComment (indent text : String) : String :=
  String.join ((docLines text.toList).map fun line => indent ++ String.ofList line ++ "\n")

end ClientSynthesis.Code
