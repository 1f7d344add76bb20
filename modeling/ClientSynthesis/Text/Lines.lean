import ClientSynthesis.Text.Split

/-!
# Lines of a text

A line ends at a line feed, alone or after one carriage return, and a terminator at the end of the
text opens no further line. A carriage return elsewhere is an ordinary character.
-/

namespace ClientSynthesis.Text

/-- The lines of a text, without their terminators. -/
def lines : List Char → List (List Char)
  | [] => []
  | '\n' :: rest => [] :: lines rest
  | '\r' :: '\n' :: rest => [] :: lines rest
  | c :: rest => pushFirst c (lines rest)

/-! ### Interface -/

@[simp] theorem lines_nil : lines [] = [] := rfl

@[simp] theorem lines_newline (rest : List Char) : lines ('\n' :: rest) = [] :: lines rest := rfl

@[simp] theorem lines_return_newline (rest : List Char) :
    lines ('\r' :: '\n' :: rest) = [] :: lines rest := rfl

end ClientSynthesis.Text
