import ClientSynthesis.Text.Printable

/-!
# String literals

The literal for a text, as the generated programs spell it: quotes and backslashes are escaped, the
four control characters with a short form take it, and whatever is not printable is written as its
code point in lower case hexadecimal between braces. A single quote stands for itself.
-/

namespace ClientSynthesis.Text

/-- The digits of a number in lower case hexadecimal, without leading zeros. -/
def hexDigits (n : Nat) : List Char := Nat.toDigits 16 n

/-- One character inside a string literal. -/
def quotedChar (c : Char) : List Char :=
  if c = '"' then ['\\', '"']
  else if c = '\\' then ['\\', '\\']
  else if c = '\n' then ['\\', 'n']
  else if c = '\r' then ['\\', 'r']
  else if c = '\t' then ['\\', 't']
  else if c = '\x00' then ['\\', '0']
  else if isPrintable c then [c]
  else ['\\', 'u', '\x7b'] ++ hexDigits c.toNat ++ ['\x7d']

/-- The characters of the literal for a text, its quotation marks included. -/
def quotedChars (cs : List Char) : List Char := '"' :: cs.flatMap quotedChar ++ ['"']

/-- The string literal for a text. -/
def quoted (s : String) : String := String.ofList (quotedChars s.toList)

/-! ### Interface -/

@[simp] theorem toList_quoted (s : String) : (quoted s).toList = quotedChars s.toList := by
  simp [quoted]

end ClientSynthesis.Text
