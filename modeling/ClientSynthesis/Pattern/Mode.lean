import ClientSynthesis.Text.Blank

/-!
# Modes of a pattern

A pattern may switch modes on and off while it is being read, with a list of flags such as `i-u`.
Only three of the seven modes bear on whether a pattern is well formed: `x`, in which white space and
comments do not count; `i`, in which letters match in both cases; and `u`, in which the pattern is
about characters and not about bytes. The other four are known and without effect.
-/

namespace ClientSynthesis.Pattern

open Text (isBlank)

/-- How a pattern is to be read. -/
structure Mode where
  /-- White space and comments do not count. -/
  spaced : Bool
  /-- Letters match in both cases. -/
  folded : Bool
  /-- The pattern is about characters. -/
  wide : Bool
  deriving DecidableEq, Repr

namespace Mode

/-- The mode that a pattern begins in. -/
def start : Mode := ⟨false, false, true⟩

/-- The mode after a flag has been switched. -/
def switch (mode : Mode) (flag : Char) (on : Bool) : Mode :=
  if flag = 'x' then { mode with spaced := on }
  else if flag = 'i' then { mode with folded := on }
  else if flag = 'u' then { mode with wide := on }
  else mode

/-! ### Text that does not count -/

/-- The text from the first character on that is neither white space nor part of a comment. A comment
goes from the sign `#` to the end of the line. -/
def dropFree : (inComment : Bool) → List Char → List Char
  | _, [] => []
  | true, c :: rest => dropFree (c != '\n') rest
  | false, c :: rest =>
    if isBlank c then dropFree false rest
    else if c = '#' then dropFree true rest
    else c :: rest

/-- The text from the first character on that counts. -/
def skip (mode : Mode) (cs : List Char) : List Char :=
  if mode.spaced then dropFree false cs else cs

/-- The character that comes next. A comment is looked into: its first character that is not white
space is the one. -/
def peek? (mode : Mode) (cs : List Char) : Option Char :=
  if mode.spaced then
    match cs.dropWhile isBlank with
    | '#' :: comment => (comment.dropWhile isBlank).head?
    | rest => rest.head?
  else cs.head?

/-! ### Flags -/

/-- The flags there are. -/
def flags : List Char := ['i', 'm', 's', 'U', 'u', 'R', 'x']

/-- What a list of flags is for. -/
inductive Extent where
  /-- The flags hold for a group that they open. -/
  | group
  /-- The flags hold from here on, to the end of the group that they stand in. -/
  | remainder
  deriving DecidableEq, Repr

/-- The mode after a list of flags, what the list is for, and the text behind. A minus sign switches
the flags after it off; it stands once and not at the end, and no flag is repeated. `seen` holds
what has been read, the last one first. -/
def readFlags (mode : Mode) (seen : List Char) : List Char → Option (Mode × Extent × List Char)
  | [] => none
  | c :: rest =>
    if c = ':' ∨ c = ')' then
      if seen.head? = some '-' then none
      else if c = ':' then some (mode, .group, rest)
      else if seen.isEmpty then none
      else some (mode, .remainder, rest)
    else if seen.contains c then none
    else if c = '-' then readFlags mode (c :: seen) rest
    else if flags.contains c then readFlags (mode.switch c !(seen.contains '-')) (c :: seen) rest
    else none

end Mode

end ClientSynthesis.Pattern
