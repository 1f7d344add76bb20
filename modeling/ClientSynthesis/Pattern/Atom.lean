import ClientSynthesis.Pattern.Mode
import ClientSynthesis.Text.Digit

/-!
# Atoms of a pattern

An atom is the smallest part that a pattern is made of: a character, a class of characters that has a
letter for its name, or a condition on the place. Characters that mean something in a pattern, and
all others that cannot be typed, are written behind a backslash.

Patterns go without tables of all characters. What would need one is refused where the pattern is
about characters: the classes named by a letter, word boundaries, and all characters that are to
match in both cases. Where the pattern is about bytes, these are the ASCII ones, but nothing may match
a byte that is part of a longer character; so a class may not be negated there.
-/

namespace ClientSynthesis.Pattern

open Text (hexValue?)

/-- An atom of a pattern. -/
inductive Atom where
  /-- A character; `byte` if two digits write it. -/
  | char (c : Char) (byte : Bool)
  /-- A class of characters named by a letter, or all characters but those. -/
  | named (negated : Bool)
  /-- The condition to be at the edge of a word, or not to be. -/
  | boundary
  /-- Another condition on the place. -/
  | place
  /-- Any character, up to the end of the line. -/
  | any
  deriving DecidableEq, Repr

/-- Whether an atom may stand in a pattern, outside of sets. -/
def Mode.admits (mode : Mode) : Atom → Bool
  | .char c byte => if mode.wide then !mode.folded else !byte || decide (c.toNat < 0x80)
  | .named negated => !mode.wide && !negated
  | .boundary => !mode.wide
  | .place => true
  | .any => mode.wide

/-- Whether an atom may be a member of a set. -/
def Mode.admitsMember (mode : Mode) : Atom → Bool
  | .char c _ => if mode.wide then !mode.folded else decide (c.toNat < 0x80)
  | .named negated => !mode.wide && !negated
  | .boundary | .place | .any => false

/-- The number that a given number of hexadecimal digits writes, and the text behind them. -/
def hexNumber? (mode : Mode) : (count : Nat) → (value : Nat) → List Char → Option (Nat × List Char)
  | 0, value, cs => some (value, cs)
  | count + 1, value, cs =>
    match mode.skip cs with
    | [] => none
    | c :: rest => (hexValue? c).bind fun digit => hexNumber? mode count (16 * value + digit) rest

/-- The character that a given number of hexadecimal digits writes, and the text behind them. -/
def hexChar? (mode : Mode) (count : Nat) (cs : List Char) : Option (Atom × List Char) := do
  let (value, rest) ← hexNumber? mode count 0 cs
  if value.isValidChar then return (.char (Char.ofNat value) (count == 2), rest) else none

/-- The characters that have a letter of their own. -/
def controls : List (Char × Char) :=
  [('a', '\x07'), ('f', '\x0c'), ('t', '\t'), ('n', '\n'), ('r', '\r'), ('v', '\x0b')]

/-- The atom behind a backslash, and the text behind it. ASCII characters other than letters and
digits stand for themselves. Braces around the digits of a character are not to be had, since a
closing brace ends the pattern. -/
def escape? (mode : Mode) : List Char → Option (Atom × List Char)
  | [] => none
  | c :: rest =>
    match controls.lookup c with
    | some control => some (.char control false, rest)
    | none =>
      match c with
      | 'x' => hexChar? mode 2 rest
      | 'u' => hexChar? mode 4 rest
      | 'U' => hexChar? mode 8 rest
      | 'd' | 's' | 'w' => some (.named false, rest)
      | 'D' | 'S' | 'W' => some (.named true, rest)
      | 'b' | 'B' | '<' | '>' => some (.boundary, rest)
      | 'A' | 'z' => some (.place, rest)
      | c =>
        if c.toNat < 0x80 ∧ !c.isAlphanum then some (.char c false, rest) else none

end ClientSynthesis.Pattern
