import ClientSynthesis.Pattern.CharacterSet
import ClientSynthesis.Text.Alphanumeric

/-!
# Well-formed patterns

A pattern describes texts in the usual notation of regular expressions: alternatives, groups,
repetitions, sets and atoms. Nothing in this library matches texts against one; what counts is whether
a pattern is well formed, which `isWellFormed` decides in one pass with the open groups on a stack.

A pattern is not deeper than 250 levels. A group counts one level, a repetition one, a row of several
items one, and a choice between alternatives one.

A repetition with a count in braces is never well formed: a closing brace ends the pattern before it
ends the count.
-/

namespace ClientSynthesis.Pattern

open Text (isAlphabetic isAlphanumeric)

/-- How deep a pattern may be. -/
def depthLimit : Nat := 250

/-! ### Rows of items -/

/-- A row of items that is being read, with the alternatives before it. -/
structure Row where
  count : Nat
  /-- How deep the deepest item is. -/
  deepest : Nat
  /-- How deep the last item is, if it can be repeated. -/
  last : Option Nat
  /-- How deep the deepest of the alternatives before is. -/
  before : Option Nat
  deriving DecidableEq, Repr

namespace Row

/-- The row in which nothing has been read. -/
def start : Row := ⟨0, 0, none, none⟩

/-- The row with another item. -/
def add (row : Row) (depth : Nat) : Row :=
  { row with count := row.count + 1, deepest := max row.deepest depth, last := some depth }

/-- The row with flags in it, which count as an item that cannot be repeated. -/
def addFlags (row : Row) : Row := { row with count := row.count + 1, last := none }

/-- The row with its last item repeated, if there is one that can be. -/
def repeat? (row : Row) : Option Row :=
  row.last.map fun depth =>
    { row with deepest := max row.deepest (depth + 1), last := some (depth + 1) }

/-- How deep the row is, the alternatives before it aside. -/
def itemsDepth (row : Row) : Nat := if row.count ≤ 1 then row.deepest else row.deepest + 1

/-- How deep the row is with the alternatives before it. -/
def depth (row : Row) : Nat :=
  match row.before with
  | none => row.itemsDepth
  | some before => max before row.itemsDepth + 1

/-- The row of the next alternative. -/
def next (row : Row) : Row := { start with before := some (max (row.before.getD 0) row.itemsDepth) }

end Row

/-! ### Groups -/

/-- What stands behind the opening parenthesis of a group. -/
inductive Opening where
  /-- A group whose items are read in a mode. -/
  | group (mode : Mode)
  /-- A group with a name. -/
  | named (name : List Char)
  /-- No group, but flags for what comes. -/
  | flags (mode : Mode)
  deriving DecidableEq, Repr

/-- Whether a text is the name of a group. -/
def isGroupName : List Char → Bool
  | [] => false
  | c :: rest =>
    (c == '_' || isAlphabetic c) &&
      rest.all fun c => isAlphanumeric c || ['_', '.', '[', ']'].contains c

/-- The name of a group, and the text behind its closing angle. -/
def groupName? (cs : List Char) : Option (Opening × List Char) :=
  let name := cs.takeWhile (· != '>')
  match cs.dropWhile (· != '>') with
  | _ :: rest => if isGroupName name then some (.named name, rest) else none
  | [] => none

/-- What stands behind an opening parenthesis, and the text behind that. There are no conditions on
the text before or after a place. -/
def opening? (mode : Mode) (cs : List Char) : Option (Opening × List Char) :=
  match mode.skip cs with
  | '?' :: '!' :: _ | '?' :: '=' :: _ | '?' :: '<' :: '!' :: _ | '?' :: '<' :: '=' :: _ => none
  | '?' :: 'P' :: '<' :: rest | '?' :: '<' :: rest => groupName? rest
  | '?' :: rest =>
    (Mode.readFlags mode [] rest).map fun
      | (mode, .group, rest) => (.group mode, rest)
      | (mode, .remainder, rest) => (.flags mode, rest)
  | rest => some (.group mode, rest)

/-! ### Patterns -/

/-- An atom that is neither behind a backslash nor in a set. -/
def bareAtom (c : Char) : Atom :=
  if c = '.' then .any else if c = '^' ∨ c = '$' then .place else .char c false

/-- Whether the rest of a pattern is well formed. On the stack are the rows around the open groups,
the innermost first, with the modes in which they go on. The budget bounds the number of steps, each
of which takes at least one character. -/
def inPattern : (budget : Nat) → Mode → Row → (stack : List (Mode × Row)) →
    (names : List (List Char)) → List Char → Bool
  | 0, _, _, _, _, _ => false
  | budget + 1, mode, row, stack, names, cs =>
    match mode.skip cs with
    | [] => stack.isEmpty && decide (row.depth ≤ depthLimit)
    | '(' :: rest =>
      match opening? mode rest with
      | none => false
      | some (.flags flagged, rest) => inPattern budget flagged row.addFlags stack names rest
      | some (.group inner, rest) => inPattern budget inner .start ((mode, row) :: stack) names rest
      | some (.named name, rest) =>
        !names.contains name &&
          inPattern budget mode .start ((mode, row) :: stack) (name :: names) rest
    | ')' :: rest =>
      match stack with
      | [] => false
      | (outer, around) :: stack =>
        inPattern budget outer (around.add (row.depth + 1)) stack names rest
    | '|' :: rest => inPattern budget mode row.next stack names rest
    | '[' :: rest =>
      match set? mode rest with
      | some (depth, rest) => inPattern budget mode (row.add depth) stack names rest
      | none => false
    | '?' :: rest | '*' :: rest | '+' :: rest =>
      match row.repeat? with
      | some row =>
        let rest := if rest.head? = some '?' then rest.drop 1 else rest
        inPattern budget mode row stack names rest
      | none => false
    | '\x7b' :: _ => false
    | '\\' :: rest =>
      match escape? mode rest with
      | some (atom, rest) => mode.admits atom && inPattern budget mode (row.add 0) stack names rest
      | none => false
    | c :: rest => mode.admits (bareAtom c) && inPattern budget mode (row.add 0) stack names rest

/-- Whether a text is a well-formed pattern. -/
def isWellFormed (cs : List Char) : Bool := inPattern (cs.length + 1) .start .start [] [] cs

/-! ### Examples -/

example : ["", "a|", "(a)*?", "[]-a]", "[^[:alpha:]&&x]", "(?-u:\\d)", "(?<n>.)|^$"].all
    (isWellFormed ·.toList) := by decide +kernel

example : ["(", ")", "*", "a|*", "[a", "[z-a]", "\\d", "\\b", "(?i)a", "a\x7b2", "(?=a)"].all
    (!isWellFormed ·.toList) := by decide +kernel

end ClientSynthesis.Pattern
