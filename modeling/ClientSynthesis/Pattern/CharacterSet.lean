import ClientSynthesis.Pattern.Atom

/-!
# Sets of characters in a pattern

A set stands in brackets. It holds characters, ranges, classes and further sets, and the signs `&&`,
`--` and `~~` join what stands before them with what stands behind. A hyphen is a character where no
range can be meant, and a closing bracket is one at the very beginning.

`inSet` reads a set with the sets around it on a stack, and measures how deep it is: a set counts one
level, a row of several members one, and each sign that joins one.
-/

namespace ClientSynthesis.Pattern

/-- A set that is being read. -/
structure OpenSet where
  negated : Bool
  /-- Nothing but hyphens has been read. -/
  opening : Bool
  /-- How many members stand behind the last sign that joins. -/
  count : Nat
  /-- How deep the deepest of them is. -/
  deepest : Nat
  /-- How deep that is what stands before this sign. -/
  left : Option Nat
  deriving DecidableEq, Repr

namespace OpenSet

/-- A set in which nothing has been read. -/
def start (negated : Bool) : OpenSet := ⟨negated, true, 0, 0, none⟩

/-- The set with another member. -/
def add (set : OpenSet) (depth : Nat) : OpenSet :=
  { set with count := set.count + 1, deepest := max set.deepest depth }

/-- How deep the members are that stand behind the last sign. -/
def membersDepth (set : OpenSet) : Nat :=
  if set.count ≤ 1 then set.deepest else set.deepest + 1

/-- How deep the contents of a set are. -/
def depth (set : OpenSet) : Nat :=
  match set.left with
  | none => set.membersDepth
  | some left => max left set.membersDepth + 1

/-- The set after a sign that joins. -/
def join (set : OpenSet) : OpenSet :=
  { set with count := 0, deepest := 0, left := some set.depth }

end OpenSet

/-- The classes of ASCII characters that have a name. -/
def asciiClasses : List String :=
  ["alnum", "alpha", "ascii", "blank", "cntrl", "digit", "graph", "lower", "print", "punct", "space",
   "upper", "word", "xdigit"]

/-- Whether the named class behind an opening bracket is negated, and the text behind the class. -/
def asciiClass? : List Char → Option (Bool × List Char)
  | ':' :: rest =>
    let negated := rest.head? == some '^'
    let rest := if negated then rest.drop 1 else rest
    match rest.dropWhile (· != ':') with
    | ':' :: ']' :: after =>
      if asciiClasses.contains (String.ofList (rest.takeWhile (· != ':'))) then some (negated, after)
      else none
    | _ => none
  | _ => none

/-- A set whose opening bracket has been read, and the text behind the sign of negation. -/
def openSet (mode : Mode) (cs : List Char) : OpenSet × List Char :=
  match mode.skip cs with
  | '^' :: rest => (.start true, rest)
  | rest => (.start false, rest)

/-- A character or class in a set, and the text behind. -/
def memberAtom? (mode : Mode) : List Char → Option (Atom × List Char)
  | [] => none
  | '\\' :: rest => escape? mode rest
  | c :: rest => some (.char c false, rest)

/-- The text behind a member of a set that is no set itself. Two characters with a hyphen in between
are a range, whose first one may not come after the other. -/
def member? (mode : Mode) (cs : List Char) : Option (List Char) := do
  let (first, rest) ← memberAtom? mode cs
  let rest := mode.skip rest
  match rest with
  | '-' :: after =>
    if mode.peek? after = some ']' ∨ mode.peek? after = some '-' then
      if mode.admitsMember first then return rest else none
    else
      let (last, rest) ← memberAtom? mode (mode.skip after)
      match first, last with
      | .char lo _, .char hi _ =>
        if mode.admitsMember first && mode.admitsMember last && decide (lo ≤ hi) then return rest
        else none
      | _, _ => none
  | rest => if mode.admitsMember first then return rest else none

/-- How deep a set is whose beginning has been read, and the text behind it. The sets around it are
on the stack, the innermost first. The budget bounds the number of steps, each of which takes at
least one character. -/
def inSet (mode : Mode) :
    (budget : Nat) → OpenSet → (stack : List OpenSet) → List Char → Option (Nat × List Char)
  | 0, _, _, _ => none
  | budget + 1, set, stack, cs =>
    match mode.skip cs with
    | [] => none
    | c :: rest =>
      if set.opening && (c == '-' || c == ']' && set.count == 0) then
        if mode.admitsMember (.char c false) then
          inSet mode budget { set.add 0 with opening := c == '-' } stack rest
        else none
      else
        let set := { set with opening := false }
        match c, rest with
        | '[', rest =>
          match asciiClass? rest with
          | some (negated, rest) =>
            if (if mode.wide then !mode.folded else !negated) then
              inSet mode budget (set.add 0) stack rest
            else none
          | none =>
            let (inner, rest) := openSet mode rest
            inSet mode budget inner (set :: stack) rest
        | ']', rest =>
          if set.negated && !mode.wide then none
          else
            match stack with
            | [] => some (set.depth + 1, rest)
            | outer :: stack => inSet mode budget (outer.add (set.depth + 1)) stack rest
        | '&', '&' :: rest | '-', '-' :: rest | '~', '~' :: rest =>
          inSet mode budget set.join stack rest
        | c, rest =>
          match member? mode (c :: rest) with
          | some rest => inSet mode budget (set.add 0) stack rest
          | none => none

/-- How deep a set is whose opening bracket has been read, and the text behind it. -/
def set? (mode : Mode) (cs : List Char) : Option (Nat × List Char) :=
  let (set, rest) := openSet mode cs
  inSet mode (rest.length + 1) set [] rest

end ClientSynthesis.Pattern
