import ClientSynthesis.Json.Lexeme

/-!
# Reading JSON documents

The brackets of arrays and objects are read by two loops that know nothing of what stands between
them: `items` and `members` take the reader of an element or of a member as an argument. The same
loops therefore read documents, values of a known type, and values that are passed over.

A document nests at most 127 arrays and objects. `value` recurs on the levels that are left, so the
bound is its termination argument.
-/

namespace ClientSynthesis.Json

/-! ### Brackets -/

/-- What comes next between brackets: their end, or another entry, with the text after the one or
from the other on. -/
inductive Turn where
  | close (rest : List Char)
  | entry (rest : List Char)

/-- The next turn inside an array. -/
def itemTurn (first : Bool) (cs : List Char) : Except Fault Turn :=
  match skipSeparators cs with
  | [] => .error .truncated
  | ']' :: rest => .ok (.close rest)
  | c :: rest =>
    if first then .ok (.entry (c :: rest))
    else if c = ',' then
      match skipSeparators rest with
      | [] => .error .truncated
      | ']' :: _ => .error .malformed
      | rest => .ok (.entry rest)
    else .error .malformed

/-- The next turn inside an object. A member is entered after the quotation mark of its key. -/
def memberTurn (first : Bool) (cs : List Char) : Except Fault Turn :=
  match skipSeparators cs with
  | [] => .error .truncated
  | '}' :: rest => .ok (.close rest)
  | c :: rest =>
    if first then
      if c = '"' then .ok (.entry rest) else .error .malformed
    else if c = ',' then
      match skipSeparators rest with
      | [] => .error .truncated
      | '"' :: rest => .ok (.entry rest)
      | _ => .error .malformed
    else .error .malformed

/-- The colon between a key and its value. -/
def colon (cs : List Char) : Except Fault (List Char) :=
  match skipSeparators cs with
  | [] => .error .truncated
  | ':' :: rest => .ok rest
  | _ => .error .malformed

/-- The entries between brackets, folded into a state. The budget bounds their number; each takes
at least one character, so the length of the text is enough. -/
def entries {σ : Type} (turn : Bool → List Char → Except Fault Turn) (entry : σ → Reading σ) :
    (budget : Nat) → (first : Bool) → σ → Reading σ
  | 0, _, _, _ => .error .truncated
  | budget + 1, first, state, cs =>
    match turn first cs with
    | .error fault => .error fault
    | .ok (.close rest) => .ok (state, rest)
    | .ok (.entry rest) =>
      match entry state rest with
      | .error fault => .error fault
      | .ok (state, rest) => entries turn entry budget false state rest

/-- The items of an array whose opening bracket has been read. -/
def items {α : Type} (item : Reading α) : Reading (List α) := fun cs =>
  let push (acc : List α) : Reading (List α) := fun cs =>
    (item cs).map fun (x, rest) => (x :: acc, rest)
  (entries itemTurn push (cs.length + 1) true [] cs).map fun (acc, rest) => (acc.reverse, rest)

/-- The members of an object whose opening brace has been read, folded into a state. A member's
reader starts after the opening quotation mark of its key. -/
def members {σ : Type} (member : σ → Reading σ) (start : σ) : Reading σ := fun cs =>
  entries memberTurn member (cs.length + 1) true start cs

/-! ### Documents -/

/-- How deep arrays and objects may nest. -/
def nestingLimit : Nat := 127

/-- A value with at most the given number of levels of arrays and objects. -/
def value (levels : Nat) : Reading Json := fun cs =>
  match skipSeparators cs with
  | '[' :: rest =>
    match levels with
    | 0 => .error .malformed
    | levels + 1 => (items (value levels) rest).map fun (xs, rest) => (.array xs, rest)
  | '{' :: rest =>
    match levels with
    | 0 => .error .malformed
    | levels + 1 =>
      let member (fields : Fields) : Reading Fields := fun cs => do
        let (key, rest) ← stringBody cs
        let rest ← colon rest
        let (v, rest) ← value levels rest
        return (fields.set key v, rest)
      (members member [] rest).map fun (fields, rest) => (.object fields, rest)
  | cs => scalar cs

/-- Read a whole text: nothing but separators may follow the value. -/
def whole {α : Type} (reading : Reading α) (text : String) : Except Fault α := do
  let (v, rest) ← reading text.toList
  if (skipSeparators rest).isEmpty then return v else throw .malformed

/-- The document a text holds. -/
def parse (text : String) : Except Fault Json := whole (value nestingLimit) text

/-! ### Examples -/

example : parse "[]" matches .ok (.array []) := by cbv

example : parse "\x7b\"a\": " matches .error .truncated := by cbv

end ClientSynthesis.Json
