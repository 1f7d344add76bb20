import ClientSynthesis.Json.Document

/-!
# Passing over a value

A value nobody asks for is checked for its shape only. Its numbers may be too large for a double, the
escapes in its strings may name half a surrogate pair, and it may nest as deep as it likes. Inside a
number, an early end of the text counts as malformed.
-/

namespace ClientSynthesis.Json

/-- How many characters after a backslash belong to the escape. -/
def escapeWidth : List Char → Except Fault Nat
  | [] => .error .truncated
  | 'u' :: rest => (codeUnit rest).map fun _ => 5
  | c :: _ => if "\"\\/bfnrt".toList.contains c then .ok 1 else .error .malformed

/-- The text after a string whose opening quotation mark has been read. -/
def skipStringFrom : List Char → Nat → Except Fault (List Char)
  | [], _ => .error .truncated
  | _ :: rest, pending + 1 => skipStringFrom rest pending
  | c :: rest, 0 =>
    if c = '"' then .ok rest
    else if c = '\\' then
      match escapeWidth rest with
      | .ok width => skipStringFrom rest width
      | .error fault => .error fault
    else if c.toNat < 0x20 then .error .malformed
    else skipStringFrom rest 0

/-- The text after an optional exponent. -/
def skipExponent : List Char → Except Fault (List Char)
  | 'e' :: rest | 'E' :: rest =>
    let rest := match rest with
      | '+' :: rest | '-' :: rest => rest
      | _ => rest
    if rest.head?.any Char.isDigit then .ok (rest.dropWhile Char.isDigit) else .error .malformed
  | cs => .ok cs

/-- The text after a number without its sign. -/
def skipMagnitude (cs : List Char) : Except Fault (List Char) :=
  let (digits, rest) := cs.span Char.isDigit
  match digits with
  | [] | '0' :: _ :: _ => .error .malformed
  | _ =>
    match rest with
    | '.' :: rest =>
      if rest.head?.any Char.isDigit then skipExponent (rest.dropWhile Char.isDigit)
      else .error .malformed
    | _ => skipExponent rest

/-- The text after a value that holds no other values. -/
def skipScalar : List Char → Except Fault (List Char)
  | [] => .error .truncated
  | 'n' :: rest => expectWord "ull".toList rest
  | 't' :: rest => expectWord "rue".toList rest
  | 'f' :: rest => expectWord "alse".toList rest
  | '"' :: rest => skipStringFrom rest 0
  | '-' :: rest => skipMagnitude rest
  | c :: rest => if c.isDigit then skipMagnitude (c :: rest) else .error .malformed

/-- The text after a value with at most the given number of levels. -/
def skipValue (levels : Nat) : Reading Unit := fun cs =>
  match skipSeparators cs with
  | '[' :: rest =>
    match levels with
    | 0 => .error .malformed
    | levels + 1 => (items (skipValue levels) rest).map fun (_, rest) => ((), rest)
  | '{' :: rest =>
    match levels with
    | 0 => .error .malformed
    | levels + 1 =>
      let member (_ : Unit) : Reading Unit := fun cs => do
        let rest ← skipStringFrom cs 0
        let rest ← colon rest
        skipValue levels rest
      members member () rest
  | cs => (skipScalar cs).map ((), ·)

/-- Pass over a value. Every level takes a character, so the text's length bounds the levels. -/
def skip : Reading Unit := fun cs => skipValue cs.length cs

end ClientSynthesis.Json
