import ClientSynthesis.Json.Basic
import ClientSynthesis.Text.Digit

/-!
# Lexemes of JSON text

Words, strings and numbers. Each reader takes the text that is left and returns what it read with the
text after it, or the cause of its refusal.

Two causes are kept apart: the text may be *malformed*, or *truncated*, when it ends inside a value
that could still have become well formed. A third, *mistyped*, belongs to readers that expect one
type: the value is well formed, and of another type.
-/

namespace ClientSynthesis.Json

open Text (hexValue?)

/-- Why a text is refused. -/
inductive Fault where
  | malformed
  | truncated
  | mistyped
  deriving DecidableEq, Repr

/-- A reader of one value at the head of a text. -/
abbrev Reading (α : Type) := List Char → Except Fault (α × List Char)

/-- The characters that may stand between lexemes. -/
def isSeparator (c : Char) : Bool := c == ' ' || c == '\t' || c == '\n' || c == '\r'

/-- The text from its first lexeme on. -/
def skipSeparators (cs : List Char) : List Char := cs.dropWhile isSeparator

/-- Read the characters of a fixed word. -/
def expectWord : List Char → List Char → Except Fault (List Char)
  | [], cs => .ok cs
  | _ :: _, [] => .error .truncated
  | w :: ws, c :: cs => if c = w then expectWord ws cs else .error .malformed

/-! ### Strings -/

/-- The four hexadecimal digits after `\u`. Fewer than four remaining bytes count as a text that
ends too early, whatever they are. -/
def codeUnit (cs : List Char) : Except Fault Nat :=
  match cs with
  | a :: b :: c :: d :: _ =>
    match hexValue? a, hexValue? b, hexValue? c, hexValue? d with
    | some a, some b, some c, some d => .ok (((a * 16 + b) * 16 + c) * 16 + d)
    | _, _, _, _ => .error .malformed
  | _ => if (String.ofList cs).utf8ByteSize < 4 then .error .truncated else .error .malformed

/-- Whether a code unit is the first half of a surrogate pair. -/
def isHighSurrogate (n : Nat) : Bool := decide (0xD800 ≤ n) && decide (n < 0xDC00)

/-- Whether a code unit is the second half of a surrogate pair. -/
def isLowSurrogate (n : Nat) : Bool := decide (0xDC00 ≤ n) && decide (n < 0xE000)

/-- The character that the digits after `\u` stand for, and how many characters they take. A code
point beyond U+FFFF is written as two escapes, and half a pair is refused. -/
def unicodeEscape (cs : List Char) : Except Fault (Char × Nat) := do
  let unit ← codeUnit cs
  if isLowSurrogate unit then
    .error .malformed
  else if isHighSurrogate unit then
    match cs.drop 4 with
    | '\\' :: 'u' :: rest =>
      let low ← codeUnit rest
      if isLowSurrogate low then
        .ok (Char.ofNat (0x10000 + (unit - 0xD800) * 0x400 + (low - 0xDC00)), 10)
      else .error .malformed
    | [] | ['\\'] => .error .truncated
    | _ => .error .malformed
  else .ok (Char.ofNat unit, 4)

/-- The character that the text after a backslash stands for, and how many characters it takes. -/
def escape : List Char → Except Fault (Char × Nat)
  | [] => .error .truncated
  | '"' :: _ => .ok ('"', 1)
  | '\\' :: _ => .ok ('\\', 1)
  | '/' :: _ => .ok ('/', 1)
  | 'b' :: _ => .ok ('\x08', 1)
  | 'f' :: _ => .ok ('\x0c', 1)
  | 'n' :: _ => .ok ('\n', 1)
  | 'r' :: _ => .ok ('\r', 1)
  | 't' :: _ => .ok ('\t', 1)
  | 'u' :: rest => (unicodeEscape rest).map fun (c, width) => (c, width + 1)
  | _ => .error .malformed

/-- The rest of a string whose characters so far are given last one first. The count says how many
characters still belong to an escape that has been read. -/
def stringFrom (read : List Char) : List Char → Nat → Except Fault (String × List Char)
  | [], _ => .error .truncated
  | _ :: rest, pending + 1 => stringFrom read rest pending
  | c :: rest, 0 =>
    if c = '"' then .ok (String.ofList read.reverse, rest)
    else if c = '\\' then
      match escape rest with
      | .ok (e, width) => stringFrom (e :: read) rest width
      | .error fault => .error fault
    else if c.toNat < 0x20 then .error .malformed
    else stringFrom (c :: read) rest 0

/-- A string whose opening quotation mark has been read. -/
def stringBody : Reading String := fun cs => stringFrom [] cs 0

/-! ### Numbers -/

/-- The largest significand that is kept: the largest unsigned 64-bit integer. -/
def significandLimit : Nat := 0xFFFFFFFFFFFFFFFF

/-- The value of a decimal digit. -/
def digitValue (c : Char) : Nat := c.toNat - '0'.toNat

/-- Append digits to a significand until one would take it over the limit. The digits from there on
are returned. -/
def absorb (significand : Nat) : List Char → Nat × List Char
  | [] => (significand, [])
  | d :: ds =>
    let next := significand * 10 + digitValue d
    if next ≤ significandLimit then absorb next ds else (significand, d :: ds)

/-- The magnitude of the smallest signed 64-bit integer. -/
def negativeLimit : Nat := 0x8000000000000000

/-- The first exponent that is too large to be counted with. -/
def exponentLimit : Nat := 0x80000000

/-- A power of ten as a double, for exponents up to 308. -/
def powerOfTen (n : Nat) : Float := OfScientific.ofScientific 1 false n

/-- The double `x · 10 ^ exponent`, by one multiplication or division where a power of ten is exact
enough. Nothing is returned when the result is too large. -/
def scaleByTen (x : Float) (exponent : Int) : Option Float :=
  if exponent.natAbs ≤ 308 then
    if 0 ≤ exponent then
      let y := x * powerOfTen exponent.natAbs
      if y.isInf then none else some y
    else some (x / powerOfTen exponent.natAbs)
  else if x == 0 then some x
  else if 0 ≤ exponent then none
  else scaleByTen (x / powerOfTen 308) (exponent + 308)
termination_by exponent.natAbs
decreasing_by omega

/-- The number `± significand · 10 ^ exponent` as a double. -/
def double (negative : Bool) (significand : Nat) (exponent : Int) : Except Fault Number :=
  match scaleByTen significand.toUInt64.toFloat exponent with
  | none => .error .malformed
  | some x => .ok (.double (if negative then -x else x).toBits)

/-- A double zero with a sign. -/
def signedZero (negative : Bool) : Number := .double (if negative then -0.0 else 0.0 : Float).toBits

/-- The number after its exponent mark. -/
def exponentPart (negative : Bool) (significand : Nat) (exponent : Int) : Reading Number := fun cs =>
  let (below, cs) := match cs with
    | '+' :: rest => (false, rest)
    | '-' :: rest => (true, rest)
    | _ => (false, cs)
  let (digits, rest) := cs.span Char.isDigit
  if digits.isEmpty then
    if rest.isEmpty then .error .truncated else .error .malformed
  else
    let size := digits.foldl (fun n d => n * 10 + digitValue d) 0
    if exponentLimit ≤ size then
      if significand ≠ 0 ∧ !below then .error .malformed else .ok (signedZero negative, rest)
    else
      (double negative significand (if below then exponent - size else exponent + size)).map (·, rest)

/-- The number after its decimal point. -/
def fractionPart (negative : Bool) (significand : Nat) (exponent : Int) : Reading Number := fun cs =>
  let (digits, rest) := cs.span Char.isDigit
  if digits.isEmpty then
    if rest.isEmpty then .error .truncated else .error .malformed
  else
    let (significand, left) := absorb significand digits
    let exponent := exponent - (digits.length - left.length : Nat)
    match rest with
    | 'e' :: rest | 'E' :: rest => exponentPart negative significand exponent rest
    | _ => (double negative significand exponent).map (·, rest)

/-- An integer: kept as one when it fits 64 bits with its sign. A negative zero is a double. -/
def integer (negative : Bool) (significand : Nat) : Number :=
  if !negative then .int significand
  else if significand ≠ 0 ∧ significand ≤ negativeLimit then .int (-significand)
  else .double (-significand.toUInt64.toFloat).toBits

/-- A number without its sign. -/
def magnitude (negative : Bool) : Reading Number := fun cs =>
  let (digits, rest) := cs.span Char.isDigit
  match digits with
  | [] => if rest.isEmpty then .error .truncated else .error .malformed
  | '0' :: _ :: _ => .error .malformed
  | _ =>
    let (significand, left) := absorb 0 digits
    match rest with
    | '.' :: rest => fractionPart negative significand left.length rest
    | 'e' :: rest | 'E' :: rest => exponentPart negative significand left.length rest
    | _ =>
      if left.isEmpty then .ok (integer negative significand, rest)
      else (double negative significand left.length).map (·, rest)

/-! ### Scalars -/

/-- A value that holds no other values. -/
def scalar : Reading Json
  | [] => .error .truncated
  | 'n' :: rest => (expectWord "ull".toList rest).map (.null, ·)
  | 't' :: rest => (expectWord "rue".toList rest).map (.bool true, ·)
  | 'f' :: rest => (expectWord "alse".toList rest).map (.bool false, ·)
  | '"' :: rest => (stringBody rest).map fun (s, rest) => (.string s, rest)
  | '-' :: rest => (magnitude true rest).map fun (n, rest) => (.number n, rest)
  | c :: rest =>
    if c.isDigit then (magnitude false (c :: rest)).map fun (n, rest) => (.number n, rest)
    else .error .malformed

end ClientSynthesis.Json
