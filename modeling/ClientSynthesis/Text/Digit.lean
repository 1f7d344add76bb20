/-!
# Digits

The values of ASCII digits, and which texts write a number in decimal notation.
-/

namespace ClientSynthesis.Text

/-- The value of a hexadecimal digit. -/
def hexValue? (c : Char) : Option Nat :=
  if c.isDigit then some (c.toNat - '0'.toNat)
  else if 'a' ≤ c ∧ c ≤ 'f' then some (c.toNat - 'a'.toNat + 10)
  else if 'A' ≤ c ∧ c ≤ 'F' then some (c.toNat - 'A'.toNat + 10)
  else none

/-- Whether a text is a row of decimal digits. -/
def isDigits (cs : List Char) : Bool := !cs.isEmpty && cs.all Char.isDigit

/-- The number that a row of decimal digits writes, with or without a plus sign in front. -/
def natural? (cs : List Char) : Option Nat :=
  let digits := match cs with
    | '+' :: rest => rest
    | cs => cs
  if isDigits digits then
    some (digits.foldl (fun n c => 10 * n + (c.toNat - '0'.toNat)) 0)
  else none

/-- Whether a text is an exponent, or empty. -/
def isExponent : List Char → Bool
  | [] => true
  | 'e' :: rest | 'E' :: rest =>
    match rest with
    | '+' :: digits | '-' :: digits => isDigits digits
    | digits => isDigits digits
  | _ => false

/-- Whether a text writes a number without a sign: digits with at most one point among them and
perhaps an exponent behind, or a word for what is not finite, in whatever case it is written. -/
def isUnsignedDecimal (cs : List Char) : Bool :=
  let rest := cs.dropWhile Char.isDigit
  let fraction := match rest with
    | '.' :: rest => rest
    | _ => []
  let exponent := match rest with
    | '.' :: rest => rest.dropWhile Char.isDigit
    | rest => rest
  (cs.head?.any Char.isDigit || fraction.head?.any Char.isDigit) && isExponent exponent ||
    ["inf", "infinity", "nan"].contains (String.ofList (cs.map Char.toLower))

/-! ### Examples -/

example : ["1", "1.", ".5", "1.5e-3", "1e+5", "iNf"].all (isUnsignedDecimal ·.toList) := by
  decide +kernel

example : ["", ".", "e5", "1e", "+1", "1_0"].all (!isUnsignedDecimal ·.toList) := by
  decide +kernel

end ClientSynthesis.Text
