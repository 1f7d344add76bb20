import ClientSynthesis.Text.Digit
import ClientSynthesis.Text.Quoted
import Mathlib.Tactic.SplitIfs

/-!
# Reading string literals

The reader of the literals that `quoted` writes. It follows the literal character by character and
keeps only where it stands (`LiteralState`), so that it recurses on the text and every escape can be
followed by itself. The one statement others need is `readLiteral_quotedChars`: a literal is read as
the text it was written for, and reading stops behind its closing quotation mark, whatever follows.

Which characters are printable is never asked here. A reader has to accept a character written as
itself and a character written as its code point alike.
-/

namespace ClientSynthesis.Text

/-- Where reading stands inside a literal. -/
inductive LiteralState where
  /-- Between two characters. -/
  | between
  /-- Behind a backslash. -/
  | escape
  /-- Before the brace that opens a code point. -/
  | brace
  /-- Inside the braces, with the number read so far. -/
  | code (value : Option Nat)
  deriving DecidableEq, Repr

/-- The character that a letter behind a backslash stands for. -/
def escapeValue? : Char → Option Char
  | '"' => some '"'
  | '\x27' => some '\x27'
  | '\\' => some '\\'
  | 'n' => some '\n'
  | 'r' => some '\r'
  | 't' => some '\t'
  | '0' => some '\x00'
  | _ => none

/-- The character with a code point, if there is one. -/
def ofCode? (code : Nat) : Option Char :=
  if code.isValidChar then some (Char.ofNat code) else none

/-- Put a character in front of what is read behind it. -/
def readBefore (c : Char) (read : Option (List Char × List Char)) :
    Option (List Char × List Char) :=
  read.map fun (cs, rest) ↦ (c :: cs, rest)

/-- The characters up to the closing quotation mark, and what is behind it. -/
def literalChars : LiteralState → List Char → Option (List Char × List Char)
  | _, [] => none
  | .between, c :: rest =>
    if c = '"' then some ([], rest)
    else if c = '\\' then literalChars .escape rest
    else readBefore c (literalChars .between rest)
  | .escape, c :: rest =>
    if c = 'u' then literalChars .brace rest
    else (escapeValue? c).bind fun v ↦ readBefore v (literalChars .between rest)
  | .brace, c :: rest =>
    if c = '\x7b' then literalChars (.code none) rest else none
  | .code value, c :: rest =>
    if c = '\x7d' then
      (value.bind ofCode?).bind fun v ↦ readBefore v (literalChars .between rest)
    else (hexValue? c).bind fun d ↦ literalChars (.code (some (16 * value.getD 0 + d))) rest

/-- The text of a string literal at the start, and what is behind the literal. -/
def readLiteral : List Char → Option (List Char × List Char)
  | '"' :: rest => literalChars .between rest
  | _ => none

/-! ### Code points -/

theorem hexValue?_digitChar : ∀ {d : Nat}, d < 16 → hexValue? d.digitChar = some d := by
  decide

theorem ofCode?_toNat (c : Char) : ofCode? c.toNat = some c := by
  rw [ofCode?, if_pos (show c.toNat.isValidChar from c.valid), Char.ofNat_toNat]

/-- Hexadecimal digits are read as the number they write. -/
theorem literalChars_hexDigits (n : Nat) (rest : List Char) :
    literalChars (.code none) (hexDigits n ++ rest) = literalChars (.code (some n)) rest := by
  induction n using Nat.strongRecOn generalizing rest with
  | ind n ih =>
    rw [hexDigits, Nat.toDigits_eq_if (by decide)]
    split
    · next hlt =>
      have hne : n.digitChar ≠ '\x7d' := Nat.digitChar_ne _ (by decide)
      simp [literalChars, hne, hexValue?_digitChar hlt]
    · next hge =>
      have hmod : n % 16 < 16 := Nat.mod_lt n (by decide)
      have hne : (n % 16).digitChar ≠ '\x7d' := Nat.digitChar_ne _ (by decide)
      have hih := ih (n / 16) (by omega) ((n % 16).digitChar :: rest)
      rw [hexDigits] at hih
      rw [List.append_assoc, List.singleton_append, hih, literalChars, if_neg hne,
        hexValue?_digitChar hmod, Option.bind_some, Option.getD_some, Nat.div_add_mod]

/-- What is no digit does not stand among hexadecimal digits. -/
theorem not_mem_hexDigits {c : Char} (h : ∀ d : Nat, d.digitChar ≠ c) (n : Nat) :
    c ∉ hexDigits n := by
  induction n using Nat.strongRecOn with
  | ind n ih =>
    rw [hexDigits, Nat.toDigits_eq_if (by decide)]
    split_ifs with hlt
    · exact fun hmem ↦ h n (List.mem_singleton.1 hmem).symm
    · have hih := ih (n / 16) (by omega)
      rw [hexDigits] at hih
      rw [List.mem_append, not_or]
      exact ⟨hih, fun hmem ↦ h (n % 16) (List.mem_singleton.1 hmem).symm⟩

/-! ### Literals -/

/-- Whatever way a character is written, it is read back. -/
theorem literalChars_quotedChar (c : Char) (rest : List Char) :
    literalChars .between (quotedChar c ++ rest) = readBefore c (literalChars .between rest) := by
  unfold quotedChar
  split_ifs with hquote hback hfeed hreturn htab hzero hprintable
  · subst hquote; rfl
  · subst hback; rfl
  · subst hfeed; rfl
  · subst hreturn; rfl
  · subst htab; rfl
  · subst hzero; rfl
  · simp [literalChars, hquote, hback]
  · have hcode := literalChars_hexDigits c.toNat ('\x7d' :: rest)
    simp only [List.cons_append, List.nil_append, List.append_assoc, literalChars] at hcode ⊢
    simpa [ofCode?_toNat] using hcode

/-- A literal is read as the text it was written for, whatever follows it. -/
theorem readLiteral_quotedChars (cs rest : List Char) :
    readLiteral (quotedChars cs ++ rest) = some (cs, rest) := by
  simp only [quotedChars, List.cons_append, List.append_assoc, List.nil_append, readLiteral]
  induction cs with
  | nil => rfl
  | cons c cs ih =>
    rw [List.flatMap_cons, List.append_assoc, literalChars_quotedChar, ih]
    rfl

end ClientSynthesis.Text
