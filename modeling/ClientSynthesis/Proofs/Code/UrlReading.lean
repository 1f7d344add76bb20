import ClientSynthesis.Code.Url
import ClientSynthesis.Proofs.Naming.NameCharacters
import ClientSynthesis.Proofs.Text.Literal
import ClientSynthesis.Proofs.Text.Reading

/-!
# Reading URL expressions

A URL expression is read from its text: the literal is decoded first, and only then are braces given
their meaning, as the language does it. Both spellings of an expression end in the same data, a list
of units and a list of arguments, so that a constant is a template without holes.

Two facts carry the reading. Doubled braces are read as the text they were doubled for
(`readFormat_escapeBraces`), and no identifier contains a character that an argument list is cut at
(`isNameChar_of_mem_fieldName`). Merging literal parts and dropping empty ones leaves the units as
they are (`units_consPart`), so neither shows in what is read.
-/

namespace ClientSynthesis.Code

open Naming (isNameChar isNameChar_of_mem_fieldName)
open Text

/-! ### Readers -/

/-- A unit of a format template: a character that stands for itself, or a place for an argument. -/
inductive FormatUnit where
  | char (c : Char)
  | hole
  deriving DecidableEq, Repr

/-- The units of a format template. A brace that is neither doubled nor one of a pair is an
error. -/
def readFormat : List Char → Option (List FormatUnit)
  | [] => some []
  | '\x7b' :: '\x7b' :: rest => (readFormat rest).map (.char '\x7b' :: ·)
  | '\x7b' :: '\x7d' :: rest => (readFormat rest).map (.hole :: ·)
  | '\x7d' :: '\x7d' :: rest => (readFormat rest).map (.char '\x7d' :: ·)
  | c :: rest =>
    if c = '\x7b' ∨ c = '\x7d' then none else (readFormat rest).map (.char c :: ·)

/-- An argument behind its comma. -/
def readArgument (cs : List Char) : Option (UrlArgument × List Char) := do
  let cs ← expect ", " cs
  let (ident, cs) := readRun isNameChar cs
  match expect ".join(\",\")" cs with
  | some cs => return (⟨ident, true⟩, cs)
  | none => return (⟨ident, false⟩, cs)

/-- The units and the arguments of a URL expression. -/
def readUrl (text : String) : Option (List FormatUnit × List UrlArgument) :=
  match expect "String::from(" text.toList with
  | some cs => do
    let (constant, cs) ← readLiteral cs
    if cs = [')'] then return (constant.map .char, []) else none
  | none => do
    let cs ← expect "format!(" text.toList
    let (template, cs) ← readLiteral cs
    return (← readFormat template, ← readItems [')'] readArgument cs)

/-- The text of units with their holes filled by values, one after the other. There has to be a
value for each hole and no other. -/
def fill? : List FormatUnit → List (List Char) → Option (List Char)
  | [], [] => some []
  | [], _ :: _ => none
  | .char c :: rest, values => (fill? rest values).map (c :: ·)
  | .hole :: _, [] => none
  | .hole :: rest, value :: values => (fill? rest values).map (value ++ ·)

/-! ### Format templates -/

/-- A character that is no brace stands for itself. -/
theorem readFormat_cons {c : Char} (hopen : c ≠ '\x7b') (hclose : c ≠ '\x7d') (rest : List Char) :
    readFormat (c :: rest) = (readFormat rest).map (.char c :: ·) := by
  rw [readFormat]
  · rw [if_neg (by simp [hopen, hclose])]
  · exact fun _ h _ ↦ hopen h
  · exact fun _ h _ ↦ hopen h
  · exact fun _ h _ ↦ hclose h

/-- Text with its braces doubled is read as that text, whatever follows. -/
theorem readFormat_escapeBraces (text rest : List Char) :
    readFormat (escapeBraces text ++ rest) = (readFormat rest).map (text.map .char ++ ·) := by
  induction text with
  | nil => simp [escapeBraces]
  | cons c cs ih =>
    rw [escapeBraces] at ih ⊢
    rw [List.flatMap_cons, List.append_assoc]
    -- A doubled brace is read before a hole or an error is thought of.
    by_cases hopen : c = '\x7b'
    · subst hopen
      rw [if_pos (.inl rfl), List.cons_append, List.cons_append, List.nil_append, readFormat, ih]
      simp [Function.comp_def]
    · by_cases hclose : c = '\x7d'
      · subst hclose
        rw [if_pos (.inr rfl), List.cons_append, List.cons_append, List.nil_append, readFormat, ih]
        simp [Function.comp_def]
      · rw [if_neg (by simp [hopen, hclose]), List.cons_append, List.nil_append,
          readFormat_cons hopen hclose, ih]
        simp [Function.comp_def]

/-- The units that a part of a path is read as. -/
def units : UrlPart → List FormatUnit
  | .literal text => text.toList.map .char
  | .scalar _ | .joined _ => [.hole]

theorem readFormat_templatePiece (part : UrlPart) (rest : List Char) :
    readFormat (templatePiece part ++ rest) = (readFormat rest).map (units part ++ ·) := by
  cases part with
  | literal text => exact readFormat_escapeBraces text.toList rest
  | scalar name | joined name =>
    rw [templatePiece, List.cons_append, List.cons_append, List.nil_append, readFormat]
    rfl

/-- A template is read as the units of its parts. -/
theorem readFormat_template (parts : List UrlPart) :
    readFormat (parts.flatMap templatePiece) = some (parts.flatMap units) := by
  induction parts with
  | nil => rfl
  | cons part rest ih => rw [List.flatMap_cons, readFormat_templatePiece, ih]; rfl

/-! ### Arguments -/

/-- An argument as program text, behind its comma. -/
def argumentText (a : UrlArgument) : List Char :=
  ',' :: ' ' :: (if a.joined then a.ident ++ ".join(\",\")" else a.ident).toList

theorem readArgument_argumentText {a : UrlArgument} {c : Char}
    (hident : ∀ d ∈ a.ident.toList, isNameChar d = true) (hc : isNameChar c = false)
    (hdot : c ≠ '.') (rest : List Char) :
    readArgument (argumentText a ++ c :: rest) = some (a, c :: rest) := by
  obtain ⟨ident, joined⟩ := a
  have hcomma (cs : List Char) : expect ", " (',' :: ' ' :: cs) = some cs := expect_append ", " cs
  rw [argumentText, readArgument, List.cons_append, List.cons_append, hcomma]
  cases joined with
  | true =>
    have hrun := readRun_append hident (show isNameChar '.' = false by decide)
      ("join(\",\")".toList ++ c :: rest)
    have hjoin := expect_append ".join(\",\")" (c :: rest)
    -- Behind the identifier stands the dot of the call, which is no name character.
    simp only [Char.isValue, String.reduceToList, List.cons_append, List.nil_append, if_true,
      String.toList_append, List.append_assoc, Option.bind_eq_bind, Option.bind_some]
      at hrun hjoin ⊢
    rw [hrun]
    simp [hjoin]
  | false =>
    have hrun := readRun_append hident hc rest
    have hjoin : expect ".join(\",\")" (c :: rest) = none := by
      simp [expect, List.isPrefixOf?, hdot.symm]
    simp only [Bool.false_eq_true, if_false, Option.bind_eq_bind, Option.bind_some]
    rw [hrun]
    simp [hjoin]

/-- The identifiers of arguments are those of fields, so they hold name characters only. -/
theorem isNameChar_of_argument? {part : UrlPart} {a : UrlArgument} (h : argument? part = some a) :
    ∀ c ∈ a.ident.toList, isNameChar c = true := by
  cases part with
  | literal text => exact nomatch h
  | scalar name | joined name =>
    obtain rfl := Option.some.inj h
    -- Without the projection carried out, the identifier itself would be computed.
    dsimp only
    exact isNameChar_of_mem_fieldName name

/-- A list of arguments in front of the closing parenthesis is read back. -/
theorem readItems_arguments {arguments : List UrlArgument}
    (hident : ∀ a ∈ arguments, ∀ c ∈ a.ident.toList, isNameChar c = true) :
    readItems [')'] readArgument (arguments.flatMap argumentText ++ [')']) = some arguments := by
  refine readItems_flatMap (fun a ha later ↦ ?_) fun a ha ↦ List.cons_ne_nil _ _
  -- Behind an argument stands the parenthesis, or the comma of the next one.
  cases later with
  | nil =>
    rw [List.flatMap_nil, List.nil_append]
    exact readArgument_argumentText (hident a ha) (by decide) (by decide) []
  | cons b more =>
    rw [List.flatMap_cons, argumentText.eq_def b, List.cons_append, List.cons_append]
    exact readArgument_argumentText (hident a ha) (by decide) (by decide) _

/-- Arguments with commas between them are arguments with a comma before each, the first comma
apart. -/
theorem toList_intercalate_arguments {arguments : List UrlArgument} (hne : arguments ≠ []) :
    ',' :: ' ' :: (", ".intercalate (arguments.map fun a ↦
      if a.joined then a.ident ++ ".join(\",\")" else a.ident)).toList =
      arguments.flatMap argumentText := by
  induction arguments with
  | nil => exact absurd rfl hne
  | cons a rest ih =>
    cases rest with
    | nil => simp [argumentText]
    | cons b more =>
      have hrest := ih (List.cons_ne_nil b more)
      rw [List.flatMap_cons, ← hrest]
      simp [argumentText, String.intercalate_cons_cons]

/-! ### Expressions -/

/-- A constant has the units of its parts. -/
theorem map_char_of_no_arguments {parts : List UrlPart} (h : parts.filterMap argument? = []) :
    (String.join (parts.map literalText)).toList.map .char = parts.flatMap units := by
  induction parts with
  | nil => rfl
  | cons part rest ih =>
    cases part with
    | literal text =>
      rw [List.map_cons, String.join_cons, String.toList_append, List.map_append, ih h]
      rfl
    | scalar name | joined name => exact nomatch h

/-- A URL expression is read as the units and the arguments of the parts it is made from. -/
theorem readUrl_text (parts : List UrlPart) :
    readUrl (UrlExpression.ofParts parts).text =
      some (parts.flatMap units, parts.filterMap argument?) := by
  unfold UrlExpression.ofParts
  cases harguments : parts.filterMap argument? with
  | nil =>
    have hliteral := readLiteral_quotedChars (String.join (parts.map literalText)).toList [')']
    have hunits := map_char_of_no_arguments harguments
    simp only [List.isEmpty_nil, if_true, UrlExpression.text, readUrl, String.toList_append,
      List.append_assoc, expect_append, toList_quoted]
    show (readLiteral (_ ++ [')']) >>= _) = _
    rw [hliteral, ← hunits]
    rfl
  | cons a rest =>
    have hne : a :: rest ≠ [] := List.cons_ne_nil a rest
    have hident : ∀ b ∈ a :: rest, ∀ c ∈ b.ident.toList, isNameChar c = true := by
      intro b hb
      rw [← harguments, List.mem_filterMap] at hb
      obtain ⟨part, -, hpart⟩ := hb
      exact isNameChar_of_argument? hpart
    have hconstant (cs : List Char) : expect "String::from(" ("format!(".toList ++ cs) = none := by
      simp [expect, List.isPrefixOf?]
    have hcomma (cs : List Char) : ", ".toList ++ cs = ',' :: ' ' :: cs := rfl
    have hclose : ")".toList = [')'] := rfl
    have hlist := readItems_arguments hident
    rw [← toList_intercalate_arguments hne] at hlist
    simp only [List.isEmpty_cons, Bool.false_eq_true, if_false, UrlExpression.text, readUrl,
      String.toList_append, List.append_assoc, expect_append, toList_quoted, String.toList_ofList,
      hconstant, hcomma, hclose, Option.bind_eq_bind, Option.bind_some, readLiteral_quotedChars,
      readFormat_template]
    rw [hlist]
    rfl

end ClientSynthesis.Code
