import ClientSynthesis.Proofs.Code.WholeLines
import ClientSynthesis.Proofs.Naming.Variants

/-!
# Reading enums

An enum is read back from its text: the variants that it declares, and the arms of the function that
gives the text of a variant, each with the text that its literal is for. The reader knows the name
of the enum, which may be any text, and the forms of what is around the variants and the arms.
Comments are passed over, so it does not matter whether there are any.

Variants have to be made of name characters to be told from what is behind them, as the names of
options are, whatever the options.
-/

namespace ClientSynthesis.Code

open Naming (isNameChar)
open Text

/-! ### What stands around variants and arms -/

/-- The beginning of an enum. -/
def enumOpening (name : String) : String :=
  "#[derive(Debug, Clone, Copy, PartialEq, Eq, Hash)]\n" ++ "pub enum " ++ name ++ " \x7b\n"

/-- The end of an enum, and the beginning of its implementation. -/
def implOpening (name : String) : String := "\x7d\n\n" ++ "impl " ++ name ++ " \x7b\n"

/-- The beginning of the function with the match. -/
def matchOpening : String :=
  "    pub fn as_str(&self) -> &'static str \x7b\n" ++ "        match *self \x7b\n"

/-- The end of the match, of the function and of the implementation. -/
def matchClosing : String := "        \x7d\n    \x7d\n\x7d\n"

-- Texts made of literals are unfolded by `delta`, since their equation lemmas take long to make.

theorem toList_enumOpening (name : String) : (enumOpening name).toList =
    "#[derive(Debug, Clone, Copy, PartialEq, Eq, Hash)]\n".toList ++ ("pub enum ".toList ++
      (name.toList ++ " \x7b\n".toList)) := by
  delta enumOpening
  simp only [String.toList_append, List.append_assoc]

theorem toList_implOpening (name : String) : (implOpening name).toList =
    "\x7d\n\n".toList ++ ("impl ".toList ++ (name.toList ++ " \x7b\n".toList)) := by
  delta implOpening
  simp only [String.toList_append, List.append_assoc]

theorem toList_matchOpening : matchOpening.toList =
    "    pub fn as_str(&self) -> &'static str \x7b\n".toList ++
      "        match *self \x7b\n".toList := by
  delta matchOpening
  rw [String.toList_append]

/-! ### Readers -/

/-- A comment line at an indentation. -/
def readComment (indent : String) (cs : List Char) : Option (String × List Char) := do
  let _ ← expect (indent ++ "///") cs
  let (line, cs) := readRun (· != '\n') cs
  return (line, ← expect "\n" cs)

/-- What is behind the comment lines at the start. -/
def skipComments (indent : String) (cs : List Char) : List Char :=
  (readWhile (readComment indent) cs).2

/-- A variant as it is declared. -/
def readVariant (cs : List Char) : Option (String × List Char) := do
  let (ident, cs) := readRun isNameChar (← expect "    " cs)
  return (ident, ← expect ",\n" cs)

/-- An arm of a match over the variants of an enum: a variant, and the text that stands for it. -/
def readArm (name : String) (cs : List Char) : Option ((String × String) × List Char) := do
  let (ident, cs) := readRun isNameChar (← expect ("            " ++ name ++ "::") cs)
  let (value, cs) ← readLiteral (← expect " => " cs)
  return ((ident, String.ofList value), ← expect ",\n" cs)

/-- What an enum says: the variants it declares, and the arms of its match in order. -/
structure EnumText where
  variants : List String
  arms : List (String × String)
  deriving DecidableEq, Repr

/-- The text that the match gives for a variant: that of the first arm for it. -/
def EnumText.asStr (e : EnumText) (variant : String) : Option String := e.arms.lookup variant

/-- The enum with a name, from its text. -/
def readEnum (name text : String) : Option EnumText := do
  let cs ← expect (enumOpening name) (skipComments "" text.toList)
  let (variants, cs) := readWhile readVariant cs
  let cs ← expect (implOpening name) cs
  let cs ← expect matchOpening (skipComments "    " cs)
  let (arms, cs) := readWhile (readArm name) cs
  let _ ← expect matchClosing cs
  return ⟨variants, arms⟩

/-! ### The text of an enum -/

/-- A variant as it is declared. -/
def variantText (ident : String) : String := "    " ++ ident ++ ",\n"

/-- The comments before an enum and inside its implementation. -/
def enumComments (docs : Bool) (type : TypeDefinition) : List String × List String :=
  if docs then (commentLines "" ("Allowed values of `" ++ type.wireKey ++ "`."),
    ["    /// Literal value written on the wire."])
  else ([], [])

/-- The text of an enum, part by part. -/
theorem toList_render_enumItem (docs : Bool) (name : String) (type : TypeDefinition)
    (cases : List EnumCase) : ∃ rest, (render docs (enumItem name type cases)).toList =
      (unlines (enumComments docs type).1).toList ++ ((enumOpening name).toList ++
        (cases.flatMap (fun c ↦ (variantText c.ident).toList) ++ ((implOpening name).toList ++
          ((unlines (enumComments docs type).2).toList ++ (matchOpening.toList ++
            (cases.flatMap (fun c ↦ (armText name c).toList) ++
              (matchClosing.toList ++ rest))))))) := by
  refine ⟨(render docs (type.parentType.toList.map fun parent ↦
    .code (conversionText name parent))).toList, ?_⟩
  have hdoc : "    /// Literal value written on the wire.\n" =
      unlines ["    /// Literal value written on the wire."] := by
    rfl
  have hempty : ("" : String).toList = [] := rfl
  delta enumItem
  cases docs <;>
    simp only [render, Chunk.text, docComment_eq, hdoc, variantText, enumComments,
      toList_enumOpening, toList_implOpening, toList_matchOpening, matchClosing,
      String.toList_append, String.toList_join, List.map_append, List.map_cons, List.map_nil,
      List.flatMap_append, List.flatMap_cons, List.flatMap_nil, List.flatMap_map, unlines_nil,
      hempty, List.append_assoc, List.nil_append, if_true, if_false, Bool.false_eq_true]

/-! ### The parts are read back -/

/-- A line that is a comment at an indentation. -/
def IsComment (indent line : String) : Prop :=
  ∃ rest, line.toList = (indent ++ "///").toList ++ rest ∧ '\n' ∉ line.toList

theorem isComment_commentLines {indent : String} (h : '\n' ∉ indent.toList) (text : String) :
    ∀ line ∈ commentLines indent text, IsComment indent line := by
  intro line hline
  obtain ⟨rest, heq, -⟩ := exists_of_mem_commentLines hline
  exact ⟨rest, heq, not_mem_commentLines h text line hline⟩

/-- Comments are passed over, up to a text that begins with none. -/
theorem skipComments_unlines {indent : String} {ls : List String}
    (h : ∀ line ∈ ls, IsComment indent line) {stop : List Char}
    (hstop : expect (indent ++ "///") stop = none) :
    skipComments indent ((unlines ls).toList ++ stop) = stop := by
  have hread : ∀ line ∈ ls, ∀ rest,
      readComment indent ((line.toList ++ ['\n']) ++ rest) = some (line, rest) := by
    intro line hline rest
    obtain ⟨back, hback, hwhole⟩ := h line hline
    have hrun : readRun (· != '\n') (line.toList ++ '\n' :: rest) = (line, '\n' :: rest) :=
      readRun_append (fun c hc ↦ bne_iff_ne.2 fun heq : c = '\n' ↦ hwhole (heq ▸ hc)) rfl rest
    have hfeed : expect "\n" ('\n' :: rest) = some rest := expect_append "\n" rest
    have hbegins : expect (indent ++ "///") (line.toList ++ '\n' :: rest) =
        some (back ++ '\n' :: rest) := by
      rw [hback, List.append_assoc, expect_append]
    rw [List.append_assoc, List.singleton_append, readComment, hbegins, hrun]
    simp only [Option.bind_eq_bind, Option.bind_some, hfeed]
    rfl
  have hnone : readComment indent stop = none := by
    rw [readComment, hstop]
    rfl
  rw [skipComments, toList_unlines, readWhile_flatMap hread (fun _ _ ↦ by simp) hnone]

theorem readVariant_variantText {ident : String} (h : ∀ c ∈ ident.toList, isNameChar c = true)
    (rest : List Char) :
    readVariant ((variantText ident).toList ++ rest) = some (ident, rest) := by
  have hrun := readRun_append_text ",\n" h rfl (by decide) rest
  simp only [variantText, String.toList_append, List.append_assoc, readVariant, expect_append, hrun,
    Option.bind_eq_bind, Option.bind_some]
  rfl

theorem readArm_armText (name : String) {case : EnumCase}
    (h : ∀ c ∈ case.ident.toList, isNameChar c = true) (rest : List Char) :
    readArm name ((armText name case).toList ++ rest) =
      some ((case.ident, case.wireValue), rest) := by
  have hrun := readRun_append_text " => " h rfl (by decide)
    (quotedChars case.wireValue.toList ++ (",\n".toList ++ rest))
  have htext : (armText name case).toList ++ rest =
      ("            " ++ name ++ "::").toList ++ (case.ident.toList ++ (" => ".toList ++
        (quotedChars case.wireValue.toList ++ (",\n".toList ++ rest)))) := by
    delta armText
    simp only [String.toList_append, List.append_assoc, toList_quoted]
  rw [htext]
  simp only [readArm, expect_append, hrun, readLiteral_quotedChars, String.ofList_toList,
    Option.bind_eq_bind, Option.bind_some]
  rfl

/-- **An enum is read back from its text**, with or without documentation, whatever its name is and
whatever texts stand for its variants. -/
theorem readEnum_render (docs : Bool) (name : String) (type : TypeDefinition)
    {cases : List EnumCase} (h : ∀ case ∈ cases, ∀ c ∈ case.ident.toList, isNameChar c = true) :
    readEnum name (render docs (enumItem name type cases)) =
      some ⟨cases.map EnumCase.ident, cases.map fun c ↦ (c.ident, c.wireValue)⟩ := by
  obtain ⟨rest, htext⟩ := toList_render_enumItem docs name type cases
  have hcomments : (∀ line ∈ (enumComments docs type).1, IsComment "" line) ∧
      ∀ line ∈ (enumComments docs type).2, IsComment "    " line := by
    cases docs
    · exact ⟨List.forall_mem_nil _, List.forall_mem_nil _⟩
    · exact ⟨isComment_commentLines (by decide) _, List.forall_mem_singleton.2
        ⟨" Literal value written on the wire.".toList, by decide, by decide⟩⟩
  -- What is behind each repetition begins with none of what is repeated.
  have hvariants (cs : List Char) :
      readWhile readVariant (cases.flatMap (fun c ↦ (variantText c.ident).toList) ++
        ((implOpening name).toList ++ cs)) =
        (cases.map EnumCase.ident, (implOpening name).toList ++ cs) := by
    have hstop : readVariant ((implOpening name).toList ++ cs) = none := by
      rw [toList_implOpening, List.append_assoc, readVariant,
        expect_append_eq_none (by decide) (by decide)]
      rfl
    rw [← List.flatMap_map EnumCase.ident fun ident ↦ (variantText ident).toList]
    exact readWhile_flatMap (List.forall_mem_map.2 fun c hc ↦ readVariant_variantText (h c hc))
      (fun ident _ ↦ by simp [variantText]) hstop
  have harms (cs : List Char) :
      readWhile (readArm name) (cases.flatMap (fun c ↦ (armText name c).toList) ++
        (matchClosing.toList ++ cs)) =
        (cases.map fun c ↦ (c.ident, c.wireValue), matchClosing.toList ++ cs) := by
    have hstop : readArm name (matchClosing.toList ++ cs) = none := by
      have hblanks : expect "            " (matchClosing.toList ++ cs) = none :=
        expect_append_eq_none (by decide) (by decide) cs
      rw [readArm, expect_append_token, expect_append_token, hblanks]
      rfl
    rw [← List.flatMap_map (fun c : EnumCase ↦ (c.ident, c.wireValue))
      fun arm ↦ (armText name ⟨arm.1, arm.2⟩).toList]
    exact readWhile_flatMap (List.forall_mem_map.2 fun c hc ↦ readArm_armText name (h c hc))
      (fun arm _ ↦ by delta armText; simp) hstop
  rw [readEnum, htext, skipComments_unlines hcomments.1]
  · simp only [expect_append, hvariants, Option.bind_eq_bind, Option.bind_some]
    rw [skipComments_unlines hcomments.2]
    · simp only [expect_append, harms, Option.bind_some]
      rfl
    · rw [toList_matchOpening, List.append_assoc]
      exact expect_append_eq_none (by decide) (by decide) _
  · rw [toList_enumOpening, List.append_assoc]
    exact expect_append_eq_none (by decide) (by decide) _

end ClientSynthesis.Code
