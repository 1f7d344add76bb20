import ClientSynthesis.Proofs.Code.WholeLines
import ClientSynthesis.Proofs.Text.LineBreaks

/-!
# What a documentation comment says

A comment has one line for each line of the documentation, and is read back line by line: behind the
indentation and the slashes there may be a space, and what follows is the line without the white space
at its end (`remark_commentLine`). Nothing can be read otherwise than it was meant, since a line that
begins with spaces gets one more, and a blank line gets none.

Together with what the lines of a text are (`breaksInto_iff`) this gives the comment for a text from the
text alone (`docComment_says_lines`). It is a comment whatever the text: a carriage return that ends no
line stays inside its line, and a line feed is never written but at the end of a line.
-/

namespace ClientSynthesis.Code

open Text

/-! ### Comment lines -/

/-- The lines that a comment has to say: those of the text without white space at their ends, or an
empty one. -/
def saidLines (ls : List (List Char)) : List (List Char) :=
  if ls = [] then [[]] else ls.map trimEnd

/-- The comment line that says a line. -/
def commentLine (said : List Char) : List Char :=
  "///".toList ++ if said = [] then [] else ' ' :: said

theorem docLine_eq (line : List Char) : docLine line = commentLine (trimEnd line) := by
  unfold docLine commentLine
  simp only [trimEnd_eq_nil_iff]
  split_ifs <;> rfl

/-- A comment says the lines of its text. -/
theorem docLines_eq (text : List Char) : docLines text = (saidLines (lines text)).map commentLine := by
  unfold docLines saidLines
  split
  · next hnone => rw [if_pos hnone]; rfl
  · next hsome =>
    rw [if_neg hsome, List.map_map]
    exact List.map_congr_left fun line _ ↦ docLine_eq line

theorem saidLines_ne_nil (ls : List (List Char)) : saidLines ls ≠ [] := by
  unfold saidLines
  split_ifs with hnone
  · exact List.cons_ne_nil _ _
  · exact mt List.map_eq_nil_iff.1 hnone

/-- No line that is said ends in white space. -/
theorem isBlank_of_mem_saidLines {ls : List (List Char)} {said : List Char} (h : said ∈ saidLines ls) :
    ∀ c ∈ said.getLast?, isBlank c = false := by
  unfold saidLines at h
  split_ifs at h
  · rw [List.mem_singleton.1 h]
    exact nofun
  · obtain ⟨line, -, rfl⟩ := List.mem_map.1 h
    exact fun c hc ↦ isBlank_of_mem_getLast?_trimEnd hc

/-! ### Reading a comment -/

/-- What begins a comment line at an indentation. -/
def commentMark (indent : String) : List Char := indent.toList ++ "///".toList

/-- What a comment line says: all that is behind its beginning, but for a space that follows there. -/
def remark (indent : String) (row : List Char) : List Char :=
  match row.drop (commentMark indent).length with
  | ' ' :: said => said
  | said => said

/-- What a comment line was made to say is read from it. -/
theorem remark_commentLine (indent : String) (said : List Char) :
    remark indent (indent.toList ++ commentLine said) = said := by
  have hdrop : (indent.toList ++ commentLine said).drop (commentMark indent).length =
      if said = [] then [] else ' ' :: said := by
    rw [commentLine, ← List.append_assoc, ← commentMark, List.drop_left]
  rw [remark, hdrop]
  cases said <;> rfl

/-- A row of a comment that says a line. -/
structure IsCommentRow (indent : String) (row : List Char) : Prop where
  mark : commentMark indent <+: row
  last : ∀ c ∈ row.getLast?, isBlank c = false

theorem isCommentRow_commentLine (indent : String) {said : List Char}
    (h : ∀ c ∈ said.getLast?, isBlank c = false) :
    IsCommentRow indent (indent.toList ++ commentLine said) where
  mark := by
    rw [commentLine, ← List.append_assoc]
    exact List.prefix_append _ _
  last := by
    cases said with
    | nil => simp +decide [commentLine]
    | cons d more => simpa [commentLine, List.getLast?_cons] using h

/-! ### The comment of a text -/

/-- An indentation of spaces. -/
def spaces (width : Nat) : String := String.ofList (List.replicate width ' ')

theorem toList_commentLines (indent text : String) :
    (commentLines indent text).map String.toList =
      (saidLines (lines text.toList)).map fun said ↦ indent.toList ++ commentLine said := by
  rw [commentLines, docLines_eq, List.map_map, List.map_map]
  exact List.map_congr_left fun said _ ↦ by simp

/-- **A documentation comment is nothing but comment lines, and they say the lines of the text.** Cut at
its line feeds, of which the last one is at its end, it gives rows that begin with the indentation and
three slashes and do not end in white space. What is read from them, in order, are the lines that the
text breaks into, without white space at their ends; a text without lines is said by one empty row. -/
theorem docComment_says_lines (width : Nat) (text : String) :
    (docComment (spaces width) text).toList.getLast? = some '\n' ∧
    ∃ rows, split '\n' (docComment (spaces width) text).toList = rows ++ [[]] ∧
      rows ≠ [] ∧ (∀ row ∈ rows, IsCommentRow (spaces width) row) ∧
      ∃ ls, (∀ others, BreaksInto text.toList others ↔ others = ls) ∧
        rows.map (remark (spaces width)) = if ls = [] then [[]] else ls.map trimEnd := by
  have hspaces : '\n' ∉ (spaces width).toList := by simp [spaces, List.mem_replicate]
  have hsplit := split_unlines (not_mem_commentLines hspaces text)
  have hsome : commentLines (spaces width) text ≠ [] := by
    rw [commentLines, docLines_eq]
    simpa using saidLines_ne_nil (lines text.toList)
  rw [docComment_eq]
  rw [toList_commentLines] at hsplit
  refine ⟨getLast?_unlines hsome, _, hsplit, ?_, ?_, lines text.toList, fun _ ↦ breaksInto_iff, ?_⟩
  · exact mt List.map_eq_nil_iff.1 (saidLines_ne_nil _)
  · exact List.forall_mem_map.2 fun said hsaid ↦
      isCommentRow_commentLine _ (isBlank_of_mem_saidLines hsaid)
  · rw [List.map_map, ← saidLines]
    refine (List.map_congr_left fun said _ ↦ ?_).trans (List.map_id _)
    exact remark_commentLine _ said

example : docComment (spaces 4) "First.\r\n\r\n  Second.\t\n" =
    "    /// First.\n    ///\n    ///   Second.\n" := by
  decide +kernel

end ClientSynthesis.Code
