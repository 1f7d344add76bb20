import ClientSynthesis.Text.Lines
import Mathlib.Data.List.Basic

/-!
# Texts made of lines

A generated file is a list of lines, each ended by a line feed (`unlines`). Cutting the text at the
line feeds gives the lines back, and an empty piece behind the last of them, if no line is broken by
a line feed of its own (`split_unlines`). Without that proviso a line comes back in its pieces, which
is all that can be said of text that is written as it was given (`split_unlines_append`).
-/

namespace ClientSynthesis.Text

/-- Lines put together, each ended by a line feed. -/
def unlines (ls : List String) : String := String.join (ls.map (· ++ "\n"))

@[simp] theorem unlines_nil : unlines [] = "" := rfl

@[simp] theorem unlines_append (ls ms : List String) :
    unlines (ls ++ ms) = unlines ls ++ unlines ms := by
  rw [unlines, List.map_append, String.join_append]
  rfl

theorem unlines_map {α : Type} (f : α → String) (as : List α) :
    unlines (as.map f) = String.join (as.map fun a ↦ f a ++ "\n") := by
  rw [unlines, List.map_map]
  rfl

theorem unlines_flatMap {α : Type} (f : α → List String) (as : List α) :
    unlines (as.flatMap f) = String.join (as.map fun a ↦ unlines (f a)) := by
  induction as with
  | nil => rfl
  | cons a rest ih => rw [List.flatMap_cons, unlines_append, ih, List.map_cons, String.join_cons]

theorem toList_unlines (ls : List String) :
    (unlines ls).toList = ls.flatMap fun l ↦ l.toList ++ ['\n'] := by
  rw [unlines, String.toList_join, List.flatMap_map]
  simp

/-- A text of lines ends in a line feed. -/
theorem getLast?_unlines {ls : List String} (h : ls ≠ []) :
    (unlines ls).toList.getLast? = some '\n' := by
  obtain ⟨front, l, rfl⟩ := (List.eq_nil_or_concat ls).resolve_left h
  simp [toList_unlines]

/-! ### Cutting at the line feeds -/

/-- Every line comes back in its pieces. -/
theorem split_unlines_append (ls : List String) (rest : List Char) :
    split '\n' ((unlines ls).toList ++ rest) =
      (ls.flatMap fun l ↦ split '\n' l.toList) ++ split '\n' rest := by
  rw [toList_unlines]
  induction ls with
  | nil => rfl
  | cons l more ih =>
    rw [List.flatMap_cons, List.flatMap_cons, List.append_assoc, List.append_assoc,
      List.singleton_append, split_append_cons, ih, List.append_assoc]

/-- Whole lines come back as they are. -/
theorem split_unlines {ls : List String} (h : ∀ l ∈ ls, '\n' ∉ l.toList) :
    split '\n' (unlines ls).toList = ls.map String.toList ++ [[]] := by
  have hpieces : (ls.flatMap fun l ↦ split '\n' l.toList) = ls.map String.toList := by
    rw [List.map_eq_flatMap]
    exact List.flatMap_congr fun l hl ↦ split_of_not_mem (h l hl)
  rw [← List.append_nil (unlines ls).toList, split_unlines_append, hpieces]
  rfl

/-- A reader of lines that finds nothing in an empty one finds what it finds in the pieces. -/
theorem filterMap_split_unlines_pieces {α : Type} {read : List Char → Option α}
    (hread : read [] = none) (ls : List String) :
    (split '\n' (unlines ls).toList).filterMap read =
      ls.flatMap fun l ↦ (split '\n' l.toList).filterMap read := by
  rw [← List.append_nil (unlines ls).toList, split_unlines_append, List.filterMap_append,
    List.filterMap_flatMap, split_of_not_mem List.not_mem_nil, List.filterMap_cons, hread,
    List.filterMap_nil, List.append_nil]

/-- What a reader of lines finds in a text of whole lines, if it finds nothing in an empty one. -/
theorem filterMap_split_unlines {α : Type} {read : List Char → Option α} (hread : read [] = none)
    {ls : List String} (h : ∀ l ∈ ls, '\n' ∉ l.toList) :
    (split '\n' (unlines ls).toList).filterMap read = ls.filterMap fun l ↦ read l.toList := by
  rw [split_unlines h, List.filterMap_append, List.filterMap_map, List.filterMap_cons, hread,
    List.filterMap_nil, List.append_nil]
  rfl

/-! ### The lines of a documentation text -/

/-- No line holds the line feed that ends it. -/
theorem not_mem_of_mem_lines {cs line : List Char} (h : line ∈ lines cs) : '\n' ∉ line := by
  induction cs using lines.induct generalizing line with
  | case1 => exact nomatch h
  | case2 rest ih =>
    rcases List.mem_cons.1 h with rfl | h
    · exact List.not_mem_nil
    · exact ih h
  | case3 rest ih =>
    rcases List.mem_cons.1 h with rfl | h
    · exact List.not_mem_nil
    · exact ih h
  | case4 c rest hfeed hreturn ih =>
    rw [lines] at h
    · intro hmem
      rcases mem_of_mem_pushFirst h hmem with heq | ⟨piece, hpiece, hmem⟩
      · exact hfeed heq.symm
      · exact ih hpiece hmem
    · exact hfeed
    · exact hreturn

end ClientSynthesis.Text
