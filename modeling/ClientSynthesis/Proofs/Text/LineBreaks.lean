import ClientSynthesis.Proofs.Text.Lines
import ClientSynthesis.Text.Blank
import Mathlib.Data.List.DropRight

/-!
# How a text breaks into lines

A text breaks into lines if it is these lines, each with what ends it: a line feed, or a carriage return
and a line feed, or nothing in case of the last one (`BreaksInto`). The relation says nothing of how the
lines are found. It leaves no choice, though: a carriage return in front of a line feed belongs to what
ends the line, and behind the last line feed there is either a line or nothing at all. So a text breaks
into its lines and into no others (`breaksInto_iff`).
-/

namespace ClientSynthesis.Text

variable {c : Char} {cs line rest : List Char} {ls : List (List Char)}

/-! ### Breaking -/

/-- A text is made of some lines and what ends each of them. -/
inductive BreaksInto : List Char → List (List Char) → Prop
  /-- A text without characters has no lines. -/
  | nil : BreaksInto [] []
  /-- The last line need not be ended. It is not empty then, or it would not be there. -/
  | last {line : List Char} (hne : line ≠ []) (hfeed : '\n' ∉ line) : BreaksInto line [line]
  /-- A line is ended by a line feed. -/
  | feed {line rest : List Char} {ls : List (List Char)} (hfeed : '\n' ∉ line)
      (hreturn : line.getLast? ≠ some '\r') (h : BreaksInto rest ls) :
      BreaksInto (line ++ '\n' :: rest) (line :: ls)
  /-- A line is ended by a carriage return and a line feed. -/
  | returnFeed {line rest : List Char} {ls : List (List Char)} (hfeed : '\n' ∉ line)
      (h : BreaksInto rest ls) : BreaksInto (line ++ '\r' :: '\n' :: rest) (line :: ls)

/-- A character that is neither a line feed nor the return before one is put in front of a line. -/
theorem BreaksInto.pushFirst (hc : c ≠ '\n') (hreturn : c = '\r' → cs.head? ≠ some '\n')
    (h : BreaksInto cs ls) : BreaksInto (c :: cs) (pushFirst c ls) := by
  have hmem {line : List Char} (hfeed : '\n' ∉ line) : '\n' ∉ c :: line :=
    List.not_mem_cons_of_ne_of_not_mem hc.symm hfeed
  cases h with
  | nil => exact .last (List.cons_ne_nil c []) (hmem List.not_mem_nil)
  | last hne hfeed => exact .last (List.cons_ne_nil c _) (hmem hfeed)
  | @feed line rest ls hfeed hlast h =>
    refine @BreaksInto.feed (c :: line) rest ls (hmem hfeed) ?_ h
    cases line with
    | nil => exact fun hcr ↦ hreturn (Option.some.inj hcr) rfl
    | cons d more => rwa [List.getLast?_cons_cons]
  | @returnFeed line rest ls hfeed h => exact @BreaksInto.returnFeed (c :: line) rest ls (hmem hfeed) h

/-! ### The lines of a text -/

theorem lines_cons (hc : c ≠ '\n') (hreturn : c = '\r' → cs.head? ≠ some '\n') :
    lines (c :: cs) = pushFirst c (lines cs) := by
  rw [lines]
  · exact hc
  · rintro rest rfl rfl
    exact hreturn rfl rfl

/-- A text breaks into its lines. -/
theorem breaksInto_lines (cs : List Char) : BreaksInto cs (lines cs) := by
  induction cs using lines.induct with
  | case1 => exact .nil
  | case2 rest ih => exact @BreaksInto.feed [] rest _ List.not_mem_nil (by simp) ih
  | case3 rest ih => exact @BreaksInto.returnFeed [] rest _ List.not_mem_nil ih
  | case4 c rest hfeed hreturn ih =>
    have hnext : c = '\r' → rest.head? ≠ some '\n' := by
      rintro rfl hhead
      obtain ⟨more, rfl⟩ := List.head?_eq_some_iff.1 hhead
      exact hreturn more rfl rfl
    rw [lines_cons hfeed hnext]
    exact ih.pushFirst hfeed hnext

/-- What stands in front of the end of a line is that line, if it holds no line feed itself and if the
end is all that there is of it. -/
theorem lines_append {ending : List Char} (hline : '\n' ∉ line)
    (hreturn : line.getLast? = some '\r' → ending.head? ≠ some '\n')
    (hending : lines ending = [] :: ls) : lines (line ++ ending) = line :: ls := by
  induction line with
  | nil => exact hending
  | cons d more ih =>
    have hd : d ≠ '\n' := (List.ne_of_not_mem_cons hline).symm
    have hmore : '\n' ∉ more := List.not_mem_of_not_mem_cons hline
    have hnext : d = '\r' → (more ++ ending).head? ≠ some '\n' := by
      rintro rfl
      cases more with
      | nil => exact hreturn rfl
      | cons e others =>
        rw [List.cons_append, List.head?_cons]
        exact fun heq ↦ hmore (Option.some.inj heq ▸ List.mem_cons_self)
    have hlast : more.getLast? = some '\r' → ending.head? ≠ some '\n' := by
      intro hcr
      obtain ⟨front, rfl⟩ := List.getLast?_eq_some_iff.1 hcr
      exact hreturn (by rw [← List.cons_append, List.getLast?_concat])
    rw [List.cons_append, lines_cons hd hnext, ih hmore hlast]
    rfl

theorem lines_of_not_mem (hne : line ≠ []) (hline : '\n' ∉ line) : lines line = [line] := by
  induction line with
  | nil => exact absurd rfl hne
  | cons d more ih =>
    have hd : d ≠ '\n' := (List.ne_of_not_mem_cons hline).symm
    have hmore : '\n' ∉ more := List.not_mem_of_not_mem_cons hline
    rw [lines_cons hd fun _ hhead ↦ hmore (List.mem_of_mem_head? hhead)]
    cases more with
    | nil => rfl
    | cons e others => rw [ih (List.cons_ne_nil e others) hmore, pushFirst]

/-- **A text breaks into its lines and into no others.** -/
theorem breaksInto_iff : BreaksInto cs ls ↔ ls = lines cs := by
  constructor
  · intro h
    induction h with
    | nil => rfl
    | last hne hfeed => exact (lines_of_not_mem hne hfeed).symm
    | feed hfeed hreturn h ih =>
      subst ih
      exact (lines_append hfeed (fun hcr ↦ absurd hcr hreturn) (lines_newline _)).symm
    | returnFeed hfeed h ih =>
      subst ih
      exact (lines_append hfeed (fun _ ↦ by simp) (lines_return_newline _)).symm
  · rintro rfl
    exact breaksInto_lines cs

/-! ### White space at the end -/

/-- What is left once the white space at the end is gone does not end in white space. -/
theorem isBlank_of_mem_getLast?_trimEnd (h : c ∈ (trimEnd cs).getLast?) : isBlank c = false := by
  obtain ⟨hne, rfl⟩ := List.mem_getLast?_eq_getLast h
  exact Bool.eq_false_iff.2 (List.rdropWhile_last_not isBlank cs hne)

theorem trimEnd_eq_nil_iff : trimEnd cs = [] ↔ cs.all isBlank = true := by
  rw [List.all_eq_true]
  exact List.rdropWhile_eq_nil_iff

end ClientSynthesis.Text
