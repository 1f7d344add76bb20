import ClientSynthesis.Proofs.Naming.NameCharacters

/-!
# Keywords among the module names

A keyword is escaped in a field identifier, and most of them are escaped by a raw mark. A module name
is a field identifier without that mark, since a file cannot be named with it. So a module name is a
keyword just if the identifier had the mark (`isKeyword_moduleName_iff`): the words that no raw
identifier may spell keep their underscore, and what was no keyword is none without a mark either.
-/

namespace ClientSynthesis.Naming

open Text

/-- A name whose identifier is a keyword under the raw mark. -/
def IsRaw (name : String) : Prop := fieldName name = "r#" ++ moduleName name

instance (name : String) : Decidable (IsRaw name) :=
  inferInstanceAs (Decidable (fieldName name = "r#" ++ moduleName name))

theorem dropRawMarks_of_not_mem {cs : List Char} (h : '#' ∉ cs) : dropRawMarks cs = cs := by
  unfold dropRawMarks
  split
  · exact absurd (by simp) h
  · rfl

/-- An identifier before it is escaped is the field identifier of its name, or that with something
added, and holds no raw mark. -/
theorem exists_fieldName_eq_escapeKeyword (name : String) :
    ∃ ident, fieldName name = escapeKeyword ident ∧ '#' ∉ ident.toList := by
  refine ⟨_, rfl, ?_⟩
  rw [String.toList_ofList]
  have hsnake : '#' ∉ snakeCase name.toList := fun h ↦
    absurd (isWordChar_of_mem_snakeCase h) (by decide)
  split_ifs
  · simpa using hsnake
  · exact hsnake

/-- An escaped identifier without its raw mark is a keyword, or there was no mark to drop. -/
theorem bare_escapeKeyword {ident bare : String} (h : '#' ∉ ident.toList)
    (hbare : bare = String.ofList (dropRawMarks (escapeKeyword ident).toList)) :
    (escapeKeyword ident = "r#" ++ bare ∧ isKeyword bare = true) ∨
      (escapeKeyword ident = bare ∧ isKeyword bare = false) := by
  have hdrop : String.ofList (dropRawMarks ident.toList) = ident := by
    rw [dropRawMarks_of_not_mem h, String.ofList_toList]
  unfold escapeKeyword at hbare ⊢
  split_ifs at hbare ⊢ with hpath hkeyword
  · have hwords : ∀ word ∈ pathKeywords,
        String.ofList (dropRawMarks (word ++ "_").toList) = word ++ "_" ∧
          isKeyword (word ++ "_") = false := by
      decide +kernel
    obtain ⟨hmark, hnot⟩ := hwords ident (List.contains_iff_mem.1 hpath)
    rw [hmark] at hbare
    exact .inr ⟨hbare.symm, hbare ▸ hnot⟩
  · obtain rfl : bare = ident := by
      rw [hbare, String.toList_append]
      exact hdrop
    exact .inl ⟨rfl, hkeyword⟩
  · obtain rfl : bare = ident := hbare.trans hdrop
    exact .inr ⟨rfl, Bool.eq_false_iff.2 hkeyword⟩

theorem ne_append_self (text : String) : text ≠ "r#" ++ text := by
  intro heq
  have hlength := congrArg String.length heq
  rw [String.length_append, show "r#".length = 2 from rfl] at hlength
  omega

/-- A module name is a keyword just if the identifier of its definition is a raw one. -/
theorem isKeyword_moduleName_iff (name : String) :
    isKeyword (moduleName name) = true ↔ IsRaw name := by
  obtain ⟨ident, hident, hmark⟩ := exists_fieldName_eq_escapeKeyword name
  have hbare : moduleName name = String.ofList (dropRawMarks (escapeKeyword ident).toList) := by
    rw [moduleName, bareFieldName, hident]
  rw [IsRaw, hident]
  rcases bare_escapeKeyword hmark hbare with ⟨hraw, hkeyword⟩ | ⟨hplain, hnot⟩
  · exact ⟨fun _ ↦ hraw, fun _ ↦ hkeyword⟩
  · rw [hplain, hnot]
    exact ⟨fun heq ↦ absurd heq Bool.false_ne_true, fun heq ↦ absurd heq (ne_append_self _)⟩

end ClientSynthesis.Naming
