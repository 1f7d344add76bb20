import ClientSynthesis.Proofs.Naming.Variants
import ClientSynthesis.Proofs.Naming.WordContent
import Mathlib.Data.List.Basic

/-!
# Legal identifiers

From an ASCII text a name is made that is legal where it stands (`names_legal_of_ascii`). It takes three
steps. Cutting a text into words leaves no word empty (`ne_nil_of_mem_words`), so what is spelled from
the words begins with a letter or a digit, and an underscore only ever stands between such characters.
The prefix takes care of a digit in front, and of nothing else. What is left is spelled like an
identifier (`IsSpelled`), and a keyword among those is escaped: none of the escapes makes a keyword
again, and a mark is put in front of those keywords only that may have one (`escapeKeyword_cases`).

A variant begins with a capital, and of the keywords only `Self` does, so no variant needs the mark.
-/

namespace ClientSynthesis.Naming

open Text

/-! ### No word is empty -/

theorem ne_nil_of_mem_pushFirst {c : Char} {pieces : List (List Char)}
    (h : ∀ piece ∈ pieces.tail, piece ≠ []) : ∀ piece ∈ pushFirst c pieces, piece ≠ [] := by
  cases pieces with
  | nil => exact List.forall_mem_singleton.2 (List.cons_ne_nil c [])
  | cons piece rest => exact List.forall_mem_cons.2 ⟨List.cons_ne_nil c piece, h⟩

/-- Of the words of a run only the first may be empty, and only if it ends a run of capitals. -/
theorem ne_nil_of_mem_runWords (r : Rhythm) (cs : List Char) :
    (∀ word ∈ (runWords r cs).tail, word ≠ []) ∧
      (r ≠ .upper → ∀ word ∈ runWords r cs, word ≠ []) := by
  induction r, cs using runWords.induct with
  | case1 r => exact ⟨List.forall_mem_nil _, fun _ ↦ List.forall_mem_nil _⟩
  | case2 r c =>
    exact ⟨List.forall_mem_nil _, fun _ ↦ List.forall_mem_singleton.2 (List.cons_ne_nil c [])⟩
  | case3 r c next rest hcut ih =>
    have hrest := ih.2 (by decide)
    rw [runWords, if_pos hcut]
    exact ⟨hrest, fun _ ↦ List.forall_mem_cons.2 ⟨List.cons_ne_nil c [], hrest⟩⟩
  | case4 r c next rest hcut hcapital ih =>
    rw [runWords, if_neg hcut, if_pos hcapital]
    exact ⟨ne_nil_of_mem_pushFirst ih.1, fun hne ↦ absurd hcapital.1 hne⟩
  | case5 r c next rest hcut hcapital ih =>
    have hall := ne_nil_of_mem_pushFirst (c := c) ih.1
    rw [runWords, if_neg hcut, if_neg hcapital]
    exact ⟨fun word hword ↦ hall word (List.mem_of_mem_tail hword), fun _ ↦ hall⟩

/-- **No word of a name is empty.** -/
theorem ne_nil_of_mem_words {name word : List Char} (h : word ∈ words name) : word ≠ [] := by
  obtain ⟨piece, -, hword⟩ := List.mem_flatMap.1 h
  exact (ne_nil_of_mem_runWords .none piece).2 (by decide) word hword

/-! ### What is spelled from ASCII words -/

/-- The words of an ASCII text are made of ASCII letters and digits. -/
theorem isAlphanum_of_mem_words {name word : List Char} (hname : ∀ c ∈ name, c.toNat < 0x80)
    (hword : word ∈ words name) : ∀ c ∈ word, c.toNat < 0x80 ∧ c.isAlphanum = true := by
  intro c hc
  have hmem : c ∈ (words name).flatten := List.mem_flatten.2 ⟨word, hword, hc⟩
  rw [flatten_words] at hmem
  obtain ⟨hmem, halnum⟩ := List.mem_filter.1 hmem
  exact ⟨hname c hmem, by rwa [← isAlphanumeric_of_ascii (hname c hmem)]⟩

theorem isAlphanum_toLower {c : Char} (hc : c.toNat < 0x80) (h : c.isAlphanum = true) :
    c.toLower.isAlphanum = true :=
  of_ascii (p := fun c ↦ c.isAlphanum = true → c.toLower.isAlphanum = true) (by decide) hc h

/-- What is known of a letter or digit that has been put in upper case. -/
theorem toUpper_facts {c : Char} (hc : c.toNat < 0x80) (h : c.isAlphanum = true) :
    c.toUpper.isAlphanum = true ∧ c.toUpper.isLower = false :=
  of_ascii (p := fun c ↦ c.isAlphanum = true → c.toUpper.isAlphanum = true ∧ c.toUpper.isLower = false)
    (by decide) hc h

/-- A word in lower case has letters and digits where the word has. -/
theorem isAlphanum_of_mem_lowerWord {word : List Char}
    (h : ∀ c ∈ word, c.toNat < 0x80 ∧ c.isAlphanum = true) :
    ∀ d ∈ lowerWord word, d.isAlphanum = true := by
  rw [lowerWord_of_ascii fun c hc ↦ (h c hc).1]
  exact List.forall_mem_map.2 fun c hc ↦ isAlphanum_toLower (h c hc).1 (h c hc).2

/-- Pieces that are put together begin as the first of them does, unless that is empty. -/
theorem head?_joinWith (sep : Char) {piece : List Char} (rest : List (List Char)) (h : piece ≠ []) :
    (joinWith sep (piece :: rest)).head? = piece.head? := by
  cases rest with
  | nil => rfl
  | cons next more => exact List.head?_append_of_ne_nil piece h

/-- A text in lower case words has letters, digits and underscores, and no underscore in front. -/
theorem snakeCase_of_ascii {name : List Char} (hname : ∀ c ∈ name, c.toNat < 0x80) :
    (∀ c ∈ (snakeCase name).head?, c.isAlphanum = true) ∧
      ∀ c ∈ snakeCase name, c.isAlphanum = true ∨ c = '_' := by
  have hlower : ∀ piece ∈ (words name).map lowerWord, ∀ c ∈ piece, c.isAlphanum = true :=
    List.forall_mem_map.2 fun word hword ↦
      isAlphanum_of_mem_lowerWord (isAlphanum_of_mem_words hname hword)
  have hne : ∀ piece ∈ (words name).map lowerWord, piece ≠ [] :=
    List.forall_mem_map.2 fun word hword ↦ mt lowerWord_eq_nil_iff.1 (ne_nil_of_mem_words hword)
  rw [snakeCase]
  constructor
  · cases hpieces : (words name).map lowerWord with
    | nil => exact fun c hc ↦ absurd hc (Option.not_mem_none c)
    | cons piece rest =>
      have hmem : piece ∈ (words name).map lowerWord := hpieces ▸ List.mem_cons_self
      rw [head?_joinWith '_' rest (hne piece hmem)]
      exact fun c hc ↦ hlower piece hmem c (List.mem_of_mem_head? hc)
  · intro c hc
    rcases mem_joinWith hc with rfl | ⟨piece, hpiece, hmem⟩
    · exact .inr rfl
    · exact .inl (hlower piece hpiece c hmem)

/-- A capitalised word has letters and digits, and no small letter in front. -/
theorem capitalWord_of_ascii {word : List Char} (hne : word ≠ [])
    (h : ∀ c ∈ word, c.toNat < 0x80 ∧ c.isAlphanum = true) :
    capitalWord word ≠ [] ∧ (∀ c ∈ (capitalWord word).head?, c.isLower = false) ∧
      ∀ c ∈ capitalWord word, c.isAlphanum = true := by
  cases word with
  | nil => exact absurd rfl hne
  | cons c rest =>
    obtain ⟨⟨hascii, halnum⟩, hrest⟩ := List.forall_mem_cons.1 h
    obtain ⟨hupper, hlower⟩ := toUpper_facts hascii halnum
    rw [capitalWord, upperChar_of_ascii hascii, List.singleton_append]
    refine ⟨List.cons_ne_nil _ _, fun d hd ↦ ?_,
      List.forall_mem_cons.2 ⟨hupper, isAlphanum_of_mem_lowerWord hrest⟩⟩
    rwa [← Option.some.inj hd]

/-- A text in capitalised words has letters and digits, and no small letter in front. -/
theorem camelCase_of_ascii {name : List Char} (hname : ∀ c ∈ name, c.toNat < 0x80) :
    (∀ c ∈ (camelCase name).head?, c.isLower = false) ∧
      ∀ c ∈ camelCase name, c.isAlphanum = true := by
  have hcapital : ∀ word ∈ (words name).map capitalWord, word ≠ [] ∧
      (∀ c ∈ word.head?, c.isLower = false) ∧ ∀ c ∈ word, c.isAlphanum = true :=
    List.forall_mem_map.2 fun word hword ↦
      capitalWord_of_ascii (ne_nil_of_mem_words hword) (isAlphanum_of_mem_words hname hword)
  rw [camelCase]
  constructor
  · cases hwords : (words name).map capitalWord with
    | nil => exact fun c hc ↦ absurd hc (Option.not_mem_none c)
    | cons word rest =>
      obtain ⟨hne, hlower, -⟩ := hcapital word (hwords ▸ List.mem_cons_self)
      rw [List.flatten_cons, List.head?_append_of_ne_nil word hne]
      exact hlower
  · intro c hc
    obtain ⟨word, hword, hc⟩ := List.mem_flatten.1 hc
    exact (hcapital word hword).2.2 c hc

/-! ### Identifiers -/

/-- A text that is spelled like an identifier: letters, digits and underscores, no digit in front, and
not an underscore alone. -/
structure IsSpelled (ident : String) : Prop where
  ne_empty : ident ≠ ""
  ne_underscore : ident ≠ "_"
  chars : ∀ c ∈ ident.toList, c.isAlphanum = true ∨ c = '_'
  first : ∀ c ∈ ident.toList.head?, c.isDigit = false

/-- A legal identifier in ASCII. -/
structure IsIdentifier (ident : String) : Prop extends IsSpelled ident where
  not_keyword : isKeyword ident = false

theorem isSpelled_ofList {c : Char} {cs : List Char}
    (hchars : ∀ d ∈ c :: cs, d.isAlphanum = true ∨ d = '_') (hdigit : c.isDigit = false)
    (halone : c = '_' → cs ≠ []) : IsSpelled (String.ofList (c :: cs)) where
  ne_empty := by simp
  ne_underscore := by
    intro heq
    have hlist : c :: cs = ['_'] := by rw [← String.toList_ofList (l := c :: cs), heq]; rfl
    obtain ⟨rfl, rfl⟩ := List.cons_eq_cons.1 hlist
    exact halone rfl rfl
  chars := by rwa [String.toList_ofList]
  first := by
    rw [String.toList_ofList]
    rintro d hd
    rwa [← Option.some.inj hd]

theorem IsSpelled.append_underscore {ident : String} (h : IsSpelled ident) :
    IsSpelled (ident ++ "_") := by
  obtain ⟨hne, -, hchars, hfirst⟩ := h
  cases htext : ident.toList with
  | nil => exact absurd (String.toList_eq_nil_iff.1 htext) hne
  | cons c cs =>
    rw [htext] at hchars hfirst
    have heq : ident ++ "_" = String.ofList (c :: (cs ++ ['_'])) :=
      String.toList_injective (by simp [htext])
    rw [heq]
    refine isSpelled_ofList ?_ (hfirst c rfl) fun _ ↦ by simp
    rw [← List.cons_append]
    exact List.forall_mem_append.2 ⟨hchars, List.forall_mem_singleton.2 (.inr rfl)⟩

/-- What is spelled like an identifier is one after escaping, or it is a keyword behind the raw mark,
and one that may stand there. -/
theorem escapeKeyword_cases {ident : String} (h : IsSpelled ident) :
    IsIdentifier (escapeKeyword ident) ∨
      isKeyword ident = true ∧ ident ∉ pathKeywords ∧ escapeKeyword ident = "r#" ++ ident := by
  unfold escapeKeyword
  split_ifs with hpath hkeyword
  · have hwords : ∀ word ∈ pathKeywords, isKeyword (word ++ "_") = false := by
      decide +kernel
    exact .inl ⟨h.append_underscore, hwords ident (List.contains_iff_mem.1 hpath)⟩
  · exact .inr ⟨hkeyword, mt List.contains_iff_mem.2 hpath, rfl⟩
  · exact .inl ⟨h, Bool.eq_false_iff.2 hkeyword⟩

/-- The only keyword without a small letter in front is one that no raw identifier may spell. -/
theorem mem_pathKeywords_of_isKeyword {ident : String} (h : isKeyword ident = true)
    (hfirst : ∀ c ∈ ident.toList.head?, c.isLower = false) : ident ∈ pathKeywords := by
  have hwords : ∀ word ∈ keywords,
      word.toList.head?.any Char.isLower = false → word ∈ pathKeywords := by
    decide +kernel
  exact hwords ident (List.contains_iff_mem.1 h) ((Option.any_eq_false _ _).2 hfirst)

/-- The identifier of a field is legal or raw, if there is anything to spell it from. -/
theorem fieldName_cases {name : String} (hname : ∀ c ∈ name.toList, c.toNat < 0x80)
    (hsome : ∃ c ∈ name.toList, c.isAlphanum = true) :
    IsIdentifier (fieldName name) ∨
      ∃ keyword, isKeyword keyword = true ∧ keyword ∉ pathKeywords ∧
        fieldName name = "r#" ++ keyword := by
  obtain ⟨hfirst, hchars⟩ := snakeCase_of_ascii hname
  have hspelled : IsSpelled (String.ofList (if startsWithDigit (snakeCase name.toList) then
      '_' :: snakeCase name.toList else snakeCase name.toList)) := by
    cases hsnake : snakeCase name.toList with
    | nil =>
      obtain ⟨c, hc, halnum⟩ := hsome
      rw [← isAlphanumeric_of_ascii (hname c hc), snakeCase_eq_nil_iff.1 hsnake c hc] at halnum
      exact absurd halnum Bool.false_ne_true
    | cons c cs =>
      rw [hsnake] at hfirst hchars
      split_ifs with hdigit
      · exact isSpelled_ofList (List.forall_mem_cons.2 ⟨.inr rfl, hchars⟩) rfl
          fun _ ↦ List.cons_ne_nil c cs
      · refine isSpelled_ofList hchars (Bool.eq_false_iff.2 hdigit) ?_
        rintro rfl
        exact absurd (hfirst '_' rfl) (by decide)
  rcases escapeKeyword_cases hspelled with hlegal | hraw
  · exact .inl hlegal
  · exact .inr ⟨_, hraw⟩

/-- The identifier of a variant is legal. -/
theorem isIdentifier_variantName {option : String} (h : ∀ c ∈ option.toList, c.toNat < 0x80) :
    IsIdentifier (variantName option) := by
  obtain ⟨hfirst, hchars⟩ := camelCase_of_ascii h
  unfold variantName
  cases hcamel : camelCase option.toList with
  | nil => exact ⟨isSpelled_ofList (c := 'E') (by simp) rfl nofun, by decide⟩
  | cons c cs =>
    rw [hcamel] at hfirst hchars
    have hword : ∀ d ∈ c :: cs, d.isAlphanum = true ∨ d = '_' := fun d hd ↦ .inl (hchars d hd)
    dsimp only [List.isEmpty_cons]
    rw [if_neg Bool.false_ne_true]
    split_ifs with hdigit
    · refine ⟨isSpelled_ofList (List.forall_mem_cons.2 ⟨.inl rfl, hword⟩) rfl nofun, ?_⟩
      refine Bool.eq_false_iff.2 fun hkeyword ↦ ?_
      have hpath := mem_pathKeywords_of_isKeyword hkeyword (by simp +decide)
      have hother : ∀ word ∈ pathKeywords, word.toList.head? ≠ some 'V' := by decide
      exact hother _ hpath (by simp)
    · have hspelled : IsSpelled (String.ofList (c :: cs)) := by
        refine isSpelled_ofList hword (Bool.eq_false_iff.2 hdigit) ?_
        rintro rfl
        exact absurd (hchars '_' List.mem_cons_self) (by decide)
      rcases escapeKeyword_cases hspelled with hlegal | ⟨hkeyword, hpath, -⟩
      · exact hlegal
      · refine absurd (mem_pathKeywords_of_isKeyword hkeyword ?_) hpath
        rwa [String.toList_ofList]

/-- **From an ASCII text legal names are made.** The identifier of a variant is one, whatever the text.
That of a field is one too, or a keyword behind the raw mark that may stand there, if the text has a
letter or a digit; and it is empty if it has none. -/
theorem names_legal_of_ascii {name : String} (h : ∀ c ∈ name.toList, c.toNat < 0x80) :
    IsIdentifier (variantName name) ∧
      ((∃ c ∈ name.toList, c.isAlphanum = true) →
        IsIdentifier (fieldName name) ∨
          ∃ keyword, isKeyword keyword = true ∧ keyword ∉ pathKeywords ∧
            fieldName name = "r#" ++ keyword) ∧
      ((∀ c ∈ name.toList, c.isAlphanum = false) → fieldName name = "") := by
  refine ⟨isIdentifier_variantName h, fieldName_cases h, fun hnone ↦ ?_⟩
  rw [fieldName_eq_empty_iff]
  exact fun c hc ↦ (isAlphanumeric_of_ascii (h c hc)).trans (hnone c hc)

theorem names_legal_of_self :
    IsIdentifier (variantName "self") ∧
      (IsIdentifier (fieldName "self") ∨
        ∃ keyword, isKeyword keyword = true ∧ keyword ∉ pathKeywords ∧
          fieldName "self" = "r#" ++ keyword) ∧
      fieldName "*" = "" := by
  obtain ⟨hvariant, hfield, -⟩ := @names_legal_of_ascii "self" (by simp)
  obtain ⟨-, -, hempty⟩ := @names_legal_of_ascii "*" (by simp)
  exact ⟨hvariant, hfield ⟨'s', by decide, by decide⟩, hempty (by simp)⟩

end ClientSynthesis.Naming
