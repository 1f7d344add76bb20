import ClientSynthesis.Proofs.Naming.NameCharacters

/-!
# Names of variants

A variant is named by capitalised words that are run together. The words come from any text where
the options of an enum are concerned, and all that is known of the name is what characters it is
made of (`isNameChar_of_mem_variantName`). The methods of a protocol are named by a token of ASCII
letters, which is one word, and there the name is known: a capital and then small letters
(`verbVariant_eq`), so that tokens share it just if they are the same but for case
(`verbVariant_eq_iff`).
-/

namespace ClientSynthesis.Text

/-- Upper case keeps to word characters. -/
theorem isWordChar_of_mem_upperChar {c d : Char} (hc : isWordChar c = true)
    (hd : d ∈ upperChar c) : isWordChar d = true := by
  unfold upperChar at hd
  split_ifs at hd with hascii
  · obtain rfl := List.mem_singleton.1 hd
    exact of_ascii (p := fun c ↦ isWordChar c = true → isWordChar c.toUpper = true) (by decide)
      hascii hc
  · exact isWordChar_of_mem_mapCase (by decide +kernel) (by decide +kernel) hc hd

end ClientSynthesis.Text

namespace ClientSynthesis.Naming

open Text

/-! ### Variants of enums -/

/-- Whatever the text, its words run together hold word characters only. -/
theorem isWordChar_of_mem_camelCase {name : List Char} {d : Char} (hd : d ∈ camelCase name) :
    isWordChar d = true := by
  obtain ⟨capital, hcapital, hd⟩ := List.mem_flatten.1 hd
  obtain ⟨word, hword, rfl⟩ := List.mem_map.1 hcapital
  have hchars : ∀ c ∈ word, isWordChar c = true :=
    fun c hc ↦ isWordChar_of_isAlphanumeric (isAlphanumeric_of_mem_words hword hc)
  cases word with
  | nil => exact nomatch hd
  | cons c rest =>
    obtain ⟨hc, hrest⟩ := List.forall_mem_cons.1 hchars
    rcases List.mem_append.1 hd with hd | hd
    · exact isWordChar_of_mem_upperChar hc hd
    · exact isWordChar_of_mem_lowerWord hrest hd

/-- Every character of a variant is a name character. -/
theorem isNameChar_of_mem_variantName (option : String) :
    ∀ c ∈ (variantName option).toList, isNameChar c = true := by
  intro c h
  unfold variantName at h
  dsimp only at h
  split_ifs at h with hempty hdigit
  · have hall : "Empty".toList.all isNameChar = true := by decide
    exact List.all_eq_true.1 hall c h
  · rw [String.toList_ofList] at h
    rcases List.mem_cons.1 h with rfl | h
    · decide
    · exact isNameChar_of_isWordChar (isWordChar_of_mem_camelCase h)
  · refine isNameChar_of_mem_escapeKeyword (fun d hd ↦ ?_) h
    rw [String.toList_ofList] at hd
    exact isWordChar_of_mem_camelCase hd

/-! ### Variants of methods -/

/-- So is every character of the variant for a token. -/
theorem isNameChar_of_mem_verbVariant (token : String) :
    ∀ c ∈ (verbVariant token).toList, isNameChar c = true := by
  intro c h
  rw [verbVariant, String.toList_ofList] at h
  exact isNameChar_of_isWordChar (isWordChar_of_mem_camelCase h)

/-- A word of letters with the first in upper case and the others in lower case. -/
def capitalized : List Char → List Char
  | [] => []
  | c :: rest => c.toUpper :: rest.map Char.toLower

/-- A text of letters is lowered letter by letter. -/
theorem lowercase_of_isAlpha {cs : List Char} (h : ∀ c ∈ cs, c.isAlpha = true) :
    lowercase cs = cs.map Char.toLower := by
  have hafter (before : List Char) : lowercaseAfter before cs = cs.map Char.toLower := by
    induction cs generalizing before with
    | nil => rfl
    | cons c rest ih =>
      obtain ⟨hc, hrest⟩ := List.forall_mem_cons.1 h
      have hsigma : c ≠ 'Σ' := by
        rintro rfl
        exact absurd hc (by decide)
      rw [lowercaseAfter, if_neg hsigma, lowerChar_of_ascii (lt_of_isAlpha hc), ih hrest]
      rfl
  exact hafter []

/-- A run without upper case letters is one word. -/
theorem runWords_of_not_isUppercase {r : Rhythm} {cs : List Char} (hne : cs ≠ [])
    (h : ∀ c ∈ cs, isUppercase c = false) : runWords r cs = [cs] := by
  induction r, cs using runWords.induct with
  | case1 r => exact absurd rfl hne
  | case2 r c => rfl
  | case3 r c next rest hcut ih =>
    have hnext := h next (by simp)
    exact absurd hcut.2 (by simp [hnext])
  | case4 r c next rest hcut hcapital ih =>
    have hc := h c (by simp)
    exact absurd hcapital.2.1 (by simp [hc])
  | case5 r c next rest hcut hcapital ih =>
    rw [runWords, if_neg hcut, if_neg hcapital,
      ih (List.cons_ne_nil _ _) fun d hd ↦ h d (List.mem_cons_of_mem c hd)]
    rfl

/-- A word of ASCII characters is lowered character by character. -/
theorem lowerWord_of_ascii {cs : List Char} (h : ∀ c ∈ cs, c.toNat < 0x80) :
    lowerWord cs = cs.map Char.toLower := by
  induction cs using lowerWord.induct with
  | case1 => rfl
  | case2 => exact absurd (h 'Σ' List.mem_cons_self) (by decide)
  | case3 c rest hsigma ih =>
    obtain ⟨hc, hrest⟩ := List.forall_mem_cons.1 h
    rw [lowerWord, lowerChar_of_ascii hc, ih hrest]
    · rfl
    · exact hsigma

/-- What is known of a letter that has been lowered. -/
theorem toLower_facts {c : Char} (h : c.isAlpha = true) :
    c.toLower.isAlpha = true ∧ c.toLower.isUpper = false ∧ c.toLower.toLower = c.toLower ∧
      c.toLower.toUpper = c.toUpper ∧ c.toUpper.toLower = c.toLower :=
  of_ascii (p := fun c ↦ c.isAlpha = true → c.toLower.isAlpha = true ∧ c.toLower.isUpper = false ∧
    c.toLower.toLower = c.toLower ∧ c.toLower.toUpper = c.toUpper ∧ c.toUpper.toLower = c.toLower)
    (by decide) (lt_of_isAlpha h) h

/-- What has been lowered stays as it is. -/
theorem map_toLower_idem {cs : List Char} (h : ∀ c ∈ cs, c.isAlpha = true) :
    (cs.map Char.toLower).map Char.toLower = cs.map Char.toLower := by
  rw [List.map_map]
  exact List.map_congr_left fun c hc ↦ (toLower_facts (h c hc)).2.2.1

/-- **The variant for a token of letters** is the token, capitalized. -/
theorem verbVariant_eq {token : String} (h : ∀ c ∈ token.toList, c.isAlpha = true) :
    verbVariant token = String.ofList (capitalized token.toList) := by
  rw [verbVariant, lowercase_of_isAlpha h]
  congr 1
  cases htoken : token.toList with
  | nil => rfl
  | cons c rest =>
    rw [htoken] at h
    have hlow : ∀ d ∈ (c :: rest).map Char.toLower, d.isAlpha = true ∧ isUppercase d = false := by
      refine List.forall_mem_map.2 fun d hd ↦ ?_
      obtain ⟨halpha, hupper, -⟩ := toLower_facts (h d hd)
      exact ⟨halpha, by rw [isUppercase_of_ascii (lt_of_isAlpha halpha), hupper]⟩
    have hwords : words ((c :: rest).map Char.toLower) = [(c :: rest).map Char.toLower] := by
      rw [words, splitWhere_of_forall, List.flatMap_singleton]
      · exact runWords_of_not_isUppercase (List.cons_ne_nil _ _) fun d hd ↦ (hlow d hd).2
      · intro d hd
        obtain ⟨halpha, -⟩ := hlow d hd
        rw [isAlphanumeric_of_ascii (lt_of_isAlpha halpha)]
        simp [Char.isAlphanum, halpha]
    obtain ⟨hc, hrest⟩ := List.forall_mem_cons.1 h
    obtain ⟨halpha, -, -, hupper, -⟩ := toLower_facts hc
    rw [camelCase, hwords, List.map_cons, List.map_nil, List.flatten_singleton, List.map_cons,
      capitalWord, upperChar_of_ascii (lt_of_isAlpha halpha), hupper, lowerWord_of_ascii,
      map_toLower_idem hrest]
    · rfl
    · exact List.forall_mem_map.2 fun d hd ↦ lt_of_isAlpha (toLower_facts (hrest d hd)).1

theorem map_toLower_capitalized {cs : List Char} (h : ∀ c ∈ cs, c.isAlpha = true) :
    (capitalized cs).map Char.toLower = cs.map Char.toLower := by
  cases cs with
  | nil => rfl
  | cons c rest =>
    obtain ⟨hc, hrest⟩ := List.forall_mem_cons.1 h
    rw [capitalized, List.map_cons, List.map_cons, (toLower_facts hc).2.2.2.2,
      map_toLower_idem hrest]

theorem capitalized_map_toLower {cs : List Char} (h : ∀ c ∈ cs, c.isAlpha = true) :
    capitalized (cs.map Char.toLower) = capitalized cs := by
  cases cs with
  | nil => rfl
  | cons c rest =>
    obtain ⟨hc, hrest⟩ := List.forall_mem_cons.1 h
    rw [List.map_cons, capitalized, capitalized, (toLower_facts hc).2.2.2.1, map_toLower_idem hrest]

/-- **Tokens share a variant just if they are the same but for case.** -/
theorem verbVariant_eq_iff {token other : String} (htoken : ∀ c ∈ token.toList, c.isAlpha = true)
    (hother : ∀ c ∈ other.toList, c.isAlpha = true) :
    verbVariant token = verbVariant other ↔
      token.toList.map Char.toLower = other.toList.map Char.toLower := by
  rw [verbVariant_eq htoken, verbVariant_eq hother, String.ofList_inj]
  constructor
  · intro h
    rw [← map_toLower_capitalized htoken, h, map_toLower_capitalized hother]
  · intro h
    rw [← capitalized_map_toLower htoken, h, capitalized_map_toLower hother]

end ClientSynthesis.Naming
