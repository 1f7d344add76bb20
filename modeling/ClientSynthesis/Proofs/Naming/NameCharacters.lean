import ClientSynthesis.Naming.Identifier
import Mathlib.Tactic.SplitIfs

/-!
# The characters of generated names

A generated name may come from any text, yet of the ASCII characters it holds only letters, digits,
the underscore and, as the raw mark of a keyword, `#` (`isNameChar_of_mem_fieldName`). Beyond ASCII
nothing is excluded: a case mapping may leave the letters and numbers, as `İ` does with its
combining dot.

What ASCII a case mapping can produce is a property of its tables, and `CaseRun.Safe` is the form in
which the tables are checked: a run stays beyond ASCII and off the surrogates, or is a single
mapping into the ASCII letters, of which the Kelvin sign is the one example.
-/

namespace ClientSynthesis.Text

/-! ### ASCII -/

/-- What holds of the ASCII characters one by one holds of each of them. -/
theorem of_ascii {p : Char → Prop} (h : ∀ n < 0x80, p (Char.ofNat n)) {c : Char}
    (hc : c.toNat < 0x80) : p c := by
  have hchar := h c.toNat hc
  rwa [Char.ofNat_toNat] at hchar

theorem isAlpha_eq_true_iff {c : Char} :
    c.isAlpha = true ↔ 'A' ≤ c ∧ c ≤ 'Z' ∨ 'a' ≤ c ∧ c ≤ 'z' := by
  have hupper : c.isUpper = decide ('A' ≤ c ∧ c ≤ 'Z') := rfl
  have hlower : c.isLower = (decide ('a' ≤ c) && decide (c ≤ 'z')) := rfl
  have halpha : c.isAlpha = (c.isUpper || c.isLower) := rfl
  simp only [halpha, hupper, hlower, Bool.or_eq_true, Bool.and_eq_true, decide_eq_true_eq]

theorem lt_of_isAlpha {c : Char} (h : c.isAlpha = true) : c.toNat < 0x80 := by
  have hlt (d : Char) (hd : d.toNat < 0x80) (hcd : c ≤ d) : c.toNat < 0x80 :=
    Nat.lt_of_le_of_lt (UInt32.le_iff_toNat_le.1 hcd) hd
  rcases isAlpha_eq_true_iff.1 h with ⟨-, hcd⟩ | ⟨-, hcd⟩
  · exact hlt 'Z' (by decide) hcd
  · exact hlt 'z' (by decide) hcd

/-! ### Word characters -/

/-- Whether a character is an ASCII letter, digit or underscore, or no ASCII character at all. -/
def isWordChar (c : Char) : Bool :=
  c.isAlphanum || c == '_' || decide (0x80 ≤ c.toNat)

theorem isWordChar_of_le {c : Char} (h : 0x80 ≤ c.toNat) : isWordChar c = true := by
  simp [isWordChar, h]

theorem isWordChar_of_isAlphanumeric {c : Char} (h : isAlphanumeric c = true) :
    isWordChar c = true := by
  rcases Nat.lt_or_ge c.toNat 0x80 with hlt | hge
  · rw [isAlphanumeric_of_ascii hlt] at h
    simp [isWordChar, h]
  · exact isWordChar_of_le hge

/-- The lower case of an ASCII word character is one. -/
theorem isWordChar_toLower_of_ascii {c : Char} (hascii : c.toNat < 0x80)
    (hc : isWordChar c = true) : isWordChar c.toLower = true :=
  of_ascii (p := fun c ↦ isWordChar c = true → isWordChar c.toLower = true) (by decide) hascii hc

/-! ### Case mapping -/

theorem toNat_ofNat_of_isValidChar {n : Nat} (h : n.isValidChar) : (Char.ofNat n).toNat = n := by
  rw [Char.ofNat, dif_pos h]
  rfl

/-- A run that maps word characters to word characters. -/
def CaseRun.Safe (r : CaseRun) : Prop :=
  (0x80 ≤ r.first + r.shift ∧
    (r.last + r.shift < 0xD800 ∨ 0xDFFF < r.first + r.shift ∧ r.last + r.shift < 0x110000)) ∨
  (r.first = r.last ∧ isWordChar (Char.ofNat (r.target r.first)) = true)

instance (r : CaseRun) : Decidable r.Safe := by
  unfold CaseRun.Safe
  infer_instance

theorem CaseRun.Safe.isWordChar_target {r : CaseRun} (hr : r.Safe) {n : Nat}
    (h : r.covers n = true) : isWordChar (Char.ofNat (r.target n)) = true := by
  simp only [CaseRun.covers, Bool.and_eq_true, decide_eq_true_eq] at h
  obtain ⟨⟨hfirst, hlast⟩, -⟩ := h
  rcases hr with ⟨hlow, hvalid⟩ | ⟨hsingle, hword⟩
  · -- All targets of the run lie on one side of the surrogates, so each is a character.
    have htarget : (r.target n : Int) = n + r.shift := by
      unfold CaseRun.target
      omega
    have hchar : (r.target n).isValidChar := by
      unfold Nat.isValidChar
      omega
    refine isWordChar_of_le ?_
    rw [toNat_ofNat_of_isValidChar hchar]
    omega
  · obtain rfl : n = r.first := by omega
    exact hword

theorem isWordChar_of_mem_mapCase {sequences : List (Nat × List Nat)} {runs : List CaseRun}
    (hsequences : ∀ s ∈ sequences, ∀ code ∈ s.2, isWordChar (Char.ofNat code) = true)
    (hruns : ∀ r ∈ runs, r.Safe) {c d : Char} (hc : isWordChar c = true)
    (hd : d ∈ mapCase sequences runs c) : isWordChar d = true := by
  unfold mapCase at hd
  split at hd
  · next image himage =>
    -- A mapping to several characters stands in the table as it is.
    obtain ⟨code, hcode, rfl⟩ := List.mem_map.1 hd
    have hmem : (c.toNat, image) ∈ sequences := by
      obtain ⟨before, after, rfl, -⟩ := List.lookup_eq_some_iff.1 himage
      simp
    exact hsequences _ hmem code hcode
  · split at hd
    · next run hrun =>
      obtain rfl := List.mem_singleton.1 hd
      have hcovers : run.covers c.toNat = true := by
        simpa using List.find?_some (p := fun r : CaseRun ↦ r.covers c.toNat) hrun
      exact (hruns run (List.mem_of_find?_eq_some hrun)).isWordChar_target hcovers
    · obtain rfl := List.mem_singleton.1 hd
      exact hc

/-- Lower case keeps to word characters. -/
theorem isWordChar_of_mem_lowerChar {c d : Char} (hc : isWordChar c = true)
    (hd : d ∈ lowerChar c) : isWordChar d = true := by
  unfold lowerChar at hd
  split_ifs at hd with hascii
  · obtain rfl := List.mem_singleton.1 hd
    exact isWordChar_toLower_of_ascii hascii hc
  · exact isWordChar_of_mem_mapCase (by decide +kernel) (by decide +kernel) hc hd

end ClientSynthesis.Text

namespace ClientSynthesis.Naming

open Text

/-! ### Words -/

/-- Cutting a run into words moves no character in or out. -/
theorem mem_of_mem_runWords {r : Rhythm} {cs word : List Char} {c : Char}
    (hword : word ∈ runWords r cs) (hc : c ∈ word) : c ∈ cs := by
  induction r, cs using runWords.induct generalizing word with
  | case1 r => exact nomatch hword
  | case2 r d =>
    obtain rfl := List.mem_singleton.1 hword
    exact hc
  | case3 r d next rest h ih =>
    rw [runWords, if_pos h] at hword
    rcases List.mem_cons.1 hword with rfl | hword
    · rw [List.mem_singleton.1 hc]
      exact List.mem_cons_self
    · exact List.mem_cons_of_mem _ (ih hword hc)
  | case4 r d next rest h h' ih =>
    rw [runWords, if_neg h, if_pos h'] at hword
    rcases List.mem_cons.1 hword with rfl | hword
    · exact nomatch hc
    · rcases mem_of_mem_pushFirst hword hc with rfl | ⟨piece, hpiece, hmem⟩
      · exact List.mem_cons_self
      · exact List.mem_cons_of_mem _ (ih hpiece hmem)
  | case5 r d next rest h h' ih =>
    rw [runWords, if_neg h, if_neg h'] at hword
    rcases mem_of_mem_pushFirst hword hc with rfl | ⟨piece, hpiece, hmem⟩
    · exact List.mem_cons_self
    · exact List.mem_cons_of_mem _ (ih hpiece hmem)

theorem isAlphanumeric_of_mem_words {name word : List Char} {c : Char} (hword : word ∈ words name)
    (hc : c ∈ word) : isAlphanumeric c = true := by
  obtain ⟨piece, hpiece, hmem⟩ := List.mem_flatMap.1 hword
  simpa using cut_eq_false_of_mem_splitWhere hpiece c (mem_of_mem_runWords hmem hc)

theorem isWordChar_of_mem_lowerWord {word : List Char} (hword : ∀ c ∈ word, isWordChar c = true)
    {d : Char} (hd : d ∈ lowerWord word) : isWordChar d = true := by
  induction word using lowerWord.induct with
  | case1 => exact nomatch hd
  | case2 =>
    obtain rfl := List.mem_singleton.1 hd
    decide
  | case3 c rest hsigma ih =>
    rw [lowerWord] at hd
    · rcases List.mem_append.1 hd with hd | hd
      · exact isWordChar_of_mem_lowerChar (hword c List.mem_cons_self) hd
      · exact ih (fun e he ↦ hword e (List.mem_cons_of_mem _ he)) hd
    · exact hsigma

theorem mem_joinWith {sep d : Char} {pieces : List (List Char)} (h : d ∈ joinWith sep pieces) :
    d = sep ∨ ∃ piece ∈ pieces, d ∈ piece := by
  induction pieces using joinWith.induct with
  | case1 => exact nomatch h
  | case2 piece => exact .inr ⟨piece, List.mem_singleton_self _, h⟩
  | case3 piece next rest ih =>
    rw [joinWith] at h
    rcases List.mem_append.1 h with h | h
    · exact .inr ⟨piece, List.mem_cons_self, h⟩
    · rcases List.mem_cons.1 h with rfl | h
      · exact .inl rfl
      · rcases ih h with rfl | ⟨other, hother, hd⟩
        · exact .inl rfl
        · exact .inr ⟨other, List.mem_cons_of_mem _ hother, hd⟩

/-- Whatever the text, its words in lower case hold word characters only. -/
theorem isWordChar_of_mem_snakeCase {name : List Char} {d : Char} (hd : d ∈ snakeCase name) :
    isWordChar d = true := by
  rcases mem_joinWith hd with rfl | ⟨piece, hpiece, hmem⟩
  · decide
  · obtain ⟨word, hword, rfl⟩ := List.mem_map.1 hpiece
    exact isWordChar_of_mem_lowerWord
      (fun c hc ↦ isWordChar_of_isAlphanumeric (isAlphanumeric_of_mem_words hword hc)) hmem

/-! ### Identifiers -/

/-- Whether a character may stand in an identifier, its raw mark included. -/
def isNameChar (c : Char) : Bool := isWordChar c || c == '#'

theorem isNameChar_of_isWordChar {c : Char} (h : isWordChar c = true) : isNameChar c = true := by
  rw [isNameChar, h, Bool.true_or]

theorem isNameChar_of_mem_escapeKeyword {ident : String}
    (hident : ∀ c ∈ ident.toList, isWordChar c = true) {c : Char}
    (h : c ∈ (escapeKeyword ident).toList) : isNameChar c = true := by
  unfold escapeKeyword at h
  split_ifs at h with hpath hkeyword
  · rw [String.toList_append] at h
    rcases List.mem_append.1 h with h | h
    · exact isNameChar_of_isWordChar (hident c h)
    · obtain rfl : c = '_' := by simpa using h
      decide
  · rw [String.toList_append] at h
    rcases List.mem_append.1 h with h | h
    · have hmark : c = 'r' ∨ c = '#' := by simpa using h
      rcases hmark with rfl | rfl <;> decide
    · exact isNameChar_of_isWordChar (hident c h)
  · exact isNameChar_of_isWordChar (hident c h)

/-- Every character of a field identifier is a name character. -/
theorem isNameChar_of_mem_fieldName (name : String) :
    ∀ c ∈ (fieldName name).toList, isNameChar c = true := by
  intro c h
  refine isNameChar_of_mem_escapeKeyword (fun d hd ↦ ?_) h
  rw [String.toList_ofList] at hd
  split_ifs at hd with hdigit
  · rcases List.mem_cons.1 hd with rfl | hd
    · decide
    · exact isWordChar_of_mem_snakeCase hd
  · exact isWordChar_of_mem_snakeCase hd

theorem mem_of_mem_dropRawMarks {c : Char} {cs : List Char} (h : c ∈ dropRawMarks cs) : c ∈ cs := by
  induction cs using dropRawMarks.induct with
  | case1 rest ih =>
    rw [dropRawMarks] at h
    exact List.mem_cons_of_mem _ (List.mem_cons_of_mem _ (ih h))
  | case2 cs hmark =>
    rw [dropRawMarks] at h
    · exact h
    · exact hmark

/-- Every character of a module name is a name character. -/
theorem isNameChar_of_mem_moduleName (definition : String) :
    ∀ c ∈ (moduleName definition).toList, isNameChar c = true := by
  intro c h
  rw [moduleName, bareFieldName, String.toList_ofList] at h
  exact isNameChar_of_mem_fieldName definition c (mem_of_mem_dropRawMarks h)

/-- A character that is no name character stands in no module name. -/
theorem not_mem_moduleName {c : Char} (h : isNameChar c = false) (definition : String) :
    c ∉ (moduleName definition).toList := by
  intro hc
  exact absurd (isNameChar_of_mem_moduleName definition c hc) (by simp [h])

end ClientSynthesis.Naming
