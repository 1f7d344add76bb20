import ClientSynthesis.Naming.Identifier
import Mathlib.Tactic.SplitIfs

/-!
# What words are made of

The words of a name, put together, are the letters and numbers of the name (`flatten_words`): what
separates words is dropped and nothing else. Lower case drops nothing either, as no character is
mapped to none. So a field identifier is empty exactly for a name that has neither letter nor number
(`fieldName_eq_empty_iff`).
-/

namespace ClientSynthesis.Naming

open Text

/-! ### Cutting -/

@[simp] theorem flatten_pushFirst (c : Char) (pieces : List (List Char)) :
    (pushFirst c pieces).flatten = c :: pieces.flatten := by
  cases pieces <;> rfl

theorem flatten_splitWhere (cut : Char → Bool) (cs : List Char) :
    (splitWhere cut cs).flatten = cs.filter (!cut ·) := by
  induction cs with
  | nil => rfl
  | cons c rest ih => by_cases h : cut c <;> simp [splitWhere, h, ih]

/-- Cutting a run into words loses nothing. -/
theorem flatten_runWords (r : Rhythm) (cs : List Char) : (runWords r cs).flatten = cs := by
  induction r, cs using runWords.induct with
  | case1 r => rfl
  | case2 r c => rfl
  | case3 r c next rest h ih => rw [runWords, if_pos h, List.flatten_cons, ih, List.singleton_append]
  | case4 r c next rest h h' ih =>
    rw [runWords, if_neg h, if_pos h', List.flatten_cons, flatten_pushFirst, ih, List.nil_append]
  | case5 r c next rest h h' ih => rw [runWords, if_neg h, if_neg h', flatten_pushFirst, ih]

/-- **The words of a name hold its letters and numbers, in the order of the name.** -/
theorem flatten_words (name : List Char) : (words name).flatten = name.filter isAlphanumeric := by
  have hruns : (List.flatten ∘ runWords .none) = id := funext (flatten_runWords .none)
  rw [words, List.flatMap_def, List.flatten_flatten, List.map_map, hruns, List.map_id,
    flatten_splitWhere]
  simp

/-! ### Lower case -/

theorem mapCase_ne_nil {sequences : List (Nat × List Nat)} {runs : List CaseRun}
    (hsequences : ∀ s ∈ sequences, s.2 ≠ []) (c : Char) : mapCase sequences runs c ≠ [] := by
  rw [mapCase]
  split
  · next image himage =>
    obtain ⟨before, after, hmem, -⟩ := List.lookup_eq_some_iff.1 himage
    have hne : image ≠ [] := hsequences (c.toNat, image) (by simp [hmem])
    simpa using hne
  · split <;> exact List.cons_ne_nil _ _

theorem lowerChar_ne_nil (c : Char) : lowerChar c ≠ [] := by
  rw [lowerChar]
  split_ifs
  · exact List.cons_ne_nil _ _
  · exact mapCase_ne_nil (by decide) c

theorem lowerWord_eq_nil_iff {word : List Char} : lowerWord word = [] ↔ word = [] := by
  constructor
  · intro h
    induction word using lowerWord.induct with
    | case1 => rfl
    | case2 => exact nomatch h
    | case3 c rest hsigma ih =>
      rw [lowerWord] at h
      · exact absurd (List.append_eq_nil_iff.1 h).1 (lowerChar_ne_nil c)
      · exact hsigma
  · rintro rfl
    rfl

theorem joinWith_eq_nil {sep : Char} {pieces : List (List Char)} (h : joinWith sep pieces = []) :
    ∀ piece ∈ pieces, piece = [] := by
  match pieces with
  | [] => exact nofun
  | [piece] => exact fun other hother ↦ List.mem_singleton.1 hother ▸ h
  | piece :: next :: rest =>
    rw [joinWith] at h
    exact absurd (List.append_eq_nil_iff.1 h).2 (List.cons_ne_nil _ _)

/-! ### Empty identifiers -/

theorem words_eq_nil_of_forall {name : List Char} (h : ∀ c ∈ name, isAlphanumeric c = false) :
    words name = [] := by
  refine List.flatMap_eq_nil_iff.2 fun piece hpiece ↦ ?_
  -- A piece holds letters and numbers of the name only, so this one holds nothing.
  have hempty : piece = [] := by
    refine List.eq_nil_iff_forall_not_mem.2 fun c hc ↦ ?_
    have halnum : isAlphanumeric c = true := by
      simpa using cut_eq_false_of_mem_splitWhere hpiece c hc
    have hmem : c ∈ (splitWhere (!isAlphanumeric ·) name).flatten :=
      List.mem_flatten.2 ⟨piece, hpiece, hc⟩
    rw [flatten_splitWhere] at hmem
    exact nomatch halnum.symm.trans (h c (List.mem_filter.1 hmem).1)
  rw [hempty]
  rfl

theorem snakeCase_eq_nil_iff {name : List Char} :
    snakeCase name = [] ↔ ∀ c ∈ name, isAlphanumeric c = false := by
  constructor
  · intro h
    have hwords : ∀ word ∈ words name, word = [] := fun word hword ↦
      lowerWord_eq_nil_iff.1 (joinWith_eq_nil h _ (List.mem_map_of_mem hword))
    have hflatten := flatten_words name
    rw [List.flatten_eq_nil_iff.2 hwords] at hflatten
    simpa using hflatten.symm
  · intro h
    rw [snakeCase, words_eq_nil_of_forall h]
    rfl

theorem escapeKeyword_eq_empty_iff {ident : String} : escapeKeyword ident = "" ↔ ident = "" := by
  constructor
  · intro h
    rw [escapeKeyword] at h
    split_ifs at h
    · exact (String.append_eq_empty_iff.1 h).1
    · exact (String.append_eq_empty_iff.1 h).2
    · exact h
  · rintro rfl
    decide

/-- **A field identifier is empty exactly for a name that has neither letter nor number.** -/
theorem fieldName_eq_empty_iff {name : String} :
    fieldName name = "" ↔ ∀ c ∈ name.toList, isAlphanumeric c = false := by
  rw [← snakeCase_eq_nil_iff, fieldName, escapeKeyword_eq_empty_iff, String.ofList_eq_empty_iff]
  split_ifs with hdigit
  · -- A digit in front is kept behind an underscore, and there is one in neither case.
    have hne : snakeCase name.toList ≠ [] := by
      intro hnil
      rw [hnil] at hdigit
      exact nomatch hdigit
    exact ⟨nofun, fun hnil ↦ absurd hnil hne⟩
  · exact Iff.rfl

end ClientSynthesis.Naming
