/-!
# Cutting a text into pieces

`splitWhere` cuts a text at every character of a class and keeps empty pieces; `split` cuts at one
separator, so that joining the pieces with it gives the text back (`joinWith_split`). Both build
the first piece from its end, with `pushFirst`, which spares an accumulator.
-/

namespace ClientSynthesis.Text

/-- Put a character in front of the first piece. -/
def pushFirst (c : Char) : List (List Char) → List (List Char)
  | [] => [[c]]
  | piece :: rest => (c :: piece) :: rest

/-- The pieces of a text between the characters of a class. There is always at least one. -/
def splitWhere (cut : Char → Bool) : List Char → List (List Char)
  | [] => [[]]
  | c :: rest =>
    if cut c then [] :: splitWhere cut rest else pushFirst c (splitWhere cut rest)

/-- The pieces of a text between the occurrences of a separator. -/
def split (sep : Char) : List Char → List (List Char) := splitWhere (· == sep)

/-- Pieces put together again with a separator between them. -/
def joinWith (sep : Char) : List (List Char) → List Char
  | [] => []
  | [piece] => piece
  | piece :: next :: rest => piece ++ sep :: joinWith sep (next :: rest)

/-! ### Pieces hold no separator -/

@[simp] theorem pushFirst_ne_nil (c : Char) (pieces : List (List Char)) :
    pushFirst c pieces ≠ [] := by
  cases pieces <;> simp [pushFirst]

theorem mem_of_mem_pushFirst {c d : Char} {pieces : List (List Char)} {word : List Char}
    (hword : word ∈ pushFirst c pieces) (hd : d ∈ word) : d = c ∨ ∃ piece ∈ pieces, d ∈ piece := by
  cases pieces with
  | nil =>
    obtain rfl := List.mem_singleton.1 hword
    exact .inl (List.mem_singleton.1 hd)
  | cons piece rest =>
    rcases List.mem_cons.1 hword with rfl | hrest
    · rcases List.mem_cons.1 hd with rfl | hd
      · exact .inl rfl
      · exact .inr ⟨piece, List.mem_cons_self, hd⟩
    · exact .inr ⟨word, List.mem_cons_of_mem _ hrest, hd⟩

theorem splitWhere_ne_nil (cut : Char → Bool) (cs : List Char) : splitWhere cut cs ≠ [] := by
  cases cs with
  | nil => simp [splitWhere]
  | cons c rest => by_cases h : cut c <;> simp [splitWhere, h]

/-- No piece holds a character of the class: the text is cut at each of them. -/
theorem cut_eq_false_of_mem_splitWhere {cut : Char → Bool} {cs piece : List Char}
    (h : piece ∈ splitWhere cut cs) : ∀ c ∈ piece, cut c = false := by
  induction cs generalizing piece with
  | nil => simp_all [splitWhere]
  | cons c rest ih =>
    cases hr : splitWhere cut rest with
    | nil => exact absurd hr (splitWhere_ne_nil cut rest)
    | cons first pieces =>
      by_cases hc : cut c = true
      · rw [splitWhere, if_pos hc] at h
        rcases List.mem_cons.1 h with rfl | h
        · simp
        · exact ih h
      · rw [splitWhere, if_neg hc, hr, pushFirst] at h
        rcases List.mem_cons.1 h with rfl | h
        · intro d hd
          rcases List.mem_cons.1 hd with rfl | hd
          · simpa using hc
          · exact ih (hr ▸ List.mem_cons_self) d hd
        · exact ih (hr ▸ List.mem_cons_of_mem _ h)

/-- A text without characters of the class is in one piece. -/
theorem splitWhere_of_forall {cut : Char → Bool} {cs : List Char} (h : ∀ c ∈ cs, cut c = false) :
    splitWhere cut cs = [cs] := by
  induction cs with
  | nil => rfl
  | cons c rest ih =>
    have hc : ¬ cut c = true := by simp [h c List.mem_cons_self]
    rw [splitWhere, if_neg hc, ih fun d hd => h d (List.mem_cons_of_mem c hd), pushFirst]

/-- The pieces around a character of the class are those in front of it and those behind it. -/
theorem splitWhere_append_cons {cut : Char → Bool} {c : Char} (hcut : cut c = true)
    (front back : List Char) :
    splitWhere cut (front ++ c :: back) = splitWhere cut front ++ splitWhere cut back := by
  induction front with
  | nil => simp [splitWhere, hcut]
  | cons d rest ih =>
    rw [List.cons_append, splitWhere, splitWhere, ih]
    by_cases hd : cut d = true
    · rw [if_pos hd, if_pos hd]
      rfl
    · rw [if_neg hd, if_neg hd]
      cases hrest : splitWhere cut rest with
      | nil => exact absurd hrest (splitWhere_ne_nil _ rest)
      | cons piece pieces => rfl

/-- The pieces around a separator are those in front of it and those behind it. -/
theorem split_append_cons (sep : Char) (front back : List Char) :
    split sep (front ++ sep :: back) = split sep front ++ split sep back := by
  rw [split, splitWhere_append_cons (by simp)]

/-- A text without the separator is in one piece. -/
theorem split_of_not_mem {sep : Char} {cs : List Char} (h : sep ∉ cs) : split sep cs = [cs] :=
  splitWhere_of_forall fun _ hc => beq_eq_false_iff_ne.2 fun heq => h (heq ▸ hc)

/-! ### Nothing is lost -/

theorem joinWith_pushFirst (sep c : Char) {pieces : List (List Char)} (h : pieces ≠ []) :
    joinWith sep (pushFirst c pieces) = c :: joinWith sep pieces := by
  match pieces with
  | [] => exact absurd rfl h
  | [piece] => rfl
  | piece :: next :: rest => rfl

theorem joinWith_nil_cons (sep : Char) {pieces : List (List Char)} (h : pieces ≠ []) :
    joinWith sep ([] :: pieces) = sep :: joinWith sep pieces := by
  cases pieces with
  | nil => exact absurd rfl h
  | cons piece rest => rfl

theorem joinWith_split (sep : Char) (cs : List Char) : joinWith sep (split sep cs) = cs := by
  induction cs with
  | nil => rfl
  | cons c rest ih =>
    have hne := splitWhere_ne_nil (· == sep) rest
    by_cases h : c = sep
    · subst h
      rw [split, splitWhere, if_pos (by simp), joinWith_nil_cons c hne]
      exact congrArg _ ih
    · rw [split, splitWhere, if_neg (by simpa using h), joinWith_pushFirst sep c hne]
      exact congrArg _ ih

end ClientSynthesis.Text
