import Mathlib.Data.List.Basic

/-!
# Reading program text

What the readers of generated text share. A reader takes the characters that remain and hands back
what is behind the stretch it has read, so that readers compose as the writers do, by appending.

A writer and its reader are tied by one statement each: on what the writer wrote, followed by
anything that may follow, the reader yields what was written and the rest. `readItems_flatMap` lifts
such a statement from one item to a list of them, where the list ends the text, and
`readWhile_flatMap` where something else follows it.
-/

namespace ClientSynthesis.Text

/-- What is behind a fixed text at the start. -/
def expect (token : String) (cs : List Char) : Option (List Char) :=
  token.toList.isPrefixOf? cs

/-- The characters of a class at the start, and what is behind them. -/
def readRun (p : Char → Bool) (cs : List Char) : String × List Char :=
  (String.ofList (cs.takeWhile p), cs.dropWhile p)

/-- All items up to a closing text with which everything ends. An item that consumes nothing is
refused. -/
def readItems {α : Type} (close : List Char) (read : List Char → Option (α × List Char))
    (cs : List Char) : Option (List α) :=
  if cs = close then some []
  else
    match read cs with
    | none => none
    | some (a, rest) =>
      if rest.length < cs.length then (readItems close read rest).map (a :: ·) else none
termination_by cs.length

/-- As many items as there are, and what is behind them. An item that consumes nothing is none. -/
def readWhile {α : Type} (read : List Char → Option (α × List Char)) (cs : List Char) :
    List α × List Char :=
  match read cs with
  | none => ([], cs)
  | some (a, rest) =>
    if rest.length < cs.length then
      let (items, rest) := readWhile read rest
      (a :: items, rest)
    else ([], cs)
termination_by cs.length

/-! ### Reading what was written -/

theorem expect_eq_some_iff {token : String} {cs rest : List Char} :
    expect token cs = some rest ↔ token.toList ++ rest = cs :=
  List.isPrefixOf?_eq_some_iff_append_eq

theorem expect_append (token : String) (rest : List Char) :
    expect token (token.toList ++ rest) = some rest :=
  expect_eq_some_iff.2 rfl

/-- A text that begins otherwise is not what is expected. -/
theorem expect_append_eq_none {token text : String} (h : ¬ token.toList <+: text.toList)
    (h' : ¬ text.toList <+: token.toList) (rest : List Char) :
    expect token (text.toList ++ rest) = none := by
  refine Option.eq_none_iff_forall_ne_some.2 fun back hback ↦ ?_
  have htoken : token.toList <+: text.toList ++ rest := ⟨back, expect_eq_some_iff.1 hback⟩
  exact (List.prefix_or_prefix_of_prefix htoken (List.prefix_append _ _)).elim h h'

/-- A text is expected by expecting its parts. -/
theorem expect_append_token (token more : String) (cs : List Char) :
    expect (token ++ more) cs = (expect token cs).bind (expect more) := by
  refine Option.ext fun rest ↦ ?_
  rw [Option.bind_eq_some_iff]
  simp only [expect_eq_some_iff, String.toList_append, List.append_assoc]
  exact ⟨fun h ↦ ⟨_, h, rfl⟩, fun ⟨_, h, hrest⟩ ↦ hrest ▸ h⟩

/-- A run ends before the first character that is not of its class. -/
theorem readRun_append {p : Char → Bool} {name : String} {c : Char}
    (hname : ∀ d ∈ name.toList, p d = true) (hc : p c = false) (rest : List Char) :
    readRun p (name.toList ++ c :: rest) = (name, c :: rest) := by
  unfold readRun
  rw [List.takeWhile_append_of_pos hname, List.dropWhile_append_of_pos hname,
    List.takeWhile_cons_of_neg (by simp [hc]), List.dropWhile_cons_of_neg (by simp [hc]),
    List.append_nil, String.ofList_toList]

/-- A run ends before a text that begins with a character that is not of its class. -/
theorem readRun_append_text {p : Char → Bool} {name : String} (closing : String) {c : Char}
    {closed : List Char} (hname : ∀ d ∈ name.toList, p d = true)
    (hclosing : closing.toList = c :: closed) (hc : p c = false) (rest : List Char) :
    readRun p (name.toList ++ (closing.toList ++ rest)) = (name, closing.toList ++ rest) := by
  rw [hclosing, List.cons_append]
  exact readRun_append hname hc (closed ++ rest)

/-- Items written one after the other are read one after the other, if each of them is read whatever
items come later. -/
theorem readItems_flatMap {α : Type} {close : List Char}
    {read : List Char → Option (α × List Char)} {write : α → List Char} {items : List α}
    (hread : ∀ a ∈ items, ∀ later : List α,
      read (write a ++ (later.flatMap write ++ close)) = some (a, later.flatMap write ++ close))
    (hwrite : ∀ a ∈ items, write a ≠ []) :
    readItems close read (items.flatMap write ++ close) = some items := by
  induction items with
  | nil =>
    rw [readItems]
    simp
  | cons a rest ih =>
    have hne : write a ≠ [] := hwrite a List.mem_cons_self
    have hpos : 0 < (write a).length := List.length_pos_iff.2 hne
    have hrest := ih (fun b hb ↦ hread b (List.mem_cons_of_mem a hb))
      fun b hb ↦ hwrite b (List.mem_cons_of_mem a hb)
    rw [List.flatMap_cons, List.append_assoc, readItems, hread a List.mem_cons_self]
    have hlonger : write a ++ (rest.flatMap write ++ close) ≠ close := by
      intro heq
      have hlength := congrArg List.length heq
      simp only [List.length_append] at hlength
      omega
    have hshorter : (rest.flatMap write ++ close).length <
        (write a ++ (rest.flatMap write ++ close)).length := by
      simp only [List.length_append]
      omega
    rw [if_neg hlonger]
    show (if _ then _ else _) = _
    rw [if_pos hshorter, hrest]
    rfl

/-- Items written one after the other are read one after the other, up to a text that begins with
none. -/
theorem readWhile_flatMap {α : Type} {read : List Char → Option (α × List Char)}
    {write : α → List Char} {items : List α} {stop : List Char}
    (hread : ∀ a ∈ items, ∀ rest, read (write a ++ rest) = some (a, rest))
    (hwrite : ∀ a ∈ items, write a ≠ []) (hstop : read stop = none) :
    readWhile read (items.flatMap write ++ stop) = (items, stop) := by
  induction items with
  | nil =>
    rw [readWhile, List.flatMap_nil, List.nil_append, hstop]
  | cons a rest ih =>
    obtain ⟨hreadHead, hreadRest⟩ := List.forall_mem_cons.1 hread
    obtain ⟨hne, hwriteRest⟩ := List.forall_mem_cons.1 hwrite
    have hpos : 0 < (write a).length := List.length_pos_iff.2 hne
    rw [List.flatMap_cons, List.append_assoc, readWhile, hreadHead]
    have hshorter : (rest.flatMap write ++ stop).length <
        (write a ++ (rest.flatMap write ++ stop)).length := by
      simp only [List.length_append]
      omega
    show (if _ then _ else _) = _
    rw [if_pos hshorter, ih hreadRest hwriteRest]

end ClientSynthesis.Text
