import ClientSynthesis.Proofs.Naming.NameCharacters
import ClientSynthesis.Proofs.Text.Literal
import Mathlib.Data.List.Basic

/-!
# Program text outside string literals

What stands inside a string literal is no program text, whatever it looks like. `outside` leaves it
out, by a scan that knows where a string literal begins and ends. Comments and literals for single
characters are beyond it, so it is for texts that have none.

A stretch of text that leaves no literal open is scanned on its own (`Closed`), so what is outside
of a text that is put together from such stretches is put together from what is outside of them.
-/

namespace ClientSynthesis.Text

/-- Where a scan of program text stands. -/
inductive ScanState where
  | code
  /-- Inside a string literal. -/
  | literal
  /-- Inside a string literal and behind a backslash. -/
  | escape
  deriving DecidableEq, Repr

/-- The text outside of string literals, from a scan that is under way. -/
def outsideFrom : ScanState → List Char → List Char
  | _, [] => []
  | .code, c :: rest => c :: outsideFrom (if c = '"' then .literal else .code) rest
  | .literal, c :: rest =>
    outsideFrom (if c = '"' then .code else if c = '\\' then .escape else .literal) rest
  | .escape, _ :: rest => outsideFrom .literal rest

/-- The text outside of string literals. Of a literal the opening quotation mark stays, so that what
is before it does not run into what is behind it. -/
def outside (cs : List Char) : List Char := outsideFrom .code cs

/-- A text ends no literal that it has not begun, and begins none that it does not end. -/
def Closed (cs : List Char) : Prop := ∀ rest, outside (cs ++ rest) = outside cs ++ outside rest

/-! ### Text without literals -/

theorem outside_append_of_not_mem {cs : List Char} (h : '"' ∉ cs) (rest : List Char) :
    outside (cs ++ rest) = cs ++ outside rest := by
  induction cs with
  | nil => rfl
  | cons c cs ih =>
    rw [List.mem_cons, not_or] at h
    obtain ⟨hc, hcs⟩ := h
    rw [List.cons_append, List.cons_append, ← ih hcs, outside, outsideFrom, if_neg (Ne.symm hc)]
    rfl

theorem outside_of_not_mem {cs : List Char} (h : '"' ∉ cs) : outside cs = cs := by
  have hnil : outside [] = [] := rfl
  have happend := outside_append_of_not_mem h []
  rwa [List.append_nil, hnil, List.append_nil] at happend

theorem closed_of_not_mem {cs : List Char} (h : '"' ∉ cs) : Closed cs := by
  intro rest
  rw [outside_append_of_not_mem h, outside_of_not_mem h]

/-! ### Literals -/

theorem outsideFrom_literal_append {cs : List Char} (h : ∀ c ∈ cs, c ≠ '"' ∧ c ≠ '\\')
    (rest : List Char) : outsideFrom .literal (cs ++ rest) = outsideFrom .literal rest := by
  induction cs with
  | nil => rfl
  | cons c cs ih =>
    obtain ⟨⟨hquote, hback⟩, hcs⟩ := List.forall_mem_cons.1 h
    rw [List.cons_append, outsideFrom, if_neg hquote, if_neg hback, ih hcs]

/-- Whatever way a character is written, it stays inside its literal. -/
theorem outsideFrom_literal_quotedChar (c : Char) (rest : List Char) :
    outsideFrom .literal (quotedChar c ++ rest) = outsideFrom .literal rest := by
  unfold quotedChar
  split_ifs with hquote hback hfeed hreturn htab hzero hprintable
  · rfl
  · rfl
  · rfl
  · rfl
  · rfl
  · rfl
  · exact outsideFrom_literal_append (List.forall_mem_singleton.2 ⟨hquote, hback⟩) rest
  · have hdigits : ∀ d ∈ hexDigits c.toNat, d ≠ '"' ∧ d ≠ '\\' := by
      intro d hd
      constructor <;> rintro rfl
      · exact not_mem_hexDigits (fun n ↦ Nat.digitChar_ne '"' (by decide)) _ hd
      · exact not_mem_hexDigits (fun n ↦ Nat.digitChar_ne '\\' (by decide)) _ hd
    have hcode := outsideFrom_literal_append hdigits ('\x7d' :: rest)
    rw [List.append_assoc, List.append_assoc]
    exact hcode

/-- A literal is left out up to its opening quotation mark, whatever text it is for. -/
theorem outside_quotedChars_append (cs rest : List Char) :
    outside (quotedChars cs ++ rest) = '"' :: outside rest := by
  have hinside : ∀ more, outsideFrom .literal (cs.flatMap quotedChar ++ more) =
      outsideFrom .literal more := by
    intro more
    induction cs with
    | nil => rfl
    | cons c cs ih =>
      rw [List.flatMap_cons, List.append_assoc, outsideFrom_literal_quotedChar, ih]
  rw [quotedChars, List.cons_append, List.cons_append, List.append_assoc, outside, outsideFrom,
    if_pos rfl, hinside]
  rfl

theorem outside_quotedChars (cs : List Char) : outside (quotedChars cs) = ['"'] := by
  have happend := outside_quotedChars_append cs []
  rwa [List.append_nil] at happend

theorem closed_quotedChars (cs : List Char) : Closed (quotedChars cs) := by
  intro rest
  rw [outside_quotedChars_append, outside_quotedChars]
  rfl

/-! ### Closed stretches -/

theorem Closed.append {cs ds : List Char} (hcs : Closed cs) (hds : Closed ds) :
    Closed (cs ++ ds) := by
  intro rest
  rw [List.append_assoc, hcs, hds, hcs, List.append_assoc]

/-- What is outside of closed stretches put together. -/
theorem outside_flatMap {α : Type} {write : α → List Char} {as : List α}
    (h : ∀ a ∈ as, Closed (write a)) :
    outside (as.flatMap write) = as.flatMap fun a ↦ outside (write a) := by
  induction as with
  | nil => rfl
  | cons a rest ih =>
    obtain ⟨ha, hrest⟩ := List.forall_mem_cons.1 h
    rw [List.flatMap_cons, ha, ih hrest, List.flatMap_cons]

/-! ### Macros -/

/-- A program text invokes a macro: it has the macro's name, which no longer name ends in, and then
the mark and the parenthesis of an invocation. -/
def Invokes (name : String) (code : List Char) : Prop :=
  ∃ before after, code = before ++ (name.toList ++ '!' :: '(' :: after) ∧
    ∀ c ∈ before.getLast?, isWordChar c = false

theorem Invokes.mem {name : String} {code : List Char} (h : Invokes name code) : '!' ∈ code := by
  obtain ⟨before, after, rfl, -⟩ := h
  simp

end ClientSynthesis.Text
