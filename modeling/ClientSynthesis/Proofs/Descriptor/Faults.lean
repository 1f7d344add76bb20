import ClientSynthesis.Proofs.Report.Outcome
import ClientSynthesis.Descriptor.Fields

/-!
# What reading a descriptor can fail with

An accessor that fails has found a fault in the descriptor and nothing else (`Error.IsInvalid`). The
other causes of an error each have a place of their own, so where one of them is to be excluded it
is enough to know that a computation is put together from accessors (`FailsOnly.bind`).
-/

namespace ClientSynthesis

open Descriptor (Error)

/-! ### Errors of a sort -/

namespace Report

variable {τ ε α β : Type} {P : ε → Prop}

/-- Should the computation fail, it does so with an error of the given sort. -/
def FailsOnly (P : ε → Prop) (x : Except ε α) : Prop := ∀ e, x = .error e → P e

namespace FailsOnly

theorem ok (a : α) : FailsOnly P (.ok a : Except ε α) := fun _ h ↦ nomatch h

theorem error {e : ε} (h : P e) : FailsOnly P (.error e : Except ε α) := by
  intro e' he
  obtain rfl := Except.error.inj he
  exact h

theorem bind {x : Except ε α} {f : α → Except ε β} (hx : FailsOnly P x)
    (hf : ∀ a, x = .ok a → FailsOnly P (f a)) : FailsOnly P (x >>= f) := by
  cases x with
  | error e => exact error (hx e rfl)
  | ok a => exact hf a rfl

theorem bind_outcome {x : Traced τ ε α} {f : α → Traced τ ε β} (hx : FailsOnly P x.outcome)
    (hf : ∀ a, x.outcome = .ok a → FailsOnly P (f a).outcome) : FailsOnly P (x >>= f).outcome := by
  rw [Traced.outcome_bind]
  exact hx.bind hf

theorem mapM_outcome {f : α → Traced τ ε β} {xs : List α}
    (h : ∀ x ∈ xs, FailsOnly P (f x).outcome) : FailsOnly P (xs.mapM f).outcome := by
  induction xs with
  | nil => exact ok _
  | cons x rest ih =>
    rw [List.mapM_cons]
    refine bind_outcome (h x List.mem_cons_self) fun y _ ↦ ?_
    exact bind_outcome (ih fun x' hx' ↦ h x' (List.mem_cons_of_mem x hx')) fun ys _ ↦ ok _

end FailsOnly

end Report

/-! ### Accessors -/

/-- An error that says what is wrong with a descriptor. -/
def Descriptor.Error.IsInvalid : Error → Prop
  | .invalid .. => True
  | _ => False

open Report (FailsOnly)

theorem Json.failsOnly_asObject (document : Json) (path : String) :
    FailsOnly Error.IsInvalid (document.asObject path) := by
  cases document with
  | object fields => exact .ok _
  | _ => exact .error trivial

namespace Json.Fields

variable (fields : Fields) (key path : String)

theorem failsOnly_typed? {α : Type} (convert : Json → Option α) (expected : String) :
    FailsOnly Error.IsInvalid (typed? convert expected fields key path) := by
  unfold typed?
  cases fields.present? key with
  | none => exact .ok _
  | some v =>
    dsimp only
    cases convert v with
    | none => exact .error trivial
    | some a => exact .ok _

theorem failsOnly_string : FailsOnly Error.IsInvalid (fields.string key path) := by
  refine .bind (failsOnly_typed? fields key path _ _) fun s? _ ↦ ?_
  cases s? with
  | none => exact .error trivial
  | some s => exact .ok _

theorem failsOnly_stringItems (n : Nat) (items : List Json) :
    FailsOnly Error.IsInvalid (stringItems key path n items) := by
  induction items generalizing n with
  | nil => exact .ok _
  | cons item rest ih =>
    cases item with
    | string s =>
      rw [stringItems]
      cases hrest : stringItems key path (n + 1) rest with
      | error e => exact .error (ih (n + 1) e hrest)
      | ok strings => exact .ok _
    | _ => exact .error trivial

theorem failsOnly_strings? : FailsOnly Error.IsInvalid (fields.strings? key path) := by
  refine .bind (failsOnly_typed? fields key path _ _) fun items? _ ↦ ?_
  cases items? with
  | none => exact .ok _
  | some items => exact .bind (failsOnly_stringItems key path 0 items) fun strings _ ↦ .ok _

theorem failsOnly_strings : FailsOnly Error.IsInvalid (fields.strings key path) := by
  refine .bind (failsOnly_strings? fields key path) fun strings? _ ↦ ?_
  cases strings? with
  | none => exact .error trivial
  | some strings => exact .ok _

end Json.Fields

end ClientSynthesis
