/-!
# Computations with a trace

A computation leaves a trace and then succeeds or fails. The trace of a failed computation is kept:
what was recorded before an error stays recorded. `outcome` is a morphism to plain `Except`, so a
statement about results alone can forget the trace first.

A computation is a value that goes on when asked: after each item stands the rest, not yet carried
out. Whoever takes the items in one by one may therefore stop in the middle, and nothing behind that
place is computed. The statements below do not see this; to them a computation is its trace and its
outcome (`ext`).
-/

namespace ClientSynthesis.Report

/-- A computation that records items of `τ` and ends in a result that may be an error. -/
inductive Traced (τ ε α : Type) where
  /-- The end. -/
  | done (outcome : Except ε α)
  /-- An item, and what comes after it. -/
  | item (item : τ) (rest : Unit → Traced τ ε α)

namespace Traced

variable {τ ε ε' α β : Type}

/-- What is recorded. -/
def trace : Traced τ ε α → List τ
  | done _ => []
  | item t rest => t :: (rest ()).trace

/-- What it ends in. -/
def outcome : Traced τ ε α → Except ε α
  | done outcome => outcome
  | item _ rest => (rest ()).outcome

/-- The trace and the outcome, in one go. -/
def run : Traced τ ε α → List τ × Except ε α
  | done outcome => ([], outcome)
  | item t rest =>
    let (trace, outcome) := (rest ()).run
    (t :: trace, outcome)

/-- The computation with a trace and an outcome. -/
def of (trace : List τ) (outcome : Except ε α) : Traced τ ε α :=
  trace.foldr (fun t rest => item t fun _ => rest) (done outcome)

/-- A result without a trace. -/
def lift (outcome : Except ε α) : Traced τ ε α := done outcome

/-- Record one item. -/
def record (t : τ) : Traced τ ε Unit := item t fun _ => done (.ok ())

/-- Record several items. -/
def recordAll (trace : List τ) : Traced τ ε Unit := of trace (.ok ())

/-- Continue with a result, after whatever led to it. -/
def bind : Traced τ ε α → (α → Traced τ ε β) → Traced τ ε β
  | done (.ok a), f => f a
  | done (.error e), _ => done (.error e)
  | item t rest, f => item t fun _ => (rest ()).bind f

/-- Continue with an error, after whatever led to it. -/
def recover : Traced τ ε α → (ε → Traced τ ε α) → Traced τ ε α
  | done (.ok a), _ => done (.ok a)
  | done (.error e), handler => handler e
  | item t rest, handler => item t fun _ => (rest ()).recover handler

instance : Monad (Traced τ ε) where
  pure a := done (.ok a)
  bind := bind

instance : MonadExcept ε (Traced τ ε) where
  throw e := done (.error e)
  tryCatch := recover

instance : MonadLift (Except ε) (Traced τ ε) := ⟨lift⟩

/-- The computation with its error changed. -/
def mapError (f : ε → ε') : Traced τ ε α → Traced τ ε' α
  | done outcome => done (outcome.mapError f)
  | item t rest => item t fun _ => (rest ()).mapError f

/-! ### Trace and outcome -/

@[simp] theorem trace_done (x : Except ε α) : (done x : Traced τ ε α).trace = [] := rfl

@[simp] theorem outcome_done (x : Except ε α) : (done x : Traced τ ε α).outcome = x := rfl

@[simp] theorem trace_item (t : τ) (rest : Unit → Traced τ ε α) :
    (item t rest).trace = t :: (rest ()).trace := rfl

@[simp] theorem outcome_item (t : τ) (rest : Unit → Traced τ ε α) :
    (item t rest).outcome = (rest ()).outcome := rfl

/-- A computation is determined by its trace and its outcome. -/
@[ext] theorem ext {x y : Traced τ ε α} (ht : x.trace = y.trace) (ho : x.outcome = y.outcome) :
    x = y := by
  induction x generalizing y with
  | done o =>
    cases y with
    | done p => exact congrArg done ho
    | item t rest => cases ht
  | item t rest ih =>
    cases y with
    | done p => cases ht
    | item u more =>
      obtain ⟨htu, hrest⟩ := List.cons.inj ht
      have h : rest = more := funext fun u => ih u hrest ho
      rw [htu, h]

theorem run_eq (x : Traced τ ε α) : x.run = (x.trace, x.outcome) := by
  induction x with
  | done o => rfl
  | item t rest ih => simp [run, ih]

@[simp] theorem trace_of (trace : List τ) (o : Except ε α) : (of trace o).trace = trace := by
  induction trace with
  | nil => rfl
  | cons t rest ih => exact congrArg (t :: ·) ih

@[simp] theorem outcome_of (trace : List τ) (o : Except ε α) : (of trace o).outcome = o := by
  induction trace with
  | nil => rfl
  | cons t rest ih => exact ih

@[simp] theorem of_trace_outcome (x : Traced τ ε α) : of x.trace x.outcome = x := by
  ext1 <;> simp

@[simp] theorem outcome_pure (a : α) : (pure a : Traced τ ε α).outcome = .ok a := rfl

@[simp] theorem trace_pure (a : α) : (pure a : Traced τ ε α).trace = [] := rfl

@[simp] theorem outcome_lift (x : Except ε α) : (lift x : Traced τ ε α).outcome = x := rfl

@[simp] theorem trace_lift (x : Except ε α) : (lift x : Traced τ ε α).trace = [] := rfl

@[simp] theorem outcome_record (t : τ) : (record t : Traced τ ε Unit).outcome = .ok () := rfl

@[simp] theorem trace_record (t : τ) : (record t : Traced τ ε Unit).trace = [t] := rfl

@[simp] theorem outcome_recordAll (trace : List τ) :
    (recordAll trace : Traced τ ε Unit).outcome = .ok () := outcome_of ..

@[simp] theorem trace_recordAll (trace : List τ) :
    (recordAll trace : Traced τ ε Unit).trace = trace := trace_of ..

@[simp] theorem outcome_mapError (f : ε → ε') (x : Traced τ ε α) :
    (x.mapError f).outcome = x.outcome.mapError f := by
  induction x with
  | done o => rfl
  | item t rest ih => exact ih ()

@[simp] theorem trace_mapError (f : ε → ε') (x : Traced τ ε α) :
    (x.mapError f).trace = x.trace := by
  induction x with
  | done o => rfl
  | item t rest ih => exact congrArg (t :: ·) (ih ())

@[simp] theorem outcome_bind (x : Traced τ ε α) (f : α → Traced τ ε β) :
    (x >>= f).outcome = x.outcome >>= fun a => (f a).outcome := by
  induction x with
  | done o => cases o <;> rfl
  | item t rest ih => exact ih ()

theorem trace_bind_of_ok {x : Traced τ ε α} {a : α} (f : α → Traced τ ε β)
    (h : x.outcome = .ok a) : (x >>= f).trace = x.trace ++ (f a).trace := by
  induction x with
  | done o =>
    obtain rfl : o = .ok a := h
    rfl
  | item t rest ih => exact congrArg (t :: ·) (ih () h)

theorem trace_bind_of_error {x : Traced τ ε α} {e : ε} (f : α → Traced τ ε β)
    (h : x.outcome = .error e) : (x >>= f).trace = x.trace := by
  induction x with
  | done o =>
    obtain rfl : o = .error e := h
    rfl
  | item t rest ih => exact congrArg (t :: ·) (ih () h)

/-! ### Monad laws -/

theorem bind_pure_comp_id (x : Traced τ ε α) : id <$> x = x := by
  show bind x _ = x
  induction x with
  | done o => cases o <;> rfl
  | item t rest ih => exact congrArg (item t) (funext fun u => ih u)

theorem pure_then (a : α) (f : α → Traced τ ε β) : pure a >>= f = f a := rfl

theorem then_then {γ : Type} (x : Traced τ ε α) (f : α → Traced τ ε β) (g : β → Traced τ ε γ) :
    x >>= f >>= g = x >>= fun a => f a >>= g := by
  induction x with
  | done o => cases o <;> rfl
  | item t rest ih => exact congrArg (item t) (funext fun u => ih u)

instance : LawfulMonad (Traced τ ε) :=
  LawfulMonad.mk' (Traced τ ε) bind_pure_comp_id pure_then then_then

end Traced

end ClientSynthesis.Report
