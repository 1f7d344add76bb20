import ClientSynthesis.Proofs.Report.Outcome

/-!
# Computations in step

Two computations mirror each other if they end in the same error, or both end well and in related
results; with a trace, they also record the same. Sequences mirror each other part by part, and
where the last part makes the same of related results, they are equal (`bind_eq`).
-/

namespace ClientSynthesis.Report

variable {τ ε α β γ δ : Type} {R : α → β → Prop} {S : γ → δ → Prop}

/-- Both computations end well, in related results, or both end in the same error. -/
inductive Mirrors (R : α → β → Prop) : Except ε α → Except ε β → Prop
  | ok {a : α} {b : β} (h : R a b) : Mirrors R (.ok a) (.ok b)
  | error (e : ε) : Mirrors R (.error e) (.error e)

namespace Mirrors

theorem bind {x : Except ε α} {y : Except ε β} {f : α → Except ε γ} {g : β → Except ε δ}
    (hxy : Mirrors R x y) (hfg : ∀ a b, R a b → Mirrors S (f a) (g b)) :
    Mirrors S (x >>= f) (y >>= g) := by
  cases hxy with
  | ok h => exact hfg _ _ h
  | error e => exact .error e

theorem bind_eq {x : Except ε α} {y : Except ε β} {f : α → Except ε γ} {g : β → Except ε γ}
    (hxy : Mirrors R x y) (hfg : ∀ a b, R a b → f a = g b) : x >>= f = y >>= g := by
  cases hxy with
  | ok h => exact hfg _ _ h
  | error e => rfl

theorem eq {x y : Except ε α} (h : Mirrors Eq x y) : x = y := by
  cases h with
  | ok h => rw [h]
  | error e => rfl

theorem mono {R' : α → β → Prop} {x : Except ε α} {y : Except ε β} (h : Mirrors R x y)
    (hR : ∀ a b, R a b → R' a b) : Mirrors R' x y := by
  cases h with
  | ok h => exact .ok (hR _ _ h)
  | error e => exact .error e

end Mirrors

namespace Traced

/-- The computations mirror each other, and record the same. -/
structure Mirrors (R : α → β → Prop) (x : Traced τ ε α) (y : Traced τ ε β) : Prop where
  trace : x.trace = y.trace
  outcome : Report.Mirrors R x.outcome y.outcome

namespace Mirrors

theorem pure {a : α} {b : β} (h : R a b) : Mirrors R (pure a : Traced τ ε α) (pure b) :=
  ⟨rfl, .ok h⟩

theorem liftM {x : Except ε α} {y : Except ε β} (h : Report.Mirrors R x y) :
    Mirrors R (liftM x : Traced τ ε α) (liftM y) := ⟨rfl, h⟩

theorem bind {x : Traced τ ε α} {y : Traced τ ε β} {f : α → Traced τ ε γ} {g : β → Traced τ ε δ}
    (hxy : Mirrors R x y) (hfg : ∀ a b, R a b → Mirrors S (f a) (g b)) :
    Mirrors S (x >>= f) (y >>= g) := by
  obtain ⟨htrace, houtcome⟩ := hxy
  generalize hx : x.outcome = xo at houtcome
  generalize hy : y.outcome = yo at houtcome
  cases houtcome with
  | ok h =>
    refine ⟨?_, ?_⟩
    · rw [trace_bind_of_ok f hx, trace_bind_of_ok g hy, htrace, (hfg _ _ h).trace]
    · rw [outcome_bind, outcome_bind, hx, hy]
      exact (hfg _ _ h).outcome
  | error e =>
    refine ⟨?_, ?_⟩
    · rw [trace_bind_of_error f hx, trace_bind_of_error g hy, htrace]
    · rw [outcome_bind, outcome_bind, hx, hy]
      exact .error e

theorem refl (x : Traced τ ε α) : Mirrors Eq x x := by
  refine ⟨rfl, ?_⟩
  cases x.outcome with
  | ok a => exact .ok rfl
  | error e => exact .error e

/-- After the same computation it is enough to compare what follows. -/
theorem bind_right (x : Traced τ ε α) {f : α → Traced τ ε γ} {g : α → Traced τ ε δ}
    (hfg : ∀ a, Mirrors S (f a) (g a)) : Mirrors S (x >>= f) (x >>= g) :=
  (refl x).bind fun a _ heq ↦ heq ▸ hfg a

theorem eq {x y : Traced τ ε α} (h : Mirrors Eq x y) : x = y := Traced.ext h.trace h.outcome.eq

/-- If the same follows upon related results, the whole is the same. -/
theorem bind_eq {x : Traced τ ε α} {y : Traced τ ε β} {f : α → Traced τ ε γ} {g : β → Traced τ ε γ}
    (hxy : Mirrors R x y) (hfg : ∀ a b, R a b → f a = g b) : x >>= f = y >>= g :=
  (hxy.bind fun a b h ↦ hfg a b h ▸ Mirrors.refl _).eq

end Mirrors

end Traced

end ClientSynthesis.Report
