import ClientSynthesis.Report.Traced
import Mathlib.Data.List.Forall2

/-!
# Outcomes of computations with a trace

When a sequence of computations succeeds, each of them does. These are the inversion lemmas by which
a descent that has succeeded is taken apart; they say nothing of what was recorded on the way.
-/

namespace ClientSynthesis.Report

variable {τ ε α β : Type}

/-- What comes after a result is reached only behind a success. -/
theorem bind_eq_ok_iff {x : Except ε α} {f : α → Except ε β} {b : β} :
    x >>= f = .ok b ↔ ∃ a, x = .ok a ∧ f a = .ok b := by
  cases x with
  | error e =>
    constructor
    · exact fun h ↦ nomatch h
    · rintro ⟨_, h, -⟩
      exact nomatch h
  | ok a =>
    constructor
    · exact fun h ↦ ⟨a, rfl, h⟩
    · rintro ⟨a', h, hb⟩
      obtain rfl := Except.ok.inj h
      exact hb

/-- An error comes from a computation, or from what is behind its success. -/
theorem bind_eq_error_iff {x : Except ε α} {f : α → Except ε β} {e : ε} :
    x >>= f = .error e ↔ x = .error e ∨ ∃ a, x = .ok a ∧ f a = .error e := by
  cases x with
  | error e' =>
    constructor
    · exact fun h ↦ .inl (congrArg Except.error (Except.error.inj h))
    · rintro (h | ⟨_, h, -⟩)
      · exact congrArg Except.error (Except.error.inj h)
      · exact nomatch h
  | ok a =>
    constructor
    · exact fun h ↦ .inr ⟨a, rfl, h⟩
    · rintro (h | ⟨a', h, he⟩)
      · exact nomatch h
      · obtain rfl := Except.ok.inj h
        exact he

theorem toOption_eq_some_iff {x : Except ε α} {a : α} : x.toOption = some a ↔ x = .ok a := by
  cases x with
  | error e => exact ⟨nofun, nofun⟩
  | ok b => rw [Except.toOption, Option.some.injEq, Except.ok.injEq]

theorem mapError_eq_ok_iff {ε' : Type} {f : ε → ε'} {x : Except ε α} {a : α} :
    x.mapError f = .ok a ↔ x = .ok a := by
  cases x with
  | error e => exact ⟨nofun, nofun⟩
  | ok b => exact Iff.of_eq (by rw [Except.mapError, Except.ok.injEq, Except.ok.injEq])

theorem mapError_eq_error_iff {ε' : Type} {f : ε → ε'} {x : Except ε α} {e' : ε'} :
    x.mapError f = .error e' ↔ ∃ e, x = .error e ∧ f e = e' := by
  cases x with
  | error e => simp [Except.mapError]
  | ok b => simp [Except.mapError]

/-- What stands in a list has something beside it. -/
theorem exists_mem_of_forall₂ {R : α → β → Prop} {xs : List α} {ys : List β}
    (h : List.Forall₂ R xs ys) {x : α} (hx : x ∈ xs) : ∃ y ∈ ys, R x y := by
  induction h with
  | nil => exact nomatch hx
  | cons hxy _ ih =>
    rcases List.mem_cons.1 hx with rfl | hx
    · exact ⟨_, List.mem_cons_self, hxy⟩
    · obtain ⟨y, hy, hxy⟩ := ih hx
      exact ⟨y, List.mem_cons_of_mem _ hy, hxy⟩

namespace Traced

@[simp] theorem outcome_liftM (x : Except ε α) : (liftM x : Traced τ ε α).outcome = x := rfl

@[simp] theorem outcome_map (f : α → β) (x : Traced τ ε α) :
    (f <$> x).outcome = f <$> x.outcome := by
  rw [map_eq_pure_bind, outcome_bind, map_eq_pure_bind]
  rfl

/-- What comes after a computation succeeds only behind its success. -/
theorem bind_outcome_eq_ok_iff {x : Traced τ ε α} {f : α → Traced τ ε β} {b : β} :
    (x >>= f).outcome = .ok b ↔ ∃ a, x.outcome = .ok a ∧ (f a).outcome = .ok b := by
  rw [outcome_bind, bind_eq_ok_iff]

/-- A list is run through exactly if each item is, and then result stands beside item. -/
theorem mapM_outcome_eq_ok_iff {f : α → Traced τ ε β} {xs : List α} {ys : List β} :
    (xs.mapM f).outcome = .ok ys ↔ List.Forall₂ (fun x y ↦ (f x).outcome = .ok y) xs ys := by
  induction xs generalizing ys with
  | nil =>
    rw [List.mapM_nil, outcome_pure, List.forall₂_nil_left_iff, Except.ok.injEq]
    exact eq_comm
  | cons x rest ih =>
    rw [List.mapM_cons, bind_outcome_eq_ok_iff, List.forall₂_cons_left_iff]
    constructor
    · rintro ⟨y, hy, h⟩
      obtain ⟨ys', hys, h⟩ := bind_outcome_eq_ok_iff.1 h
      exact ⟨y, ys', hy, ih.1 hys, (Except.ok.inj h).symm⟩
    · rintro ⟨y, ys', hy, hys, rfl⟩
      exact ⟨y, hy, bind_outcome_eq_ok_iff.2 ⟨ys', ih.2 hys, rfl⟩⟩

/-- A list can be run through exactly if each item succeeds. -/
theorem exists_mapM_outcome_eq_ok_iff {f : α → Traced τ ε β} {xs : List α} :
    (∃ ys, (xs.mapM f).outcome = .ok ys) ↔ ∀ x ∈ xs, ∃ y, (f x).outcome = .ok y := by
  simp only [mapM_outcome_eq_ok_iff]
  induction xs with
  | nil => exact ⟨fun _ ↦ List.forall_mem_nil _, fun _ ↦ ⟨[], .nil⟩⟩
  | cons x rest ih =>
    rw [List.forall_mem_cons, ← ih]
    constructor
    · rintro ⟨_, hxy⟩
      obtain ⟨y, ys, hy, hys, -⟩ := List.forall₂_cons_left_iff.1 hxy
      exact ⟨⟨y, hy⟩, ⟨ys, hys⟩⟩
    · rintro ⟨⟨y, hy⟩, ⟨ys, hys⟩⟩
      exact ⟨y :: ys, .cons hy hys⟩

/-- In a list that is run through, each item succeeds. -/
theorem ok_of_mapM_ok {f : α → Traced τ ε β} {xs : List α} {ys : List β}
    (h : (xs.mapM f).outcome = .ok ys) {x : α} (hx : x ∈ xs) : ∃ y ∈ ys, (f x).outcome = .ok y :=
  exists_mem_of_forall₂ (mapM_outcome_eq_ok_iff.1 h) hx

/-- In a list that is run through, each result is that of an item. -/
theorem exists_mem_of_mapM_ok {f : α → Traced τ ε β} {xs : List α} {ys : List β}
    (h : (xs.mapM f).outcome = .ok ys) {y : β} (hy : y ∈ ys) : ∃ x ∈ xs, (f x).outcome = .ok y :=
  exists_mem_of_forall₂ (List.Forall₂.flip (mapM_outcome_eq_ok_iff.1 h)) hy

end Traced

end ClientSynthesis.Report
