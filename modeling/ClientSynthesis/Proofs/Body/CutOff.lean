import ClientSynthesis.Proofs.Body.Descent
import ClientSynthesis.Proofs.Descriptor.Faults

/-!
# Elaborations that are cut off

An elaboration that has used up its levels is cut off (`CutOff`). With more levels it goes on from
there, and that is the only difference more levels make: an elaboration that is not cut off stays
the same to the last step, whether it ends well or fails (`extends_elaborateAt`).

Nothing but the levels cuts off. What is read from a descriptor on the way fails for other reasons,
so a cut can be traced back through a sequence to the part that contains it (`CutOff.of_bind`).
-/

namespace ClientSynthesis.Body

open Descriptor (Error)
open Json (Fields)
open Report (FailsOnly Traced)
open Report.Traced

variable {α β γ : Type}

/-- The elaboration ends for want of levels. -/
def CutOff (x : Elaborated α) : Prop := ∃ path, x.outcome = .error (.endlessExpansion path)

/-- The first elaboration is cut off where the second one is, with the given definitions before. -/
structure CutAfter (defs : List Definition) (x : Elaborated α) (y : Elaborated β) : Prop where
  cutOff : CutOff x
  definitions_eq : definitions x = defs ++ definitions y

/-! ### Where a cut is -/

/-- A sequence is cut off in its first part, or behind the success of that. -/
theorem CutOff.of_bind {x : Elaborated α} {f : α → Elaborated β} (h : CutOff (x >>= f)) :
    CutOff x ∨ ∃ a, x.outcome = .ok a ∧ CutOff (f a) := by
  obtain ⟨path, hpath⟩ := h
  rw [outcome_bind] at hpath
  cases hx : x.outcome with
  | error e =>
    rw [hx] at hpath
    obtain rfl : e = .endlessExpansion path := Except.error.inj hpath
    exact .inl ⟨path, hx⟩
  | ok a =>
    rw [hx] at hpath
    exact .inr ⟨a, rfl, path, hpath⟩

theorem not_cutOff_pure (a : α) : ¬ CutOff (pure a : Elaborated α) := fun ⟨_, h⟩ ↦ nomatch h

/-- A list that is cut off has an item that is, behind items that are run through. -/
theorem CutOff.of_mapM {f : α → Elaborated β} {xs : List α} (h : CutOff (xs.mapM f)) :
    ∃ front x back ys, xs = front ++ x :: back ∧ (front.mapM f).outcome = .ok ys ∧
      CutOff (f x) := by
  induction xs with
  | nil => exact absurd h (not_cutOff_pure _)
  | cons x rest ih =>
    rw [List.mapM_cons] at h
    rcases h.of_bind with hcut | ⟨y, hy, hcut⟩
    · exact ⟨[], x, rest, [], rfl, rfl, hcut⟩
    · rcases hcut.of_bind with hcut | ⟨ys, -, hcut⟩
      · obtain ⟨front, x', back, ys, rfl, hys, hx'⟩ := ih hcut
        refine ⟨x :: front, x', back, y :: ys, rfl, ?_, hx'⟩
        rw [List.mapM_cons, bind_outcome_eq_ok_iff]
        exact ⟨y, hy, bind_outcome_eq_ok_iff.2 ⟨ys, hys, rfl⟩⟩
      · exact absurd hcut (not_cutOff_pure _)

namespace CutAfter

variable {defs : List Definition} {y : Elaborated γ}

theorem refl {x : Elaborated α} (h : CutOff x) : CutAfter [] x x := ⟨h, rfl⟩

/-- A cut in the first part of a sequence is one of the sequence. -/
theorem bind {x : Elaborated α} (h : CutAfter defs x y) (f : α → Elaborated β) :
    CutAfter defs (x >>= f) y := by
  obtain ⟨⟨path, hpath⟩, hdefs⟩ := h
  refine ⟨⟨path, ?_⟩, ?_⟩
  · rw [outcome_bind, hpath]
    rfl
  · rw [← hdefs, definitions, trace_bind_of_error f hpath]
    rfl

/-- So is a cut behind the success of the first part. -/
theorem bind_of_ok {x : Elaborated α} {a : α} (hx : x.outcome = .ok a) {f : α → Elaborated β}
    (h : CutAfter defs (f a) y) : CutAfter (definitions x ++ defs) (x >>= f) y := by
  obtain ⟨⟨path, hpath⟩, hdefs⟩ := h
  refine ⟨⟨path, ?_⟩, ?_⟩
  · rw [outcome_bind, hx]
    exact hpath
  · rw [definitions_bind_of_ok f hx, hdefs, List.append_assoc]

/-- And so is, in a list, a cut at an item behind items that are run through. -/
theorem mapM {f : α → Elaborated β} {front : List α} {x : α} {ys : List β}
    (hfront : (front.mapM f).outcome = .ok ys) (h : CutAfter [] (f x) y) (back : List α) :
    CutAfter (definitions (front.mapM f)) ((front ++ x :: back).mapM f) y := by
  rw [List.mapM_append, ← List.append_nil (definitions (front.mapM f))]
  refine .bind_of_ok hfront (.bind ?_ _)
  rw [List.mapM_cons]
  exact h.bind _

end CutAfter

theorem not_cutOff_bind {x : Elaborated α} {f : α → Elaborated β} (hx : ¬ CutOff x)
    (hf : ∀ a, x.outcome = .ok a → ¬ CutOff (f a)) : ¬ CutOff (x >>= f) := by
  intro h
  rcases h.of_bind with hcut | ⟨a, ha, hcut⟩
  · exact hx hcut
  · exact hf a ha hcut

/-! ### Nothing else cuts off -/

theorem not_cutOff_liftM {x : Except Error α} (h : FailsOnly Error.IsInvalid x) :
    ¬ CutOff (liftM x : Elaborated α) := fun ⟨_, hx⟩ ↦ h _ hx

theorem failsOnly_tokenOf (fields : Fields) (path : String) :
    FailsOnly Error.IsInvalid (tokenOf fields path) := by
  refine .bind (fields.failsOnly_string _ _) fun text _ ↦ ?_
  cases Token.parse? text with
  | none => exact .error trivial
  | some token => exact .ok _

theorem not_cutOff_resolve (fields : Fields) (key : String) (scope : Scope) (path : String) :
    ¬ CutOff (resolve fields key scope path) := by
  refine not_cutOff_bind (not_cutOff_liftM (failsOnly_tokenOf _ _)) fun token _ ↦ ?_
  cases token with
  | kind kind => exact not_cutOff_pure _
  | reference =>
    cases hlookup : scope.lookup key with
    | none =>
      simp only
      exact fun ⟨_, h⟩ ↦ nomatch h
    | some fragment =>
      simp only
      refine not_cutOff_bind (not_cutOff_liftM (fragment.failsOnly_asObject _)) fun _ _ ↦ ?_
      refine not_cutOff_bind (not_cutOff_liftM (failsOnly_tokenOf _ _)) fun token _ ↦ ?_
      cases token with
      | reference => exact fun ⟨_, h⟩ ↦ nomatch h
      | kind kind => exact fun ⟨_, h⟩ ↦ nomatch h

theorem not_cutOff_openNode (scope : Scope) (parent : String) (node : Json) :
    ¬ CutOff (openNode scope parent node) := by
  refine not_cutOff_bind (not_cutOff_liftM (node.failsOnly_asObject _)) fun fields _ ↦ ?_
  refine not_cutOff_bind (not_cutOff_liftM (fields.failsOnly_string _ _)) fun key _ ↦ ?_
  refine not_cutOff_bind (not_cutOff_resolve _ _ _ _) fun resolved _ ↦ ?_
  refine not_cutOff_bind (not_cutOff_liftM (Fields.failsOnly_typed? _ _ _ _ _)) fun table _ ↦ ?_
  refine not_cutOff_bind (not_cutOff_liftM (Fields.failsOnly_string _ _ _)) fun typeName _ ↦ ?_
  refine not_cutOff_bind (not_cutOff_liftM (Fields.failsOnly_typed? _ _ _ _ _)) fun _ _ ↦ ?_
  exact not_cutOff_pure _

theorem failsOnly_declaredChildren (fields : Fields) (path : String) :
    FailsOnly Error.IsInvalid (declaredChildren fields path) :=
  .bind (Fields.failsOnly_typed? _ _ _ _ _) fun _ _ ↦
    .bind (Fields.failsOnly_typed? _ _ _ _ _) fun _ _ ↦ .ok _

theorem failsOnly_requiredFlag (item : Json) (path : String) :
    FailsOnly Error.IsInvalid (requiredFlag item path) := by
  cases item with
  | object fields =>
    rw [requiredFlag]
    cases hflag : Fields.bool? fields "required" path with
    | ok flag => exact .ok _
    | error e => exact .error (Fields.failsOnly_typed? _ _ _ _ _ e hflag)
  | _ => exact .ok _

theorem not_cutOff_closeShape (path : String) (multiplicity : Multiplicity)
    (containerKey : Option String) (value : Option Element) (children : List (Child Element)) :
    ¬ CutOff (closeShape path multiplicity containerKey value children) := by
  rintro ⟨_, h⟩
  unfold closeShape at h
  split_ifs at h <;> exact nomatch h

theorem failsOnly_ofElement? (e : Element) (path : String) :
    FailsOnly Error.IsInvalid (Definition.ofElement? e path) := by
  cases e with
  | object head object =>
    refine .bind ?_ fun shape _ ↦ .ok _
    unfold StructShape.ofObject
    split_ifs
    · exact .ok _
    · dsimp only
      split
      · exact .error trivial
      · exact .ok _
  | enum head options =>
    refine .bind ?_ fun cases _ ↦ .ok _
    unfold EnumCase.ofOptions
    dsimp only
    split
    · exact .error trivial
    · exact .ok _
  | leaf head kind => exact .ok _

theorem not_cutOff_closeNode (path : String) (e : Element) : ¬ CutOff (closeNode path e) := by
  refine not_cutOff_bind (not_cutOff_liftM (failsOnly_ofElement? e path)) fun definition? _ ↦ ?_
  cases definition? <;> exact fun ⟨_, h⟩ ↦ nomatch h

/-! ### More levels -/

/-- The second elaboration is the first one, or goes on where that is cut off. -/
def Extends (x y : Elaborated α) : Prop := x = y ∨ CutOff x ∧ x.trace <+: y.trace

namespace Extends

theorem refl (x : Elaborated α) : Extends x x := .inl rfl

/-- What goes on has defined all that was defined before. -/
theorem contribution_subset {x y : Elaborated α} (h : Extends x y) :
    contribution x ⊆ contribution y := by
  rcases h with rfl | ⟨-, hfront⟩
  · exact subset_rfl
  · exact (hfront.filterMap Step.definition?).subset

/-- What is cut off later is cut off earlier. -/
theorem cutOff {x y : Elaborated α} (h : Extends x y) (hy : CutOff y) : CutOff x := by
  rcases h with rfl | ⟨hcut, -⟩
  · exact hy
  · exact hcut

theorem bind {x y : Elaborated α} {f g : α → Elaborated β} (hxy : Extends x y)
    (hfg : ∀ a, Extends (f a) (g a)) : Extends (x >>= f) (y >>= g) := by
  rcases hxy with rfl | ⟨hcut, hfront⟩
  · cases hx : x.outcome with
    | error e =>
      refine .inl (Traced.ext ?_ ?_)
      · rw [trace_bind_of_error f hx, trace_bind_of_error g hx]
      · rw [outcome_bind, outcome_bind, hx]
        rfl
    | ok a =>
      rcases hfg a with heq | ⟨hcut, hfront⟩
      · refine .inl (Traced.ext ?_ ?_)
        · rw [trace_bind_of_ok f hx, trace_bind_of_ok g hx, heq]
        · rw [outcome_bind, outcome_bind, hx]
          exact congrArg outcome heq
      · refine .inr ⟨(CutAfter.bind_of_ok hx (.refl hcut)).cutOff, ?_⟩
        rw [trace_bind_of_ok f hx, trace_bind_of_ok g hx]
        exact (List.prefix_append_right_inj _).2 hfront
  · refine .inr ⟨((CutAfter.refl hcut).bind f).cutOff, ?_⟩
    obtain ⟨path, hpath⟩ := hcut
    rw [trace_bind_of_error f hpath]
    cases hy : y.outcome with
    | error e => rwa [trace_bind_of_error g hy]
    | ok a =>
      rw [trace_bind_of_ok g hy]
      exact hfront.trans (List.prefix_append _ _)

theorem mapM {f g : α → Elaborated β} (hfg : ∀ a, Extends (f a) (g a)) (xs : List α) :
    Extends (xs.mapM f) (xs.mapM g) := by
  induction xs with
  | nil => exact .refl _
  | cons x rest ih =>
    rw [List.mapM_cons, List.mapM_cons]
    exact .bind (hfg x) fun y ↦ .bind ih fun ys ↦ .refl _

theorem mapM_option {f g : α → Elaborated β} (hfg : ∀ a, Extends (f a) (g a)) (x : Option α) :
    Extends (x.mapM f) (x.mapM g) := by
  cases x with
  | none => exact .refl _
  | some a =>
    rw [Option.mapM_some, Option.mapM_some, map_eq_pure_bind, map_eq_pure_bind]
    exact .bind (hfg a) fun b ↦ .refl _

end Extends

theorem extends_fillNode {elaborateChild elaborateChild' : Json → Elaborated Element}
    (h : ∀ node, Extends (elaborateChild node) (elaborateChild' node)) (o : Opened) :
    Extends (fillNode elaborateChild o) (fillNode elaborateChild' o) := by
  unfold fillNode
  cases o.kind with
  | object =>
    dsimp only
    rw [elaborateShape_eq, elaborateShape_eq]
    refine .bind (.bind (.refl _) fun container ↦ .bind (.refl _) fun containerKey ↦ ?_)
      fun shape ↦ .refl _
    refine .bind (.mapM_option h _) fun value ↦ .bind (.refl _) fun declared ↦ ?_
    refine .bind (.mapM (fun item ↦ ?_) _) fun children ↦ .refl _
    exact .bind (.refl _) fun required ↦ .bind (h item) fun e ↦ .refl _
  | enum => exact .refl _
  | leaf kind => exact .refl _

/-- **More levels only let an elaboration go on where it has been cut off.** -/
theorem extends_elaborateAt {levels more : Nat} (h : levels ≤ more) (scope : Scope)
    (parent : String) (node : Json) :
    Extends (elaborateAt levels scope parent node) (elaborateAt more scope parent node) := by
  induction levels generalizing more scope parent node with
  | zero => exact .inr ⟨⟨_, rfl⟩, List.nil_prefix⟩
  | succ levels ih =>
    obtain ⟨more, rfl⟩ : ∃ more', more = more' + 1 := ⟨more - 1, by omega⟩
    rw [elaborateAt_succ, elaborateAt_succ]
    refine .bind (.refl _) fun o ↦ .bind (extends_fillNode (fun child ↦ ?_) o) fun e ↦ .refl _
    exact ih (by omega) o.inner o.path child

end ClientSynthesis.Body
