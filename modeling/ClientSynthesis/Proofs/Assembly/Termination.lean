import ClientSynthesis.Proofs.Assembly.EndlessExpansion
import ClientSynthesis.Proofs.Body.Nesting

/-!
# Interpretations with an end

An interpretation comes to an end if no call that it makes refers to a fragment that is being
expanded around the call. Its calls are then nested no deeper than the documents have objects, and
one more. The descent needs no more levels than that, and what it comes to with more is the same.
-/

namespace ClientSynthesis.Assembly.Registry

open Body (Call Scope documentsOf elaborateAt levelBound)
open Json (Fields)

/-- The number of objects in the documents is below the bound. -/
theorem objectCount_lt_levelBound (scope : Scope) (node : Json) :
    ((documentsOf scope node).map Json.objectCount).sum < levelBound scope node := by
  have hcount : ((documentsOf scope node).flatMap Json.objectsWithin).length =
      ((documentsOf scope node).map Json.objectCount).sum := by
    rw [List.length_flatMap, funext Json.length_objectsWithin]
  rw [Body.levelBound_eq, hcount]
  exact Nat.lt_of_lt_of_le (Nat.lt_succ_self _) (Nat.le_mul_of_pos_right _ (Nat.two_pow_pos _))

/-- **Without reentry, an interpretation comes to an end.** The calls it makes are nested at most
one deeper than there are objects in the node and the tables; with that many levels or more, the
descent comes to what the interpretation comes to; and that is an element, or an error that tells
what is wrong. -/
theorem interpret_ends_of_noReentry (r : Registry) (scope : Scope) (node : Json)
    (hno : Call.NoReentry r.content (Call.first scope node)) :
    (∀ depth defs c, Call.Reached r.content (Call.first scope node) depth defs c →
      depth + 1 ≤ ((documentsOf scope node).map Json.objectCount).sum + 1) ∧
    (∀ levels, ((documentsOf scope node).map Json.objectCount).sum + 1 ≤ levels →
      r.takeIn (elaborateAt levels scope "" node) = r.interpret scope node) ∧
    ((∃ element, (r.interpret scope node).outcome = .ok element) ∨
      ∃ error, (r.interpret scope node).outcome = .error error ∧
        ∀ path, error ≠ .endlessExpansion path) := by
  have hends : ¬ (r.takeIn (elaborateAt (((documentsOf scope node).map Json.objectCount).sum + 1)
      scope "" node)).Endless := by
    intro hendless
    obtain ⟨hcut, hunamb⟩ := endless_takeIn_iff.1 hendless
    exact hno.not_stuck (Nat.lt_succ_self _) ⟨hcut, hunamb⟩
  have hsame : ∀ levels, ((documentsOf scope node).map Json.objectCount).sum + 1 ≤ levels →
      r.takeIn (elaborateAt (((documentsOf scope node).map Json.objectCount).sum + 1) scope ""
        node) = r.takeIn (elaborateAt levels scope "" node) := fun levels hle ↦
    (takeIn_eq_or_endless (Body.extends_elaborateAt hle scope "" node)).resolve_right hends
  have hinterpret := hsame (levelBound scope node) (objectCount_lt_levelBound scope node)
  refine ⟨fun depth defs c h ↦ Nat.succ_le_succ (h.depth_le hno), fun levels hle ↦ ?_, ?_⟩
  · exact (hsame levels hle).symm.trans hinterpret
  · rw [hinterpret] at hends
    cases houtcome : (r.interpret scope node).outcome with
    | ok element => exact .inl ⟨element, rfl⟩
    | error error =>
      refine .inr ⟨error, rfl, fun path heq ↦ hends ⟨path, ?_⟩⟩
      rw [← heq]
      exact houtcome

/-! ### A fragment inside a fragment -/

/-- A reference to a parameter. -/
def referenceTo (name : String) : Json :=
  .object [("key", .string name), ("type", .string "parameter")]

/-- The bounds of a range, which refer to a parameter themselves. -/
def boundsFragment : Fields :=
  [("key", .string "bounds"), ("type", .string "struct"), ("typeName", .string "Bounds"),
    ("any_of", .array [referenceTo "gte"])]

def gteFragment : Fields :=
  [("key", .string "gte"), ("type", .string "simple"), ("typeName", .string "f64")]

def rangeTable : Fields := [("bounds", .object boundsFragment), ("gte", .object gteFragment)]

def rangeFields : Fields :=
  [("key", .string "range"), ("type", .string "struct"), ("typeName", .string "Range"),
    ("parameters", .object rangeTable), ("any_of", .array [referenceTo "bounds"])]

/-- A table around the range, with bounds that refer to themselves; those of the range hide them. -/
def endlessTable : Fields :=
  [("bounds", .object [("key", .string "bounds"), ("type", .string "struct"),
    ("typeName", .string "Bounds"), ("any_of", .array [referenceTo "bounds"])])]

/-- An object with a single child makes a single call. -/
theorem eq_below_of_makes {c c' : Call} {defs : List Definition} {o : Body.Opened}
    {multiplicity : Body.Multiplicity} {child : Json}
    (hopen : (Body.openNode c.scope c.parent c.node).outcome = .ok o)
    (hcontainer : ∀ path, o.descriptor.object? "childContainer" path = .ok none)
    (hdeclared : ∀ path, Body.declaredChildren o.descriptor path = .ok (multiplicity, [child]))
    (h : c.Makes defs c') : c' = c.below o (.item false multiplicity 0) child := by
  obtain ⟨levels, o', way, hopen', -, hcomes, heq⟩ := h
  obtain rfl : o = o' := Except.ok.inj (hopen.symm.trans hopen')
  rw [heq]
  cases hcomes with
  | value hread _ hvalue =>
    obtain rfl := Except.ok.inj ((hcontainer _).symm.trans hread)
    exact nomatch hvalue
  | @item _ _ _ _ front back node _ _ hread _ _ hitems _ _ =>
    obtain rfl := Except.ok.inj ((hcontainer _).symm.trans hread)
    obtain ⟨rfl, hlist⟩ := Prod.mk.inj (Except.ok.inj ((hdeclared _).symm.trans hitems))
    cases front with
    | nil =>
      obtain ⟨hchild, -⟩ := List.cons.inj hlist
      rw [← hchild]
      rfl
    | cons item front =>
      obtain ⟨-, hrest⟩ := List.cons.inj hlist
      exact absurd hrest.symm (by simp)

/-- The calls of the range are for itself, for its bounds, and for the parameter in these. -/
theorem reached_range {known : Set Definition} {depth : Nat} {defs : List Definition} {c : Call}
    (h : Call.Reached known (.first (.ofTables [endlessTable]) (.object rangeFields)) depth defs
      c) :
    c.fragment? = none ∨ c.expanding = [] ∨
      c.fragment? = some ⟨0, [.field "gte", .field "parameters"]⟩ ∧
        c.expanding = [⟨0, [.field "bounds", .field "parameters"]⟩] := by
  let range : Call := .first (.ofTables [endlessTable]) (.object rangeFields)
  let inner : Scope := .ofTables [endlessTable, rangeTable]
  let openRange : Body.Opened :=
    ⟨"range", rangeFields, .object, inner, ⟨"range", "Range", none⟩⟩
  let openBounds : Body.Opened :=
    ⟨"range.bounds", boundsFragment, .object, inner, ⟨"bounds", "Bounds", none⟩⟩
  let bounds : Call := range.below openRange (.item false .anyOf 0) (referenceTo "bounds")
  let gte : Call := bounds.below openBounds (.item false .anyOf 0) (referenceTo "gte")
  have hreached : c = range ∨ c = bounds ∨ c = gte := by
    induction h with
    | start => exact .inl rfl
    | call _ hmakes _ ih =>
      rcases ih with rfl | rfl | rfl
      · exact .inr (.inl
          (eq_below_of_makes (o := openRange) rfl (fun _ ↦ rfl) (fun _ ↦ rfl) hmakes))
      · exact .inr (.inr
          (eq_below_of_makes (o := openBounds) rfl (fun _ ↦ rfl) (fun _ ↦ rfl) hmakes))
      · -- What is left is a number.
        obtain ⟨levels, o, way, hopen, hkind, -⟩ := hmakes
        have hnumber : (Body.openNode gte.scope gte.parent gte.node).outcome =
            .ok ⟨"range.bounds.gte", gteFragment, .leaf .scalar, inner, ⟨"gte", "f64", none⟩⟩ := rfl
        obtain rfl := Except.ok.inj (hnumber.symm.trans hopen)
        exact nomatch hkind
  rcases hreached with rfl | rfl | rfl
  · exact .inl rfl
  · exact .inr (.inl rfl)
  · exact .inr (.inr ⟨rfl, rfl⟩)

/-- There are nine objects, and ten levels are enough. -/
theorem interpret_ends_of_noReentry_of_range :
    Call.NoReentry empty.content (.first (.ofTables [endlessTable]) (.object rangeFields)) ∧
      empty.takeIn (elaborateAt 10 (.ofTables [endlessTable]) "" (.object rangeFields)) =
        empty.interpret (.ofTables [endlessTable]) (.object rangeFields) := by
  have hno : Call.NoReentry empty.content
      (.first (.ofTables [endlessTable]) (.object rangeFields)) := by
    intro depth defs c h p hp hmem
    rcases reached_range h with hnone | hnil | ⟨hgte, hbounds⟩
    · exact nomatch hnone.symm.trans hp
    · rw [hnil] at hmem
      exact nomatch hmem
    · rw [hbounds, List.mem_singleton] at hmem
      rw [hgte, hmem] at hp
      exact absurd hp (by decide)
  obtain ⟨-, hlevels, -⟩ := interpret_ends_of_noReentry empty (.ofTables [endlessTable])
    (.object rangeFields) hno
  exact ⟨hno, hlevels 10 (by decide)⟩

end ClientSynthesis.Assembly.Registry
