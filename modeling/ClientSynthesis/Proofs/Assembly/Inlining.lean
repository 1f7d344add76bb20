import ClientSynthesis.Proofs.Body.Inlining

/-!
# Parameter references are inlining

Interpreting a node in a scope is interpreting its expansion in none (`interpret_expand`). A
registry is determined by the definitions it has taken in, and these are the same.
-/

namespace ClientSynthesis.Assembly.Registry

open Body (Agrees Element Elaborated IsReference Scope Situation contribution elaborate expand
  expandNode levelBound)

/-- A registry that takes in one of two computations that agree takes in the other to the same
end. -/
theorem takeIn_of_agrees {α : Type} {r : Registry} {x y : Elaborated α} {a : α} (hxy : Agrees x y)
    (h : (r.takeIn x).outcome = .ok a) :
    (r.takeIn y).outcome = .ok a ∧ (r.takeIn y).registry = (r.takeIn x).registry := by
  obtain ⟨hx, hunambiguous⟩ := takeIn_outcome_eq_ok_iff.1 h
  obtain ⟨hy, hdefinitions⟩ := hxy a hx
  have hcontribution : contribution y = contribution x := by
    rw [contribution, contribution, hdefinitions]
  have hunambiguous' : Unambiguous (r.content ∪ contribution y) := hcontribution ▸ hunambiguous
  refine ⟨takeIn_outcome_eq_ok_iff.2 ⟨hy, hunambiguous'⟩, ext_content ?_⟩
  rw [(takeIn_of_unambiguous hunambiguous').1, (takeIn_of_unambiguous hunambiguous).1,
    hcontribution]

/-- References are inlining at the place of use. Whatever node is interpreted in whatever scope, its
expansion is made of the expansions of the nodes below it, it has no reference where a descent comes
to, and interpreting it in no scope ends with the same element and the same registry. -/
theorem interpret_expand {r : Registry} {scope : Scope} {node : Json} {e : Element}
    (h : (r.interpret scope node).outcome = .ok e) :
    expand scope node = expandNode expand scope node ∧
      (∀ t, Situation.ComesTo ⟨.root, "", expand scope node⟩ t → ¬ IsReference t.node) ∧
      (r.interpret .root (expand scope node)).outcome = .ok e ∧
      (r.interpret .root (expand scope node)).registry = (r.interpret scope node).registry := by
  have helaborate : (elaborate scope node).outcome = .ok e := (takeIn_outcome_eq_ok_iff.1 h).1
  have hends : Situation.Ends (levelBound scope node) ⟨scope, "", node⟩ := ⟨e, helaborate⟩
  obtain ⟨hok, hregistry⟩ := takeIn_of_agrees (Body.agrees_expand scope node) h
  exact ⟨Body.expand_eq hends, fun t ht ↦ Body.not_isReference_of_comesTo helaborate ht, hok,
    hregistry⟩

/-- A fragment that refers on, to what its name is bound to at the place of use. -/
theorem interpret_expand_of_nested :
    let leaf : String → Json := fun typeName ↦
      .object [("key", .string "?"), ("type", .string "simple"), ("typeName", .string typeName)]
    let reference : String → Json := fun key ↦
      .object [("key", .string key), ("type", .string "parameter"), ("required", .bool true)]
    let scope := Scope.root.overlay [("boost", leaf "f64"), ("term", .object [("key", .string "?"),
      ("type", .string "struct"), ("typeName", .string "Term"),
      ("any_of", .array [reference "boost"])])]
    let node : Json := .object [("key", .string "query"), ("type", .string "struct"),
      ("typeName", .string "Query"), ("parameters", .object [("boost", leaf "u32")]),
      ("one_of", .array [reference "term"])]
    ∃ e, (empty.interpret scope node).outcome = .ok e ∧
      expand scope node = expandNode expand scope node ∧
      (∀ t, Situation.ComesTo ⟨.root, "", expand scope node⟩ t → ¬ IsReference t.node) ∧
      (empty.interpret .root (expand scope node)).outcome = .ok e ∧
      (empty.interpret .root (expand scope node)).registry =
        (empty.interpret scope node).registry := by
  intro leaf reference scope node
  have hok : (empty.interpret scope node).outcome.isOk = true := by decide +kernel
  obtain ⟨e, he⟩ : ∃ e, (empty.interpret scope node).outcome = .ok e := by
    cases houtcome : (empty.interpret scope node).outcome with
    | ok e => exact ⟨e, rfl⟩
    | error error =>
      rw [houtcome] at hok
      exact nomatch hok
  exact ⟨e, he, interpret_expand he⟩

end ClientSynthesis.Assembly.Registry
