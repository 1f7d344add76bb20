import ClientSynthesis.Proofs.Assembly.EndlessExpansion
import ClientSynthesis.Proofs.Body.Bindings

/-!
# Stacked tables and the table they merge into

Whether parameters come from a stack of tables or from the one table into which the stack is merged
is of no account for what a node is interpreted as. The recursion has its own bound either way,
since a stack holds more objects and bindings than the table; but that decides only where an
expansion without an end is given up.
-/

namespace ClientSynthesis.Assembly

open Body (Scope elaborateAt mergeTables)

/-- **A stack of parameter tables is as good as one table**, in which a name is bound to what the
last table of the stack binds it to, be it `null`. Both bind every name alike, a node is elaborated
alike in both, step by step and on every level, and its interpretation leaves the same registry and
ends in the same element or the same error, unless the expansion has no end either way. -/
theorem stacked_tables_eq_merged_table (tables : List Json.Fields) :
    ((mergeTables tables).map Prod.fst).Nodup ∧
    (∀ name, (tables.foldl Scope.overlay .root).lookup name =
      (Scope.root.overlay (mergeTables tables)).lookup name) ∧
    (∀ (levels : Nat) (parent : String) (node : Json),
      elaborateAt levels (tables.foldl Scope.overlay .root) parent node =
        elaborateAt levels (Scope.root.overlay (mergeTables tables)) parent node) ∧
    ∀ (r : Registry) (node : Json),
      (r.interpret (tables.foldl Scope.overlay .root) node).SameEnd
        (r.interpret (Scope.root.overlay (mergeTables tables)) node) := by
  have hlookup := Body.lookup_foldl_overlay tables
  refine ⟨Body.nodup_map_fst_mergeTables tables, congrFun hlookup,
    Body.elaborateAt_eq_of_lookup_eq hlookup, fun r node ↦ ?_⟩
  exact r.sameEnd_interpret_of_elaborateAt_eq fun levels ↦
    Body.elaborateAt_eq_of_lookup_eq hlookup levels "" node

end ClientSynthesis.Assembly
