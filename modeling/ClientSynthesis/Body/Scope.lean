import ClientSynthesis.Json.Basic

/-!
# Parameter scopes

A scope is the stack of parameter tables that enclose a node. Overlaying a table makes a new scope
and leaves the old one as it was, so what a node declares is seen by its own subtree only. The
innermost binding of a name counts, also when it binds `null`.
-/

namespace ClientSynthesis.Body

/-- The parameter tables around a node, innermost first. -/
structure Scope where
  tables : List Json.Fields
  deriving Repr

namespace Scope

/-- The scope of a top-level descriptor. -/
def root : Scope := ⟨[]⟩

/-- A scope from its tables, outermost first. -/
def ofTables (tables : List Json.Fields) : Scope := ⟨tables.reverse⟩

/-- The scope inside a node that declares parameters. -/
def overlay (scope : Scope) (table : Json.Fields) : Scope := ⟨table :: scope.tables⟩

/-- The fragment a name is bound to. -/
def lookup (scope : Scope) (name : String) : Option Json :=
  scope.tables.findSome? (·.get? name)

/-! ### Interface -/

@[simp] theorem lookup_root (name : String) : root.lookup name = none := rfl

theorem lookup_overlay (scope : Scope) (table : Json.Fields) (name : String) :
    (scope.overlay table).lookup name = (table.get? name).or (scope.lookup name) := by
  simp only [lookup, overlay, List.findSome?_cons]
  cases table.get? name <;> rfl

end Scope

end ClientSynthesis.Body
