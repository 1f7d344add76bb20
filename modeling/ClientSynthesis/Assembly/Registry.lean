import ClientSynthesis.Assembly.NameMap
import ClientSynthesis.Definition.Basic
import ClientSynthesis.Descriptor.Error
import ClientSynthesis.Report.Event

/-!
# The registry of definitions

A registry binds names to what they define. Since a definition is its name with a kind, every entry
stands under its own name by construction. Registering is append-only: a name that is bound keeps
its definition, and registering a different one under it is a conflict.
-/

namespace ClientSynthesis.Assembly

open Descriptor (Error)
open Report (Event)

/-- The definitions of a run, by name. -/
structure Registry where
  kinds : NameMap DefinitionKind

namespace Registry

/-- The registry without definitions. -/
def empty : Registry := ⟨.empty⟩

instance : Inhabited Registry := ⟨empty⟩

@[ext] theorem ext {r s : Registry} (h : r.kinds = s.kinds) : r = s := by
  cases r; cases s; simp_all

/-! ### Reading -/

/-- The definitions, in name order. -/
def definitions (r : Registry) : List Definition := r.kinds.entries.map fun (n, k) => ⟨n, k⟩

/-- The names of all definitions, in order. -/
def names (r : Registry) : List String := r.kinds.names

/-- The definition of a name. -/
def get? (r : Registry) (name : String) : Option Definition := (r.kinds.get? name).map (⟨name, ·⟩)

/-- Whether a name is defined. -/
def contains (r : Registry) (name : String) : Bool := r.kinds.contains name

/-- The number of definitions. -/
def size (r : Registry) : Nat := r.kinds.size

/-- The type a name defines. -/
def type? (r : Registry) (name : String) : Option TypeDefinition :=
  match r.kinds.get? name with
  | some (.type definition) => some definition
  | _ => none

/-- The names that define types, in order. -/
def typeNames (r : Registry) : List String :=
  r.kinds.entries.filterMap fun
    | (name, .type _) => some name
    | (_, .methodGroup _) => none

/-- The registered types that the fields of a type refer to, in order of first reference. -/
def dependencies (r : Registry) (type : TypeDefinition) : List String :=
  match type.shape with
  | .enum _ => []
  | .struct shape =>
    (shape.fields.filterMap (·.type.referenced?)).foldl
      (fun deps name =>
        if (r.type? name).isSome && !deps.contains name then deps ++ [name] else deps)
      []

/-! ### Registering -/

/-- What registering a definition amounts to. -/
inductive Status where
  /-- The name is free. -/
  | fresh
  /-- The name is bound to the same content. -/
  | known
  /-- The name is bound to other content. -/
  | conflicting
  deriving DecidableEq, Repr

/-- How a definition stands to the registry. -/
def status (r : Registry) (d : Definition) : Status :=
  match r.kinds.get? d.name with
  | none => .fresh
  | some kind => if kind = d.kind then .known else .conflicting

/-- The registry with a definition, unless that conflicts, and the event to report. -/
def register (r : Registry) (d : Definition) : Except Error (Registry × Event) :=
  match r.status d with
  | .fresh => .ok (⟨r.kinds.insert d.name d.kind⟩, .definitionRegistered d.name)
  | .known => .ok (r, .definitionRepeated d.name)
  | .conflicting => .error (.nameConflict d.name)

/-! ### Interface -/

theorem register_of_fresh {r : Registry} {d : Definition} (h : r.status d = .fresh) :
    r.register d = .ok (⟨r.kinds.insert d.name d.kind⟩, .definitionRegistered d.name) := by
  rw [register, h]

theorem register_of_known {r : Registry} {d : Definition} (h : r.status d = .known) :
    r.register d = .ok (r, .definitionRepeated d.name) := by
  rw [register, h]

theorem register_of_conflicting {r : Registry} {d : Definition} (h : r.status d = .conflicting) :
    r.register d = .error (.nameConflict d.name) := by
  rw [register, h]

end Registry

end ClientSynthesis.Assembly
