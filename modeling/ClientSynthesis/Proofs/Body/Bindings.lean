import ClientSynthesis.Proofs.Body.Descent
import ClientSynthesis.Proofs.Json.Merge
import ClientSynthesis.Proofs.Report.Mirrors

/-!
# What an elaboration asks of its scope

An elaboration asks its scope for nothing but what names are bound to, on every level anew. In
scopes that bind the same it is therefore the same, step by step and with the same end, whether that
is an element or an error (`elaborateAt_eq_of_lookup_eq`); how many tables a scope is made of does
not show. In particular tables stacked on each other can be replaced by a single one, into which
they are merged from the outermost to the innermost (`lookup_foldl_overlay`).

The node has to stay in its place, since the errors of an elaboration that fails name it.
`agrees_of_lookup_eq`, which also moves the node, speaks of elaborations that succeed only.
-/

namespace ClientSynthesis.Body

open Json (Fields)
open Report (Traced)

variable {scope scope' : Scope}

/-! ### Scopes that bind the same -/

theorem lookup_overlay_congr (h : scope.lookup = scope'.lookup) (table : Fields) :
    (scope.overlay table).lookup = (scope'.overlay table).lookup := by
  funext name
  rw [Scope.lookup_overlay, Scope.lookup_overlay, h]

/-- A node opened twice: the scopes below bind the same, and all else is equal. -/
structure Opened.BindsAlike (o o' : Opened) : Prop where
  same : o' = { o with inner := o'.inner }
  lookup : o.inner.lookup = o'.inner.lookup

theorem resolve_eq_of_lookup_eq (h : scope.lookup = scope'.lookup) (node : Fields)
    (key path : String) : resolve node key scope path = resolve node key scope' path := by
  unfold resolve
  rw [h]

theorem mirrors_openNode (h : scope.lookup = scope'.lookup) (parent : String) (node : Json) :
    Traced.Mirrors Opened.BindsAlike (openNode scope parent node)
      (openNode scope' parent node) := by
  refine .bind_right _ fun fields ↦ .bind_right _ fun key ↦ ?_
  dsimp only
  rw [resolve_eq_of_lookup_eq h]
  refine .bind_right _ fun resolved ↦ .bind_right _ fun table ↦ ?_
  refine .bind_right _ fun typeName ↦ .bind_right _ fun parentType ↦ .pure ⟨rfl, ?_⟩
  cases table with
  | none => exact h
  | some table => exact lookup_overlay_congr h table

/-- **Of its scope an elaboration asks what names are bound to, and nothing else.** -/
theorem elaborateAt_eq_of_lookup_eq (h : scope.lookup = scope'.lookup) (levels : Nat)
    (parent : String) (node : Json) :
    elaborateAt levels scope parent node = elaborateAt levels scope' parent node := by
  induction levels generalizing scope scope' parent node with
  | zero => rfl
  | succ levels ih =>
    rw [elaborateAt_succ, elaborateAt_succ]
    refine (mirrors_openNode h parent node).bind_eq fun o o' halike ↦ ?_
    obtain ⟨hsame, hlookup⟩ := halike
    have hbelow : elaborateAt levels o'.inner o.path = elaborateAt levels o.inner o.path :=
      funext fun child ↦ (ih hlookup o.path child).symm
    rw [hsame, hbelow]
    rfl

/-! ### Tables made into one -/

/-- A table with another one stored over it, which takes names over also if it binds them to `null`.
A name that it repeats counts where it comes first, as it does when it is looked up. -/
def storeOver (lower upper : Fields) : Fields :=
  upper.foldr (fun field table ↦ table.set field.1 field.2) lower

/-- The one table that binds what tables bind, the outermost of which comes first. -/
def mergeTables (tables : List Fields) : Fields := tables.foldl storeOver []

theorem get?_storeOver (lower upper : Fields) (name : String) :
    (storeOver lower upper).get? name = (upper.get? name).or (lower.get? name) := by
  induction upper with
  | nil => rfl
  | cons field rest ih =>
    obtain ⟨key, value⟩ := field
    have hcons : storeOver lower ((key, value) :: rest) =
        (storeOver lower rest).set key value := rfl
    rw [hcons, Fields.get?_set, Fields.get?_cons, ih]
    by_cases hkey : name = key
    · rw [if_pos hkey, if_pos hkey]
      rfl
    · rw [if_neg hkey, if_neg hkey]

/-- Tables stacked on a scope bind what they bind when they are stored over its bindings. -/
theorem lookup_foldl_overlay_eq {table : Fields} (h : scope.lookup = table.get?)
    (tables : List Fields) :
    (tables.foldl Scope.overlay scope).lookup = (tables.foldl storeOver table).get? := by
  induction tables generalizing scope table with
  | nil => exact h
  | cons upper rest ih =>
    refine ih (funext fun name ↦ ?_)
    rw [Scope.lookup_overlay, get?_storeOver, h]

/-- **Tables on top of each other bind what the table binds that they merge into.** -/
theorem lookup_foldl_overlay (tables : List Fields) :
    (tables.foldl Scope.overlay .root).lookup =
      (Scope.root.overlay (mergeTables tables)).lookup := by
  have hmerged : (tables.foldl Scope.overlay .root).lookup = (mergeTables tables).get? :=
    lookup_foldl_overlay_eq rfl tables
  rw [hmerged]
  funext name
  rw [Scope.lookup_overlay, Scope.lookup_root, Option.or_none]

example : mergeTables [[("gte", .bool true), ("lte", .bool false)], [("gte", .null)]] =
    [("lte", .bool false), ("gte", .null)] := rfl

/-! ### Names of a merged table -/

theorem nodup_map_fst_storeOver {lower : Fields} (h : (lower.map Prod.fst).Nodup)
    (upper : Fields) : ((storeOver lower upper).map Prod.fst).Nodup := by
  induction upper with
  | nil => exact h
  | cons field rest ih => exact Fields.nodup_map_fst_set ih field.1 field.2

/-- A merged table binds no name twice, whatever it was merged from. -/
theorem nodup_map_fst_mergeTables (tables : List Fields) :
    ((mergeTables tables).map Prod.fst).Nodup :=
  List.foldlRecOn (motive := fun table : Fields ↦ (table.map Prod.fst).Nodup) tables storeOver .nil
    fun _ htable upper _ ↦ nodup_map_fst_storeOver htable upper

end ClientSynthesis.Body
