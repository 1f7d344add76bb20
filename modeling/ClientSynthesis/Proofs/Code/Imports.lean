import ClientSynthesis.Code.Module
import Mathlib.Data.List.Induction
import Mathlib.Data.List.Basic

/-!
# What a module imports

A type imports from three places: JSON values, the runtime, and the modules of other types. Of each
place every name is imported once, in an order that does not depend on how often it is used. From the
runtime it is the order of names (`inNameOrder`); the other types come in the order in which the
fields first refer to them (`pairwise_siblings`).
-/

namespace ClientSynthesis.Assembly

open Text (Before)

/-! ### Names in order -/

theorem NameMap.isSome_get?_foldl_insert {α : Type} (pairs : List (String × α)) (m : NameMap α)
    (name : String) :
    ((pairs.foldl (fun m p ↦ m.insert p.1 p.2) m).get? name).isSome ↔
      name ∈ pairs.map Prod.fst ∨ (m.get? name).isSome := by
  induction pairs generalizing m with
  | nil => simp
  | cons p rest ih =>
    rw [List.foldl_cons, ih, get?_insert, List.map_cons, List.mem_cons]
    by_cases hname : name = p.1 <;> simp [hname]

theorem mem_inNameOrder {names : List String} {name : String} :
    name ∈ inNameOrder names ↔ name ∈ names := by
  have hbound := NameMap.isSome_get?_foldl_insert (names.map (·, ())) .empty name
  rw [inNameOrder, NameMap.mem_names_iff]
  simp only [NameMap.mem_entries_iff, ← Option.isSome_iff_exists]
  simpa [NameMap.ofList] using hbound

theorem nodup_inNameOrder (names : List String) : (inNameOrder names).Nodup :=
  NameMap.nodup_names _

/-! ### References -/

/-- The types that the fields of a type refer to, field by field. -/
def references (type : TypeDefinition) : List String :=
  match type.shape with
  | .struct shape => shape.fields.filterMap (·.type.referenced?)
  | .enum _ => []

/-- The dependencies when one more reference is met. -/
def Registry.addDependency (r : Registry) (deps : List String) (name : String) : List String :=
  if (r.type? name).isSome && !deps.contains name then deps ++ [name] else deps

theorem Registry.dependencies_eq (r : Registry) (type : TypeDefinition) :
    r.dependencies type = (references type).foldl r.addDependency [] := by
  rw [dependencies, references]
  cases type.shape with
  | struct shape => rfl
  | enum cases => rfl

/-- The dependencies that some references make: those that are types, by the first reference. -/
structure Registry.FirstReferences (r : Registry) (references deps : List String) : Prop where
  mem_iff (name : String) : name ∈ deps ↔ name ∈ references ∧ (r.type? name).isSome
  pairwise : deps.Pairwise fun a b ↦ references.idxOf a < references.idxOf b

theorem Registry.FirstReferences.concat {r : Registry} {references deps : List String}
    (h : r.FirstReferences references deps) (name : String) :
    r.FirstReferences (references ++ [name]) (r.addDependency deps name) := by
  -- A reference that was met keeps its place.
  have hplace : ∀ other ∈ deps, (references ++ [name]).idxOf other = references.idxOf other :=
    fun other hother ↦ List.idxOf_append_of_mem ((h.mem_iff other).1 hother).1
  have hpairwise : deps.Pairwise fun a b ↦
      (references ++ [name]).idxOf a < (references ++ [name]).idxOf b :=
    h.pairwise.imp_of_mem fun {a b} ha hb hlt ↦ by rwa [hplace a ha, hplace b hb]
  by_cases hadd : (r.type? name).isSome ∧ name ∉ deps
  · have hnew : name ∉ references := fun hmem ↦ hadd.2 ((h.mem_iff name).2 ⟨hmem, hadd.1⟩)
    have hstep : r.addDependency deps name = deps ++ [name] := by
      simp [addDependency, hadd]
    rw [hstep]
    refine ⟨fun other ↦ ?_, List.pairwise_append.2 ⟨hpairwise, List.pairwise_singleton _ _, ?_⟩⟩
    · rw [List.mem_append, List.mem_append, h.mem_iff, List.mem_singleton]
      constructor
      · rintro (⟨hmem, htype⟩ | rfl)
        · exact ⟨.inl hmem, htype⟩
        · exact ⟨.inr rfl, hadd.1⟩
      · rintro ⟨hmem | rfl, htype⟩
        · exact .inl ⟨hmem, htype⟩
        · exact .inr rfl
    · intro other hother last hlast
      obtain rfl := List.mem_singleton.1 hlast
      have hother := ((h.mem_iff other).1 hother).1
      rw [List.idxOf_append_of_mem hother, List.idxOf_append_of_notMem hnew]
      have := List.idxOf_lt_length_of_mem hother
      omega
  · have hstep : r.addDependency deps name = deps := by
      simp only [addDependency, Bool.and_eq_true, Bool.not_eq_true', List.contains_eq_mem,
        decide_eq_false_iff_not, if_neg hadd]
    rw [hstep]
    refine ⟨fun other ↦ ?_, hpairwise⟩
    rw [h.mem_iff, List.mem_append, List.mem_singleton]
    constructor
    · exact fun ⟨hmem, htype⟩ ↦ ⟨.inl hmem, htype⟩
    · rintro ⟨hmem | rfl, htype⟩
      · exact ⟨hmem, htype⟩
      · by_contra hnot
        exact hadd ⟨htype, fun hmem ↦ hnot ((h.mem_iff other).1 hmem)⟩

theorem Registry.firstReferences (r : Registry) (type : TypeDefinition) :
    r.FirstReferences (references type) (r.dependencies type) := by
  rw [dependencies_eq]
  induction references type using List.reverseRecOn with
  | nil => exact ⟨by simp, List.Pairwise.nil⟩
  | append_singleton front name ih =>
    rw [List.foldl_append, List.foldl_cons, List.foldl_nil]
    exact ih.concat name

end ClientSynthesis.Assembly

namespace ClientSynthesis.Code

open Assembly

/-! ### Places of import -/

/-- The other types that a type refers to, in the order of first reference. -/
def siblings (r : Registry) (name : String) (type : TypeDefinition) : List String :=
  (r.dependencies type).filter (· != name)

theorem mem_siblings_iff {r : Registry} {name other : String} {type : TypeDefinition} :
    other ∈ siblings r name type ↔
      other ≠ name ∧ other ∈ references type ∧ (r.type? other).isSome := by
  rw [siblings, List.mem_filter, (r.firstReferences type).mem_iff, and_comm]
  simp

theorem pairwise_siblings (r : Registry) (name : String) (type : TypeDefinition) :
    (siblings r name type).Pairwise fun a b ↦
      (references type).idxOf a < (references type).idxOf b :=
  (r.firstReferences type).pairwise.filter _

theorem nodup_siblings (r : Registry) (name : String) (type : TypeDefinition) :
    (siblings r name type).Nodup :=
  (pairwise_siblings r name type).imp fun hlt heq ↦ absurd (heq ▸ hlt) (Nat.lt_irrefl _)

/-- The names that a type imports for JSON values. -/
def jsonNames (type : TypeDefinition) : List String :=
  match type.shape with
  | .struct _ => if usesJsonMacro type then ["json", "Map", "Value"] else ["Map", "Value"]
  | .enum _ => []

/-- The names that a type imports from the runtime. -/
def runtimeNames (config : Config) (type : TypeDefinition) : List String :=
  match type.shape with
  | .struct _ => config.bodyTrait :: type.parentType.toList
  | .enum _ => type.parentType.toList.filter (· != "String")

/-- The import of JSON values. -/
def jsonImport (type : TypeDefinition) : Import := ⟨"serde_json", jsonNames type⟩

/-- What is made of the imports of a type is made of those of each place, as long as nothing is made of
an import without names. -/
theorem flatMap_typeImports {α : Type} {f : Import → List α} (hf : f ⟨"serde_json", []⟩ = [])
    (config : Config) (r : Registry) (name : String) (type : TypeDefinition) :
    (typeImports config r name type).flatMap f =
      f (jsonImport type) ++ f (runtimeImport config (runtimeNames config type)) ++
        (siblings r name type).flatMap fun other ↦ f (siblingImport other) := by
  have hsiblings : ((siblings r name type).map siblingImport).flatMap f =
      (siblings r name type).flatMap fun other ↦ f (siblingImport other) :=
    List.flatMap_map _ _ _
  rw [← hsiblings]
  unfold typeImports jsonImport jsonNames runtimeNames
  cases type.shape with
  | struct shape => simp [siblings]
  | enum cases => simp [siblings, hf]

/-- The names that a type imports, place by place. -/
def importedNames (config : Config) (r : Registry) (name : String) (type : TypeDefinition) :
    List String :=
  jsonNames type ++ inNameOrder (runtimeNames config type) ++ siblings r name type

theorem flatMap_names_typeImports (config : Config) (r : Registry) (name : String)
    (type : TypeDefinition) :
    (typeImports config r name type).flatMap Import.names = importedNames config r name type := by
  rw [flatMap_typeImports rfl, importedNames]
  simp [jsonImport, runtimeImport, siblingImport]

end ClientSynthesis.Code
