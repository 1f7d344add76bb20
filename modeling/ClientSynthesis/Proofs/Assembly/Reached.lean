import ClientSynthesis.Proofs.Assembly.Content
import ClientSynthesis.Proofs.Body.Parts

/-!
# Registries that interpretations lead to

A registry is built by interpreting one node after the other, and an interpretation that fails
leaves in it what came before the failure. So there are more registries than those of namespaces that
come to a good end, and what holds of whatever a registry may hold has to hold of all of them
(`Reached`). They are those that a history of interpretations leaves (`interpretEach`), which is the
form to take where it matters what was interpreted.
-/

namespace ClientSynthesis.Assembly.Registry

open Body (Elaborated Element Scope Situation elaborate elaborateAt)

/-- The registries that interpretations lead to. An interpretation that fails counts. -/
inductive Reached : Registry → Prop
  | empty : Reached empty
  | interpret {r : Registry} (h : Reached r) (scope : Scope) (node : Json) :
    Reached (r.interpret scope node).registry

/-- The registry after a history of interpretations, each of a node in a scope. -/
def interpretEach (r : Registry) (history : List (Scope × Json)) : Registry :=
  history.foldl (fun r entry ↦ (r.interpret entry.1 entry.2).registry) r

theorem Reached.interpretEach {r : Registry} (hr : Reached r) (history : List (Scope × Json)) :
    Reached (r.interpretEach history) := by
  induction history generalizing r with
  | nil => exact hr
  | cons entry rest ih => exact ih (hr.interpret entry.1 entry.2)

/-- Whatever can be reached has a history. -/
theorem Reached.exists_history {r : Registry} (hr : Reached r) :
    ∃ history, r = Registry.empty.interpretEach history := by
  induction hr with
  | empty => exact ⟨[], rfl⟩
  | interpret _ scope node ih =>
    obtain ⟨history, rfl⟩ := ih
    refine ⟨history ++ [(scope, node)], ?_⟩
    rw [Registry.interpretEach, Registry.interpretEach, List.foldl_concat]

/-- The history of a namespace that comes to a good end is that of its documents. -/
theorem eq_interpretEach_of_interpretAll {r s : Registry} {nodes : List Json}
    (h : (r.interpretAll nodes).outcome = .ok s) :
    s = r.interpretEach (nodes.map fun node ↦ (.root, node)) := by
  induction nodes generalizing r with
  | nil => exact (Except.ok.inj h).symm
  | cons node rest ih =>
    obtain ⟨-, -, h⟩ := Report.Traced.bind_outcome_eq_ok_iff.1 h
    exact ih h

/-- The registry of a namespace is among those that are reached. -/
theorem reached_of_ofBodies {documents : Json.Fields} {r : Registry}
    (h : (ofBodies documents).outcome = .ok r) : Reached r := by
  rw [eq_interpretEach_of_interpretAll h]
  exact Reached.empty.interpretEach _

/-- What a registry holds, it held before or has taken in, whichever end that came to. -/
theorem mem_content_takeIn {α : Type} {r : Registry} {x : Elaborated α} {d : Definition}
    (h : d ∈ (r.takeIn x).registry.content) : d ∈ r.content ∨ d ∈ Body.definitions x := by
  induction x generalizing r with
  | done outcome => exact .inl h
  | item step rest ih =>
    cases step with
    | report event => exact ih () h
    | define e =>
      cases hreg : r.register e with
      | error error =>
        -- A conflict ends it, and the registry is as it was.
        rw [takeIn, hreg] at h
        exact .inl h
      | ok after =>
        rw [takeIn, hreg] at h
        rcases ih () h with h | h
        · rw [content_of_register_ok hreg] at h
          rcases h with rfl | h
          · exact .inr List.mem_cons_self
          · exact .inl h
        · exact .inr (List.mem_cons_of_mem e h)

/-- What a history leaves in a registry was there before or comes from one of its entries. -/
theorem mem_content_interpretEach {r : Registry} {history : List (Scope × Json)} {d : Definition}
    (h : d ∈ (r.interpretEach history).content) :
    d ∈ r.content ∨ ∃ entry ∈ history, d ∈ Body.definitions (elaborate entry.1 entry.2) := by
  induction history generalizing r with
  | nil => exact .inl h
  | cons entry rest ih =>
    rcases ih h with h | ⟨entry', hentry', h⟩
    · rcases mem_content_takeIn h with h | h
      · exact .inl h
      · exact .inr ⟨entry, List.mem_cons_self, h⟩
    · exact .inr ⟨entry', List.mem_cons_of_mem entry hentry', h⟩

/-- **Every definition that a history leaves has its origin in one of the entries.** It is that of an
element that was elaborated at a node which the descent from the entry has visited. -/
theorem exists_origin_of_mem_content {history : List (Scope × Json)} {d : Definition}
    (hd : d ∈ (empty.interpretEach history).content) :
    ∃ entry ∈ history, ∃ levels t e path, Situation.Visits ⟨entry.1, "", entry.2⟩ t ∧
      (elaborateAt levels t.scope t.parent t.node).outcome = .ok e ∧
      Definition.ofElement? e path = .ok (some d) := by
  rcases mem_content_interpretEach hd with hd | ⟨entry, hentry, hd⟩
  · rw [content_empty] at hd
    exact nomatch hd
  · exact ⟨entry, hentry, Body.exists_origin_visited hd⟩

/-- The types of a registry are those of its definitions that define types. -/
theorem type?_eq_some_iff {r : Registry} {name : String} {type : TypeDefinition} :
    r.type? name = some type ↔ (⟨name, .type type⟩ : Definition) ∈ r.content := by
  rw [mem_content, type?]
  dsimp only
  split
  · next definition hkind =>
    rw [hkind]
    exact ⟨fun h ↦ by rw [Option.some.inj h], fun h ↦ by rw [DefinitionKind.type.inj (Option.some.inj h)]⟩
  · next hnot => exact ⟨nofun, fun h ↦ absurd h (hnot type)⟩

theorem mem_content_of_type? {r : Registry} {name : String} {type : TypeDefinition}
    (h : r.type? name = some type) : (⟨name, .type type⟩ : Definition) ∈ r.content :=
  type?_eq_some_iff.1 h

/-- A struct is the definition of an object, from which it has its name and its wire key. -/
theorem exists_object_of_ofElement? {e : Element} {path name : String} {type : TypeDefinition}
    {shape : StructShape} (h : Definition.ofElement? e path = .ok (some ⟨name, .type type⟩))
    (hshape : type.shape = .struct shape) :
    ∃ head object, e = .object head object ∧ head.typeName = name ∧ head.key = type.wireKey ∧
      StructShape.ofObject object path = .ok shape := by
  cases e with
  | object head object =>
    obtain ⟨shape', hofObject, hd⟩ := Body.ofElement?_object_eq_ok_iff.1 h
    obtain ⟨rfl, hkind⟩ := Definition.mk.inj (Option.some.inj hd)
    obtain rfl := DefinitionKind.type.inj hkind
    obtain rfl := TypeShape.struct.inj hshape
    exact ⟨head, object, rfl, rfl, rfl, hofObject⟩
  | enum head options =>
    obtain ⟨cases, -, hd⟩ := Body.ofElement?_enum_eq_ok_iff.1 h
    obtain ⟨-, hkind⟩ := Definition.mk.inj (Option.some.inj hd)
    obtain rfl := DefinitionKind.type.inj hkind
    exact nomatch hshape
  | leaf head kind => exact nomatch h

/-- **Every struct that a history leaves is made of an object that was built for one of the entries**,
which it has its name and its wire key from. -/
theorem exists_builds_of_type? {history : List (Scope × Json)} {name : String}
    {type : TypeDefinition} {shape : StructShape}
    (htype : (empty.interpretEach history).type? name = some type)
    (hshape : type.shape = .struct shape) :
    ∃ entry ∈ history, ∃ head object path, Situation.Builds ⟨entry.1, "", entry.2⟩ head object ∧
      head.typeName = name ∧ head.key = type.wireKey ∧
      StructShape.ofObject object path = .ok shape := by
  obtain ⟨entry, hentry, levels, t, e, path, hvisits, hok, hdefines⟩ :=
    exists_origin_of_mem_content (mem_content_of_type? htype)
  obtain ⟨head, object, rfl, hname, hkey, hofObject⟩ := exists_object_of_ofElement? hdefines hshape
  exact ⟨entry, hentry, head, object, path, hvisits.builds hok, hname, hkey, hofObject⟩

end ClientSynthesis.Assembly.Registry
