import ClientSynthesis.Proofs.Assembly.Reached
import ClientSynthesis.Proofs.Body.References

/-!
# References between registered types

Generated types refer to each other by name, and a field of one is written by the code of the other.
Nothing looks such a name up while types are generated. That it stands for a type of the right shape,
and that this type is written under the field's own key, is an invariant of the registry
(`Registry.Closed`): to register a definition keeps it, if what the definition refers to is there
(`Closed.register`), and elaborations define nothing before what it refers to. So it holds whenever
one looks (`closed_of_reached`), in particular when a namespace has come to a good end
(`references_closed`).
-/

namespace ClientSynthesis.Assembly.Registry

open Body (Elaborated GroundedIn Scope elaborate)

variable {r s : Registry} {d : Definition}

/-- Every reference of a definition in the registry finds in it what it refers to. -/
def Closed (r : Registry) : Prop := ∀ d ∈ r.content, d.Supported r.content

theorem closed_empty : empty.Closed := by
  intro d hd
  rw [content_empty] at hd
  exact nomatch hd

/-- A definition whose references are supported may be registered. -/
theorem Closed.register (hr : r.Closed) (hd : d.Supported r.content) {event : Report.Event}
    (h : r.register d = .ok (s, event)) : s.Closed := by
  have hcontent : s.content = insert d r.content := content_of_register_ok h
  have hsub : r.content ⊆ s.content := hcontent ▸ Set.subset_insert d r.content
  intro e he
  rw [hcontent] at he
  rcases he with rfl | he
  · exact hd.mono hsub
  · exact (hr e he).mono hsub

/-- A computation that defines nothing before what it refers to may be taken in, whatever it comes
to. -/
theorem Closed.takeIn {α : Type} {x : Elaborated α} (hr : r.Closed)
    (hx : GroundedIn r.content x) : (r.takeIn x).registry.Closed := by
  induction x generalizing r with
  | done outcome => exact hr
  | item step rest ih =>
    cases step with
    | report event => exact ih () hr hx
    | define d =>
      obtain ⟨hd, hrest⟩ := hx
      cases hreg : r.register d with
      | error e =>
        rw [Registry.takeIn, hreg]
        exact hr
      | ok after =>
        rw [Registry.takeIn, hreg]
        refine ih () (hr.register hd hreg) ?_
        rw [content_of_register_ok hreg]
        exact hrest

/-- **A registry is closed at any time**, also after interpretations that have failed. -/
theorem closed_of_reached (hr : Reached r) : r.Closed := by
  induction hr with
  | empty => exact closed_empty
  | interpret _ scope node ih =>
    exact ih.takeIn ((Body.groundedIn_elaborateAt ..).mono (Set.empty_subset _))

/-- What a field refers to is registered under the name of the field's type. -/
theorem Closed.exists_type (hr : r.Closed) {name : String} {type : TypeDefinition}
    {shape : StructShape} (htype : r.type? name = some type) (hshape : type.shape = .struct shape)
    {f : Field} (hf : f ∈ shape.fields) (hrefers : f.Refers) :
    ∃ target definition, f.type = .named target ∧ r.type? target = some definition ∧
      definition.wireKey = f.key ∧ f.encoding.Suits definition.shape := by
  obtain ⟨wireKey, parentType, typeShape⟩ := type
  obtain rfl : typeShape = .struct shape := hshape
  obtain ⟨⟨target, kind⟩, htarget, hname, definition, hkind, hkey, hsuits⟩ :=
    hr _ (type?_eq_some_iff.1 htype) f hf hrefers
  obtain rfl : kind = .type definition := hkind
  exact ⟨target, definition, hname, type?_eq_some_iff.2 htarget, hkey, hsuits⟩

/-- References between generated types are closed and consistent. In the registry of a namespace,
a field that is written as a document has a struct for its type, and one that is written as a wire
value has an enum for it; and the type is written under the key of the field. The slot of a one-of
object is left out, which has any type. -/
theorem references_closed {documents : Json.Fields} (h : (ofBodies documents).outcome = .ok r)
    {name : String} {type : TypeDefinition} {shape : StructShape}
    (htype : r.type? name = some type) (hshape : type.shape = .struct shape) {f : Field}
    (hf : f ∈ shape.fields) (hrole : f.role ≠ .slot) :
    (f.encoding = .document → ∃ target definition inner, f.type = .named target ∧
      r.type? target = some definition ∧ definition.shape = .struct inner ∧
      definition.wireKey = f.key) ∧
    (f.encoding = .wireValue → ∃ target definition cases, f.type = .named target ∧
      r.type? target = some definition ∧ definition.shape = .enum cases ∧
      definition.wireKey = f.key) := by
  have hclosed : r.Closed := closed_of_reached (reached_of_ofBodies h)
  constructor
  · intro hencoding
    obtain ⟨target, definition, hname, htarget, hkey, hsuits⟩ :=
      hclosed.exists_type htype hshape hf ⟨hrole, .inl hencoding⟩
    rw [hencoding, Encoding.suits_document_iff] at hsuits
    obtain ⟨inner, hinner⟩ := hsuits
    exact ⟨target, definition, inner, hname, htarget, hinner, hkey⟩
  · intro hencoding
    obtain ⟨target, definition, hname, htarget, hkey, hsuits⟩ :=
      hclosed.exists_type htype hshape hf ⟨hrole, .inr hencoding⟩
    rw [hencoding, Encoding.suits_wireValue_iff] at hsuits
    obtain ⟨cases, hcases⟩ := hsuits
    exact ⟨target, definition, cases, hname, htarget, hcases, hkey⟩

/-- Two documents with a struct under a parameter and an enum in common. -/
theorem references_closed_of_query :
    let operator := Json.object [("key", .string "operator"), ("type", .string "enum"),
      ("typeName", .string "Operator"), ("options", .array [.string "and", .string "or"])]
    let fragment := Json.object [("key", .string "?"), ("type", .string "struct"),
      ("typeName", .string "Match"), ("any_of", .array [operator])]
    let reference := Json.object [("key", .string "match"), ("type", .string "parameter")]
    let documents : Json.Fields :=
      [("query", .object [("key", .string "query"), ("type", .string "struct"),
          ("typeName", .string "Query"), ("parameters", .object [("match", fragment)]),
          ("any_of", .array [reference, operator])]),
        ("operator", operator)]
    let document : Field := ⟨"match", "r#match", .named "Match", true, .document, .child⟩
    let wireValue : Field :=
      ⟨"operator", "operator", .named "Operator", true, .wireValue, .child⟩
    ∃ r, (ofBodies documents).outcome = .ok r ∧
      r.type? "Query" = some ⟨"query", none, .struct ⟨[document, wireValue], .fields none⟩⟩ ∧
      (∃ target definition inner, document.type = .named target ∧
        r.type? target = some definition ∧ definition.shape = .struct inner ∧
        definition.wireKey = "match") ∧
      (∃ target definition cases, wireValue.type = .named target ∧
        r.type? target = some definition ∧ definition.shape = .enum cases ∧
        definition.wireKey = "operator") := by
  intro operator fragment reference documents document wireValue
  let type : TypeDefinition := ⟨"query", none, .struct ⟨[document, wireValue], .fields none⟩⟩
  have hquery : (ofBodies documents).outcome.toOption.bind (·.type? "Query") = some type := by
    decide +kernel
  obtain ⟨r, hr, htype⟩ := Option.bind_eq_some_iff.1 hquery
  have hok : (ofBodies documents).outcome = .ok r := Report.toOption_eq_some_iff.1 hr
  refine ⟨r, hok, htype, ?_, ?_⟩
  · exact (references_closed hok htype rfl (f := document) (by simp) (by decide)).1 rfl
  · exact (references_closed hok htype rfl (f := wireValue) (by simp) (by decide)).2 rfl

end ClientSynthesis.Assembly.Registry
