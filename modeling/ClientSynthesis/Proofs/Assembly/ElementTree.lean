import ClientSynthesis.Proofs.Assembly.Reached
import ClientSynthesis.Proofs.Body.ElementTree

/-!
# Registries of element trees

What one interpretation registers, read off the element that it returns. In the empty registry these
are the definitions of the object and enum elements of its tree, all of them, and beside them those
of values that one-of objects have dropped (`content_of_interpret`). A dropped value of another kind
than object or enum leaves nothing behind, but one that is an object does
(`content_ne_treeDefinitions_of_ignored`).
-/

namespace ClientSynthesis

open Body (Element Situation elaborateAt)
open Report.Traced

namespace Body

/-- The elements of a tree have been elaborated each for itself. -/
theorem exists_elaborateAt_of_within {e part : Element} (hwithin : part.Within e) {levels : Nat}
    {s : Situation} (h : (elaborateAt levels s.scope s.parent s.node).outcome = .ok e) :
    ∃ levels, ∃ t : Situation, (elaborateAt levels t.scope t.parent t.node).outcome = .ok part := by
  induction hwithin generalizing levels s with
  | refl => exact ⟨levels, s, h⟩
  | tail _ hpart ih =>
    obtain _ | levels := levels
    · exact nomatch h
    obtain ⟨t, -, hok⟩ := exists_leads_of_mem_parts h hpart
    exact ih hok

/-- Objects and enums have definitions, leaves have none. -/
theorem exists_some_of_ofElement? {e : Element} {path : String} {d? : Option Definition}
    (h : Definition.ofElement? e path = .ok d?) (hkind : e.kind = .object ∨ e.kind = .enum) :
    ∃ d, d? = some d := by
  cases e with
  | object head object =>
    obtain ⟨shape, -, hd⟩ := ofElement?_object_eq_ok_iff.1 h
    exact ⟨_, hd⟩
  | enum head options =>
    obtain ⟨cases, -, hd⟩ := ofElement?_enum_eq_ok_iff.1 h
    exact ⟨_, hd⟩
  | leaf head kind => rcases hkind with hkind | hkind <;> exact nomatch hkind

/-- A definition has the name of the element's type. -/
theorem name_of_ofElement? {e : Element} {path : String} {d : Definition}
    (h : Definition.ofElement? e path = .ok (some d)) : d.name = e.typeName := by
  cases e with
  | object head object =>
    obtain ⟨shape, -, hd⟩ := ofElement?_object_eq_ok_iff.1 h
    rw [Option.some.inj hd]
    rfl
  | enum head options =>
    obtain ⟨cases, -, hd⟩ := ofElement?_enum_eq_ok_iff.1 h
    rw [Option.some.inj hd]
    rfl
  | leaf head kind => exact nomatch h

/-- In the tree of an element that is elaborated, every object and every enum has a definition. -/
theorem exists_definition_of_within {e part : Element} (hwithin : part.Within e) {levels : Nat}
    {s : Situation} (h : (elaborateAt levels s.scope s.parent s.node).outcome = .ok e)
    (hkind : part.kind = .object ∨ part.kind = .enum) :
    ∃ d ∈ e.treeDefinitions, ∀ path, Definition.ofElement? part path = .ok (some d) := by
  obtain ⟨levels', t, hok⟩ := exists_elaborateAt_of_within hwithin h
  obtain ⟨path, d?, hd?, -⟩ := exists_definition_of_elaborateAt hok
  obtain ⟨d, rfl⟩ := exists_some_of_ofElement? hd? hkind
  exact ⟨d, ⟨part, path, hwithin, hd?⟩, ofElement?_path hd?⟩

end Body

namespace Assembly.Registry

/-- An interpretation that succeeds adds to the registry what the descent defines. -/
theorem content_interpret_of_ok {r : Registry} {scope : Body.Scope} {node : Json} {e : Element}
    (h : (r.interpret scope node).outcome = .ok e) :
    (Body.elaborate scope node).outcome = .ok e ∧
      (r.interpret scope node).registry.content =
        r.content ∪ Body.contribution (Body.elaborate scope node) := by
  obtain ⟨hok, hunamb⟩ := takeIn_outcome_eq_ok_iff.1 h
  exact ⟨hok, (takeIn_of_unambiguous hunamb).1⟩

/-- What an interpretation in the empty registry registers. Every object and every enum of the
element tree has its definition in it. There is nothing else but what dropped values define, so the
registry is that of the tree just if these define nothing that the tree does not define. -/
theorem content_of_interpret {scope : Body.Scope} {node : Json} {e : Element}
    (h : (empty.interpret scope node).outcome = .ok e) :
    (∀ part : Element, part.Within e → part.kind = .object ∨ part.kind = .enum →
      ∃ d ∈ (empty.interpret scope node).registry.content,
        ∀ path, Definition.ofElement? part path = .ok (some d)) ∧
    (empty.interpret scope node).registry.content =
      e.treeDefinitions ∪
        {d | ∃ dropped, Situation.Drops ⟨scope, "", node⟩ dropped ∧ d ∈ dropped.treeDefinitions} ∧
    ((empty.interpret scope node).registry.content = e.treeDefinitions ↔
      ∀ dropped, Situation.Drops ⟨scope, "", node⟩ dropped →
        dropped.treeDefinitions ⊆ e.treeDefinitions) := by
  obtain ⟨hok, hcontent⟩ := content_interpret_of_ok h
  have htree := Body.contribution_elaborateAt (s := ⟨scope, "", node⟩) hok
  rw [content_empty, Set.empty_union] at hcontent
  replace hcontent := hcontent.trans htree
  refine ⟨fun part hwithin hkind ↦ ?_, hcontent, ?_⟩
  · obtain ⟨d, hd, hdefines⟩ :=
      Body.exists_definition_of_within (s := ⟨scope, "", node⟩) hwithin hok hkind
    exact ⟨d, hcontent ▸ .inl hd, hdefines⟩
  · rw [hcontent, Set.union_eq_left]
    constructor
    · exact fun hsub dropped hdrops d hd ↦ hsub ⟨dropped, hdrops, hd⟩
    · rintro hsub d ⟨dropped, hdrops, hd⟩
      exact hsub dropped hdrops hd

/-- An object with a value under a key, which is an enum, and a one-of that ignores its value. -/
theorem content_of_interpret_of_nested :
    let mode := Json.object [("key", .string "mode"), ("type", .string "enum"),
      ("typeName", .string "Mode"), ("options", .array [.string "min"])]
    let boost := Json.object [("key", .string "boost"), ("type", .string "simple"),
      ("typeName", .string "f64")]
    let byField := Json.object [("key", .string "sort"), ("type", .string "struct"),
      ("typeName", .string "Sort"), ("childContainer", .object [("key", .string "field"),
        ("value", mode)])]
    let node := Json.object [("key", .string "query"), ("type", .string "struct"),
      ("typeName", .string "Query"), ("childContainer", .object [("key", .string "field"),
        ("value", boost), ("one_of", .array [byField])])]
    (empty.interpret .root node).registry.names = ["Mode", "Query", "Sort"] ∧
    ∃ e, (empty.interpret .root node).outcome = .ok e ∧
      (∃ d ∈ (empty.interpret .root node).registry.content,
        ∀ path, Definition.ofElement? e path = .ok (some d)) ∧
      (empty.interpret .root node).registry.content =
        e.treeDefinitions ∪ {d | ∃ dropped, Situation.Drops ⟨.root, "", node⟩ dropped ∧
          d ∈ dropped.treeDefinitions} ∧
      ((empty.interpret .root node).registry.content = e.treeDefinitions ↔
        ∀ dropped, Situation.Drops ⟨.root, "", node⟩ dropped →
          dropped.treeDefinitions ⊆ e.treeDefinitions) := by
  intro mode boost byField node
  have hkind : (empty.interpret .root node).outcome.toOption.map Element.kind = some .object := by
    decide +kernel
  obtain ⟨e, he, hobject⟩ := Option.map_eq_some_iff.1 hkind
  have hok : (empty.interpret .root node).outcome = .ok e := Report.toOption_eq_some_iff.1 he
  obtain ⟨hparts, hcontent, hexactly⟩ := content_of_interpret hok
  exact ⟨by decide +kernel, e, hok, hparts e .refl (.inl hobject), hcontent, hexactly⟩

/-- The value of a one-of object is ignored, but its definition is registered. -/
theorem content_ne_treeDefinitions_of_ignored :
    let range := Json.object [("key", .string "range"), ("type", .string "struct"),
      ("typeName", .string "Range")]
    let node := Json.object [("key", .string "query"), ("type", .string "struct"),
      ("typeName", .string "Query"), ("childContainer", .object [("key", .string "field"),
        ("value", range), ("one_of", .array [])])]
    ∃ e, (empty.interpret .root node).outcome = .ok e ∧
      (empty.interpret .root node).registry.content ≠ e.treeDefinitions := by
  intro range node
  have hroot : (empty.interpret .root node).outcome.toOption.map
      (fun e ↦ (e.typeName, e.parts.length)) = some ("Query", 0) := by
    decide +kernel
  obtain ⟨e, he, hroot⟩ := Option.map_eq_some_iff.1 hroot
  obtain ⟨hname, hparts⟩ := Prod.mk.inj hroot
  refine ⟨e, Report.toOption_eq_some_iff.1 he, fun heq ↦ ?_⟩
  have hregistered : (⟨"Range", .type ⟨"range", none, .struct ⟨[], .empty⟩⟩⟩ : Definition) ∈
      (empty.interpret .root node).registry.content := by
    rw [mem_content]
    decide +kernel
  -- The tree is a single element, and that defines something of another name.
  rw [heq, Element.mem_treeDefinitions_iff, List.eq_nil_of_length_eq_zero hparts] at hregistered
  rcases hregistered with ⟨path, hd⟩ | ⟨part, hpart, -⟩
  · have hdefined : "Range" = e.typeName := Body.name_of_ofElement? hd
    rw [hname] at hdefined
    exact absurd hdefined (by decide)
  · exact nomatch hpart

end Assembly.Registry

end ClientSynthesis
