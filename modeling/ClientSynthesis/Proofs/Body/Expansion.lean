import ClientSynthesis.Proofs.Body.Comparison

/-!
# Expanding parameter references

The expansion of a node in a scope is the node with every reference below it replaced by what it
refers to. It is a rewriting of documents, and knows nothing of elements, definitions or errors:
where a document is not what it should be, it is left as it is.

A reference becomes the fragment its key is bound to, with the key and the `required` flag of the
reference (`adopt`). A table of parameters is overlaid and then dropped, so that nothing is left to
be looked up. Of the lists and the container of an object those are rewritten that govern it, and
only those, since no other node is ever come to.

`openNode_expandNode` is what the rest builds on: where a node can be opened, so can its expansion,
without any scope, and the two say the same of what they are made of.
-/

namespace ClientSynthesis.Body

open Json (Fields)
open Report (bind_eq_ok_iff)
open Report.Traced

/-! ### The expansion -/

/-- A fragment in the place of a reference to it. The reference has the key, and it alone says
whether it is required. -/
def adopt (node : Fields) (key : String) (fragment : Fields) : Fields :=
  let keyed := (fragment.erase "required").set "key" (.string key)
  match node.get? "required" with
  | some required => keyed.set "required" required
  | none => keyed

/-- What a node stands for: itself, or the fragment it refers to. -/
def dereference (scope : Scope) (node : Fields) : Fields :=
  match typeToken? node, node.get? "key" with
  | some .reference, some (.string key) =>
    match scope.lookup key with
    | some (.object fragment) => adopt node key fragment
    | _ => node
  | _, _ => node

/-- Fields with the items of the governing list rewritten. -/
def expandLists (expand : Json → Json) (fields : Fields) : Fields :=
  match fields.present? "one_of", fields.present? "any_of" with
  | some (.array items), _ => fields.set "one_of" (.array (items.map expand))
  | none, some (.array items) => fields.set "any_of" (.array (items.map expand))
  | _, _ => fields

/-- The fields of a child container with its value rewritten. -/
def expandValue (expand : Json → Json) (container : Fields) : Fields :=
  match container.present? "value" with
  | some value => container.set "value" (expand value)
  | none => container

/-- The fields of an object with the nodes it is made of rewritten. -/
def expandParts (expand : Json → Json) (fields : Fields) : Fields :=
  match fields.get? "childContainer" with
  | some (.object container) =>
    fields.set "childContainer" (.object (expandLists expand (expandValue expand container)))
  | _ => expandLists expand fields

/-- The fields of a node, or of what it refers to, without a table of parameters. -/
def bareFields (scope : Scope) (node : Fields) : Fields :=
  (dereference scope node).erase "parameters"

/-- The expansion of a node, given that of the nodes below it. -/
def expandNode (expandBelow : Scope → Json → Json) (scope : Scope) : Json → Json
  | .object node =>
    let source := dereference scope node
    if typeToken? source = some (.kind .object) then
      .object (expandParts (expandBelow (scopeBelow scope source)) (bareFields scope node))
    else .object (bareFields scope node)
  | node => node

/-- The expansion of a node in a scope, down a bounded number of levels. -/
def expandAt : (levels : Nat) → Scope → Json → Json
  | 0, _, node => node
  | levels + 1, scope, node => expandNode (expandAt levels) scope node

/-- The expansion of a node in a scope. -/
def expand (scope : Scope) (node : Json) : Json := expandAt (levelBound scope node) scope node

/-! ### What a reference becomes -/

theorem get?_adopt (node : Fields) (key : String) (fragment : Fields) (other : String) :
    (adopt node key fragment).get? other =
      if other = "required" then node.get? "required"
      else if other = "key" then some (.string key)
      else fragment.get? other := by
  unfold adopt
  cases hrequired : node.get? "required" with
  | none =>
    simp only [Fields.get?_set, Fields.get?_erase]
    by_cases h : other = "required"
    · simp [h]
    · simp [h]
  | some required =>
    simp only [Fields.get?_set, Fields.get?_erase]
    by_cases h : other = "required"
    · simp [h]
    · simp [h]

/-- What a node stands for says all that its descriptor says. Key and flag are those of the node. -/
theorem get?_dereference {scope : Scope} {parent : String} {node : Fields} {o : Opened}
    (h : Opens scope parent node o) (other : String) :
    (dereference scope node).get? other =
      if other = "required" then node.get? "required"
      else if other = "key" then some (.string o.head.key)
      else o.descriptor.get? other := by
  rcases h.governs with hself | ⟨hreference, hlookup⟩
  · have hnode : dereference scope node = node := by
      have hkind := h.kind
      rw [hself] at hkind
      rw [dereference, hkind]
    rw [hnode, hself]
    split_ifs with hrequired hkey
    · rw [hrequired]
    · rw [hkey, h.key]
    · rfl
  · have hadopt : dereference scope node = adopt node o.head.key o.descriptor := by
      rw [dereference, hreference, h.key]
      simp only [hlookup]
    rw [hadopt, get?_adopt]

/-- Whether it is required is what the node says, whatever it stands for. -/
theorem get?_dereference_required (scope : Scope) (node : Fields) :
    (dereference scope node).get? "required" = node.get? "required" := by
  unfold dereference
  split
  · split
    · rw [get?_adopt, if_pos rfl]
    · rfl
  · rfl

/-! ### The parts of an expanded object -/

/-- A rewriting that makes no document `null` that is not. -/
def KeepsPresence (expand : Json → Json) : Prop := ∀ v, v.isNull = false → (expand v).isNull = false

theorem keepsPresence_expandNode (expandBelow : Scope → Json → Json) (scope : Scope) :
    KeepsPresence (expandNode expandBelow scope) := by
  intro v hv
  cases v with
  | object node =>
    unfold expandNode
    dsimp only
    split_ifs <;> rfl
  | _ => exact hv

theorem keepsPresence_expandAt (levels : Nat) (scope : Scope) :
    KeepsPresence (expandAt levels scope) := by
  cases levels with
  | zero => exact fun _ hv ↦ hv
  | succ levels => exact keepsPresence_expandNode (expandAt levels) scope

theorem get?_expandLists (expand : Json → Json) (fields : Fields) {key : String}
    (hone : key ≠ "one_of") (hany : key ≠ "any_of") :
    (expandLists expand fields).get? key = fields.get? key := by
  unfold expandLists
  split
  · rw [Fields.get?_set, if_neg hone]
  · rw [Fields.get?_set, if_neg hany]
  · rfl

theorem get?_expandValue (expand : Json → Json) (container : Fields) {key : String}
    (hvalue : key ≠ "value") : (expandValue expand container).get? key = container.get? key := by
  unfold expandValue
  split
  · rw [Fields.get?_set, if_neg hvalue]
  · rfl

theorem get?_expandParts (expand : Json → Json) (fields : Fields) {key : String}
    (hone : key ≠ "one_of") (hany : key ≠ "any_of") (hcontainer : key ≠ "childContainer") :
    (expandParts expand fields).get? key = fields.get? key := by
  unfold expandParts
  split
  · rw [Fields.get?_set, if_neg hcontainer]
  · exact get?_expandLists expand fields hone hany

theorem expandParts_of_none (expand : Json → Json) {fields : Fields} {path : String}
    (h : fields.object? "childContainer" path = .ok none) :
    expandParts expand fields = expandLists expand fields := by
  rcases Fields.present?_eq_none_iff.1 (Fields.typed?_eq_ok_none_iff.1 h) with h | h
  · rw [expandParts, h]
  · rw [expandParts, h]

theorem expandParts_of_some (expand : Json → Json) {fields container : Fields} {path : String}
    (h : fields.object? "childContainer" path = .ok (some container)) :
    expandParts expand fields = fields.set "childContainer"
      (.object (expandLists expand (expandValue expand container))) := by
  rw [expandParts, Fields.object?_eq_ok_some_iff.1 h]

theorem present?_expandValue {expand : Json → Json} (hexpand : KeepsPresence expand)
    (container : Fields) :
    (expandValue expand container).present? "value" = (container.present? "value").map expand := by
  unfold expandValue
  cases hvalue : container.present? "value" with
  | none => exact hvalue
  | some value =>
    obtain ⟨-, hnull⟩ := Fields.present?_eq_some_iff.1 hvalue
    dsimp only
    rw [Option.map_some, Fields.present?_eq_some_iff, Fields.get?_set, if_pos rfl]
    exact ⟨rfl, hexpand value hnull⟩

theorem get?_set_of_ne {fields : Fields} {key other : String} {value : Json} (h : other ≠ key) :
    (fields.set key value).get? other = fields.get? other := by
  rw [Fields.get?_set, if_neg h]

theorem present?_set_array (fields : Fields) (key : String) (items : List Json) :
    (fields.set key (.array items)).present? key = some (.array items) :=
  Fields.present?_eq_some_iff.2 ⟨by rw [Fields.get?_set, if_pos rfl], rfl⟩

/-- The items of the governing list are rewritten, and it governs as before. -/
theorem declaredChildren_expandLists (expand : Json → Json) {fields : Fields} {path : String}
    {multiplicity : Multiplicity} {items : List Json}
    (h : declaredChildren fields path = .ok (multiplicity, items)) :
    declaredChildren (expandLists expand fields) path = .ok (multiplicity, items.map expand) := by
  refine declaredChildren_eq_ok_iff.2 ?_
  rcases declaredChildren_eq_ok_iff.1 h with
    ⟨rfl, hone, anyOf, hany⟩ | ⟨rfl, hone, hany⟩ | ⟨rfl, hone, hany, rfl⟩
  · have hlists : expandLists expand fields = fields.set "one_of" (.array (items.map expand)) := by
      rw [expandLists, hone]
    rw [hlists]
    refine .inl ⟨rfl, present?_set_array fields "one_of" _, anyOf, ?_⟩
    exact (Fields.typed?_congr (get?_set_of_ne (by decide)) path).trans hany
  · have hlists : expandLists expand fields = fields.set "any_of" (.array (items.map expand)) := by
      rw [expandLists, hone, hany]
    rw [hlists]
    refine .inr (.inl ⟨rfl, ?_, present?_set_array fields "any_of" _⟩)
    exact (Fields.present?_congr (get?_set_of_ne (by decide))).trans hone
  · have hlists : expandLists expand fields = fields := by
      rw [expandLists, hone, hany]
    rw [hlists]
    exact .inr (.inr ⟨rfl, hone, hany, rfl⟩)

theorem declaredChildren_congr {fields others : Fields}
    (hone : fields.get? "one_of" = others.get? "one_of")
    (hany : fields.get? "any_of" = others.get? "any_of") (path : String) :
    declaredChildren fields path = declaredChildren others path := by
  have hone' : fields.array? "one_of" path = others.array? "one_of" path :=
    Fields.typed?_congr hone path
  have hany' : fields.array? "any_of" path = others.array? "any_of" path :=
    Fields.typed?_congr hany path
  rw [declaredChildren, declaredChildren, hone', hany']

/-- What an expanded object is made of is what the object is made of, rewritten. -/
theorem readShape_expandParts {expand : Json → Json} (hexpand : KeepsPresence expand)
    {fields : Fields} {path : String} {source : ShapeSource}
    (h : readShape fields path = .ok source) :
    readShape (expandParts expand fields) path = .ok (source.map expand) := by
  obtain ⟨container, hcontainer, h⟩ := bind_eq_ok_iff.1 h
  obtain ⟨containerKey, hkey, h⟩ := bind_eq_ok_iff.1 h
  obtain ⟨⟨multiplicity, items⟩, hchildren, h⟩ := bind_eq_ok_iff.1 h
  obtain rfl := Except.ok.inj h
  refine bind_eq_ok_iff.2 ?_
  cases container with
  | none =>
    -- The object's own lists govern.
    rw [expandParts_of_none expand hcontainer]
    refine ⟨none, ?_, bind_eq_ok_iff.2 ⟨containerKey, hkey, bind_eq_ok_iff.2
      ⟨(multiplicity, items.map expand), declaredChildren_expandLists expand hchildren, rfl⟩⟩⟩
    refine (Fields.typed?_congr ?_ path).trans hcontainer
    rw [get?_expandLists expand fields (by decide) (by decide)]
  | some container =>
    -- The container's lists govern, and its value stands below as well.
    let expanded := expandLists expand (expandValue expand container)
    have hkey' : expanded.get? "key" = container.get? "key" := by
      rw [get?_expandLists _ _ (by decide) (by decide), get?_expandValue _ _ (by decide)]
    have hvalue : expanded.present? "value" = (container.present? "value").map expand := by
      rw [← present?_expandValue hexpand]
      exact Fields.present?_congr (get?_expandLists _ _ (by decide) (by decide))
    have hchildren' :
        declaredChildren (expandValue expand container) path = .ok (multiplicity, items) :=
      (declaredChildren_congr (get?_expandValue _ _ (by decide)) (get?_expandValue _ _ (by decide))
        path).trans hchildren
    rw [expandParts_of_some expand hcontainer]
    refine ⟨some expanded, ?_, bind_eq_ok_iff.2 ⟨containerKey, ?_, bind_eq_ok_iff.2
      ⟨(multiplicity, items.map expand), declaredChildren_expandLists expand hchildren', ?_⟩⟩⟩
    · rw [Fields.object?_eq_ok_some_iff, Fields.get?_set, if_pos rfl]
    · exact (Fields.typed?_congr hkey' path).trans hkey
    · dsimp only [Option.getD_some]
      rw [hvalue]
      rfl

/-! ### Opening the expansion -/

theorem typeToken?_congr {fields others : Fields} (h : fields.get? "type" = others.get? "type") :
    typeToken? fields = typeToken? others := by
  rw [typeToken?, typeToken?, h]

theorem scopeBelow_congr {fields others : Fields}
    (h : fields.get? "parameters" = others.get? "parameters") (scope : Scope) :
    scopeBelow scope fields = scopeBelow scope others := by
  rw [scopeBelow, scopeBelow, h]

theorem readShape_congr {fields others : Fields}
    (hcontainer : fields.get? "childContainer" = others.get? "childContainer")
    (hone : fields.get? "one_of" = others.get? "one_of")
    (hany : fields.get? "any_of" = others.get? "any_of") (path : String) :
    readShape fields path = readShape others path := by
  have hobject : fields.object? "childContainer" path = others.object? "childContainer" path :=
    Fields.typed?_congr hcontainer path
  rw [readShape, readShape, hobject]
  refine bind_congr fun container ↦ ?_
  cases container with
  | none => simp only [Option.getD_none, declaredChildren_congr hone hany path]
  | some container => rfl

section Opening

variable {scope : Scope} {parent : String} {node : Fields} {o : Opened}

theorem get?_bareFields (h : Opens scope parent node o) {other : String}
    (hrequired : other ≠ "required") (hkey : other ≠ "key") (hparameters : other ≠ "parameters") :
    (bareFields scope node).get? other = o.descriptor.get? other := by
  rw [bareFields, Fields.get?_erase, if_neg hparameters, get?_dereference h, if_neg hrequired,
    if_neg hkey]

theorem typeToken?_dereference (h : Opens scope parent node o) :
    typeToken? (dereference scope node) = some (.kind o.kind) := by
  have htype : (dereference scope node).get? "type" = o.descriptor.get? "type" := by
    rw [get?_dereference h, if_neg (by decide), if_neg (by decide)]
  rw [typeToken?_congr htype, h.kind]

theorem scopeBelow_dereference (h : Opens scope parent node o) :
    scopeBelow scope (dereference scope node) = o.inner := by
  have hparameters :
      (dereference scope node).get? "parameters" = o.descriptor.get? "parameters" := by
    rw [get?_dereference h, if_neg (by decide), if_neg (by decide)]
  rw [scopeBelow_congr hparameters, h.inner]

theorem readShape_bareFields (h : Opens scope parent node o) {path : String} {source : ShapeSource}
    (hsource : readShape o.descriptor path = .ok source) :
    readShape (bareFields scope node) path = .ok source :=
  (readShape_congr (get?_bareFields h (by decide) (by decide) (by decide))
    (get?_bareFields h (by decide) (by decide) (by decide))
    (get?_bareFields h (by decide) (by decide) (by decide)) path).trans hsource

/-- Where a node can be opened, its expansion is made of its bare fields. -/
theorem expandNode_of_opens (h : Opens scope parent node o) (expandBelow : Scope → Json → Json) :
    expandNode expandBelow scope (.object node) =
      .object (if o.kind = .object then
        expandParts (expandBelow o.inner) (bareFields scope node)
      else bareFields scope node) := by
  rw [expandNode]
  simp only [typeToken?_dereference h, scopeBelow_dereference h, Option.some.injEq,
    Token.kind.injEq]
  split_ifs <;> rfl

theorem get?_parameters_of_bareFields {expanded : Fields}
    (hget : ∀ key, key ≠ "one_of" → key ≠ "any_of" → key ≠ "childContainer" →
      expanded.get? key = (bareFields scope node).get? key) :
    expanded.get? "parameters" = none := by
  rw [hget "parameters" (by decide) (by decide) (by decide), bareFields, Fields.get?_erase,
    if_pos rfl]

/-- Fields that hold what the bare fields of a node hold, away from the nodes below it, are opened
without any scope, and say of the node what its descriptor says. -/
theorem opens_of_bareFields (h : Opens scope parent node o) {expanded : Fields}
    (hget : ∀ key, key ≠ "one_of" → key ≠ "any_of" → key ≠ "childContainer" →
      expanded.get? key = (bareFields scope node).get? key) :
    Opens .root parent expanded { o with descriptor := expanded, inner := .root } where
  key := by
    rw [hget "key" (by decide) (by decide) (by decide), bareFields, Fields.get?_erase,
      if_neg (by decide), get?_dereference h, if_neg (by decide), if_pos rfl]
  path := h.path
  kind := by
    have htype : expanded.get? "type" = o.descriptor.get? "type" := by
      rw [hget "type" (by decide) (by decide) (by decide),
        get?_bareFields h (by decide) (by decide) (by decide)]
    rw [typeToken?_congr htype, h.kind]
  governs := .inl rfl
  parameters := by
    have hnone := Fields.present?_eq_none_iff.2 (.inl (get?_parameters_of_bareFields hget))
    exact ⟨none, fun path ↦ Fields.typed?_eq_ok_none_iff.2 hnone⟩
  inner := by rw [scopeBelow, get?_parameters_of_bareFields hget]
  typeName := by
    rw [hget "typeName" (by decide) (by decide) (by decide),
      get?_bareFields h (by decide) (by decide) (by decide), h.typeName]
  parentType := fun path ↦ by
    have hparent : expanded.get? "parent" = o.descriptor.get? "parent" := by
      rw [hget "parent" (by decide) (by decide) (by decide),
        get?_bareFields h (by decide) (by decide) (by decide)]
    exact (Fields.typed?_congr hparent path).trans (h.parentType path)

end Opening

/-- Where a node can be opened, so can its expansion without any scope, and it is like the node with
the nodes below it expanded. -/
theorem openNode_expandNode {scope : Scope} {parent : String} {node : Json} {o : Opened}
    (h : (openNode scope parent node).outcome = .ok o) {expandBelow : Scope → Json → Json}
    (hbelow : KeepsPresence (expandBelow o.inner)) :
    ∃ expanded : Fields, expandNode expandBelow scope node = .object expanded ∧
      Opens .root parent expanded { o with descriptor := expanded, inner := .root } ∧
      o.Like (expandBelow o.inner) { o with descriptor := expanded, inner := .root } := by
  obtain ⟨fields, rfl, hopens⟩ := openNode_eq_ok_iff.1 h
  refine ⟨_, expandNode_of_opens hopens expandBelow, ?_⟩
  -- The keys that opening looks at are not those that hold the nodes below.
  generalize hexpanded : (if o.kind = .object then
    expandParts (expandBelow o.inner) (bareFields scope fields)
    else bareFields scope fields) = expanded
  have hget : ∀ key, key ≠ "one_of" → key ≠ "any_of" → key ≠ "childContainer" →
      expanded.get? key = (bareFields scope fields).get? key := by
    intro key hone hany hcontainer
    rw [← hexpanded]
    split_ifs
    · exact get?_expandParts _ _ hone hany hcontainer
    · rfl
  refine ⟨opens_of_bareFields hopens hget, ⟨rfl, rfl, fun options hoptions ↦ ?_, ?_⟩⟩
  · have hoptions' : expanded.get? "options" = o.descriptor.get? "options" := by
      rw [hget "options" (by decide) (by decide) (by decide),
        get?_bareFields hopens (by decide) (by decide) (by decide)]
    exact (Fields.strings?_congr hoptions' o.path).trans hoptions
  · intro hkind source hsource
    rw [← hexpanded, if_pos hkind]
    exact readShape_expandParts hbelow (readShape_bareFields hopens hsource)

theorem requiredFlag_congr {fields others : Fields}
    (h : fields.get? "required" = others.get? "required") (path : String) :
    requiredFlag (.object fields) path = requiredFlag (.object others) path := by
  have hbool : fields.bool? "required" path = others.bool? "required" path :=
    Fields.typed?_congr h path
  rw [requiredFlag, requiredFlag, hbool]

/-- Expanding a node leaves alone whether it is required. -/
theorem requiredFlag_expandNode (expandBelow : Scope → Json → Json) (scope : Scope) (node : Json)
    (path : String) :
    requiredFlag (expandNode expandBelow scope node) path = requiredFlag node path := by
  cases node with
  | object fields =>
    have hbare : (bareFields scope fields).get? "required" = Fields.get? fields "required" := by
      rw [bareFields, Fields.get?_erase, if_neg (by decide), get?_dereference_required]
    rw [expandNode]
    split_ifs
    · refine requiredFlag_congr ((get?_expandParts _ _ ?_ ?_ ?_).trans hbare) path <;> decide
    · exact requiredFlag_congr hbare path
  | _ => rfl

theorem requiredFlag_expandAt (levels : Nat) (scope : Scope) (node : Json) (path : String) :
    requiredFlag (expandAt levels scope node) path = requiredFlag node path := by
  cases levels with
  | zero => rfl
  | succ levels => exact requiredFlag_expandNode (expandAt levels) scope node path

end ClientSynthesis.Body
