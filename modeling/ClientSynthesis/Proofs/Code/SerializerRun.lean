import ClientSynthesis.Proofs.Code.SerializerReading

/-!
# Running serializers

What the statements of a serializer do. The values that fields hold at run time are of any type;
what the runtime makes of them, a nested document or a wire value, is a parameter (`Runtime`). An
instance of a struct gives each of its fields a value, or none to a field that is optional.

Running is partial, and every way in which a program could fail to be one is a way to get stuck. A
map has to be declared before use and is gone once it has been moved into a value; a field is found
by its identifier among those of the struct, is used plainly only if it is not optional, and as a
key only if it is the container.

The run of the child statements carries the one invariant, which is what the inner map holds
(`run_childStatements`). Keys are fresh because identifiers are, an identifier being a function of
its key, so storing is appending and no entry is lost.
-/

namespace ClientSynthesis.Code

open Json (Fields)

/-! ### Values -/

/-- What the runtime makes of the value of a field. -/
structure Runtime (V : Type) where
  /-- The document of a generated object. -/
  toDocument : V → Json
  /-- The wire value of a generated enum. -/
  wireText : V → String
  /-- A plain value as it is. -/
  toJson : V → Json
  /-- The items of a list. -/
  items : V → List V

/-- The value of a field in the encoding it is written in. -/
def Runtime.encode {V : Type} (rt : Runtime V) : Encoding → V → Json
  | .document, v => rt.toDocument v
  | .wireValue, v => .string (rt.wireText v)
  | .verbatim, v => rt.toJson v
  | .documentList, v => .array ((rt.items v).map rt.toDocument)

/-- What the fields of a struct hold: a value, or perhaps a value where the field is optional, or a
text where it is the container. -/
structure Instance (V : Type) where
  plain : Field → V
  optional : Field → Option V
  text : Field → String

/-! ### Running -/

/-- The local maps that have been declared and not been moved, with their entries. -/
abbrev Maps := LocalMap → Option Fields

/-- No map at all. -/
def Maps.none : Maps := fun _ ↦ Option.none

/-- The maps with one of them changed. -/
def Maps.set (maps : Maps) (map : LocalMap) (entries : Option Fields) : Maps :=
  fun m ↦ if m = map then entries else maps m

variable {V : Type}

/-- A struct at run time: its fields and what they hold. -/
structure Self (V : Type) where
  fields : List Field
  values : Instance V

/-- The field with an identifier. -/
def Self.field? (self : Self V) (ident : String) : Option Field :=
  self.fields.find? (·.ident = ident)

/-- The value at a place, with the value that is bound around it if there is one. An optional field
is no such place. -/
def Place.value? (self : Self V) (bound : Option V) : Place → Option V
  | .field ident => ((self.field? ident).filter (!·.optional)).map self.values.plain
  | .bound => bound

/-- The text that a key stands for. Of the fields only the container is a text. -/
def KeyExpression.value? (self : Self V) : KeyExpression → Option String
  | .fixed key => some key
  | .container ident => ((self.field? ident).filter (hasRole .container)).map self.values.text

/-- The value of an expression, and the maps that are left. -/
def ValueExpression.eval? (rt : Runtime V) (self : Self V) (bound : Option V) (maps : Maps) :
    ValueExpression → Option (Json × Maps)
  | .null => some (.null, maps)
  | .emptyObject => some (.object [], maps)
  | .object map => (maps map).map fun entries ↦ (.object entries, maps.set map none)
  | .encoded place encoding => (place.value? self bound).map fun v ↦ (rt.encode encoding v, maps)

/-- Store an entry in a map. -/
def store? (rt : Runtime V) (self : Self V) (bound : Option V) (maps : Maps) (map : LocalMap)
    (key : KeyExpression) (value : ValueExpression) : Option Maps := do
  let key ← key.value? self
  let (document, maps) ← value.eval? rt self bound maps
  let entries ← maps map
  return maps.set map (entries.set key document)

/-- The maps after a statement. -/
def step? (rt : Runtime V) (self : Self V) (maps : Maps) : Statement → Option Maps
  | .declare map => some (maps.set map (some []))
  | .insert map key value => store? rt self none maps map key value
  | .insertIfPresent ident map key value => do
    let field ← (self.field? ident).filter (·.optional)
    match self.values.optional field with
    | some v => store? rt self (some v) maps map key value
    | none => return maps
  | .result _ => none

/-- The maps after statements, run one after the other. -/
def steps? (rt : Runtime V) (self : Self V) (maps : Maps) (statements : List Statement) :
    Option Maps :=
  statements.foldlM (step? rt self) maps

/-- The document that statements yield. The last one, and no other, has to be the result. -/
def run? (rt : Runtime V) (self : Self V) (statements : List Statement) : Option Json :=
  match statements.getLast? with
  | some (.result map) =>
    (steps? rt self Maps.none statements.dropLast).bind fun maps ↦ (maps map).map .object
  | _ => none

/-- The document that the text of a function body yields. -/
def runText? (rt : Runtime V) (self : Self V) (text : String) : Option Json :=
  (readStatements text).bind (run? rt self)

/-! ### Maps -/

@[simp] theorem Maps.set_self (maps : Maps) (map : LocalMap) (entries : Option Fields) :
    maps.set map entries map = entries := if_pos rfl

theorem Maps.set_of_ne (maps : Maps) {map other : LocalMap} (h : other ≠ map)
    (entries : Option Fields) : maps.set map entries other = maps other := if_neg h

@[simp] theorem Maps.set_set (maps : Maps) (map : LocalMap) (entries more : Option Fields) :
    (maps.set map entries).set map more = maps.set map more := by
  funext m
  unfold Maps.set
  split <;> rfl

theorem Maps.set_eq_self {maps : Maps} {map : LocalMap} {entries : Option Fields}
    (h : maps map = entries) : maps.set map entries = maps := by
  funext m
  unfold Maps.set
  split
  · next heq => rw [heq, h]
  · rfl

/-- A key that is not there yet goes to the end. -/
theorem set_eq_append {entries : Fields} {key : String} (h : ∀ e ∈ entries, e.1 ≠ key)
    (value : Json) :
    entries.set key value = entries ++ [(key, value)] := by
  induction entries with
  | nil => rfl
  | cons e rest ih =>
    obtain ⟨k, v⟩ := e
    have hk : k ≠ key := h (k, v) List.mem_cons_self
    rw [Fields.set, if_neg hk, ih fun e he ↦ h e (List.mem_cons_of_mem _ he), List.cons_append]

/-! ### Fields -/

/-- With distinct identifiers, a field is found by its own. -/
theorem Self.field?_ident {self : Self V} (hnodup : (self.fields.map Field.ident).Nodup)
    {field : Field} (h : field ∈ self.fields) : self.field? field.ident = some field := by
  obtain ⟨fields, values⟩ := self
  rw [Self.field?]
  induction fields with
  | nil => exact nomatch h
  | cons first rest ih =>
    rw [List.map_cons, List.nodup_cons] at hnodup
    rcases List.mem_cons.1 h with rfl | hrest
    · rw [List.find?_cons_of_pos (by simp)]
    · have hne : first.ident ≠ field.ident := fun heq ↦ hnodup.1 (heq ▸ List.mem_map_of_mem hrest)
      rw [List.find?_cons_of_neg (by simpa using hne)]
      exact ih hnodup.2 hrest

section Run

variable {rt : Runtime V} {self : Self V} {maps : Maps} {field : Field}

/-- The entry of a child: none if it is optional and absent. -/
def member? (rt : Runtime V) (values : Instance V) (field : Field) : Option (String × Json) :=
  (if field.optional then values.optional field else some (values.plain field)).map
    fun v ↦ (field.key, rt.encode field.encoding v)

theorem plain_value? (hfield : self.field? field.ident = some field)
    (hplain : field.optional = false) (bound : Option V) :
    (Place.field field.ident).value? self bound = some (self.values.plain field) := by
  rw [Place.value?, hfield, Option.filter_some, if_pos (by rw [hplain]; rfl), Option.map_some]

theorem container_value? (hfield : self.field? field.ident = some field)
    (hrole : hasRole .container field = true) :
    (KeyExpression.container field.ident).value? self = some (self.values.text field) := by
  rw [KeyExpression.value?, hfield, Option.filter_some, if_pos hrole, Option.map_some]

/-! ### Children -/

/-- The statement of a child stores its entry, if it has one, behind those that are there. -/
theorem step?_childStatement (rt : Runtime V) {entries : Fields}
    (hmaps : maps .inner = some entries) (hfield : self.field? field.ident = some field)
    (hfresh : ∀ e ∈ entries, e.1 ≠ field.key) :
    step? rt self maps (childStatement field) =
      some (maps.set .inner (some (entries ++ (member? rt self.values field).toList))) := by
  unfold childStatement
  cases hoptional : field.optional with
  | false =>
    rw [if_neg Bool.false_ne_true, member?, hoptional, if_neg Bool.false_ne_true, step?, store?]
    simp only [KeyExpression.value?, ValueExpression.eval?, plain_value? hfield hoptional,
      Option.map_some, Option.bind_eq_bind, Option.bind_some, hmaps, set_eq_append hfresh]
    rfl
  | true =>
    rw [if_pos rfl, member?, hoptional, if_pos rfl, step?, hfield, Option.filter_some,
      if_pos hoptional, Option.bind_eq_bind, Option.bind_some]
    cases hvalue : self.values.optional field with
    | none =>
      rw [Option.map_none, Option.toList_none, List.append_nil, Maps.set_eq_self hmaps]
      rfl
    | some v =>
      simp only [store?, KeyExpression.value?, ValueExpression.eval?, Place.value?,
        Option.map_some, Option.bind_eq_bind, Option.bind_some, hmaps, set_eq_append hfresh]
      rfl

theorem key_of_member? {values : Instance V} {e : String × Json}
    (h : member? rt values field = some e) :
    e.1 = field.key := by
  obtain ⟨v, -, rfl⟩ := Option.map_eq_some_iff.1 h
  rfl

/-- The statements of children with distinct keys store the entries of all of them, in order. -/
theorem steps?_childStatements (rt : Runtime V) {fields : List Field} {entries : Fields}
    (hmaps : maps .inner = some entries)
    (hfields : ∀ f ∈ fields, self.field? f.ident = some f)
    (hnodup : (fields.map Field.key).Nodup) (hfresh : ∀ f ∈ fields, ∀ e ∈ entries, e.1 ≠ f.key) :
    steps? rt self maps (fields.map childStatement) =
      some (maps.set .inner (some (entries ++ fields.filterMap (member? rt self.values)))) := by
  induction fields generalizing maps entries with
  | nil =>
    rw [List.filterMap_nil, List.append_nil, Maps.set_eq_self hmaps]
    rfl
  | cons field rest ih =>
    have hstep := step?_childStatement rt hmaps (hfields field List.mem_cons_self)
      (hfresh field List.mem_cons_self)
    rw [List.map_cons, List.nodup_cons] at hnodup
    rw [steps?, List.map_cons, List.foldlM_cons, hstep, Option.bind_eq_bind, Option.bind_some]
    refine (ih (Maps.set_self ..) (fun f hf ↦ hfields f (List.mem_cons_of_mem _ hf)) hnodup.2
      fun f hf e he ↦ ?_).trans ?_
    · -- What has just been stored stands under another key.
      rcases List.mem_append.1 he with he | he
      · exact hfresh f (List.mem_cons_of_mem _ hf) e he
      · rw [key_of_member? (Option.mem_toList.1 he)]
        exact fun heq ↦ hnodup.1 (heq ▸ List.mem_map_of_mem hf)
    · rw [Maps.set_set, List.append_assoc, List.filterMap_cons]
      cases member? rt self.values field <;> rfl

/-! ### Whole serializers -/

/-- A serializer puts the value of its content under the wire key, if its statements run and leave
that value to be computed. -/
theorem run?_serializer {wireKey : String} {shape : StructShape} {statements : List Statement}
    {value : ValueExpression} {document : Json}
    (hcontent : contentStatements shape = (statements, value))
    (hsteps : steps? rt self .none statements = some maps)
    (heval : ∃ left, value.eval? rt self none (maps.set .document (some [])) =
      some (document, left) ∧ left .document = some []) :
    run? rt self (serializer wireKey shape) = some (.object [(wireKey, document)]) := by
  obtain ⟨left, heval, hleft⟩ := heval
  -- The statements of the content come first, then the three that every serializer ends with.
  have hdeclare :
      step? rt self maps (.declare .document) = some (maps.set .document (some [])) := rfl
  have hinsert : step? rt self (maps.set .document (some []))
      (.insert .document (.fixed wireKey) value) =
        some (left.set .document (some [(wireKey, document)])) := by
    simp only [step?, store?, KeyExpression.value?, heval, Option.bind_eq_bind, Option.bind_some,
      hleft]
    rfl
  have hsplit : serializer wireKey shape = (statements ++ [.declare .document,
      .insert .document (.fixed wireKey) value]) ++ [.result .document] := by
    rw [serializer, hcontent, List.append_assoc]
    rfl
  have hall : steps? rt self .none (statements ++ [.declare .document,
      .insert .document (.fixed wireKey) value]) =
        some (left.set .document (some [(wireKey, document)])) := by
    rw [steps?, List.foldlM_append]
    rw [steps?] at hsteps
    simp only [hsteps, List.foldlM_cons, List.foldlM_nil, hdeclare, hinsert, Option.bind_eq_bind,
      Option.bind_some]
    rfl
  rw [run?, hsplit, List.getLast?_concat, List.dropLast_concat, hall]
  dsimp only
  rw [Option.bind_some, Maps.set_self, Option.map_some]

/-- A serializer whose content is a local map puts that map under the wire key. -/
theorem run?_of_object {wireKey : String} {shape : StructShape} {statements : List Statement}
    {map : LocalMap} {entries : Fields}
    (hcontent : contentStatements shape = (statements, .object map))
    (hsteps : steps? rt self .none statements = some maps) (hne : map ≠ .document)
    (hmap : maps map = some entries) :
    run? rt self (serializer wireKey shape) = some (.object [(wireKey, .object entries)]) := by
  refine run?_serializer hcontent hsteps ⟨(maps.set .document (some [])).set map none, ?_, ?_⟩
  · rw [ValueExpression.eval?, Maps.set_of_ne _ hne, hmap, Option.map_some]
  · rw [Maps.set_of_ne _ hne.symm, Maps.set_self]

/-- The one-of object is written as the document in its slot. -/
theorem run?_of_exactlyOne {wireKey : String} {shape : StructShape}
    (h : shape.serialization = .exactlyOne) (hfield : self.field? field.ident = some field)
    (hslot : field.ident = StructShape.slotName) (hplain : field.optional = false) :
    run? rt self (serializer wireKey shape) =
      some (.object [(wireKey, rt.toDocument (self.values.plain field))]) := by
  have hcontent : contentStatements shape = ([], .encoded (.field field.ident) .document) := by
    rw [contentStatements, h, hslot]
  refine run?_serializer hcontent rfl ⟨Maps.none.set .document (some []), ?_, Maps.set_self ..⟩
  rw [ValueExpression.eval?, plain_value? hfield hplain]
  rfl

/-- An object of nothing is written as the empty object. -/
theorem run?_of_empty {wireKey : String} {shape : StructShape} (h : shape.serialization = .empty) :
    run? rt self (serializer wireKey shape) = some (.object [(wireKey, .object [])]) := by
  have hcontent : contentStatements shape = ([], .emptyObject) := by rw [contentStatements, h]
  exact run?_serializer hcontent rfl ⟨Maps.none.set .document (some []), rfl, Maps.set_self ..⟩

/-- A document is put under the text of the container. -/
theorem steps?_container {value : ValueExpression} {document : Json} {left : Maps}
    (hfield : self.field? field.ident = some field) (hrole : hasRole .container field = true)
    (heval : value.eval? rt self none (maps.set .container (some [])) = some (document, left))
    (hleft : left .container = some []) :
    ∃ after, steps? rt self maps
        [.declare .container, .insert .container (.container field.ident) value] = some after ∧
      after .container = some [(self.values.text field, document)] := by
  have hdeclare : step? rt self maps (.declare .container) =
      some (maps.set .container (some [])) := rfl
  have hinsert : step? rt self (maps.set .container (some []))
      (.insert .container (.container field.ident) value) =
        some (left.set .container (some [(self.values.text field, document)])) := by
    simp only [step?, store?, container_value? hfield hrole, heval, Option.bind_eq_bind,
      Option.bind_some, hleft]
    rfl
  refine ⟨left.set .container (some [(self.values.text field, document)]), ?_, Maps.set_self ..⟩
  simp only [steps?, List.foldlM_cons, List.foldlM_nil, hdeclare, hinsert, Option.bind_eq_bind,
    Option.bind_some]
  rfl

/-- A value is written under the text of its container. -/
theorem run?_of_containerValue {wireKey : String} {shape : StructShape} {container value : Field}
    (h : shape.serialization = .containerValue container.ident value.ident)
    (hfind : shape.fields.find? (hasRole .value) = some value)
    (hcontainer : self.field? container.ident = some container)
    (hrole : hasRole .container container = true)
    (hvalue : self.field? value.ident = some value) (hplain : value.optional = false) :
    run? rt self (serializer wireKey shape) = some (.object [(wireKey, .object
      [(self.values.text container, rt.encode value.encoding (self.values.plain value))])]) := by
  have hcontent : contentStatements shape = ([.declare .container, .insert .container
      (.container container.ident) (.encoded (.field value.ident) value.encoding)],
        .object .container) := by
    rw [contentStatements, h]
    simp only [hfind]
  have heval : (ValueExpression.encoded (.field value.ident) value.encoding).eval? rt self none
      (Maps.none.set .container (some [])) =
        some (rt.encode value.encoding (self.values.plain value),
          Maps.none.set .container (some [])) := by
    rw [ValueExpression.eval?, plain_value? hvalue hplain]
    rfl
  obtain ⟨maps, hsteps, hmap⟩ := steps?_container hcontainer hrole heval (Maps.set_self ..)
  exact run?_of_object hcontent hsteps (by decide) hmap

/-- A document under the text of a container, if there is one. -/
def under (values : Instance V) (container : Option Field) (document : Json) : Json :=
  match container with
  | some f => .object [(values.text f, document)]
  | none => document

/-- The entries of children are written as an object, under the text of the container if there is
one. -/
theorem run?_of_fields {wireKey : String} {shape : StructShape} {container : Option Field}
    (h : shape.serialization = .fields (container.map Field.ident))
    (hcontainer : ∀ f ∈ container, self.field? f.ident = some f ∧ hasRole .container f = true)
    (hfields : ∀ f ∈ shape.fields.filter (hasRole .child), self.field? f.ident = some f)
    (hnodup : ((shape.fields.filter (hasRole .child)).map Field.key).Nodup) :
    run? rt self (serializer wireKey shape) = some (.object [(wireKey,
      under self.values container (.object
        ((shape.fields.filter (hasRole .child)).filterMap (member? rt self.values))))]) := by
  have hdeclare : step? rt self .none (.declare .inner) =
      some (Maps.none.set .inner (some [])) := rfl
  have hchildren := steps?_childStatements rt (Maps.set_self .none .inner (some [])) hfields
    hnodup fun f _ e he ↦ nomatch he
  rw [List.nil_append, Maps.set_set] at hchildren
  -- From here on it does not matter what the children have stored.
  generalize (shape.fields.filter (hasRole .child)).filterMap (member? rt self.values) = entries
    at hchildren ⊢
  have hinner : steps? rt self .none
      (.declare .inner :: (shape.fields.filter (hasRole .child)).map childStatement) =
        some (Maps.none.set .inner (some entries)) := by
    rw [steps?, List.foldlM_cons, hdeclare]
    exact hchildren
  cases container with
  | none =>
    have hcontent : contentStatements shape = (.declare .inner ::
        (shape.fields.filter (hasRole .child)).map childStatement, .object .inner) := by
      rw [contentStatements, h]
      rfl
    exact run?_of_object hcontent hinner (by decide) (Maps.set_self ..)
  | some f =>
    obtain ⟨hfield, hrole⟩ := hcontainer f rfl
    have hcontent : contentStatements shape = (.declare .inner ::
        (shape.fields.filter (hasRole .child)).map childStatement ++ [.declare .container,
          .insert .container (.container f.ident) (.object .inner)], .object .container) := by
      rw [contentStatements, h]
      rfl
    -- The inner map is moved into the container, and the container is what is left.
    have heval : (ValueExpression.object .inner).eval? rt self none
        ((Maps.none.set .inner (some entries)).set .container (some [])) =
          some (.object entries, _) := rfl
    obtain ⟨maps, hsteps, hmap⟩ := steps?_container hfield hrole heval rfl
    refine run?_of_object hcontent ?_ (by decide) hmap
    rw [steps?, List.foldlM_append]
    rw [steps?] at hinner
    rw [hinner]
    exact hsteps

end Run

end ClientSynthesis.Code
