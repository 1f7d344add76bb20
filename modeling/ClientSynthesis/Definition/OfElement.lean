import ClientSynthesis.Body.Element
import ClientSynthesis.Definition.Basic
import ClientSynthesis.Descriptor.Error
import ClientSynthesis.Naming.Identifier

/-!
# Definitions of body elements

Objects become structs and enums become enums; the other kinds define nothing. The definition depends
on the element alone, so equal elements define the same. Identifiers are not injective in the
descriptor's names, and a struct or an enum whose identifiers collide is refused.
-/

namespace ClientSynthesis

open Body (Child Element Multiplicity ObjectShape)
open Descriptor (Defect Error)
open Naming (fieldName variantName)

/-- The first text that repeats an earlier one. -/
def firstRepeat? (seen : List String) : List String → Option String
  | [] => none
  | x :: rest => if seen.contains x then some x else firstRepeat? (x :: seen) rest

/-- A list without repetitions is one that `firstRepeat?` finds nothing in. -/
theorem firstRepeat?_eq_none_iff {seen xs : List String} :
    firstRepeat? seen xs = none ↔ xs.Nodup ∧ ∀ x ∈ xs, x ∉ seen := by
  induction xs generalizing seen with
  | nil => simp [firstRepeat?]
  | cons x rest ih =>
    rw [firstRepeat?]
    by_cases h : seen.contains x = true
    · rw [if_pos h]
      simp_all
    · rw [if_neg h, ih, List.nodup_cons]
      simp only [List.contains_iff_mem] at h
      constructor
      · rintro ⟨hnodup, hnot⟩
        refine ⟨⟨fun hx => hnot x hx List.mem_cons_self, hnodup⟩, fun y hy => ?_⟩
        rcases List.mem_cons.1 hy with rfl | hy
        · exact h
        · exact fun hs => hnot y hy (List.mem_cons_of_mem _ hs)
      · rintro ⟨⟨hx, hnodup⟩, hnot⟩
        refine ⟨hnodup, fun y hy hs => ?_⟩
        rcases List.mem_cons.1 hs with rfl | hs
        · exact hx hy
        · exact hnot y (List.mem_cons_of_mem _ hy) hs

theorem firstRepeat?_nil_eq_none_iff {xs : List String} : firstRepeat? [] xs = none ↔ xs.Nodup := by
  rw [firstRepeat?_eq_none_iff]
  exact and_iff_left fun _ _ => List.not_mem_nil

namespace Body.Element

/-- The type of a field holding the element, and how its value is written. -/
def fieldType (e : Element) : FieldType × Encoding :=
  match e.kind with
  | .object => (.named e.typeName, .document)
  | .enum => (.named e.typeName, .wireValue)
  | .leaf .scalar => (.named e.typeName, .verbatim)
  | .leaf .scalarArray => (.list e.typeName, .verbatim)
  | .leaf .array => (.list e.typeName, .documentList)

end Body.Element

namespace StructShape

/-- The name of the field that holds the alternative of a one-of object. -/
def slotName : String := "child"

/-- The struct of a one-of object, whatever its alternatives are. -/
def slotOnly : StructShape :=
  ⟨[⟨slotName, slotName, .polymorphic, false, .document, .slot⟩], .exactlyOne⟩

/-- The field holding an object's dynamic key. -/
def containerField (key : String) : Field :=
  ⟨key, fieldName key, .named "String", false, .verbatim, .container⟩

/-- The field holding the value under the dynamic key. -/
def valueField (e : Element) : Field :=
  ⟨e.key, fieldName e.key, e.fieldType.1, false, e.fieldType.2, .value⟩

/-- The field holding a child. -/
def childField (c : Child Element) : Field :=
  ⟨c.element.key, fieldName c.element.key, c.element.fieldType.1, !c.required,
    c.element.fieldType.2, .child⟩

/-- The fields of an object that is not a one-of: container, value, children. -/
def objectFields (object : ObjectShape Element) : List Field :=
  (object.containerKey.map containerField).toList ++ (object.value.map valueField).toList ++
    object.children.map childField

/-- How an object that is not a one-of is written. -/
def objectSerialization (object : ObjectShape Element) : Serialization :=
  let container := object.containerKey.map fieldName
  match object.children, container, object.value with
  | _ :: _, container, _ => .fields container
  | [], some container, some value => .containerValue container (fieldName value.key)
  | [], _, _ => .empty

/-- The struct of an object. -/
def ofObject (object : ObjectShape Element) (path : String) : Except Error StructShape :=
  if object.multiplicity = .oneOf then .ok slotOnly
  else
    let fields := objectFields object
    match firstRepeat? [] (fields.map (·.ident)) with
    | some ident => .error (.invalid path (.sharedField ident))
    | none => .ok ⟨fields, objectSerialization object⟩

/-- A one-of object has a struct whatever it is made of; any other has one if its identifiers are
distinct. -/
theorem ofObject_eq_ok_iff {object : ObjectShape Element} {path : String} {shape : StructShape} :
    ofObject object path = .ok shape ↔
      (object.multiplicity = .oneOf ∧ shape = slotOnly) ∨
      (object.multiplicity ≠ .oneOf ∧ ((objectFields object).map Field.ident).Nodup ∧
        shape = ⟨objectFields object, objectSerialization object⟩) := by
  rw [ofObject]
  by_cases honeOf : object.multiplicity = .oneOf
  · rw [if_pos honeOf, Except.ok.injEq]
    exact ⟨fun h => .inl ⟨honeOf, h.symm⟩,
      fun h => h.elim (fun h => h.2.symm) fun h => absurd honeOf h.1⟩
  · rw [if_neg honeOf]
    dsimp only
    split
    · next ident hrepeat =>
      have hrepeats : ¬ ((objectFields object).map Field.ident).Nodup := by
        rw [← firstRepeat?_nil_eq_none_iff, hrepeat]
        exact nofun
      exact ⟨nofun, fun h => h.elim (fun h => absurd h.1 honeOf) fun h => absurd h.2.1 hrepeats⟩
    · next hrepeat =>
      have hnodup := firstRepeat?_nil_eq_none_iff.1 hrepeat
      exact ⟨fun h => .inr ⟨honeOf, hnodup, (Except.ok.inj h).symm⟩,
        fun h => h.elim (fun h => absurd h.1 honeOf) fun h => congrArg _ h.2.2.symm⟩

end StructShape

/-- The variants of an enum with the given options. -/
def EnumCase.ofOptions (options : List String) (path : String) : Except Error (List EnumCase) :=
  let cases := options.map fun option => (⟨variantName option, option⟩ : EnumCase)
  match firstRepeat? [] (cases.map (·.ident)) with
  | some ident => .error (.invalid path (.sharedVariant ident))
  | none => .ok cases

/-- Options have variants if the identifiers of these are distinct. -/
theorem EnumCase.ofOptions_eq_ok_iff {options : List String} {path : String}
    {cases : List EnumCase} :
    EnumCase.ofOptions options path = .ok cases ↔
      (cases.map EnumCase.ident).Nodup ∧
        cases = options.map fun option => ⟨variantName option, option⟩ := by
  rw [EnumCase.ofOptions]
  split
  · next ident hrepeat =>
    refine ⟨nofun, ?_⟩
    rintro ⟨hnodup, rfl⟩
    exact nomatch hrepeat.symm.trans (firstRepeat?_nil_eq_none_iff.2 hnodup)
  · next hrepeat =>
    have hnodup := firstRepeat?_nil_eq_none_iff.1 hrepeat
    constructor
    · intro h
      obtain rfl := Except.ok.inj h
      exact ⟨hnodup, rfl⟩
    · rintro ⟨-, rfl⟩
      rfl

/-- The definition an element contributes, if it contributes one. -/
def Definition.ofElement? (e : Element) (path : String) : Except Error (Option Definition) := do
  let define (shape : TypeShape) : Definition :=
    ⟨e.typeName, .type ⟨e.key, e.head.parentType, shape⟩⟩
  match e with
  | .object _ object => return some (define (.struct (← StructShape.ofObject object path)))
  | .enum _ options => return some (define (.enum (← EnumCase.ofOptions options path)))
  | .leaf .. => return none

end ClientSynthesis
