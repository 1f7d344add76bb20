import ClientSynthesis.Json.Census
import Mathlib.Data.List.Basic

/-!
# The parts that are counted

The objects in a document and the fields of those, listed instead of counted. Whatever is a part of
a document (`Part`) has its objects and its fields among those of the document.
-/

namespace ClientSynthesis.Json

/-! ### Lists in place of counts -/

mutual

/-- The objects in a document. -/
def objectsWithin : Json → List Json
  | .array items => objectsWithinItems items
  | .object fields => .object fields :: objectsWithinFields fields
  | _ => []

/-- The objects in the items of an array. -/
def objectsWithinItems : List Json → List Json
  | [] => []
  | item :: rest => item.objectsWithin ++ objectsWithinItems rest

/-- The objects in the fields of an object. -/
def objectsWithinFields : List (String × Json) → List Json
  | [] => []
  | (_, value) :: rest => value.objectsWithin ++ objectsWithinFields rest

end

mutual

/-- The object fields in a document. -/
def fieldsWithin : Json → List (String × Json)
  | .array items => fieldsWithinItems items
  | .object fields => fieldsWithinFields fields
  | _ => []

/-- The object fields in the items of an array. -/
def fieldsWithinItems : List Json → List (String × Json)
  | [] => []
  | item :: rest => item.fieldsWithin ++ fieldsWithinItems rest

/-- The fields of an object and the object fields in their values. -/
def fieldsWithinFields : List (String × Json) → List (String × Json)
  | [] => []
  | (key, value) :: rest => (key, value) :: value.fieldsWithin ++ fieldsWithinFields rest

end

mutual

theorem length_objectsWithin :
    ∀ document : Json, document.objectsWithin.length = document.objectCount
  | .array items => by rw [objectsWithin, objectCount, length_objectsWithinItems items]
  | .object fields => by
    rw [objectsWithin, objectCount, List.length_cons, length_objectsWithinFields fields,
      Nat.add_comm]
  | .null | .bool _ | .number _ | .string _ => rfl

theorem length_objectsWithinItems :
    ∀ items : List Json, (objectsWithinItems items).length = objectCountItems items
  | [] => rfl
  | item :: rest => by
    rw [objectsWithinItems, objectCountItems, List.length_append, length_objectsWithin item,
      length_objectsWithinItems rest]

theorem length_objectsWithinFields :
    ∀ fields : List (String × Json), (objectsWithinFields fields).length = objectCountFields fields
  | [] => rfl
  | (_, value) :: rest => by
    rw [objectsWithinFields, objectCountFields, List.length_append, length_objectsWithin value,
      length_objectsWithinFields rest]

end

mutual

theorem length_fieldsWithin : ∀ document : Json, document.fieldsWithin.length = document.fieldCount
  | .array items => by rw [fieldsWithin, fieldCount, length_fieldsWithinItems items]
  | .object fields => by rw [fieldsWithin, fieldCount, length_fieldsWithinFields fields]
  | .null | .bool _ | .number _ | .string _ => rfl

theorem length_fieldsWithinItems :
    ∀ items : List Json, (fieldsWithinItems items).length = fieldCountItems items
  | [] => rfl
  | item :: rest => by
    rw [fieldsWithinItems, fieldCountItems, List.length_append, length_fieldsWithin item,
      length_fieldsWithinItems rest]

theorem length_fieldsWithinFields :
    ∀ fields : List (String × Json), (fieldsWithinFields fields).length = fieldCountFields fields
  | [] => rfl
  | (_, value) :: rest => by
    rw [fieldsWithinFields, fieldCountFields, List.length_append, List.length_cons,
      length_fieldsWithin value, length_fieldsWithinFields rest, Nat.add_comm 1]

end

/-! ### Parts -/

/-- A part of one of the documents. -/
inductive Part (documents : List Json) : Json → Prop
  | document {document : Json} (h : document ∈ documents) : Part documents document
  | item {items : List Json} {v : Json} (h : Part documents (.array items)) (hv : v ∈ items) :
    Part documents v
  | field {fields : Fields} {key : String} {v : Json} (h : Part documents (.object fields))
    (hv : fields.get? key = some v) : Part documents v

theorem mem_of_get? {fields : Fields} {key : String} {v : Json} (h : fields.get? key = some v) :
    (key, v) ∈ fields := by
  obtain ⟨before, after, rfl, -⟩ := List.lookup_eq_some_iff.1 h
  exact List.mem_append_right before List.mem_cons_self

theorem subset_objectsWithinItems {items : List Json} {v : Json} (h : v ∈ items) :
    v.objectsWithin ⊆ objectsWithinItems items := by
  induction h with
  | head rest => exact List.subset_append_left _ _
  | tail item _ ih => exact List.subset_append_of_subset_right _ ih

theorem subset_objectsWithinFields {fields : Fields} {key : String} {v : Json}
    (h : (key, v) ∈ fields) : v.objectsWithin ⊆ objectsWithinFields fields := by
  induction fields with
  | nil => exact nomatch h
  | cons f rest ih =>
    rcases List.mem_cons.1 h with rfl | h
    · exact List.subset_append_left _ _
    · exact List.subset_append_of_subset_right _ (ih h)

theorem subset_fieldsWithinItems {items : List Json} {v : Json} (h : v ∈ items) :
    v.fieldsWithin ⊆ fieldsWithinItems items := by
  induction h with
  | head rest => exact List.subset_append_left _ _
  | tail item _ ih => exact List.subset_append_of_subset_right _ ih

theorem subset_fieldsWithinFields {fields : Fields} {key : String} {v : Json}
    (h : (key, v) ∈ fields) : (key, v) :: v.fieldsWithin ⊆ fieldsWithinFields fields := by
  induction fields with
  | nil => exact nomatch h
  | cons f rest ih =>
    rcases List.mem_cons.1 h with rfl | h
    · exact List.subset_append_left _ _
    · exact List.subset_append_of_subset_right _ (ih h)

namespace Part

variable {documents : List Json} {v : Json}

theorem objectsWithin_subset (h : Part documents v) :
    v.objectsWithin ⊆ documents.flatMap objectsWithin := by
  induction h with
  | document h => exact fun object hobject ↦ List.mem_flatMap.2 ⟨_, h, hobject⟩
  | item _ hv ih => exact List.Subset.trans (subset_objectsWithinItems hv) ih
  | field _ hv ih =>
    exact List.Subset.trans (subset_objectsWithinFields (mem_of_get? hv))
      (List.Subset.trans (List.subset_cons_self _ _) ih)

theorem fieldsWithin_subset (h : Part documents v) :
    v.fieldsWithin ⊆ documents.flatMap fieldsWithin := by
  induction h with
  | document h => exact fun entry hentry ↦ List.mem_flatMap.2 ⟨_, h, hentry⟩
  | item _ hv ih => exact List.Subset.trans (subset_fieldsWithinItems hv) ih
  | field _ hv ih =>
    exact List.Subset.trans (List.subset_cons_self _ _)
      (List.Subset.trans (subset_fieldsWithinFields (mem_of_get? hv)) ih)

/-- An object that is a part is one of the objects. -/
theorem mem_objectsWithin {fields : Fields} (h : Part documents (.object fields)) :
    .object fields ∈ documents.flatMap objectsWithin := h.objectsWithin_subset List.mem_cons_self

/-- What an object that is a part holds under a key is one of the fields. -/
theorem mem_fieldsWithin {fields : Fields} {key : String} (h : Part documents (.object fields))
    (hv : fields.get? key = some v) : (key, v) ∈ documents.flatMap fieldsWithin :=
  h.fieldsWithin_subset (subset_fieldsWithinFields (mem_of_get? hv) List.mem_cons_self)

end Part

end ClientSynthesis.Json
