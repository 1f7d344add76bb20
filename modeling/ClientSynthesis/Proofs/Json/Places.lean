import ClientSynthesis.Proofs.Json.Census
import Mathlib.Algebra.GroupWithZero.Nat

/-!
# Places in documents

A place is a way into one of several documents (`Place`). Two objects that are equal may stand at
different places, and it is places that `objectCount` counts: there are no more of them with an
object than the documents have objects together (`length_objectPlaces`).

The hops to a place are listed from the inside, so that what stands a hop further in is a place with
one hop in front.
-/

namespace ClientSynthesis.Json

/-- A hop into a document. -/
inductive Hop where
  | field (key : String)
  | item (index : Nat)
  deriving DecidableEq

/-- Where a hop leads to. -/
def hop? : Json → Hop → Option Json
  | .object fields, .field key => Fields.get? fields key
  | .array items, .item index => items[index]?
  | _, _ => none

/-- A place in one of several documents. -/
structure Place where
  document : Nat
  /-- The hops that lead to it, the last one first. -/
  hops : List Hop
  deriving DecidableEq

namespace Place

/-- The place a hop further in. -/
def into (p : Place) (hop : Hop) : Place := ⟨p.document, hop :: p.hops⟩

/-- What stands at a place. -/
def find? (documents : List Json) (p : Place) : Option Json :=
  p.hops.foldr (fun hop v ↦ v.bind (·.hop? hop)) documents[p.document]?

theorem find?_into (documents : List Json) (p : Place) (hop : Hop) :
    (p.into hop).find? documents = (p.find? documents).bind (·.hop? hop) := rfl

theorem find?_field {documents : List Json} {p : Place} {fields : Fields}
    (h : p.find? documents = some (.object fields)) (key : String) :
    (p.into (.field key)).find? documents = fields.get? key := by
  rw [find?_into, h]
  rfl

theorem find?_item {documents : List Json} {p : Place} {items : List Json}
    (h : p.find? documents = some (.array items)) (index : Nat) :
    (p.into (.item index)).find? documents = items[index]? := by
  rw [find?_into, h]
  rfl

end Place

/-! ### Places with objects -/

mutual

/-- The places with objects in a document that stands at a place. -/
def objectPlaces (place : Place) : Json → List Place
  | .array items => objectPlacesItems place 0 items
  | .object fields => place :: objectPlacesFields place fields
  | _ => []

/-- The places with objects in the items of an array, which are counted from the given number. -/
def objectPlacesItems (place : Place) : Nat → List Json → List Place
  | _, [] => []
  | n, item :: rest =>
    item.objectPlaces (place.into (.item n)) ++ objectPlacesItems place (n + 1) rest

/-- The places with objects in the fields of an object. -/
def objectPlacesFields (place : Place) : List (String × Json) → List Place
  | [] => []
  | (key, value) :: rest =>
    value.objectPlaces (place.into (.field key)) ++ objectPlacesFields place rest

end

mutual

theorem length_objectPlaces (place : Place) :
    ∀ document : Json, (document.objectPlaces place).length = document.objectCount
  | .array items => by rw [objectPlaces, objectCount, length_objectPlacesItems place 0 items]
  | .object fields => by
    rw [objectPlaces, objectCount, List.length_cons, length_objectPlacesFields place fields,
      Nat.add_comm]
  | .null | .bool _ | .number _ | .string _ => rfl

theorem length_objectPlacesItems (place : Place) :
    ∀ (n : Nat) (items : List Json),
      (objectPlacesItems place n items).length = objectCountItems items
  | _, [] => rfl
  | n, item :: rest => by
    rw [objectPlacesItems, objectCountItems, List.length_append, length_objectPlaces _ item,
      length_objectPlacesItems place (n + 1) rest]

theorem length_objectPlacesFields (place : Place) :
    ∀ fields : List (String × Json),
      (objectPlacesFields place fields).length = objectCountFields fields
  | [] => rfl
  | (_, value) :: rest => by
    rw [objectPlacesFields, objectCountFields, List.length_append, length_objectPlaces _ value,
      length_objectPlacesFields place rest]

end

theorem subset_objectPlacesItems (place : Place) {items : List Json} {v : Json} {index : Nat}
    (n : Nat) (h : items[index]? = some v) :
    v.objectPlaces (place.into (.item (n + index))) ⊆ objectPlacesItems place n items := by
  induction items generalizing n index with
  | nil => exact nomatch h
  | cons item rest ih =>
    cases index with
    | zero =>
      obtain rfl := Option.some.inj h
      exact List.subset_append_left _ _
    | succ index =>
      have hrest := ih (n + 1) h
      rw [Nat.add_assoc, Nat.add_comm 1] at hrest
      exact List.subset_append_of_subset_right _ hrest

theorem subset_objectPlacesFields {place : Place} {fields : Fields} {key : String} {v : Json}
    (h : (key, v) ∈ fields) :
    v.objectPlaces (place.into (.field key)) ⊆ objectPlacesFields place fields := by
  induction fields with
  | nil => exact nomatch h
  | cons f rest ih =>
    rcases List.mem_cons.1 h with rfl | h
    · exact List.subset_append_left _ _
    · exact List.subset_append_of_subset_right _ (ih h)

/-- A hop leads to places that are there already. -/
theorem objectPlaces_subset_of_hop? (place : Place) {v w : Json} {hop : Hop}
    (h : v.hop? hop = some w) : w.objectPlaces (place.into hop) ⊆ v.objectPlaces place := by
  cases v with
  | object fields =>
    cases hop with
    | field key =>
      exact List.subset_cons_of_subset _ (subset_objectPlacesFields (mem_of_get? h))
    | item index => exact nomatch h
  | array items =>
    cases hop with
    | field key => exact nomatch h
    | item index =>
      have hsub := subset_objectPlacesItems place 0 h
      rwa [Nat.zero_add] at hsub
  | _ => exact nomatch h

namespace Place

/-- The places with objects in several documents. -/
def ofObjects (documents : List Json) : List Place :=
  documents.zipIdx.flatMap fun document ↦ document.1.objectPlaces ⟨document.2, []⟩

theorem length_ofObjects (documents : List Json) :
    (ofObjects documents).length = (documents.map objectCount).sum := by
  have hcount : (fun document : Json × Nat ↦ (document.1.objectPlaces ⟨document.2, []⟩).length) =
      objectCount ∘ Prod.fst := funext fun document ↦ length_objectPlaces _ document.1
  rw [ofObjects, List.length_flatMap, hcount, ← List.map_map, List.zipIdx_map_fst]

theorem objectPlaces_subset_ofObjects {documents : List Json} {p : Place} {v : Json}
    (h : p.find? documents = some v) : v.objectPlaces p ⊆ ofObjects documents := by
  obtain ⟨document, hops⟩ := p
  induction hops generalizing v with
  | nil =>
    refine fun p hp ↦ List.mem_flatMap.2 ⟨(v, document), ?_, hp⟩
    exact List.mk_mem_zipIdx_iff_getElem?.2 h
  | cons hop outer ih =>
    obtain ⟨w, hw, hhop⟩ := Option.bind_eq_some_iff.1 h
    exact List.Subset.trans (objectPlaces_subset_of_hop? ⟨document, outer⟩ hhop) (ih hw)

/-- A place with an object is one of them. -/
theorem mem_ofObjects {documents : List Json} {p : Place} {fields : Fields}
    (h : p.find? documents = some (.object fields)) : p ∈ ofObjects documents :=
  objectPlaces_subset_ofObjects h List.mem_cons_self

end Place

end ClientSynthesis.Json
