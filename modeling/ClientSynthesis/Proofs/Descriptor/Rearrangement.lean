import ClientSynthesis.Proofs.Descriptor.Accessors
import ClientSynthesis.Proofs.Json.Census
import ClientSynthesis.Proofs.Report.Mirrors

/-!
# Rearranging a descriptor

What a value in a descriptor is there for decides which keys count in it (`Purpose`). A descriptor
is rearranged by changes that should not matter, at any depth: the fields of an object change their
order, fields under keys that do not count come or go, and so do fields that hold `null`
(`Rearranged`). The exception is a table of parameters, in which a name can be bound to `null`.

Values that are rearranged are alike in all that an accessor looks at (`Rearranged.alike`). They are
of one kind, and under each key that counts they hold values that are rearranged themselves. The
proof is an induction over the changes; from there on only the likeness is used, accessor by
accessor.
-/

namespace ClientSynthesis

open Report (Mirrors)

/-! ### Fields in another order -/

namespace Json.Fields

variable {fields fields' front back : Fields} {key other : String} {v : Json}

theorem get?_append (front back : Fields) (key : String) :
    get? (front ++ back) key = (front.get? key).or (back.get? key) := List.lookup_append

theorem get?_eq_none_of_not_mem (h : key ∉ fields.map Prod.fst) : fields.get? key = none := by
  refine List.lookup_eq_none_iff.2 fun field hfield ↦ ?_
  rw [bne_iff_ne]
  rintro rfl
  exact h (List.mem_map_of_mem hfield)

theorem get?_eq_some_iff_mem (h : (fields.map Prod.fst).Nodup) :
    fields.get? key = some v ↔ (key, v) ∈ fields := by
  refine ⟨mem_of_get?, fun hmem ↦ ?_⟩
  obtain ⟨front, back, rfl⟩ := List.append_of_mem hmem
  rw [List.map_append, List.nodup_append] at h
  have hfresh : key ∉ front.map Prod.fst := fun hfront ↦ h.2.2 key hfront key (by simp) rfl
  rw [get?_append, get?_eq_none_of_not_mem hfresh, get?_cons, if_pos rfl]
  rfl

theorem get?_perm (h : fields.Perm fields') (hnodup : (fields.map Prod.fst).Nodup) (key : String) :
    fields.get? key = fields'.get? key := by
  have hnodup' : (fields'.map Prod.fst).Nodup := (h.map Prod.fst).nodup_iff.1 hnodup
  refine Option.ext fun v ↦ ?_
  rw [get?_eq_some_iff_mem hnodup, get?_eq_some_iff_mem hnodup', h.mem_iff]

/-- A field in the middle shows under its own key only. -/
theorem get?_insert_of_ne (h : other ≠ key) :
    get? (front ++ (key, v) :: back) other = get? (front ++ back) other := by
  rw [get?_append, get?_append, get?_cons, if_neg h]

end Json.Fields

namespace Descriptor

open Json (Fields)

/-! ### Purposes -/

/-- What a value in a descriptor is there for. -/
inductive Purpose where
  /-- The descriptor of a body, or of a part of it. -/
  | node
  /-- The parameters that a node declares. -/
  | parameters
  /-- The child container of a node. -/
  | container
  /-- A list of nodes. -/
  | nodes
  /-- The descriptor of an endpoint. -/
  | endpoint
  | url
  /-- The descriptions of the path parameters of an endpoint. -/
  | parts
  | part
  /-- The request body of an endpoint. -/
  | body
  /-- Anything else; no key counts in it. -/
  | plain
  deriving DecidableEq

namespace Purpose

/-- The keys that count in an object with a purpose, and the purposes of what stands under them. -/
def keys : Purpose → List (String × Purpose)
  | .node => [("key", .plain), ("type", .plain), ("typeName", .plain), ("parent", .plain),
      ("parameters", .parameters), ("childContainer", .container), ("one_of", .nodes),
      ("any_of", .nodes), ("options", .plain), ("required", .plain)]
  | .container => [("key", .plain), ("value", .node), ("one_of", .nodes), ("any_of", .nodes)]
  | .endpoint => [("documentation", .plain), ("methods", .plain), ("url", .url), ("body", .body)]
  | .url => [("paths", .plain), ("parts", .parts)]
  | .part => [("type", .plain), ("description", .plain)]
  | .body => [("required", .plain)]
  | .parameters | .parts | .nodes | .plain => []

/-- The purpose of what stands under a key, if the key counts. The names in a table all do. -/
def field? (purpose : Purpose) (key : String) : Option Purpose :=
  match purpose with
  | .parameters => some .node
  | .parts => some .part
  | purpose => purpose.keys.lookup key

/-- The purpose of an item of an array. -/
def item : Purpose → Purpose
  | .nodes => .node
  | _ => .plain

/-- What an object with a purpose holds under a key. In a table of parameters `null` is a binding,
and elsewhere a key that holds it counts as missing. -/
def read (purpose : Purpose) (fields : Fields) (key : String) : Option Json :=
  if purpose = .parameters then fields.get? key else fields.present? key

theorem read_congr (purpose : Purpose) {fields fields' : Fields} {key : String}
    (h : fields.get? key = fields'.get? key) :
    purpose.read fields key = purpose.read fields' key := by
  unfold read
  rw [h, Fields.present?_congr h]

end Purpose

/-! ### Changes that should not matter -/

/-- A value with a purpose has been rearranged into another one. -/
inductive Rearranged : Purpose → Json → Json → Prop
  | refl (purpose : Purpose) (v : Json) : Rearranged purpose v v
  | symm {purpose : Purpose} {v w : Json} (h : Rearranged purpose v w) : Rearranged purpose w v
  | trans {purpose : Purpose} {u v w : Json} (huv : Rearranged purpose u v)
    (hvw : Rearranged purpose v w) : Rearranged purpose u w
  /-- The fields of an object stand in another order. -/
  | reordered {purpose : Purpose} {fields fields' : Fields} (h : fields.Perm fields')
    (hnodup : (fields.map Prod.fst).Nodup) : Rearranged purpose (.object fields) (.object fields')
  /-- There is one more field, which holds `null`. -/
  | null {purpose : Purpose} (front back : Fields) (key : String) (hpurpose : purpose ≠ .parameters)
    (hfresh : key ∉ (front ++ back).map Prod.fst) :
    Rearranged purpose (.object (front ++ back)) (.object (front ++ (key, .null) :: back))
  /-- There is one more field, under a key that does not count. -/
  | unknown {purpose : Purpose} (front back : Fields) (key : String) (v : Json)
    (hkey : purpose.field? key = none) :
    Rearranged purpose (.object (front ++ back)) (.object (front ++ (key, v) :: back))
  /-- What a field holds has been rearranged. -/
  | field {purpose sub : Purpose} (front back : Fields) (key : String) {v w : Json}
    (hkey : purpose.field? key = some sub) (h : Rearranged sub v w) :
    Rearranged purpose (.object (front ++ (key, v) :: back)) (.object (front ++ (key, w) :: back))
  /-- An item of an array has been rearranged. -/
  | item {purpose : Purpose} (front back : List Json) {v w : Json}
    (h : Rearranged purpose.item v w) :
    Rearranged purpose (.array (front ++ v :: back)) (.array (front ++ w :: back))

/-- Under each key that counts, the fields hold values that are rearranged. -/
def FieldsAlike (purpose : Purpose) (fields fields' : Fields) : Prop :=
  ∀ key sub, purpose.field? key = some sub →
    Option.Rel (Rearranged sub) (purpose.read fields key) (purpose.read fields' key)

/-- Values that are the same to whoever asks for their kind, and for what is in them. -/
inductive Alike (purpose : Purpose) : Json → Json → Prop
  | object {fields fields' : Fields} (h : FieldsAlike purpose fields fields') :
    Alike purpose (.object fields) (.object fields')
  | array {items items' : List Json} (h : List.Forall₂ (Rearranged purpose.item) items items') :
    Alike purpose (.array items) (.array items')
  | same (v : Json) : Alike purpose v v

/-! ### Rearranged values are alike -/

variable {purpose sub : Purpose} {fields fields' : Fields} {front back : Fields} {u v w : Json}
  {key path : String}

theorem rearranged_read_refl (purpose sub : Purpose) (fields : Fields) (key : String) :
    Option.Rel (Rearranged sub) (purpose.read fields key) (purpose.read fields key) := by
  cases purpose.read fields key with
  | none => exact .none
  | some v => exact .some (.refl sub v)

theorem FieldsAlike.of_read_eq
    (h : ∀ key, purpose.field? key ≠ none → purpose.read fields key = purpose.read fields' key) :
    FieldsAlike purpose fields fields' := by
  intro key sub hkey
  rw [← h key (by rw [hkey]; exact Option.some_ne_none sub)]
  exact rearranged_read_refl purpose sub fields key

theorem Alike.symm (h : Alike purpose v w) : Alike purpose w v := by
  cases h with
  | object h =>
    refine .object fun key sub hkey ↦ ?_
    have hread := h key sub hkey
    revert hread
    generalize purpose.read _ key = x
    generalize purpose.read _ key = y
    rintro (hvw | _)
    · exact .some hvw.symm
    · exact .none
  | array h => exact .array (h.flip.imp fun _ _ hvw ↦ hvw.symm)
  | same v => exact .same v

theorem forall₂_trans {items items' items'' : List Json}
    (h : List.Forall₂ (Rearranged purpose) items items')
    (h' : List.Forall₂ (Rearranged purpose) items' items'') :
    List.Forall₂ (Rearranged purpose) items items'' := by
  induction h generalizing items'' with
  | nil => exact h'
  | cons huv _ ih =>
    cases h' with
    | cons hvw hrest => exact .cons (huv.trans hvw) (ih hrest)

theorem Alike.trans (huv : Alike purpose u v) (hvw : Alike purpose v w) : Alike purpose u w := by
  cases huv with
  | same => exact hvw
  | object huv =>
    cases hvw with
    | same => exact .object huv
    | object hvw =>
      refine .object fun key sub hkey ↦ ?_
      have hread := huv key sub hkey
      have hread' := hvw key sub hkey
      revert hread hread'
      generalize purpose.read _ key = x
      generalize purpose.read _ key = y
      generalize purpose.read _ key = z
      rintro (huv | _) (hvw | _)
      · exact .some (huv.trans hvw)
      · exact .none
  | array huv =>
    cases hvw with
    | same => exact .array huv
    | array hvw => exact .array (forall₂_trans huv hvw)

theorem Alike.isNull_eq (h : Alike purpose v w) : v.isNull = w.isNull := by cases h <;> rfl

/-- What is read under a key when its value has been changed into one that is alike. -/
theorem FieldsAlike.of_field (hkey : purpose.field? key = some sub) (h : Rearranged sub v w)
    (halike : Alike sub v w) :
    FieldsAlike purpose (front ++ (key, v) :: back) (front ++ (key, w) :: back) := by
  intro other sub' hother
  by_cases hne : other = key
  · subst hne
    obtain rfl := Option.some.inj (hkey.symm.trans hother)
    cases hfront : front.get? other with
    | some v' =>
      -- An earlier field under the key hides the one that is changed.
      have hread : purpose.read (front ++ (other, v) :: back) other =
          purpose.read (front ++ (other, w) :: back) other :=
        purpose.read_congr (by rw [Fields.get?_append, Fields.get?_append, hfront]; rfl)
      rw [← hread]
      exact rearranged_read_refl purpose sub _ other
    | none =>
      have hget : ∀ v, Fields.get? (front ++ (other, v) :: back) other = some v := by
        intro v
        rw [Fields.get?_append, hfront, Fields.get?_cons, if_pos rfl]
        rfl
      unfold Purpose.read Fields.present?
      rw [hget, hget, Option.filter_some, Option.filter_some, halike.isNull_eq]
      split
      · exact .some h
      · split
        · exact .some h
        · exact .none
  · have hread : purpose.read (front ++ (key, v) :: back) other =
        purpose.read (front ++ (key, w) :: back) other :=
      purpose.read_congr (by rw [Fields.get?_insert_of_ne hne, Fields.get?_insert_of_ne hne])
    rw [← hread]
    exact rearranged_read_refl purpose sub' _ other

/-- **Values that are rearranged are alike.** -/
theorem Rearranged.alike (h : Rearranged purpose v w) : Alike purpose v w := by
  induction h with
  | refl purpose v => exact .same v
  | symm _ ih => exact ih.symm
  | trans _ _ huv hvw => exact huv.trans hvw
  | reordered h hnodup =>
    exact .object (.of_read_eq fun key _ ↦ Purpose.read_congr _ (Fields.get?_perm h hnodup key))
  | null front back key hpurpose hfresh =>
    refine .object (.of_read_eq fun other _ ↦ ?_)
    by_cases hne : other = key
    · -- Under its own key a field with `null` is as good as none.
      subst hne
      have hget : Fields.get? (front ++ back) other = none := Fields.get?_eq_none_of_not_mem hfresh
      have hfront : front.get? other = none := by
        rw [Fields.get?_append, Option.or_eq_none_iff] at hget
        exact hget.1
      have hget' : Fields.get? (front ++ (other, .null) :: back) other = some .null := by
        rw [Fields.get?_append, hfront, Fields.get?_cons, if_pos rfl]
        rfl
      unfold Purpose.read
      rw [if_neg hpurpose, if_neg hpurpose, Fields.present?_eq_none_iff.2 (.inl hget),
        Fields.present?_eq_none_iff.2 (.inr hget')]
    · exact Purpose.read_congr _ (Fields.get?_insert_of_ne hne).symm
  | unknown front back key v hkey =>
    refine .object (.of_read_eq fun other hother ↦ Purpose.read_congr _ ?_)
    refine (Fields.get?_insert_of_ne ?_).symm
    rintro rfl
    exact hother hkey
  | field front back key hkey h ih => exact .object (.of_field hkey h ih)
  | item front back h _ =>
    refine .array ?_
    refine List.rel_append (R := Rearranged _) ?_ (.cons h ?_)
    · exact List.forall₂_same.2 fun v _ ↦ .refl _ v
    · exact List.forall₂_same.2 fun v _ ↦ .refl _ v

/-! ### What accessors make of it -/

theorem Alike.kindName_eq (h : Alike purpose v w) : v.kindName = w.kindName := by cases h <;> rfl

/-- Values that are rearranged are objects together, and then alike in their fields. -/
theorem Rearranged.asObject (h : Rearranged purpose v w) (path : String) :
    Mirrors (FieldsAlike purpose) (v.asObject path) (w.asObject path) := by
  cases h.alike with
  | object hfields => exact .ok hfields
  | array hitems => exact .error _
  | same v =>
    cases v with
    | object fields => exact .ok (.of_read_eq fun _ _ ↦ rfl)
    | _ => exact .error _

theorem stringItems_eq {items items' : List Json}
    (h : List.Forall₂ (Rearranged purpose) items items') (key path : String) (n : Nat) :
    Fields.stringItems key path n items = Fields.stringItems key path n items' := by
  induction h generalizing n with
  | nil => rfl
  | @cons v w _ _ hvw _ ih =>
    cases hvw.alike with
    | object hfields => rfl
    | array hitems => rfl
    | same =>
      cases v with
      | string s => rw [Fields.stringItems, Fields.stringItems, ih]
      | _ => rfl

namespace FieldsAlike

variable (h : FieldsAlike purpose fields fields') (key : String)
  (hkey : purpose.field? key = some sub) (hpurpose : purpose ≠ .parameters)

include h hkey hpurpose

theorem present? : Option.Rel (Rearranged sub) (fields.present? key) (fields'.present? key) := by
  have hread := h key sub hkey
  rw [Purpose.read, Purpose.read, if_neg hpurpose, if_neg hpurpose] at hread
  exact hread

/-- An optional value is read alike, if the conversion takes values that are alike to related
ones. -/
theorem typed? {α : Type} {R : α → α → Prop} {convert : Json → Option α} {expected : String}
    (hconvert : ∀ v w, Alike sub v w → Option.Rel R (convert v) (convert w)) (path : String) :
    Mirrors (Option.Rel R) (Fields.typed? convert expected fields key path)
      (Fields.typed? convert expected fields' key path) := by
  have hread := h.present? key hkey hpurpose
  unfold Fields.typed?
  revert hread
  generalize fields.present? key = x
  generalize fields'.present? key = y
  rintro (hvw | _)
  · rename_i v w
    have hvalue := hconvert v w hvw.alike
    dsimp only
    revert hvalue
    generalize convert v = a
    generalize convert w = b
    rintro (hab | _)
    · exact .ok (.some hab)
    · rw [hvw.alike.kindName_eq]
      exact .error _
  · exact .ok .none

theorem object? (path : String) :
    Mirrors (Option.Rel (FieldsAlike sub)) (fields.object? key path)
      (fields'.object? key path) := by
  refine h.typed? key hkey hpurpose (fun v w hvw ↦ ?_) path
  cases hvw with
  | object hfields => exact .some hfields
  | array hitems => exact .none
  | same v =>
    cases v with
    | object fields => exact .some (.of_read_eq fun _ _ ↦ rfl)
    | _ => exact .none

theorem array? (path : String) :
    Mirrors (Option.Rel (List.Forall₂ (Rearranged sub.item))) (fields.array? key path)
      (fields'.array? key path) := by
  refine h.typed? key hkey hpurpose (fun v w hvw ↦ ?_) path
  cases hvw with
  | object hfields => exact .none
  | array hitems => exact .some hitems
  | same v =>
    cases v with
    | array items => exact .some (List.forall₂_same.2 fun v _ ↦ .refl _ v)
    | _ => exact .none

/-- A value that can hold nothing that is rearranged is read the same. -/
theorem typed?_eq {α : Type} {convert : Json → Option α} {expected : String}
    (hconvert : ∀ v w, Alike sub v w → convert v = convert w) (path : String) :
    Fields.typed? convert expected fields key path =
      Fields.typed? convert expected fields' key path := by
  have hread : Mirrors (Option.Rel Eq) (Fields.typed? convert expected fields key path)
      (Fields.typed? convert expected fields' key path) := by
    refine h.typed? key hkey hpurpose (fun v w hvw ↦ ?_) path
    rw [hconvert v w hvw]
    cases convert w with
    | none => exact .none
    | some a => exact .some rfl
  refine (hread.mono fun x y hxy ↦ ?_).eq
  cases hxy with
  | none => rfl
  | some hab => rw [hab]

theorem string? (path : String) : fields.string? key path = fields'.string? key path :=
  h.typed?_eq key hkey hpurpose (fun _ _ hvw ↦ by cases hvw <;> rfl) path

theorem bool? (path : String) : fields.bool? key path = fields'.bool? key path :=
  h.typed?_eq key hkey hpurpose (fun _ _ hvw ↦ by cases hvw <;> rfl) path

theorem string (path : String) : fields.string key path = fields'.string key path := by
  rw [Fields.string, Fields.string, h.string? key hkey hpurpose path]

theorem strings? (path : String) : fields.strings? key path = fields'.strings? key path := by
  refine (h.array? key hkey hpurpose path).bind_eq fun items items' hitems ↦ ?_
  cases hitems with
  | none => rfl
  | some hitems =>
    dsimp only
    rw [stringItems_eq hitems]

theorem strings (path : String) : fields.strings key path = fields'.strings key path := by
  rw [Fields.strings, Fields.strings, h.strings? key hkey hpurpose path]

end FieldsAlike

end Descriptor

end ClientSynthesis
