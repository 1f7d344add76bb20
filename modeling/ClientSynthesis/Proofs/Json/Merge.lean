import ClientSynthesis.Json.Basic
import Mathlib.Data.List.Induction
import Mathlib.Tactic.SplitIfs

/-!
# Members merged into an object

Members are stored one after the other, whether they come from one text or from several. What comes
out has each key once, at the place where it was met first (`map_fst_merge`), with the value that it
was met with last (`get?_merge_eq_some_iff`). Members that have been merged among themselves before
leave the same behind as those that have not (`merge_merge`), so it does not matter that a text is
read into an object before its object is merged with others.
-/

namespace ClientSynthesis.Json

/-- The last member of a key has a value. -/
def LastAt (members : List (String × Json)) (key : String) (value : Json) : Prop :=
  ∃ before after, members = before ++ (key, value) :: after ∧ key ∉ after.map Prod.fst

theorem lastAt_iff {members : List (String × Json)} {key : String} {value : Json} :
    LastAt members key value ↔ members.reverse.lookup key = some value := by
  rw [List.lookup_eq_some_iff]
  constructor
  · rintro ⟨before, after, rfl, hafter⟩
    refine ⟨after.reverse, before.reverse, by simp, fun member hmember ↦ bne_iff_ne.2 ?_⟩
    rintro rfl
    exact hafter (List.mem_map.2 ⟨member, List.mem_reverse.1 hmember, rfl⟩)
  · rintro ⟨after, before, hsplit, hafter⟩
    refine ⟨before.reverse, after.reverse, ?_, fun hmem ↦ ?_⟩
    · rw [← List.reverse_reverse members, hsplit]
      simp
    · obtain ⟨member, hmember, rfl⟩ := List.mem_map.1 hmem
      exact bne_iff_ne.1 (hafter member (List.mem_reverse.1 hmember)) rfl

/-- The last member of a key stands in the second part, if that has the key. -/
theorem lastAt_append_iff {members more : List (String × Json)} {key : String} {value : Json} :
    LastAt (members ++ more) key value ↔
      LastAt more key value ∨ key ∉ more.map Prod.fst ∧ LastAt members key value := by
  have hnone : more.reverse.lookup key = none ↔ key ∉ more.map Prod.fst := by
    simp only [List.lookup_eq_none_iff, List.mem_reverse, bne_iff_ne, List.mem_map, not_exists,
      not_and]
    exact forall₂_congr fun _ _ ↦ ne_comm
  rw [lastAt_iff, lastAt_iff, lastAt_iff, List.reverse_append, List.lookup_append,
    Option.or_eq_some_iff, hnone]

namespace Fields

/-! ### Storing one value -/

theorem map_fst_set (fields : Fields) (key : String) (value : Json) :
    (fields.set key value).map Prod.fst =
      if key ∈ fields.map Prod.fst then fields.map Prod.fst else fields.map Prod.fst ++ [key] := by
  induction fields with
  | nil => rfl
  | cons field rest ih =>
    obtain ⟨k, v⟩ := field
    rw [set, List.map_cons]
    by_cases hk : k = key
    · rw [if_pos hk, if_pos (hk ▸ List.mem_cons_self), List.map_cons]
    · have hmem : key ∈ k :: rest.map Prod.fst ↔ key ∈ rest.map Prod.fst :=
        List.mem_cons.trans (or_iff_right (Ne.symm hk))
      rw [if_neg hk, List.map_cons, ih]
      simp only [hmem]
      split_ifs <;> rfl

theorem mem_map_fst_set {fields : Fields} {key name : String} {value : Json} :
    name ∈ (fields.set key value).map Prod.fst ↔ name = key ∨ name ∈ fields.map Prod.fst := by
  rw [map_fst_set]
  split_ifs with hkey
  · exact ⟨.inr, fun h ↦ h.elim (fun heq ↦ heq ▸ hkey) id⟩
  · rw [List.mem_append, List.mem_singleton, or_comm]

theorem nodup_map_fst_set {fields : Fields} (h : (fields.map Prod.fst).Nodup) (key : String)
    (value : Json) : ((fields.set key value).map Prod.fst).Nodup := by
  rw [map_fst_set]
  split_ifs with hkey
  · exact h
  · exact List.nodup_append.2 ⟨h, List.pairwise_singleton _ key, fun name hname other hother heq ↦
      hkey (List.mem_singleton.1 hother ▸ heq ▸ hname)⟩

/-- Of two values stored under one key the second counts. -/
theorem set_set (fields : Fields) (key : String) (value later : Json) :
    (fields.set key value).set key later = fields.set key later := by
  induction fields with
  | nil => simp [set]
  | cons field rest ih =>
    obtain ⟨k, v⟩ := field
    by_cases hk : k = key <;> simp [set, hk, ih]

/-- A value for a key that is there can be stored before one for another key, or after it. -/
theorem set_set_comm {fields : Fields} {key other : String} (hkey : key ∈ fields.map Prod.fst)
    (hne : key ≠ other) (value value' : Json) :
    (fields.set other value').set key value = (fields.set key value).set other value' := by
  induction fields with
  | nil => exact nomatch hkey
  | cons field rest ih =>
    obtain ⟨k, v⟩ := field
    by_cases hk : k = key
    · have hother : k ≠ other := hk ▸ hne
      simp [set, hk, hk ▸ hother]
    · have hrest := (List.mem_cons.1 hkey).resolve_left (Ne.symm hk)
      by_cases hother : k = other <;> simp [set, hk, hother, Ne.symm hne, ih hrest]

/-! ### Storing members -/

theorem merge_cons (fields : Fields) (key : String) (value : Json) (more : Fields) :
    fields.merge ((key, value) :: more) = (fields.set key value).merge more := rfl

theorem merge_append (fields more later : Fields) :
    fields.merge (more ++ later) = (fields.merge more).merge later := List.foldl_append

theorem merge_concat (fields more : Fields) (key : String) (value : Json) :
    fields.merge (more ++ [(key, value)]) = (fields.merge more).set key value := by
  rw [merge_append, merge_cons]
  rfl

/-- Another name at the end is a first appearance, or none. -/
theorem eraseDups_concat (names : List String) (name : String) :
    (names ++ [name]).eraseDups =
      if name ∈ names then names.eraseDups else names.eraseDups ++ [name] := by
  rw [List.eraseDups_append]
  split_ifs with h <;> simp [List.removeAll, List.eraseDups_cons, h]

/-- **The keys come in the order of their first appearance.** -/
theorem map_fst_merge (members : Fields) :
    (merge [] members).map Prod.fst = (members.map Prod.fst).eraseDups := by
  induction members using List.reverseRecOn with
  | nil => rfl
  | append_singleton members member ih =>
    obtain ⟨key, value⟩ := member
    rw [merge_concat, map_fst_set, List.map_append, List.map_singleton, eraseDups_concat, ih]
    simp only [List.mem_eraseDups]

theorem get?_merge (fields members : Fields) (key : String) :
    (fields.merge members).get? key = (members.reverse.lookup key).or (fields.get? key) := by
  induction members using List.reverseRecOn with
  | nil => rfl
  | append_singleton members member ih =>
    obtain ⟨k, v⟩ := member
    rw [merge_concat, get?_set, ih, List.reverse_append, List.reverse_singleton,
      List.singleton_append]
    by_cases hk : key = k
    · rw [if_pos hk, hk, List.lookup_cons_self, Option.some_or]
    · rw [if_neg hk, List.lookup_cons, beq_false_of_ne hk]

/-- **A key takes the value of its last member.** -/
theorem get?_merge_eq_some_iff {members : Fields} {key : String} {value : Json} :
    (merge [] members).get? key = some value ↔ LastAt members key value := by
  rw [get?_merge, get?_nil, Option.or_none, lastAt_iff]

example : merge [] [("search", .bool true), ("ping", .null), ("search", .bool false)] =
    [("search", .bool false), ("ping", .null)] := rfl

/-- A value for a key that is there can be stored before members of other keys, or after them. -/
theorem set_merge_comm {fields more : Fields} {key : String} (hkey : key ∈ fields.map Prod.fst)
    (hmore : key ∉ more.map Prod.fst) (value : Json) :
    (fields.merge more).set key value = (fields.set key value).merge more := by
  induction more generalizing fields with
  | nil => rfl
  | cons member rest ih =>
    obtain ⟨other, value'⟩ := member
    have hne : key ≠ other := List.ne_of_not_mem_cons hmore
    rw [merge_cons, merge_cons, ih (mem_map_fst_set.2 (.inr hkey))
      (List.not_mem_of_not_mem_cons hmore), set_set_comm hkey hne]

theorem merge_set {more : Fields} (hnodup : (more.map Prod.fst).Nodup) (fields : Fields)
    (key : String) (value : Json) :
    fields.merge (more.set key value) = (fields.merge more).set key value := by
  induction more generalizing fields with
  | nil => rfl
  | cons member rest ih =>
    obtain ⟨k, v⟩ := member
    obtain ⟨hnew, hrest⟩ := List.nodup_cons.1 hnodup
    rw [set]
    split_ifs with hk
    · subst hk
      rw [merge_cons, merge_cons, set_merge_comm (mem_map_fst_set.2 (.inl rfl)) hnew, set_set]
    · rw [merge_cons, merge_cons, ih hrest]

/-- **Merging members first among themselves makes no difference.** -/
theorem merge_merge (fields members : Fields) :
    fields.merge (merge [] members) = fields.merge members := by
  have hnodup (members : Fields) : ((merge [] members).map Prod.fst).Nodup := by
    induction members using List.reverseRecOn with
    | nil => exact .nil
    | append_singleton members member ih =>
      rw [merge_concat]
      exact nodup_map_fst_set ih _ _
  induction members using List.reverseRecOn with
  | nil => rfl
  | append_singleton members member ih =>
    rw [merge_concat, merge_concat, merge_set (hnodup members), ih]

end Fields

end ClientSynthesis.Json
