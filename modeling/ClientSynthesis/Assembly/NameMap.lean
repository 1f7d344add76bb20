import ClientSynthesis.Text.ByteOrder

/-!
# Maps keyed by name

A map from names to values, listed in strictly increasing byte order of the names. The order is part
of the type, so a map is determined by what it binds (`NameMap.ext_get?`) and every listing drawn
from one is sorted and free of repetitions.
-/

namespace ClientSynthesis.Assembly

open Text (Before)

/-- A map from names to values, in name order. -/
structure NameMap (α : Type) where
  entries : List (String × α)
  sorted : entries.Pairwise fun a b => Before a.1 b.1

namespace NameMap

variable {α : Type}

/-- The map that binds nothing. -/
def empty : NameMap α := ⟨[], .nil⟩

instance : Inhabited (NameMap α) := ⟨empty⟩

@[ext] theorem ext {m n : NameMap α} (h : m.entries = n.entries) : m = n := by
  cases m; cases n; simp_all

/-- The value bound to a name. -/
def get? (m : NameMap α) (name : String) : Option α := m.entries.lookup name

/-- Whether a name is bound. -/
def contains (m : NameMap α) (name : String) : Bool := (m.get? name).isSome

/-- The bound names, in order. -/
def names (m : NameMap α) : List String := m.entries.map Prod.fst

/-- How many names are bound. -/
def size (m : NameMap α) : Nat := m.entries.length

/-- The names are in byte order. -/
theorem pairwise_names (m : NameMap α) : m.names.Pairwise Before := List.pairwise_map.2 m.sorted

theorem nodup_names (m : NameMap α) : m.names.Nodup := m.pairwise_names.imp Before.ne

theorem mem_names_iff {m : NameMap α} {name : String} :
    name ∈ m.names ↔ ∃ value, (name, value) ∈ m.entries := by
  simp [names]

/-! ### Insertion -/

/-- Bind a name in a sorted list, replacing the value it had. -/
def insertEntry (name : String) (value : α) : List (String × α) → List (String × α)
  | [] => [(name, value)]
  | e :: rest =>
    if Before name e.1 then (name, value) :: e :: rest
    else if name = e.1 then (name, value) :: rest
    else e :: insertEntry name value rest

theorem mem_insertEntry {name : String} {value : α} {es : List (String × α)} {e : String × α}
    (h : e ∈ insertEntry name value es) : e = (name, value) ∨ e ∈ es := by
  induction es with
  | nil => simp_all [insertEntry]
  | cons f rest ih =>
    rw [insertEntry] at h
    split at h
    · exact List.mem_cons.1 h
    · split at h
      · rcases List.mem_cons.1 h with h | h
        · exact .inl h
        · exact .inr (List.mem_cons_of_mem _ h)
      · rcases List.mem_cons.1 h with rfl | h
        · exact .inr List.mem_cons_self
        · exact (ih h).imp_right (List.mem_cons_of_mem _)

theorem sorted_insertEntry (name : String) (value : α) {es : List (String × α)}
    (h : es.Pairwise fun a b => Before a.1 b.1) :
    (insertEntry name value es).Pairwise fun a b => Before a.1 b.1 := by
  induction es with
  | nil => simp [insertEntry]
  | cons e rest ih =>
    obtain ⟨hhead, htail⟩ := List.pairwise_cons.1 h
    rw [insertEntry]
    split
    · next hlt =>
      refine List.pairwise_cons.2 ⟨fun f hf => ?_, h⟩
      rcases List.mem_cons.1 hf with rfl | hf
      · exact hlt
      · exact hlt.trans (hhead f hf)
    · next hnlt =>
      split
      · next heq => exact List.pairwise_cons.2 ⟨fun f hf => heq ▸ hhead f hf, htail⟩
      · next hne =>
        refine List.pairwise_cons.2 ⟨fun f hf => ?_, ih htail⟩
        rcases mem_insertEntry hf with rfl | hf
        · exact ((Before.trichotomy name e.1).resolve_left hnlt).resolve_left hne
        · exact hhead f hf

/-- Bind a name, replacing the value it had. -/
def insert (m : NameMap α) (name : String) (value : α) : NameMap α :=
  ⟨insertEntry name value m.entries, sorted_insertEntry name value m.sorted⟩

/-- The map binding each name of a list to the last value paired with it. -/
def ofList (pairs : List (String × α)) : NameMap α :=
  pairs.foldl (fun m p => m.insert p.1 p.2) empty

/-! ### Look-up -/

@[simp] theorem get?_empty (name : String) : (empty : NameMap α).get? name = none := rfl

theorem lookup_entry (key : String) (e : String × α) (es : List (String × α)) :
    (e :: es).lookup key = if key = e.1 then some e.2 else es.lookup key := by
  rw [List.lookup_cons]
  by_cases h : key = e.1
  · simp [h]
  · simp [h, beq_eq_false_iff_ne.2 h]

theorem lookup_insertEntry (name key : String) (value : α) (es : List (String × α))
    (h : es.Pairwise fun a b => Before a.1 b.1) :
    (insertEntry name value es).lookup key =
      if key = name then some value else es.lookup key := by
  induction es with
  | nil => rw [insertEntry, lookup_entry]
  | cons e rest ih =>
    rw [insertEntry]
    split
    · rw [lookup_entry]
    · split
      · next heq =>
        rw [lookup_entry, lookup_entry, heq]
        by_cases hk : key = e.1 <;> simp [hk]
      · next hne =>
        rw [lookup_entry, lookup_entry, ih (List.pairwise_cons.1 h).2]
        by_cases hk : key = e.1
        · rw [if_pos hk, if_pos hk, if_neg (hk ▸ Ne.symm hne)]
        · rw [if_neg hk, if_neg hk]

theorem get?_insert (m : NameMap α) (name key : String) (value : α) :
    (m.insert name value).get? key = if key = name then some value else m.get? key :=
  lookup_insertEntry name key value m.entries m.sorted

@[simp] theorem get?_insert_self (m : NameMap α) (name : String) (value : α) :
    (m.insert name value).get? name = some value := by
  rw [get?_insert, if_pos rfl]

theorem get?_insert_of_ne (m : NameMap α) {name key : String} (value : α) (h : key ≠ name) :
    (m.insert name value).get? key = m.get? key := by
  rw [get?_insert, if_neg h]

theorem get?_foldl_insert_eq_some_iff {pairs : List (String × α)}
    (hnodup : (pairs.map Prod.fst).Nodup) {m : NameMap α} {name : String} {value : α} :
    (pairs.foldl (fun m p => m.insert p.1 p.2) m).get? name = some value ↔
      (name, value) ∈ pairs ∨ name ∉ pairs.map Prod.fst ∧ m.get? name = some value := by
  induction pairs generalizing m with
  | nil => simp
  | cons p rest ih =>
    obtain ⟨key, bound⟩ := p
    obtain ⟨hkey, hrest⟩ := List.nodup_cons.1 hnodup
    rw [List.foldl_cons, ih hrest, get?_insert, List.map_cons, List.mem_cons, List.mem_cons]
    by_cases hname : name = key
    · subst hname
      have hnot : (name, value) ∉ rest := fun h => hkey (List.mem_map.2 ⟨_, h, rfl⟩)
      simp [hnot, hkey, eq_comm]
    · simp [hname]

/-- A map made of pairs with distinct names binds what they pair. -/
theorem get?_ofList_eq_some_iff {pairs : List (String × α)} (hnodup : (pairs.map Prod.fst).Nodup)
    {name : String} {value : α} :
    (ofList pairs).get? name = some value ↔ (name, value) ∈ pairs := by
  rw [ofList, get?_foldl_insert_eq_some_iff hnodup]
  simp

/-- A bound name is an entry, and the only entry of that name. -/
theorem mem_entries_iff (m : NameMap α) (name : String) (value : α) :
    (name, value) ∈ m.entries ↔ m.get? name = some value := by
  obtain ⟨es, hs⟩ := m
  simp only [get?]
  induction es with
  | nil => simp
  | cons e rest ih =>
    obtain ⟨hhead, htail⟩ := List.pairwise_cons.1 hs
    rw [List.mem_cons, lookup_entry, ih htail]
    by_cases hk : name = e.1
    · have hnot : ¬ rest.lookup name = some value := fun h =>
        Before.irrefl name (hk ▸ hhead (name, value) ((ih htail).2 h))
      obtain ⟨key, bound⟩ := e
      subst hk
      simp [hnot, eq_comm]
    · have : (name, value) ≠ e := fun h => hk (h ▸ rfl)
      simp [hk, this]

/-- A map is determined by its bindings. -/
theorem ext_get? {m n : NameMap α} (h : ∀ name, m.get? name = n.get? name) : m = n := by
  have hmem : ∀ e, e ∈ m.entries ↔ e ∈ n.entries := fun e => by
    rw [show e = (e.1, e.2) from rfl, mem_entries_iff, mem_entries_iff, h]
  obtain ⟨es, hs⟩ := m
  obtain ⟨fs, ht⟩ := n
  simp only at hmem
  refine ext ?_
  show es = fs
  clear h
  induction es generalizing fs with
  | nil =>
    cases fs with
    | nil => rfl
    | cons f rest => simpa using (hmem f).2 List.mem_cons_self
  | cons e rest ih =>
    cases fs with
    | nil => simpa using (hmem e).1 List.mem_cons_self
    | cons f others =>
      obtain ⟨he, hrest⟩ := List.pairwise_cons.1 hs
      obtain ⟨hf, hothers⟩ := List.pairwise_cons.1 ht
      have hef : e = f := by
        rcases List.mem_cons.1 ((hmem e).1 List.mem_cons_self) with h | h
        · exact h
        · rcases List.mem_cons.1 ((hmem f).2 List.mem_cons_self) with h' | h'
          · exact h'.symm
          · exact absurd ((hf _ h).trans (he _ h')) (Before.irrefl _)
      subst hef
      refine congrArg _ (ih hrest others hothers fun x => ⟨fun hx => ?_, fun hx => ?_⟩)
      · rcases List.mem_cons.1 ((hmem x).1 (List.mem_cons_of_mem _ hx)) with rfl | h
        · exact absurd (he _ hx) (Before.irrefl _)
        · exact h
      · rcases List.mem_cons.1 ((hmem x).2 (List.mem_cons_of_mem _ hx)) with rfl | h
        · exact absurd (hf _ hx) (Before.irrefl _)
        · exact h

end NameMap

/-- Names in byte order, each once. -/
def inNameOrder (names : List String) : List String := (NameMap.ofList (names.map (·, ()))).names

end ClientSynthesis.Assembly
