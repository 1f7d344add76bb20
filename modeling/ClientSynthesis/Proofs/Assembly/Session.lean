import ClientSynthesis.Proofs.Assembly.Reached

/-!
# Sessions on a registry

A session registers definitions and interprets nodes in any order, one step after the other, and goes
on after a step that has failed. Whatever it does, the registry is a record that only grows
(`Registry.Extends`): a step keeps every entry it finds (`extends_perform`), so later steps keep what
earlier ones have entered (`extends_session`). For an interpretation this holds at every place it may
be cut short, since it is taken in one definition at a time and each of these is registered.

How a step may change the registry is stated for the two kinds of steps apart. A registration enters
its definition or changes nothing (`perform_register_of_free`, `perform_register_of_bound`,
`perform_register_of_other`); an interpretation enters nothing but what its descent defines
(`get?_perform_interpret`).
-/

namespace ClientSynthesis.Assembly

open Body (Elaborated Scope elaborate)
open Descriptor (Error)
open Text (Before)

/-- A step of a session. -/
inductive SessionStep where
  /-- Register a definition. -/
  | register (definition : Definition)
  /-- Interpret a node in a scope. -/
  | interpret (scope : Scope) (node : Json)

namespace Registry

variable {r s t : Registry} {name : String} {d e : Definition}

/-- Perform a step: the registry that it leaves, whether or not it has failed. -/
def perform (r : Registry) : SessionStep → Registry × Except Error Unit
  | .register d =>
    match r.register d with
    | .ok (after, _) => (after, .ok ())
    | .error error => (r, .error error)
  | .interpret scope node =>
    let done := r.interpret scope node
    (done.registry, done.outcome.map fun _ ↦ ())

/-- The registry after a session. -/
def session (r : Registry) (steps : List SessionStep) : Registry :=
  steps.foldl (fun r step ↦ (r.perform step).1) r

/-! ### Entries -/

/-- What a name is bound to has that name, and is held by the registry. -/
theorem get?_eq_some_iff : r.get? name = some d ↔ d.name = name ∧ d ∈ r.content := by
  unfold get?
  rw [Option.map_eq_some_iff, mem_content]
  constructor
  · rintro ⟨kind, hkind, rfl⟩
    exact ⟨rfl, hkind⟩
  · rintro ⟨rfl, hkind⟩
    exact ⟨d.kind, hkind, rfl⟩

theorem get?_self_iff : r.get? d.name = some d ↔ d ∈ r.content := by
  rw [get?_eq_some_iff]
  exact and_iff_right rfl

theorem get?_eq_none_iff : r.get? name = none ↔ r.kinds.get? name = none := Option.map_eq_none_iff

theorem mem_names_iff : name ∈ r.names ↔ ∃ d, r.get? name = some d := by
  rw [names, NameMap.mem_names_iff]
  constructor
  · rintro ⟨kind, hentry⟩
    have hkind : r.kinds.get? name = some kind := (r.kinds.mem_entries_iff name kind).1 hentry
    exact ⟨⟨name, kind⟩, get?_eq_some_iff.2 ⟨rfl, hkind⟩⟩
  · rintro ⟨d, hd⟩
    obtain ⟨rfl, hkind⟩ := get?_eq_some_iff.1 hd
    exact ⟨d.kind, (r.kinds.mem_entries_iff d.name d.kind).2 hkind⟩

/-- The names are listed in byte order, each once. -/
theorem pairwise_before_names (r : Registry) : r.names.Pairwise Before := r.kinds.pairwise_names

/-! ### Growth -/

/-- Whatever is bound in one registry is bound to the same in the other. -/
def Extends (r s : Registry) : Prop := ∀ name d, r.get? name = some d → s.get? name = some d

theorem extends_iff : r.Extends s ↔ r.content ⊆ s.content := by
  constructor
  · exact fun h d hd ↦ get?_self_iff.1 (h d.name d (get?_self_iff.2 hd))
  · intro h name d hd
    obtain ⟨hname, hmem⟩ := get?_eq_some_iff.1 hd
    exact get?_eq_some_iff.2 ⟨hname, h hmem⟩

theorem Extends.refl (r : Registry) : r.Extends r := fun _ _ h ↦ h

theorem Extends.trans (hrs : r.Extends s) (hst : s.Extends t) : r.Extends t :=
  fun name d h ↦ hst name d (hrs name d h)

theorem extends_register {event : Report.Event} (h : r.register d = .ok (s, event)) :
    r.Extends s := by
  rw [extends_iff, content_of_register_ok h]
  exact Set.subset_insert d r.content

/-- To take in a computation keeps what is there, whichever end it comes to. -/
theorem extends_takeIn {α : Type} (r : Registry) (x : Elaborated α) :
    r.Extends (r.takeIn x).registry := by
  induction x generalizing r with
  | done outcome => exact .refl r
  | item step rest ih =>
    cases step with
    | report event => exact ih () r
    | define d =>
      rw [takeIn]
      split
      · exact .refl r
      · next after event h => exact (extends_register h).trans (ih () after)

/-! ### Steps -/

theorem extends_perform (r : Registry) (step : SessionStep) : r.Extends (r.perform step).1 := by
  cases step with
  | register d =>
    rw [perform]
    split
    · next after event h => exact extends_register h
    · exact .refl r
  | interpret scope node => exact extends_takeIn r (elaborate scope node)

/-- Under a free name a definition is entered, and nothing else changes. -/
theorem perform_register_of_free (h : r.get? d.name = none) :
    (r.perform (.register d)).2 = .ok () ∧
      ∀ name, (r.perform (.register d)).1.get? name =
        if name = d.name then some d else r.get? name := by
  have hstatus : r.status d = .fresh := status_eq_fresh_iff.2 (get?_eq_none_iff.1 h)
  rw [perform, register_of_fresh hstatus]
  refine ⟨rfl, fun name ↦ ?_⟩
  show ((r.kinds.insert d.name d.kind).get? name).map (fun kind ↦ (⟨name, kind⟩ : Definition)) = _
  rw [NameMap.get?_insert]
  by_cases hname : name = d.name
  · rw [if_pos hname, if_pos hname, hname]
    rfl
  · rw [if_neg hname, if_neg hname]
    rfl

/-- To register what is registered changes nothing. -/
theorem perform_register_of_bound (h : r.get? d.name = some d) :
    r.perform (.register d) = (r, .ok ()) := by
  rw [perform, register_of_known (status_eq_known_iff.2 (get?_self_iff.1 h))]

/-- Under a name that is bound to something else, a registration fails and changes nothing. -/
theorem perform_register_of_other (h : r.get? d.name = some e) (hne : e ≠ d) :
    r.perform (.register d) = (r, .error (.nameConflict d.name)) := by
  obtain ⟨hname, he⟩ := get?_eq_some_iff.1 h
  have hstatus : r.status d = .conflicting := status_eq_conflicting_iff.2 ⟨e, he, hname, hne⟩
  rw [perform, register_of_conflicting hstatus]

/-- A registration fails just if the name is bound to something else. -/
theorem perform_register_eq_error_iff :
    (∃ error, (r.perform (.register d)).2 = .error error) ↔
      ∃ e, r.get? d.name = some e ∧ e ≠ d := by
  constructor
  · rintro ⟨error, herror⟩
    cases h : r.get? d.name with
    | none => exact nomatch (perform_register_of_free h).1.symm.trans herror
    | some e =>
      refine ⟨e, rfl, ?_⟩
      rintro rfl
      exact nomatch (congrArg Prod.snd (perform_register_of_bound h)).symm.trans herror
  · rintro ⟨e, h, hne⟩
    exact ⟨_, congrArg Prod.snd (perform_register_of_other h hne)⟩

/-- What is bound after an interpretation was bound before or is new, and in that case the descent
has defined it. -/
theorem get?_perform_interpret {scope : Scope} {node : Json}
    (h : (r.perform (.interpret scope node)).1.get? name = some d) :
    r.get? name = some d ∨ r.get? name = none ∧ d ∈ Body.definitions (elaborate scope node) := by
  cases hbefore : r.get? name with
  | some e =>
    have hkept := extends_perform r (.interpret scope node) name e hbefore
    exact .inl (hkept.symm.trans h)
  | none =>
    obtain ⟨rfl, hd⟩ := get?_eq_some_iff.1 h
    rcases mem_content_takeIn hd with hd | hd
    · exact nomatch (get?_self_iff.2 hd).symm.trans hbefore
    · exact .inr ⟨rfl, hd⟩

/-! ### Sessions -/

theorem session_append (r : Registry) (steps later : List SessionStep) :
    r.session (steps ++ later) = (r.session steps).session later := List.foldl_append

theorem extends_session (r : Registry) (steps : List SessionStep) : r.Extends (r.session steps) := by
  induction steps generalizing r with
  | nil => exact .refl r
  | cons step rest ih => exact (extends_perform r step).trans (ih (r.perform step).1)

/-- A registry is append-only and checks for conflicts, over sessions of any length in which steps
may fail. At any time its entries stand under their own names, which are listed in byte order; what
is bound stays bound to the same; a registration fails just if it conflicts, and one that fails or
repeats an entry changes nothing; an interpretation, if it fails too, does no more than add entries
that its descent has defined. -/
theorem session_appendOnly (steps : List SessionStep) :
    let r := empty.session steps
    (∀ name d, r.get? name = some d → d.name = name) ∧
    (r.names.Pairwise Before ∧ ∀ name, name ∈ r.names ↔ ∃ d, r.get? name = some d) ∧
    (∀ later name d, r.get? name = some d →
      (empty.session (steps ++ later)).get? name = some d) ∧
    (∀ d, ((∃ error, (r.perform (.register d)).2 = .error error) ↔
        ∃ e, r.get? d.name = some e ∧ e ≠ d) ∧
      (∀ error, (r.perform (.register d)).2 = .error error → (r.perform (.register d)).1 = r) ∧
      (r.get? d.name = some d → r.perform (.register d) = (r, .ok ())) ∧
      (r.get? d.name = none → ∀ name, (r.perform (.register d)).1.get? name =
        if name = d.name then some d else r.get? name)) ∧
    (∀ scope node, r.Extends (r.perform (.interpret scope node)).1 ∧
      ∀ name d, (r.perform (.interpret scope node)).1.get? name = some d →
        r.get? name = some d ∨
          r.get? name = none ∧ d ∈ Body.definitions (elaborate scope node)) := by
  intro r
  refine ⟨fun name d h ↦ (get?_eq_some_iff.1 h).1, ⟨r.pairwise_before_names, fun name ↦ mem_names_iff⟩,
    fun later name d h ↦ ?_, fun d ↦ ⟨perform_register_eq_error_iff, fun error herror ↦ ?_,
      perform_register_of_bound, fun h ↦ (perform_register_of_free h).2⟩,
    fun scope node ↦ ⟨extends_perform r _, fun name d ↦ get?_perform_interpret⟩⟩
  · rw [session_append]
    exact extends_session r later name d h
  · obtain ⟨e, h, hne⟩ := perform_register_eq_error_iff.1 ⟨error, herror⟩
    exact congrArg Prod.fst (perform_register_of_other h hne)

/-- A session in which a registration conflicts, and an interpretation fails behind its first
definition. The registration may be tried again, with the same result. -/
theorem session_appendOnly_of_failing :
    let operator (cases : List EnumCase) : Definition :=
      ⟨"Operator", .type ⟨"operator", none, .enum cases⟩⟩
    let range := Json.object [("key", .string "range"), ("type", .string "struct"),
      ("typeName", .string "Range")]
    let unknown := Json.object [("key", .string "shape"), ("type", .string "polygon")]
    let query := Json.object [("key", .string "query"), ("type", .string "struct"),
      ("typeName", .string "Query"), ("any_of", .array [range, unknown])]
    let steps : List SessionStep := [.register (operator [⟨"And", "and"⟩]),
      .register (operator []), .interpret .root query]
    let r := empty.session steps
    r.names = ["Operator", "Range"] ∧ r.names.Pairwise Before ∧
      r.get? "Operator" = some (operator [⟨"And", "and"⟩]) ∧
      (∃ error, (r.perform (.register (operator []))).2 = .error error) ∧
      (r.perform (.register (operator []))).1 = r := by
  intro operator range unknown query steps r
  obtain ⟨-, ⟨hsorted, -⟩, -, hregister, -⟩ := session_appendOnly steps
  obtain ⟨hfails, hkeeps, -, -⟩ := hregister (operator [])
  have hbound : r.get? "Operator" = some (operator [⟨"And", "and"⟩]) := by decide +kernel
  obtain ⟨error, herror⟩ := hfails.2 ⟨_, hbound, by decide⟩
  exact ⟨by decide +kernel, hsorted, hbound, ⟨error, herror⟩, hkeeps error herror⟩

end Registry

end ClientSynthesis.Assembly
