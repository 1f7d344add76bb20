import ClientSynthesis.Assembly.EndpointGroups
import ClientSynthesis.Proofs.Assembly.Session
import ClientSynthesis.Proofs.Descriptor.Faults
import ClientSynthesis.Proofs.Endpoint.MethodNames

/-!
# Namespaces of endpoint documents

Endpoints are registered one after the other, and the first error ends the run. Yet no endpoint
shows in what becomes of another: each is registered under the name it is stored under, and a
namespace has every name once, so what is registered never meets what was there before
(`addEndpoint_of_free`). The registry of a namespace is the set of the groups that its documents
yield one by one (`ofEndpoints_outcome`).

A group has methods exactly if the skip list leaves a template of the endpoint. Of the templates
that it leaves, the first one is kept in any case, because no name has been given before it
(`methods_ne_nil_iff`).
-/

namespace ClientSynthesis

open Descriptor (Error)
open Endpoint (SkipList)
open Report (Event FailsOnly Traced)
open Report.Traced

/-! ### One endpoint -/

namespace Endpoint

theorem failsOnly_parseMethods (descriptor : Json.Fields) (name : String) :
    FailsOnly Error.IsInvalid (parseMethods descriptor name) := by
  refine .bind (Json.Fields.failsOnly_strings descriptor "methods" name) fun tokens _ ↦ ?_
  by_cases hempty : tokens.isEmpty = true
  · rw [if_pos hempty]
    exact .error trivial
  · rw [if_neg hempty]
    split
    · exact .error trivial
    · exact .ok _

theorem failsOnly_parseBody (descriptor : Json.Fields) (name : String) :
    FailsOnly Error.IsInvalid (parseBody descriptor name) := by
  refine .bind (Json.Fields.failsOnly_typed? descriptor "body" name _ _) fun body? _ ↦ ?_
  cases body? with
  | none => exact .ok _
  | some body =>
    refine .bind (Json.Fields.failsOnly_typed? body "required" _ _ _) fun required? _ ↦ ?_
    split <;> exact .ok _

theorem failsOnly_parsePart (name : String) (entry : Json.Fields) (urlPath : String) :
    FailsOnly Error.IsInvalid (parsePart name entry urlPath) := by
  refine .bind (Json.Fields.failsOnly_string entry "type" _) fun type _ ↦ ?_
  have hdescribed : ∀ kind, FailsOnly Error.IsInvalid (do
      let description ← entry.string "description" (urlPath ++ ".parts." ++ name)
      if reservedIdents.contains (Naming.fieldName name) then
        throw (.invalid (urlPath ++ ".parts." ++ name) (.reservedPart name (Naming.fieldName name)))
      return (⟨name, kind, description⟩ : PathParam)) := by
    intro kind
    refine .bind (Json.Fields.failsOnly_string entry "description" _) fun description _ ↦ ?_
    split
    · exact .error trivial
    · exact .ok _
  dsimp only
  split
  · exact hdescribed .scalar
  · exact hdescribed .list
  · exact .error trivial

theorem failsOnly_parseSegment (path : String) (parts : Option Json.Fields) (urlPath : String)
    (piece : List Char) :
    FailsOnly Error.IsInvalid (parseSegment path parts urlPath piece).outcome := by
  rw [parseSegment]
  cases placeholderName? piece with
  | none => exact .ok _
  | some name =>
    refine .bind_outcome (Json.Fields.failsOnly_typed? (parts.getD []) name urlPath _ _)
      fun entry? _ ↦ ?_
    cases entry? with
    | none => exact .ok _
    | some entry => exact .bind_outcome (failsOnly_parsePart name entry urlPath) fun part _ ↦ .ok _

/-- **A document that is not accepted as an endpoint has a fault in it.** -/
theorem failsOnly_parse (name : String) (document : Json) :
    FailsOnly Error.IsInvalid (Endpoint.parse name document).outcome := by
  refine .bind_outcome (Json.failsOnly_asObject document name) fun descriptor _ ↦ ?_
  refine .bind_outcome (Json.Fields.failsOnly_string descriptor _ name) fun documentation _ ↦ ?_
  refine .bind_outcome (failsOnly_parseMethods descriptor name) fun allowedMethods _ ↦ ?_
  refine .bind_outcome (Json.Fields.failsOnly_typed? descriptor _ name _ _) fun url? _ ↦ ?_
  cases url? with
  | none => exact .error trivial
  | some url =>
    refine .bind_outcome (Json.Fields.failsOnly_strings url _ _) fun paths _ ↦ ?_
    refine .bind_outcome (Json.Fields.failsOnly_typed? url _ _ _ _) fun parts _ ↦ ?_
    refine .bind_outcome (.mapM_outcome fun path _ ↦ ?_) fun templates _ ↦ ?_
    · exact .bind_outcome (.mapM_outcome fun piece _ ↦ failsOnly_parseSegment _ _ _ piece)
        fun segments _ ↦ .ok _
    · exact .bind_outcome (failsOnly_parseBody descriptor name) fun body _ ↦ .ok _

theorem methodsOf_ne_nil (e : Endpoint) (t : UrlTemplate) : e.methodsOf t ≠ [] := by
  rw [methodsOf]
  cases e.body <;> exact List.cons_ne_nil _ _

/-- **An endpoint has methods exactly if the skip list leaves one of its templates.** -/
theorem methods_ne_nil_iff {e : Endpoint} {skip : SkipList} :
    e.methods skip ≠ [] ↔ ∃ t ∈ e.templates, skip.excludes t = false := by
  have hkept : ∀ templates, e.keptAfter skip [] templates ≠ [] ↔
      ∃ t ∈ templates, skip.excludes t = false := by
    intro templates
    induction templates with
    | nil => simp
    | cons t rest ih =>
      -- No name has been given before the first template that is left, so that one is kept.
      rw [keptAfter_cons, List.exists_mem_cons_iff]
      by_cases hskip : skip.excludes t = true
      · rw [if_pos (.inl hskip), ih]
        simp [hskip]
      · rw [if_neg (not_or.2 ⟨hskip, List.not_mem_nil⟩)]
        simp [Bool.eq_false_iff.2 hskip]
  rw [← hkept, methods_eq, kept]
  refine not_congr
    (List.flatMap_eq_nil_iff.trans (Iff.trans ?_ List.eq_nil_iff_forall_not_mem.symm))
  exact forall₂_congr fun t _ ↦ iff_false_intro (methodsOf_ne_nil e t)

end Endpoint

namespace Assembly.Registry

variable {r s : Registry} {skip : SkipList} {name : String} {document : Json}
  {documents : Json.Fields} {d : Definition}

/-- What a document defines that is stored under a name: the methods of its endpoint as a group, if
there are any. -/
def groupOf (skip : SkipList) (name : String) (document : Json) : Set Definition :=
  {d | ∃ e, (Endpoint.parse name document).outcome = .ok e ∧ e.methods skip ≠ [] ∧
    d = ⟨name, .methodGroup ⟨name, e.methods skip⟩⟩}

/-- What the documents of a namespace define one by one. -/
def groups (skip : SkipList) (documents : Json.Fields) : Set Definition :=
  {d | ∃ document, (d.name, document) ∈ documents ∧ d ∈ groupOf skip d.name document}

theorem name_of_mem_groupOf (h : d ∈ groupOf skip name document) : d.name = name := by
  obtain ⟨e, -, -, rfl⟩ := h
  rfl

theorem groups_cons :
    groups skip ((name, document) :: documents) =
      groupOf skip name document ∪ groups skip documents := by
  ext d
  constructor
  · rintro ⟨document', hmem, hd⟩
    rcases List.mem_cons.1 hmem with heq | hmem
    · obtain ⟨hname, rfl⟩ := Prod.mk.inj heq
      exact .inl (hname ▸ hd)
    · exact .inr ⟨document', hmem, hd⟩
  · rintro (hd | ⟨document', hmem, hd⟩)
    · obtain rfl := name_of_mem_groupOf hd
      exact ⟨document, List.mem_cons_self, hd⟩
    · exact ⟨document', List.mem_cons_of_mem _ hmem, hd⟩

/-! ### One document after the other -/

/-- Under a name that is free, an accepted document is registered with its group. -/
theorem addEndpoint_of_free (skip : SkipList) {e : Endpoint} (hfree : r.get? name = none)
    (h : (Endpoint.parse name document).outcome = .ok e) :
    ∃ s, (r.addEndpoint skip name document).outcome = .ok s ∧
      s.content = r.content ∪ groupOf skip name document := by
  have hgroup : groupOf skip name document =
      {d | e.methods skip ≠ [] ∧ d = ⟨name, .methodGroup ⟨name, e.methods skip⟩⟩} := by
    ext d
    simp [groupOf, h]
  rw [hgroup]
  -- An endpoint without methods leaves the registry as it is.
  by_cases hmethods : e.methods skip = []
  · refine ⟨r, bind_outcome_eq_ok_iff.2
      ⟨e, h, bind_outcome_eq_ok_iff.2 ⟨(), outcome_recordAll _, ?_⟩⟩, ?_⟩
    · rw [hmethods, List.isEmpty_nil, if_pos rfl]
      rfl
    · simp [hmethods]
  · have hempty : ¬ (e.methods skip).isEmpty = true := fun h ↦ hmethods (List.isEmpty_iff.1 h)
    obtain ⟨s, event, hregister⟩ :
        ∃ s event, r.register ⟨name, .methodGroup ⟨name, e.methods skip⟩⟩ = .ok (s, event) :=
      ⟨_, _, register_of_fresh (status_eq_fresh_iff.2 (get?_eq_none_iff.1 hfree))⟩
    refine ⟨s, bind_outcome_eq_ok_iff.2
      ⟨e, h, bind_outcome_eq_ok_iff.2 ⟨(), outcome_recordAll _, ?_⟩⟩, ?_⟩
    · rw [if_neg hempty, hregister]
      rfl
    · rw [content_of_register_ok hregister, Set.insert_eq, Set.union_comm]
      simp [hmethods]

theorem addEndpoint_of_error {error : Error}
    (h : (Endpoint.parse name document).outcome = .error error) :
    (r.addEndpoint skip name document).outcome = .error error := by
  rw [addEndpoint, outcome_bind, h]
  rfl

/-- Register documents one after the other. -/
def addEndpoints (r : Registry) (skip : SkipList) : Json.Fields → Traced Event Error Registry
  | [] => pure r
  | (name, document) :: rest => do (← r.addEndpoint skip name document).addEndpoints skip rest

theorem foldlM_addEndpoint (r : Registry) (skip : SkipList) (documents : Json.Fields) :
    documents.foldlM (fun r entry ↦ r.addEndpoint skip entry.1 entry.2) r =
      r.addEndpoints skip documents := by
  induction documents generalizing r with
  | nil => rfl
  | cons entry rest ih =>
    rw [List.foldlM_cons]
    exact bind_congr fun s ↦ ih s

/-- What a run through documents ends in: either all of them are accepted and their groups are
added, or what is wrong with one of them is the error. -/
def EndsWell (r : Registry) (skip : SkipList) (documents : Json.Fields) :
    Except Error Registry → Prop
  | .ok s => (∀ entry ∈ documents, ∃ e, (Endpoint.parse entry.1 entry.2).outcome = .ok e) ∧
      s.content = r.content ∪ groups skip documents
  | .error error =>
    ∃ entry ∈ documents, (Endpoint.parse entry.1 entry.2).outcome = .error error

/-- Names that are distinct and free are registered without regard to each other. -/
theorem addEndpoints_outcome (hnodup : (documents.map Prod.fst).Nodup)
    (hfree : ∀ name ∈ documents.map Prod.fst, r.get? name = none) :
    EndsWell r skip documents (r.addEndpoints skip documents).outcome := by
  induction documents generalizing r with
  | nil => exact ⟨List.forall_mem_nil _, by simp [groups]⟩
  | cons entry rest ih =>
    obtain ⟨name, document⟩ := entry
    obtain ⟨hnew, hrest⟩ := List.nodup_cons.1 hnodup
    rw [addEndpoints, outcome_bind]
    cases hparse : (Endpoint.parse name document).outcome with
    | error error =>
      rw [addEndpoint_of_error hparse]
      exact ⟨_, List.mem_cons_self, hparse⟩
    | ok e =>
      obtain ⟨s, hs, hcontent⟩ :=
        addEndpoint_of_free skip (hfree name List.mem_cons_self) hparse
      rw [hs]
      -- The names that are left are still free, since the one that was taken is not among them.
      have hfree' : ∀ other ∈ rest.map Prod.fst, s.get? other = none := by
        intro other hother
        refine Option.eq_none_iff_forall_not_mem.2 fun d hd ↦ ?_
        obtain ⟨rfl, hmem⟩ := get?_eq_some_iff.1 hd
        rw [hcontent] at hmem
        rcases hmem with hmem | hmem
        · have hbound := hfree d.name (List.mem_cons_of_mem _ hother)
          exact nomatch hbound.symm.trans (get?_self_iff.2 hmem)
        · exact hnew (name_of_mem_groupOf hmem ▸ hother)
      have hrun := ih hrest hfree'
      change EndsWell r skip _ (s.addEndpoints skip rest).outcome
      cases houtcome : (s.addEndpoints skip rest).outcome with
      | ok t =>
        rw [houtcome] at hrun
        refine ⟨List.forall_mem_cons.2 ⟨⟨e, hparse⟩, hrun.1⟩, ?_⟩
        rw [hrun.2, hcontent, groups_cons, Set.union_assoc]
      | error error =>
        rw [houtcome] at hrun
        obtain ⟨entry, hentry, herror⟩ := hrun
        exact ⟨entry, List.mem_cons_of_mem _ hentry, herror⟩

/-! ### Namespaces -/

/-- The registry of a namespace holds the groups of its documents; without one there is a document
with a fault. -/
theorem ofEndpoints_outcome (skip : SkipList) (hnodup : (documents.map Prod.fst).Nodup) :
    EndsWell empty skip documents (ofEndpoints skip documents).outcome := by
  have heq : ofEndpoints skip documents = empty.addEndpoints skip documents :=
    foldlM_addEndpoint empty skip documents
  rw [heq]
  exact addEndpoints_outcome hnodup fun name _ ↦ rfl

theorem ofEndpoints_ok_iff (skip : SkipList) (hnodup : (documents.map Prod.fst).Nodup) :
    (∃ r, (ofEndpoints skip documents).outcome = .ok r) ↔
      ∀ entry ∈ documents, ∃ e, (Endpoint.parse entry.1 entry.2).outcome = .ok e := by
  have hrun := ofEndpoints_outcome skip hnodup
  cases houtcome : (ofEndpoints skip documents).outcome with
  | ok r =>
    rw [houtcome] at hrun
    exact ⟨fun _ ↦ hrun.1, fun _ ↦ ⟨r, rfl⟩⟩
  | error error =>
    rw [houtcome] at hrun
    obtain ⟨entry, hentry, herror⟩ := hrun
    refine ⟨nofun, fun hall ↦ ?_⟩
    obtain ⟨e, he⟩ := hall entry hentry
    exact nomatch herror.symm.trans he

theorem content_ofEndpoints (hnodup : (documents.map Prod.fst).Nodup)
    (h : (ofEndpoints skip documents).outcome = .ok r) : r.content = groups skip documents := by
  have hrun := ofEndpoints_outcome skip hnodup
  rw [h] at hrun
  rw [hrun.2, content_empty, Set.empty_union]

/-- A run that fails has met a fault in a document. -/
theorem failsOnly_ofEndpoints (hnodup : (documents.map Prod.fst).Nodup) :
    FailsOnly Error.IsInvalid (ofEndpoints skip documents).outcome := by
  intro error herror
  have hrun := ofEndpoints_outcome skip hnodup
  rw [herror] at hrun
  obtain ⟨entry, -, hparse⟩ := hrun
  exact Endpoint.failsOnly_parse entry.1 entry.2 error hparse

theorem groups_of_perm {others : Json.Fields} (hperm : others.Perm documents) :
    groups skip others = groups skip documents := by
  ext d
  simp only [groups, hperm.mem_iff]

theorem ofEndpoints_ok_of_perm {others : Json.Fields} (hnodup : (documents.map Prod.fst).Nodup)
    (hperm : others.Perm documents) (h : (ofEndpoints skip documents).outcome = .ok r) :
    (ofEndpoints skip others).outcome = .ok r := by
  have hnodup' : (others.map Prod.fst).Nodup := (hperm.map Prod.fst).nodup_iff.2 hnodup
  have hall := (ofEndpoints_ok_iff skip hnodup).1 ⟨r, h⟩
  obtain ⟨s, hs⟩ := (ofEndpoints_ok_iff skip hnodup').2 fun entry hentry ↦
    hall entry (hperm.mem_iff.1 hentry)
  have hcontent : s.content = r.content := by
    rw [content_ofEndpoints hnodup' hs, content_ofEndpoints hnodup h, groups_of_perm hperm]
  rw [hs, ext_content hcontent]

/-- The order of the documents makes no difference to success or to the registry. -/
theorem ofEndpoints_toOption_of_perm {others : Json.Fields}
    (hnodup : (documents.map Prod.fst).Nodup) (hperm : others.Perm documents) :
    (ofEndpoints skip others).outcome.toOption = (ofEndpoints skip documents).outcome.toOption := by
  have hnodup' : (others.map Prod.fst).Nodup := (hperm.map Prod.fst).nodup_iff.2 hnodup
  refine Option.ext fun r ↦ ?_
  rw [Report.toOption_eq_some_iff, Report.toOption_eq_some_iff]
  exact ⟨ofEndpoints_ok_of_perm hnodup' hperm.symm, ofEndpoints_ok_of_perm hnodup hperm⟩

/-- One more endpoint that is accepted changes nothing about the others. -/
theorem ofEndpoints_insert {others : Json.Fields} {e : Endpoint}
    (hnodup : (documents.map Prod.fst).Nodup) (hname : name ∉ documents.map Prod.fst)
    (haccepted : (Endpoint.parse name document).outcome = .ok e)
    (hperm : others.Perm ((name, document) :: documents)) :
    ((∃ s, (ofEndpoints skip others).outcome = .ok s) ↔
      ∃ r, (ofEndpoints skip documents).outcome = .ok r) ∧
    ∀ r s, (ofEndpoints skip documents).outcome = .ok r →
      (ofEndpoints skip others).outcome = .ok s →
        ∀ other, other ≠ name → s.get? other = r.get? other := by
  have hnodup' : (others.map Prod.fst).Nodup :=
    (hperm.map Prod.fst).nodup_iff.2 (List.nodup_cons.2 ⟨hname, hnodup⟩)
  constructor
  · rw [ofEndpoints_ok_iff skip hnodup', ofEndpoints_ok_iff skip hnodup]
    simp only [hperm.mem_iff, List.forall_mem_cons]
    exact and_iff_right ⟨e, haccepted⟩
  · intro r s hr hs other hother
    have hcontent : s.content = groupOf skip name document ∪ r.content := by
      rw [content_ofEndpoints hnodup' hs, groups_of_perm hperm, groups_cons,
        content_ofEndpoints hnodup hr]
    refine Option.ext fun d ↦ ?_
    rw [get?_eq_some_iff, get?_eq_some_iff, hcontent]
    refine and_congr_right fun hd ↦ or_iff_right fun hgroup ↦ ?_
    exact hother (hd.symm.trans (name_of_mem_groupOf hgroup))

/-- Endpoints are independent of each other. A namespace can be interpreted exactly if each of its
documents is accepted by itself, and there is never a conflict of names. The registry then binds a
name exactly if the skip list leaves a template of the endpoint of that name, to the methods of that
endpoint, which are some. So the order of the documents makes no difference, and with one more
endpoint that is accepted, or without it, all other names are bound to the same. -/
theorem ofEndpoints_independent (skip : SkipList) {documents : Json.Fields}
    (hnodup : (documents.map Prod.fst).Nodup) :
    ((∃ r, (ofEndpoints skip documents).outcome = .ok r) ↔
      ∀ entry ∈ documents, ∃ e, (Endpoint.parse entry.1 entry.2).outcome = .ok e) ∧
    (∀ name, (ofEndpoints skip documents).outcome ≠ .error (.nameConflict name)) ∧
    (∀ r, (ofEndpoints skip documents).outcome = .ok r → ∀ name d, r.get? name = some d ↔
      ∃ document e, (name, document) ∈ documents ∧
        (Endpoint.parse name document).outcome = .ok e ∧
        (∃ t ∈ e.templates, skip.excludes t = false) ∧
        d = ⟨name, .methodGroup ⟨name, e.methods skip⟩⟩) ∧
    (∀ r, (ofEndpoints skip documents).outcome = .ok r → ∀ name group,
      r.get? name = some ⟨name, .methodGroup group⟩ → group.methods ≠ []) ∧
    (∀ others, others.Perm documents →
      (ofEndpoints skip others).outcome.toOption = (ofEndpoints skip documents).outcome.toOption) ∧
    (∀ name document others, name ∉ documents.map Prod.fst →
      (∃ e, (Endpoint.parse name document).outcome = .ok e) →
      others.Perm ((name, document) :: documents) →
      ((∃ s, (ofEndpoints skip others).outcome = .ok s) ↔
        ∃ r, (ofEndpoints skip documents).outcome = .ok r) ∧
      ∀ r s, (ofEndpoints skip documents).outcome = .ok r →
        (ofEndpoints skip others).outcome = .ok s → ∀ other, other ≠ name →
          s.get? other = r.get? other) := by
  refine ⟨ofEndpoints_ok_iff skip hnodup, ?_, ?_, ?_, ?_, ?_⟩
  · exact fun name hconflict ↦ failsOnly_ofEndpoints hnodup _ hconflict
  · intro r hr name d
    rw [get?_eq_some_iff, content_ofEndpoints hnodup hr]
    constructor
    · rintro ⟨rfl, document, hmem, e, hparse, hmethods, hd⟩
      exact ⟨document, e, hmem, hparse, Endpoint.methods_ne_nil_iff.1 hmethods, hd⟩
    · rintro ⟨document, e, hmem, hparse, htemplate, rfl⟩
      exact ⟨rfl, document, hmem, e, hparse, Endpoint.methods_ne_nil_iff.2 htemplate, rfl⟩
  · intro r hr name group hgroup
    have hmem := (get?_eq_some_iff.1 hgroup).2
    rw [content_ofEndpoints hnodup hr] at hmem
    obtain ⟨document, -, e, -, hmethods, hd⟩ := hmem
    obtain ⟨-, hkind⟩ := Definition.mk.inj hd
    rw [DefinitionKind.methodGroup.inj hkind]
    exact hmethods
  · exact fun others hperm ↦ ofEndpoints_toOption_of_perm hnodup hperm
  · intro name document others hname ⟨e, he⟩ hperm
    exact ofEndpoints_insert hnodup hname he hperm

/-- An endpoint whose one template is on the skip list, between two that have methods. -/
theorem ofEndpoints_independent_of_warmer :
    let endpoint : String → String → Json := fun method path ↦
      .object [("documentation", .string "d"), ("methods", .array [.string method]),
        ("url", .object [("paths", .array [.string path])])]
    let documents := [("search", endpoint "GET" "/_search"),
      ("indices.delete_warmer", endpoint "DELETE" "/_cluster/_warmers"),
      ("ping", endpoint "HEAD" "/")]
    (documents.map Prod.fst).Nodup ∧
    ∃ r, (ofEndpoints .default documents).outcome = .ok r ∧ r.names = ["ping", "search"] ∧
      (∀ name, (ofEndpoints .default documents).outcome ≠ .error (.nameConflict name)) ∧
      ∀ others, others.Perm documents →
        (ofEndpoints .default others).outcome.toOption = some r := by
  intro endpoint documents
  have hnodup : (documents.map Prod.fst).Nodup := by decide
  obtain ⟨-, hconflict, -, -, horder, -⟩ := ofEndpoints_independent .default hnodup
  have hnames : (ofEndpoints .default documents).outcome.toOption.map names =
      some ["ping", "search"] := by
    decide +kernel
  obtain ⟨r, hr, hnames⟩ := Option.map_eq_some_iff.1 hnames
  exact ⟨hnodup, r, Report.toOption_eq_some_iff.1 hr, hnames, hconflict,
    fun others hperm ↦ (horder others hperm).trans hr⟩

end Assembly.Registry

end ClientSynthesis
