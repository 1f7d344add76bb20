import ClientSynthesis.Proofs.Assembly.Content
import Mathlib.Data.Set.Lattice

/-!
# Namespaces of body documents

The registry of a namespace is built document by document, and the first error ends the run. Still
the result is put together from what each document yields by itself (`alone`): the run succeeds
exactly if all of them do and no name is given two definitions, and then the registry is their
union.

The union is over the set of documents, so their order, their keys and their repetitions leave no
mark (`ofBodies_toOption_congr`). Which error a failing run reports does depend on the order, and is
no part of these statements.
-/

namespace ClientSynthesis.Assembly.Registry

open Body (Element contribution elaborate)

variable {r s : Registry} {node : Json} {nodes : List Json}

/-! ### One document -/

/-- The interpretation of a document by itself. -/
def alone (node : Json) : Interpretation Element := empty.interpret .root node

theorem alone_outcome_eq_ok_iff {e : Element} :
    (alone node).outcome = .ok e ↔
      (elaborate .root node).outcome = .ok e ∧
        Unambiguous (contribution (elaborate .root node)) := by
  rw [alone, interpret, takeIn_outcome_eq_ok_iff, content_empty, Set.empty_union]

theorem content_alone {e : Element} (h : (alone node).outcome = .ok e) :
    (alone node).registry.content = contribution (elaborate .root node) := by
  have hunamb : Unambiguous (empty.content ∪ contribution (elaborate .root node)) := by
    rw [content_empty, Set.empty_union]
    exact (alone_outcome_eq_ok_iff.1 h).2
  rw [alone, interpret, (takeIn_of_unambiguous hunamb).1, content_empty, Set.empty_union]

/-! ### One document after the other -/

/-- All that documents define, whether or not it can stand together. -/
def contributions (nodes : List Json) : Set Definition :=
  ⋃ node ∈ nodes, contribution (elaborate .root node)

theorem contributions_cons :
    contributions (node :: nodes) = contribution (elaborate .root node) ∪ contributions nodes := by
  simp [contributions, Set.iUnion_or, Set.iUnion_union_distrib]

theorem interpretAll_cons_outcome :
    (r.interpretAll (node :: nodes)).outcome = (r.interpret .root node).outcome >>= fun _ ↦
      ((r.interpret .root node).registry.interpretAll nodes).outcome := by
  rw [interpretAll, Report.Traced.outcome_bind, Report.Traced.outcome_of]

/-- What a run that succeeds has met: each document is elaborated, all they define can stand
together with what was registered before, and the registry holds just that. -/
theorem of_interpretAll_ok (h : (r.interpretAll nodes).outcome = .ok s) :
    (∀ node ∈ nodes, ∃ e, (elaborate .root node).outcome = .ok e) ∧
      Unambiguous (r.content ∪ contributions nodes) ∧
        s.content = r.content ∪ contributions nodes := by
  induction nodes generalizing r with
  | nil =>
    obtain rfl : r = s := Except.ok.inj h
    simpa [contributions] using r.unambiguous_content
  | cons node rest ih =>
    rw [interpretAll_cons_outcome] at h
    rw [contributions_cons, ← Set.union_assoc]
    cases hfirst : (r.interpret .root node).outcome with
    | error e =>
      rw [hfirst] at h
      exact nomatch h
    | ok e =>
      rw [hfirst] at h
      obtain ⟨hok, hunamb⟩ := takeIn_outcome_eq_ok_iff.1 hfirst
      obtain ⟨hrest, hall, hcontent⟩ := ih h
      -- The rest ran on top of the first document, so its union has the first one in it.
      rw [interpret, (takeIn_of_unambiguous hunamb).1] at hall hcontent
      exact ⟨List.forall_mem_cons.2 ⟨⟨e, hok⟩, hrest⟩, hall, hcontent⟩

/-- Nothing else can make a run fail. -/
theorem exists_interpretAll_ok (hok : ∀ node ∈ nodes, ∃ e, (elaborate .root node).outcome = .ok e)
    (hunamb : Unambiguous (r.content ∪ contributions nodes)) :
    ∃ s, (r.interpretAll nodes).outcome = .ok s := by
  induction nodes generalizing r with
  | nil => exact ⟨r, rfl⟩
  | cons node rest ih =>
    rw [contributions_cons, ← Set.union_assoc] at hunamb
    obtain ⟨⟨e, hfirst⟩, hrest⟩ := List.forall_mem_cons.1 hok
    obtain ⟨hregistry, houtcome⟩ := takeIn_of_unambiguous (hunamb.mono Set.subset_union_left)
    rw [← hregistry] at hunamb
    obtain ⟨s, hs⟩ := ih hrest hunamb
    exact ⟨s, by rw [interpretAll_cons_outcome, interpret, houtcome, hfirst]; exact hs⟩

/-! ### Namespaces -/

/-- What documents define that succeed by themselves, put together. -/
theorem iUnion_content_alone (h : ∀ node ∈ nodes, ∃ e, (alone node).outcome = .ok e) :
    ⋃ node ∈ nodes, (alone node).registry.content = contributions nodes := by
  refine Set.iUnion₂_congr fun node hnode ↦ ?_
  obtain ⟨e, he⟩ := h node hnode
  exact content_alone he

/-- What a run that succeeds has met, read off the documents one by one. -/
theorem of_ofBodies_ok {documents : Json.Fields} (h : (ofBodies documents).outcome = .ok r) :
    (∀ node ∈ documents.map Prod.snd, ∃ e, (alone node).outcome = .ok e) ∧
      Unambiguous (⋃ node ∈ documents.map Prod.snd, (alone node).registry.content) ∧
        r.content = ⋃ node ∈ documents.map Prod.snd, (alone node).registry.content := by
  obtain ⟨hok, hunamb, hcontent⟩ := of_interpretAll_ok h
  rw [content_empty, Set.empty_union] at hunamb hcontent
  have halone : ∀ node ∈ documents.map Prod.snd, ∃ e, (alone node).outcome = .ok e := by
    intro node hnode
    obtain ⟨e, he⟩ := hok node hnode
    have hsub : contribution (elaborate .root node) ⊆ contributions (documents.map Prod.snd) :=
      Set.subset_biUnion_of_mem (u := fun n ↦ contribution (elaborate .root n)) hnode
    exact ⟨e, alone_outcome_eq_ok_iff.2 ⟨he, hunamb.mono hsub⟩⟩
  rw [iUnion_content_alone halone]
  exact ⟨halone, hunamb, hcontent⟩

/-- Documents that succeed by themselves and agree on what names stand for succeed together. -/
theorem exists_ofBodies_ok {documents : Json.Fields}
    (halone : ∀ node ∈ documents.map Prod.snd, ∃ e, (alone node).outcome = .ok e)
    (hunamb : Unambiguous (⋃ node ∈ documents.map Prod.snd, (alone node).registry.content)) :
    ∃ r, (ofBodies documents).outcome = .ok r := by
  rw [iUnion_content_alone halone] at hunamb
  refine exists_interpretAll_ok (fun node hnode ↦ ?_) ?_
  · obtain ⟨e, he⟩ := halone node hnode
    exact ⟨e, (alone_outcome_eq_ok_iff.1 he).1⟩
  · rwa [content_empty, Set.empty_union]

/-- Every document of one namespace occurs in the other: where the first run succeeds, the second
one does, and ends in the same registry. -/
theorem ofBodies_ok_of_same {documents others : Json.Fields}
    (hsame : ∀ node, node ∈ others.map Prod.snd ↔ node ∈ documents.map Prod.snd)
    (h : (ofBodies documents).outcome = .ok r) : (ofBodies others).outcome = .ok r := by
  obtain ⟨halone, hunamb, hcontent⟩ := of_ofBodies_ok h
  simp only [← hsame] at halone hunamb hcontent
  obtain ⟨s, hs⟩ := exists_ofBodies_ok halone hunamb
  rw [hs, ext_content ((of_ofBodies_ok hs).2.2.trans hcontent.symm)]

/-- Namespaces of the same documents fail alike or end in the same registry. -/
theorem ofBodies_toOption_congr {documents others : Json.Fields}
    (hsame : ∀ node, node ∈ others.map Prod.snd ↔ node ∈ documents.map Prod.snd) :
    (ofBodies others).outcome.toOption = (ofBodies documents).outcome.toOption := by
  cases hdocuments : (ofBodies documents).outcome with
  | ok r => rw [ofBodies_ok_of_same hsame hdocuments]
  | error e =>
    cases hothers : (ofBodies others).outcome with
    | ok s =>
      have hback := ofBodies_ok_of_same (fun node ↦ (hsame node).symm) hothers
      exact nomatch hdocuments.symm.trans hback
    | error e' => rfl

/-- Interpreting a namespace is compositional. It succeeds exactly if every document succeeds by
itself and no name is given two definitions; the registry is then the union of what each document
yields by itself. Neither an order of the documents nor a document repeated under another key makes
a difference to success or to the registry. -/
theorem ofBodies_compositional (documents : Json.Fields) :
    ((∃ r, (ofBodies documents).outcome = .ok r) ↔
      (∀ node ∈ documents.map Prod.snd, ∃ e, (alone node).outcome = .ok e) ∧
        Unambiguous (⋃ node ∈ documents.map Prod.snd, (alone node).registry.content)) ∧
    (∀ r, (ofBodies documents).outcome = .ok r →
      r.content = ⋃ node ∈ documents.map Prod.snd, (alone node).registry.content) ∧
    (∀ others, others.Perm documents →
      (ofBodies others).outcome.toOption = (ofBodies documents).outcome.toOption) ∧
    (∀ key, ∀ node ∈ documents.map Prod.snd, ∀ others, others.Perm ((key, node) :: documents) →
      (ofBodies others).outcome.toOption = (ofBodies documents).outcome.toOption) := by
  refine ⟨⟨?_, ?_⟩, ?_, ?_, ?_⟩
  · rintro ⟨r, hr⟩
    obtain ⟨halone, hunamb, -⟩ := of_ofBodies_ok hr
    exact ⟨halone, hunamb⟩
  · rintro ⟨halone, hunamb⟩
    exact exists_ofBodies_ok halone hunamb
  · intro r hr
    exact (of_ofBodies_ok hr).2.2
  · intro others hperm
    exact ofBodies_toOption_congr fun node ↦ (hperm.map Prod.snd).mem_iff
  · intro key node hnode others hperm
    refine ofBodies_toOption_congr fun other ↦ ?_
    rw [(hperm.map Prod.snd).mem_iff, List.map_cons, List.mem_cons]
    exact ⟨fun h ↦ h.elim (fun heq ↦ heq ▸ hnode) id, .inr⟩

end ClientSynthesis.Assembly.Registry
