import ClientSynthesis.Endpoint.Methods
import Mathlib.Data.List.Nodup
import Mathlib.Tactic.SplitIfs

/-!
# The names of the methods of an endpoint

Of the templates of an endpoint some are kept (`kept`), and a kept template gives its own name and,
if requests have a body, that name with `_json` behind it. A template is kept only if its own name is
new. Of the second name this is not asked: it is recorded, so that no later template takes it, but
an earlier template may have it already.

`nodup_idents_iff` says exactly when that happens. It rests on the record alone: whatever a template
gives is recorded for those behind it, so a template that is kept has a name that no earlier one gave
(`pairwise_fresh_keptAfter`). For the two names to meet, some parameter has to be named with `json`
at its end (`exists_param_of_identOf_eq`).
-/

namespace ClientSynthesis.Endpoint

open Naming (bareFieldName methodName)

variable {e : Endpoint} {skip : SkipList} {used : List String} {t : UrlTemplate}
  {templates : List UrlTemplate}

/-! ### One template after the other -/

/-- The methods that a verdict lets through. -/
def Verdict.methods : Verdict → List Method
  | .kept methods => methods
  | .skipped | .repeated _ => []

/-- The verdict on a template when some names have been given already. -/
def verdictOn (e : Endpoint) (skip : SkipList) (used : List String) (t : UrlTemplate) : Verdict :=
  if skip.excludes t = true then .skipped
  else if e.identOf t ∈ used then .repeated (e.identOf t)
  else .kept (e.methodsOf t)

/-- A template is judged by the names given so far, and those behind it by its own names too. -/
theorem judge_cons : e.judge skip used (t :: templates) =
    (t, e.verdictOn skip used t) ::
      e.judge skip ((e.verdictOn skip used t).methods.map Method.ident ++ used) templates := by
  rw [judge, verdictOn]
  simp only [List.contains_iff_mem]
  split_ifs <;> rfl

/-! ### Templates that are kept -/

/-- The template of a verdict that keeps it. -/
def keptTemplate? : UrlTemplate × Verdict → Option UrlTemplate
  | (t, .kept _) => some t
  | (_, .skipped) | (_, .repeated _) => none

/-- The templates among some that are kept, when some names have been given already. -/
def keptAfter (e : Endpoint) (skip : SkipList) (used : List String)
    (templates : List UrlTemplate) : List UrlTemplate :=
  (e.judge skip used templates).filterMap keptTemplate?

/-- The templates of an endpoint that yield methods, in template order. -/
def kept (e : Endpoint) (skip : SkipList) : List UrlTemplate := e.keptAfter skip [] e.templates

/-- The names that a template gives. -/
def namesOf (e : Endpoint) (t : UrlTemplate) : List String := (e.methodsOf t).map Method.ident

@[simp] theorem keptAfter_nil : e.keptAfter skip used [] = [] := rfl

/-- A template is kept if it is not excluded and its name is new, and then its names are recorded. -/
theorem keptAfter_cons : e.keptAfter skip used (t :: templates) =
    if skip.excludes t = true ∨ e.identOf t ∈ used then e.keptAfter skip used templates
    else t :: e.keptAfter skip (e.namesOf t ++ used) templates := by
  rw [keptAfter, judge_cons, verdictOn]
  by_cases hskip : skip.excludes t = true
  · rw [if_pos hskip, if_pos (.inl hskip)]
    rfl
  · by_cases hused : e.identOf t ∈ used
    · rw [if_neg hskip, if_pos hused, if_pos (.inr hused)]
      rfl
    · rw [if_neg hskip, if_neg hused, if_neg (not_or.2 ⟨hskip, hused⟩)]
      rfl

theorem mem_of_mem_keptAfter (h : t ∈ e.keptAfter skip used templates) : t ∈ templates := by
  induction templates generalizing used with
  | nil => exact h
  | cons u rest ih =>
    rw [keptAfter_cons] at h
    split_ifs at h
    · exact List.mem_cons_of_mem u (ih h)
    · exact List.mem_cons.2 ((List.mem_cons.1 h).imp id ih)

/-- **The methods are those of the kept templates, one template after the other.** -/
theorem methods_eq (e : Endpoint) (skip : SkipList) :
    e.methods skip = (e.kept skip).flatMap e.methodsOf := by
  unfold methods verdicts kept
  generalize ([] : List String) = used
  generalize e.templates = templates
  induction templates generalizing used with
  | nil => rfl
  | cons t rest ih =>
    rw [keptAfter, judge]
    split_ifs
    · exact ih used
    · exact ih used
    · exact congrArg (e.methodsOf t ++ ·) (ih _)

theorem exists_template_of_mem_methods {m : Method} (h : m ∈ e.methods skip) :
    ∃ t ∈ e.templates, m ∈ e.methodsOf t := by
  rw [methods_eq] at h
  obtain ⟨t, ht, hm⟩ := List.mem_flatMap.1 h
  exact ⟨t, mem_of_mem_keptAfter ht, hm⟩

/-! ### What is recorded -/

/-- A template gives its own name, and with a body a second one. -/
theorem mem_namesOf_iff {name : String} :
    name ∈ e.namesOf t ↔ name = e.identOf t ∨ e.body ≠ .absent ∧ name = e.identOf t ++ "_json" := by
  rw [namesOf, methodsOf]
  cases e.body <;> simp [methodWith]

theorem identOf_mem_namesOf (e : Endpoint) (t : UrlTemplate) : e.identOf t ∈ e.namesOf t :=
  mem_namesOf_iff.2 (.inl rfl)

theorem nodup_namesOf (e : Endpoint) (t : UrlTemplate) : (e.namesOf t).Nodup := by
  have hne : e.identOf t ≠ e.identOf t ++ "_json" := by
    intro h
    have hlength := congrArg String.length h
    simp [String.length_append] at hlength
  rw [namesOf, methodsOf]
  cases e.body <;> simp [methodWith, hne]

/-- A kept template has a name that was not recorded. -/
theorem not_mem_used_of_mem_keptAfter (h : t ∈ e.keptAfter skip used templates) :
    e.identOf t ∉ used := by
  induction templates generalizing used with
  | nil => exact nomatch h
  | cons u rest ih =>
    rw [keptAfter_cons] at h
    split_ifs at h with hdropped
    · exact ih h
    · rcases List.mem_cons.1 h with rfl | h
      · exact fun hused ↦ hdropped (.inr hused)
      · exact fun hused ↦ ih h (List.mem_append_right _ hused)

/-- **A template is kept only if no earlier kept template gave its name**, be it as a first or as a
second one. -/
theorem pairwise_fresh_keptAfter (e : Endpoint) (skip : SkipList) (used : List String)
    (templates : List UrlTemplate) :
    (e.keptAfter skip used templates).Pairwise fun t u ↦ e.identOf u ∉ e.namesOf t := by
  induction templates generalizing used with
  | nil => exact .nil
  | cons t rest ih =>
    rw [keptAfter_cons]
    split_ifs
    · exact ih used
    · refine .cons (fun u hu hmem ↦ ?_) (ih _)
      exact not_mem_used_of_mem_keptAfter hu (List.mem_append_left used hmem)

/-! ### Distinct names -/

/-- Of two kept templates, the earlier one first, the names are disjoint unless the second name of
the later one is the first name of the earlier one. -/
theorem disjoint_namesOf_iff {u : UrlTemplate} (h : e.identOf u ∉ e.namesOf t) :
    List.Disjoint (e.namesOf t) (e.namesOf u) ↔
      (e.body ≠ .absent → e.identOf t ≠ e.identOf u ++ "_json") := by
  rw [mem_namesOf_iff, not_or] at h
  obtain ⟨hfirst, hsecond⟩ := h
  constructor
  · intro hdisjoint hbody heq
    exact hdisjoint (identOf_mem_namesOf e t) (mem_namesOf_iff.2 (.inr ⟨hbody, heq⟩))
  · intro hclash name ht hu
    rcases mem_namesOf_iff.1 ht with rfl | ⟨hbody, rfl⟩
    · rcases mem_namesOf_iff.1 hu with heq | ⟨hbody, heq⟩
      · exact hfirst heq.symm
      · exact hclash hbody heq
    · rcases mem_namesOf_iff.1 hu with heq | ⟨-, heq⟩
      · exact hsecond ⟨hbody, heq.symm⟩
      · exact hfirst ((String.append_left_inj "_json").1 heq).symm

theorem map_ident_methods (e : Endpoint) (skip : SkipList) :
    (e.methods skip).map Method.ident = (e.kept skip).flatMap e.namesOf := by
  rw [methods_eq, List.map_flatMap]
  rfl

/-- The names are distinct exactly if no second name of a kept template is the first name of an
earlier one. -/
theorem nodup_namesOf_kept_iff (e : Endpoint) (skip : SkipList) :
    ((e.kept skip).flatMap e.namesOf).Nodup ↔
      (e.kept skip).Pairwise fun t u ↦
        e.body ≠ .absent → e.identOf t ≠ e.identOf u ++ "_json" := by
  have hfresh := pairwise_fresh_keptAfter e skip [] e.templates
  rw [List.nodup_flatMap]
  constructor
  · rintro ⟨-, hdisjoint⟩
    exact (hfresh.and hdisjoint).imp fun ⟨hne, hd⟩ ↦ (disjoint_namesOf_iff hne).1 hd
  · intro hclash
    refine ⟨fun t _ ↦ nodup_namesOf e t, ?_⟩
    exact (hfresh.and hclash).imp fun ⟨hne, hc⟩ ↦ (disjoint_namesOf_iff hne).2 hc

/-! ### Names that end in `json` -/

/-- The name of a method with parameters ends in one of these, behind an underscore. -/
theorem exists_toList_methodIdent {base : String} {params : List PathParam} (hne : params ≠ []) :
    ∃ p ∈ params, ∃ before,
      (methodIdent base params).toList = before ++ '_' :: (bareFieldName p.name).toList := by
  have hempty : ¬ params.isEmpty = true := fun h ↦ hne (List.isEmpty_iff.1 h)
  rw [methodIdent, if_neg hempty]
  rcases List.eq_nil_or_concat params with rfl | ⟨front, last, rfl⟩
  · exact absurd rfl hne
  · rw [List.concat_eq_append, List.map_append]
    refine ⟨last, by simp, ?_⟩
    -- What stands before the last parameter ends in the separator, or in `_by_` if it is alone.
    by_cases hfront : front = []
    · exact ⟨base.toList ++ "_by".toList, by simp [hfront]⟩
    · have hfront' : (front.map fun p ↦ bareFieldName p.name) ≠ [] := by simpa using hfront
      rw [String.intercalate_append_of_ne_nil hfront' (by simp), List.map_singleton,
        String.intercalate_singleton]
      refine ⟨(base ++ "_by_" ++ "_and_".intercalate (front.map fun p ↦ bareFieldName p.name) ++
        "_and").toList, ?_⟩
      simp only [String.toList_append, List.append_assoc]
      rfl

/-- A text that ends in a word without underscore has that word behind its last underscore. -/
theorem suffix_of_suffix_append_cons {α : Type} {word before after : List α} {c : α}
    (hword : c ∉ word) (h : word <:+ before ++ c :: after) : word <:+ after := by
  rcases List.suffix_or_suffix_of_suffix h (List.suffix_append before (c :: after)) with h | h
  · rcases List.suffix_cons_iff.1 h with rfl | h
    · exact absurd List.mem_cons_self hword
    · exact h
  · exact absurd (h.subset List.mem_cons_self) hword

/-- Where the second name of one template is the first name of another, a parameter of the other is
named with `json` at its end. -/
theorem exists_param_of_identOf_eq {u : UrlTemplate} (h : e.identOf t = e.identOf u ++ "_json") :
    ∃ p ∈ t.params, "json".toList <:+ (bareFieldName p.name).toList := by
  have hbase : ∀ params, ∃ more, methodIdent (methodName e.name) params =
      methodName e.name ++ more := by
    intro params
    rw [methodIdent]
    split_ifs
    · exact ⟨"", by simp⟩
    · exact ⟨_, String.append_assoc ..⟩
  have hparams : t.params ≠ [] := by
    intro hnone
    -- The bare name of the endpoint is too short to have the other one in it.
    obtain ⟨more, hmore⟩ := hbase u.params
    have hlength := congrArg String.length h
    rw [identOf, identOf, hnone, hmore, methodIdent, if_pos List.isEmpty_nil, String.length_append,
      String.length_append] at hlength
    have hjson : "_json".length = 5 := rfl
    omega
  obtain ⟨p, hp, before, hident⟩ := exists_toList_methodIdent hparams
  have hsuffix : "json".toList <:+ before ++ '_' :: (bareFieldName p.name).toList := by
    rw [← hident, ← identOf, h, String.toList_append]
    exact ⟨(e.identOf u).toList ++ ['_'], by simp⟩
  exact ⟨p, hp, suffix_of_suffix_append_cons (by simp) hsuffix⟩

/-- **The names of the methods of an endpoint are distinct, except where the second name of a kept
template is the first name of an earlier one.** Without a body there are no second names; and with
one, it takes a parameter named with `json` at its end. -/
theorem nodup_idents_iff (e : Endpoint) (skip : SkipList) :
    (((e.methods skip).map Method.ident).Nodup ↔
      (e.kept skip).Pairwise fun t u ↦
        e.body ≠ .absent → e.identOf t ≠ e.identOf u ++ "_json") ∧
    ((∀ t ∈ e.templates, ∀ p ∈ t.params, ¬ "json".toList <:+ (bareFieldName p.name).toList) →
      ((e.methods skip).map Method.ident).Nodup) := by
  rw [map_ident_methods]
  refine ⟨nodup_namesOf_kept_iff e skip, fun hparams ↦ (nodup_namesOf_kept_iff e skip).2 ?_⟩
  refine List.Pairwise.imp_of_mem ?_ (pairwise_fresh_keptAfter e skip [] e.templates)
  intro t u ht _ _ _ heq
  obtain ⟨p, hp, hjson⟩ := exists_param_of_identOf_eq heq
  exact hparams t (mem_of_mem_keptAfter ht) p hp hjson

/-- The second name of the second template is the name of the first one. -/
theorem not_nodup_idents_of_body :
    ∃ e, (Endpoint.parse "search" (.object [("documentation", .string "d"),
        ("methods", .array [.string "POST"]),
        ("url", .object [("paths", .array [.string "/\x7ba_json\x7d", .string "/\x7ba\x7d"]),
          ("parts", .object [
            ("a_json", .object [("type", .string "string"), ("description", .string "x")]),
            ("a", .object [("type", .string "string"), ("description", .string "y")])])]),
        ("body", .object [])])).outcome = .ok e ∧
      (e.methods .none).map Method.ident =
        ["search_by_a_json", "search_by_a_json_json", "search_by_a", "search_by_a_json"] ∧
      ¬ ((e.methods .none).map Method.ident).Nodup := by
  let param (name description : String) : PathParam := ⟨name, .scalar, description⟩
  let e : Endpoint := ⟨"search", "d",
    [⟨"/\x7ba_json\x7d", [.literal "", .placeholder (param "a_json" "x")]⟩,
      ⟨"/\x7ba\x7d", [.literal "", .placeholder (param "a" "y")]⟩], ["POST"], .optional⟩
  have hidents : (e.methods .none).map Method.ident =
      ["search_by_a_json", "search_by_a_json_json", "search_by_a", "search_by_a_json"] := by
    decide +kernel
  refine ⟨e, by rfl, hidents, ?_⟩
  rw [hidents]
  decide

end ClientSynthesis.Endpoint
