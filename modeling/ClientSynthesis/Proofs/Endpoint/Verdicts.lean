import ClientSynthesis.Proofs.Endpoint.Grammar
import ClientSynthesis.Proofs.Endpoint.MethodNames

/-!
# The verdict on a template

The verdict on a template depends on the templates before it through the names of their methods
alone (`verdictOn`), and these are the names of the methods that have come out by then
(`eq_verdictOn_of_judge`). So the first template with a name counts, be it the name of an overload
or not, and which methods there are can be read off template by template
(`first_template_counts`).

A template on the skip list yields no names. It could as well not be there
(`methods_eq_methods_without`).
-/

namespace ClientSynthesis.Endpoint

open Json (Fields)
open Naming (verbVariant)
open Report.Traced

variable {e : Endpoint} {skip : SkipList} {used : List String} {t : UrlTemplate}
  {templates : List UrlTemplate}

/-! ### What has come out before -/

/-- The methods that have come out behind some verdicts. -/
def emitted (verdicts : List (UrlTemplate × Verdict)) : List Method :=
  verdicts.flatMap fun v ↦ v.2.methods

theorem emitted_cons (v : UrlTemplate × Verdict) (rest : List (UrlTemplate × Verdict)) :
    emitted (v :: rest) = v.2.methods ++ emitted rest := rfl

theorem methods_eq_emitted (e : Endpoint) (skip : SkipList) :
    e.methods skip = emitted (e.verdicts skip) := by
  refine congrArg (List.flatMap · (e.verdicts skip)) (funext fun v ↦ ?_)
  obtain ⟨t, v⟩ := v
  cases v <;> rfl

theorem map_fst_judge (e : Endpoint) (skip : SkipList) (used : List String)
    (templates : List UrlTemplate) : (e.judge skip used templates).map Prod.fst = templates := by
  induction templates generalizing used with
  | nil => rfl
  | cons t rest ih => rw [judge_cons, List.map_cons, ih]

theorem verdictOn_congr {used' : List String} (h : e.identOf t ∈ used ↔ e.identOf t ∈ used') :
    e.verdictOn skip used t = e.verdictOn skip used' t := by
  rw [verdictOn, verdictOn]
  simp only [h]

/-- **A template is judged by the names that have come out before it**, on top of those given in
advance. -/
theorem eq_verdictOn_of_judge {before after : List (UrlTemplate × Verdict)} {v : Verdict}
    (h : e.judge skip used templates = before ++ (t, v) :: after) :
    v = e.verdictOn skip ((emitted before).map Method.ident ++ used) t := by
  induction before generalizing used templates with
  | nil =>
    cases templates with
    | nil => exact nomatch h
    | cons u rest =>
      rw [judge_cons] at h
      obtain ⟨rfl, rfl⟩ := Prod.mk.inj (List.cons.inj h).1
      rfl
  | cons w before ih =>
    cases templates with
    | nil => exact nomatch h
    | cons u rest =>
      rw [judge_cons, List.cons_append] at h
      obtain ⟨rfl, hrest⟩ := List.cons.inj h
      rw [ih hrest]
      refine verdictOn_congr ?_
      simp only [emitted_cons, List.map_append, List.mem_append]
      tauto

theorem verdictOn_eq_iff (e : Endpoint) (skip : SkipList) (used : List String) (t : UrlTemplate) :
    (e.verdictOn skip used t = .skipped ↔ skip.excludes t = true) ∧
    (e.verdictOn skip used t = .repeated (e.identOf t) ↔
      skip.excludes t = false ∧ e.identOf t ∈ used) ∧
    (e.verdictOn skip used t = .kept (e.methodsOf t) ↔
      skip.excludes t = false ∧ e.identOf t ∉ used) := by
  rw [verdictOn]
  split_ifs with hskip hused
  · simp [hskip]
  · simp [hskip, hused]
  · simp [hskip, hused]

/-! ### Path parameters -/

/-- A parameter is what the parts table says under its name. -/
def Describes (parts : Option Fields) (name : String) (p : PathParam) : Prop :=
  p.name = name ∧ ∃ entry : Fields, (parts.getD []).get? name = some (.object entry) ∧
    entry.get? "type" = some (.string (kindToken p.kind)) ∧
    entry.get? "description" = some (.string p.description)

/-- The parameters of segments are those of the resolved placeholders among the pieces. -/
theorem forall₂_describes {parts : Option Fields} {urlPath path : String}
    {pieces : List (List Char)} {segments : List Segment}
    (h : List.Forall₂ (fun piece segment ↦
      (parseSegment path parts urlPath piece).outcome = .ok segment) pieces segments) :
    List.Forall₂ (Describes parts) (pieces.filterMap (resolvedName? parts))
      (segments.filterMap Segment.param?) := by
  induction h with
  | nil => exact .nil
  | cons hpiece _ ih =>
    rcases parseSegment_eq_ok_iff.1 hpiece with
      ⟨hnone, rfl⟩ | ⟨param, entry, hsome, hentry, hpart, rfl⟩
    · rw [List.filterMap_cons_none hnone, List.filterMap_cons_none rfl]
      exact ih
    · have hparam : Segment.param? (.placeholder param) = some param := rfl
      rw [List.filterMap_cons_some hsome, List.filterMap_cons_some hparam]
      obtain ⟨-, htype, hdescription, -⟩ := parsePart_eq_ok_iff.1 hpart
      exact .cons ⟨rfl, entry, hentry, htype, hdescription⟩ ih

theorem forall₂_describes_of_parseTemplate {parts : Option Fields} {urlPath path : String}
    (h : (parseTemplate parts urlPath path).outcome = .ok t) :
    List.Forall₂ (Describes parts) (resolvedNames parts t.path) t.params := by
  obtain ⟨segments, hsegments, h⟩ := bind_outcome_eq_ok_iff.1 h
  obtain rfl := Except.ok.inj h
  rw [params_eq]
  exact forall₂_describes (mapM_outcome_eq_ok_iff.1 hsegments)

/-! ### Methods -/

/-- A template gives one method without a body, or one for a typed body and one for a document. -/
theorem methodsOf_eq (e : Endpoint) (t : UrlTemplate) :
    e.methodsOf t =
      if e.body = .absent then [e.methodWith t (e.identOf t) .none]
      else [e.methodWith t (e.identOf t) (.typed (e.body = .required)),
        e.methodWith t (e.identOf t ++ "_json") (.document (e.body = .required))] := by
  rw [methodsOf]
  cases e.body <;> rfl

/-- **Of the templates with one name the first one counts, and overloads come in pairs.** Template
by template, one is skipped if it is on the skip list, it is repeated if its name is that of a
method that has come out before, overload or not, and it is kept otherwise. The methods are those of
the kept templates, in their order: one each without a body, and with one an overload for a typed
body and behind it one for a document, which differ in their bodies and names only. Their parameters
are what the parts table says of the resolved placeholders of the path, in path order. -/
theorem first_template_counts {name : String} {document : Json}
    (h : (parse name document).outcome = .ok e) (skip : SkipList) :
    (e.verdicts skip).map Prod.fst = e.templates ∧
    (∀ before t v after, e.verdicts skip = before ++ (t, v) :: after →
      (v = .skipped ↔ skip.excludes t = true) ∧
      (v = .repeated (e.identOf t) ↔
        skip.excludes t = false ∧ ∃ m ∈ emitted before, m.ident = e.identOf t) ∧
      (v = .kept (e.methodsOf t) ↔
        skip.excludes t = false ∧ ∀ m ∈ emitted before, m.ident ≠ e.identOf t)) ∧
    (e.methods skip = (e.kept skip).flatMap fun t ↦
      let bodyless : Method :=
        { ident := e.identOf t
          documentation := e.documentation
          pathParams := t.params
          url := t.url
          allowedMethods := e.allowedMethods.map verbVariant
          body := .none }
      if e.body = .absent then [bodyless]
      else
        [{ bodyless with body := .typed (e.body = .required) },
          { bodyless with
            ident := e.identOf t ++ "_json"
            body := .document (e.body = .required) }]) ∧
    ∃ (descriptor url : Fields) (parts : Option Fields), document = .object descriptor ∧
      descriptor.get? "url" = some (.object url) ∧ url.present? "parts" = parts.map .object ∧
      ∀ t ∈ e.templates, List.Forall₂ (Describes parts) (resolvedNames parts t.path) t.params := by
  refine ⟨map_fst_judge e skip [] e.templates, fun before t v after hsplit ↦ ?_, ?_, ?_⟩
  · obtain rfl := eq_verdictOn_of_judge hsplit
    obtain ⟨hskipped, hrepeated, hkept⟩ := verdictOn_eq_iff e skip
      ((emitted before).map Method.ident ++ []) t
    simp only [List.append_nil, List.mem_map, not_exists, not_and] at hskipped hrepeated hkept ⊢
    exact ⟨hskipped, hrepeated, hkept⟩
  · rw [methods_eq, funext (methodsOf_eq e)]
    rfl
  · obtain ⟨descriptor, url, paths, parts, rfl, hread⟩ := parse_eq_ok_iff.1 h
    refine ⟨descriptor, url, parts, rfl, hread.url_eq, hread.parts_eq, fun t ht ↦ ?_⟩
    obtain ⟨path, -, hpath⟩ := Report.exists_mem_of_forall₂ hread.templates.flip ht
    exact forall₂_describes_of_parseTemplate hpath

/-- The third template has the name of the overload of the first one. The second has that name too,
but it is on the skip list. -/
theorem first_template_counts_of_overload :
    let document : Json := .object [("documentation", .string "d"),
      ("methods", .array [.string "POST"]), ("body", .object [("required", .bool true)]),
      ("url", .object [("paths", .array [.string "/{a}", .string "/_aliases/{a_json}",
          .string "/{a_json}", .string "/{a_json}/{a}"]),
        ("parts", .object [
          ("a", .object [("type", .string "string"), ("description", .string "x")]),
          ("a_json", .object [("type", .string "list"), ("description", .string "y")])])])]
    ∃ e before t after, (parse "search" document).outcome = .ok e ∧
      e.verdicts .default = before ++ (t, .repeated "search_by_a_json") :: after ∧
      t.path = "/{a_json}" ∧ (∃ m ∈ emitted before, m.ident = "search_by_a_json") ∧
      (e.methods .default).map (fun m ↦ (m.ident, m.body)) =
        [("search_by_a", .typed true), ("search_by_a_json", .document true),
          ("search_by_a_json_and_a", .typed true),
          ("search_by_a_json_and_a_json", .document true)] := by
  intro document
  let a : PathParam := ⟨"a", .scalar, "x"⟩
  let aJson : PathParam := ⟨"a_json", .list, "y"⟩
  let first : UrlTemplate := ⟨"/{a}", [.literal "", .placeholder a]⟩
  let skipped : UrlTemplate := ⟨"/_aliases/{a_json}",
    [.literal "", .literal "_aliases", .placeholder aJson]⟩
  let second : UrlTemplate := ⟨"/{a_json}", [.literal "", .placeholder aJson]⟩
  let both : UrlTemplate := ⟨"/{a_json}/{a}", [.literal "", .placeholder aJson, .placeholder a]⟩
  let e : Endpoint := ⟨"search", "d", [first, skipped, second, both], ["POST"], .required⟩
  have hverdicts : e.verdicts .default =
      [(first, .kept (e.methodsOf first)), (skipped, .skipped)] ++
        (second, .repeated "search_by_a_json") :: [(both, .kept (e.methodsOf both))] := by
    decide +kernel
  have hident : e.identOf second = "search_by_a_json" := by decide +kernel
  have haccepted : (parse "search" document).outcome = .ok e := by rfl
  obtain ⟨-, hjudged, hmethods, -⟩ := first_template_counts haccepted .default
  obtain ⟨-, hrepeated, -⟩ := hjudged _ second _ _ hverdicts
  rw [hident] at hrepeated
  refine ⟨e, _, second, _, haccepted, hverdicts, rfl, (hrepeated.1 rfl).2, ?_⟩
  rw [hmethods]
  decide +kernel

/-! ### Templates on the skip list -/

/-- The endpoint without the templates that a skip list excludes. -/
def without (e : Endpoint) (skip : SkipList) : Endpoint :=
  { e with templates := e.templates.filter fun t ↦ !skip.excludes t }

/-- Other templates do not change the verdict on a template. -/
theorem judge_with_templates (e : Endpoint) (others : List UrlTemplate) (skip : SkipList)
    (used : List String) (templates : List UrlTemplate) :
    Endpoint.judge { e with templates := others } skip used templates =
      e.judge skip used templates := by
  induction templates generalizing used with
  | nil => rfl
  | cons t rest ih =>
    rw [judge_cons, judge_cons, ih]
    rfl

/-- The verdicts but those on excluded templates are the verdicts on the other templates. -/
theorem filter_judge (e : Endpoint) (skip : SkipList) (used : List String)
    (templates : List UrlTemplate) :
    (e.judge skip used templates).filter (fun v ↦ v.2 ≠ .skipped) =
      e.judge .none used (templates.filter fun t ↦ !skip.excludes t) := by
  induction templates generalizing used with
  | nil => rfl
  | cons t rest ih =>
    by_cases hskip : skip.excludes t = true
    · have hverdict : e.verdictOn skip used t = .skipped :=
        (verdictOn_eq_iff e skip used t).1.2 hskip
      rw [judge_cons, hverdict, List.filter_cons_of_neg (by simp),
        List.filter_cons_of_neg (by simp [hskip])]
      exact ih used
    · have hverdict : e.verdictOn skip used t = e.verdictOn .none used t := by
        simp [verdictOn, hskip]
      have hkept : e.verdictOn skip used t ≠ .skipped := fun h ↦
        hskip ((verdictOn_eq_iff e skip used t).1.1 h)
      rw [judge_cons, List.filter_cons_of_pos (by simpa using hkept),
        List.filter_cons_of_pos (by simp [hskip]), judge_cons, ih, hverdict]

/-- A template that is skipped has no part in what comes out. -/
theorem emitted_filter (verdicts : List (UrlTemplate × Verdict)) :
    emitted (verdicts.filter fun v ↦ v.2 ≠ .skipped) = emitted verdicts := by
  induction verdicts with
  | nil => rfl
  | cons v rest ih =>
    by_cases hv : v.2 = .skipped
    · rw [List.filter_cons_of_neg (by simpa using hv), ih, emitted_cons, hv]
      rfl
    · rw [List.filter_cons_of_pos (by simpa using hv), emitted_cons, ih, emitted_cons]

theorem verdicts_without (e : Endpoint) (skip : SkipList) :
    (e.without skip).verdicts .none = (e.verdicts skip).filter fun v ↦ v.2 ≠ .skipped := by
  rw [verdicts, verdicts, filter_judge]
  exact judge_with_templates e _ .none [] _

theorem methods_without (e : Endpoint) (skip : SkipList) :
    (e.without skip).methods .none = e.methods skip := by
  rw [methods_eq_emitted, methods_eq_emitted, verdicts_without, emitted_filter]

/-- **A template on the skip list could as well not be there.** The methods are those of the
endpoint without such templates, and the verdicts on the templates that remain are the same. So a
skipped template takes no name from any other, wherever it stands; and of a skip list it counts only
which templates of the endpoint it excludes. -/
theorem methods_eq_methods_without (e : Endpoint) (skip : SkipList) :
    e.methods skip = (e.without skip).methods .none ∧
    ((e.verdicts skip).filter fun v ↦ v.2 ≠ .skipped) = (e.without skip).verdicts .none ∧
    (∀ front t back, skip.excludes t = true →
      Endpoint.methods { e with templates := front ++ t :: back } skip =
        Endpoint.methods { e with templates := front ++ back } skip) ∧
    ∀ other : SkipList, (∀ t ∈ e.templates, other.excludes t = skip.excludes t) →
      e.methods other = e.methods skip := by
  refine ⟨(methods_without e skip).symm, (verdicts_without e skip).symm, ?_, ?_⟩
  · intro front t back ht
    have hwithout : without { e with templates := front ++ t :: back } skip =
        without { e with templates := front ++ back } skip := by
      simp only [without, List.filter_append]
      rw [List.filter_cons_of_neg (by simp [ht])]
    rw [← methods_without, hwithout, methods_without]
  · intro other hother
    have hwithout : e.without other = e.without skip := by
      rw [without, without, List.filter_congr fun t ht ↦ by rw [hother t ht]]
    rw [← methods_without e other, hwithout, methods_without]

/-- Two skip lists that exclude the same templates in their own ways. The excluded template has the
name that the next one is given. -/
theorem methods_eq_methods_without_of_alias :
    let excluded : UrlTemplate := ⟨"/_aliases", [.literal "", .literal "_aliases"]⟩
    let e : Endpoint := ⟨"get", "d", [excluded, ⟨"/x", [.literal "", .literal "x"]⟩], ["GET"],
      .optional⟩
    e.methods .default = e.methods ⟨[], ["/_a"], []⟩ ∧
      e.methods .default = (e.without .default).methods .none ∧
      (e.methods .default).map (fun m ↦ (m.ident, m.url)) =
        [("get", [.literal "/x"]), ("get_json", [.literal "/x"])] ∧
      (e.methods .none).map (fun m ↦ (m.ident, m.url)) =
        [("get", [.literal "/_aliases"]), ("get_json", [.literal "/_aliases"])] := by
  intro excluded e
  obtain ⟨-, -, -, hlists⟩ := methods_eq_methods_without e ⟨[], ["/_a"], []⟩
  refine ⟨hlists .default ?_, (methods_eq_methods_without e .default).1, ?_, ?_⟩
  · decide +kernel
  · decide +kernel
  · decide +kernel

end ClientSynthesis.Endpoint
