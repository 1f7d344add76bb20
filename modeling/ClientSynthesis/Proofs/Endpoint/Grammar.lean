import ClientSynthesis.Endpoint.Descriptor
import ClientSynthesis.Proofs.Body.Opening
import ClientSynthesis.Proofs.Endpoint.TemplatePath

/-!
# Which documents describe endpoints

The form of a descriptor is stated here once more, without the order in which its parts are read and
without the errors (`IsEndpoint`). A document is accepted exactly if it has that form
(`parse_ok_iff`). What the parts table holds counts only where a path has a placeholder of that
name; and it counts there also if the path is on a skip list, since skipping comes later.

What an accepted descriptor is read as is `ReadFrom`, field by field. The paths can be written again
from their segments (`Segment.written`).
-/

namespace ClientSynthesis.Endpoint

open Body (asObject_eq_ok_iff)
open Json (Fields)
open Naming (fieldName)
open Report (bind_eq_ok_iff)
open Report.Traced
open Text (isAlpha_eq_true_iff joinWith split)

/-! ### The form of a descriptor -/

/-- The form of an entry of the parts table. -/
structure IsPart (name : String) (entry : Fields) : Prop where
  type : entry.get? "type" = some (.string "string") ∨ entry.get? "type" = some (.string "list")
  description : ∃ text, entry.get? "description" = some (.string text)
  name_ne : fieldName name ≠ "method" ∧ fieldName name ≠ "body"

/-- Whatever the parts table holds for a placeholder of the path has the form of an entry. -/
def PartsFit (parts : Option Fields) (path : String) : Prop :=
  ∀ name, name ≠ "" → (∀ c ∈ name.toList, c ≠ '\x7b' ∧ c ≠ '\x7d') →
    '\x7b' :: (name.toList ++ ['\x7d']) ∈ split '/' path.toList →
    ∀ entry, (parts.getD []).present? name = some entry →
      ∃ fields, entry = .object fields ∧ IsPart name fields

/-- The form of a URL descriptor. -/
def IsUrl (url : Fields) : Prop :=
  ∃ (paths : List String) (parts : Option Fields),
    url.get? "paths" = some (.array (paths.map .string)) ∧
    url.present? "parts" = parts.map .object ∧ ∀ path ∈ paths, PartsFit parts path

/-- The form of a body descriptor. -/
def IsBody (body : Fields) : Prop :=
  ∃ required : Option Bool, body.present? "required" = required.map .bool

/-- The form of an HTTP method token. -/
def IsMethodToken (token : String) : Prop :=
  token ≠ "" ∧ ∀ c ∈ token.toList, 'A' ≤ c ∧ c ≤ 'Z' ∨ 'a' ≤ c ∧ c ≤ 'z'

/-- The form of an endpoint descriptor. -/
structure IsEndpoint (descriptor : Fields) : Prop where
  documentation : ∃ text, descriptor.get? "documentation" = some (.string text)
  methods : ∃ tokens : List String,
    descriptor.get? "methods" = some (.array (tokens.map .string)) ∧ tokens ≠ [] ∧
      ∀ token ∈ tokens, IsMethodToken token
  url : ∃ url, descriptor.get? "url" = some (.object url) ∧ IsUrl url
  body : ∃ body : Option Fields, descriptor.present? "body" = body.map .object ∧
    ∀ fields ∈ body, IsBody fields

/-! ### Parts and paths -/

theorem exists_parsePart_iff (urlPath : String) {name : String} {entry : Fields} :
    (∃ param, parsePart name entry urlPath = .ok param) ↔ IsPart name entry := by
  simp only [parsePart_eq_ok_iff]
  constructor
  · rintro ⟨⟨_, kind, description⟩, -, htype, hdescription, hreserved⟩
    refine ⟨?_, ⟨description, hdescription⟩, by simpa [reservedIdents] using hreserved⟩
    cases kind with
    | scalar => exact .inl htype
    | list => exact .inr htype
  · rintro ⟨htype, ⟨description, hdescription⟩, hname⟩
    have hreserved : fieldName name ∉ reservedIdents := by simpa [reservedIdents] using hname
    rcases htype with htype | htype
    · exact ⟨⟨name, .scalar, description⟩, rfl, htype, hdescription, hreserved⟩
    · exact ⟨⟨name, .list, description⟩, rfl, htype, hdescription, hreserved⟩

/-- A piece of a path is refused only for what the parts table holds for its name. -/
theorem exists_parseSegment_iff {path urlPath : String} {parts : Option Fields}
    {piece : List Char} :
    (∃ segment, (parseSegment path parts urlPath piece).outcome = .ok segment) ↔
      ∀ name, placeholderName? piece = some name →
        ∀ entry, (parts.getD []).present? name = some entry →
          ∃ fields, entry = .object fields ∧ IsPart name fields := by
  constructor
  · rintro ⟨segment, h⟩ name hname entry hentry
    have hresolved := resolvedName?_eq_some_iff.2 ⟨hname, entry, hentry⟩
    rcases parseSegment_eq_ok_iff.1 h with ⟨hnone, -⟩ | ⟨param, fields, hsome, hget, hpart, -⟩
    · exact nomatch hresolved.symm.trans hnone
    · obtain rfl := Option.some.inj (hresolved.symm.trans hsome)
      have hfields := hget.symm.trans (Fields.present?_eq_some_iff.1 hentry).1
      exact ⟨fields, (Option.some.inj hfields).symm,
        (exists_parsePart_iff urlPath).1 ⟨param, hpart⟩⟩
  · intro h
    cases hresolved : resolvedName? parts piece with
    | none => exact ⟨_, parseSegment_eq_ok_iff.2 (.inl ⟨hresolved, rfl⟩)⟩
    | some name =>
      obtain ⟨hname, entry, hentry⟩ := resolvedName?_eq_some_iff.1 hresolved
      obtain ⟨fields, rfl, hpart⟩ := h name hname entry hentry
      obtain ⟨param, hparam⟩ := (exists_parsePart_iff urlPath).2 hpart
      obtain rfl := name_of_parsePart hparam
      exact ⟨.placeholder param, parseSegment_eq_ok_iff.2 (.inr ⟨param, fields, hresolved,
        (Fields.present?_eq_some_iff.1 hentry).1, hparam, rfl⟩)⟩

theorem exists_parseTemplate_iff (urlPath : String) {parts : Option Fields} {path : String} :
    (∃ t, (parseTemplate parts urlPath path).outcome = .ok t) ↔ PartsFit parts path := by
  have hsegments : (∃ t, (parseTemplate parts urlPath path).outcome = .ok t) ↔
      ∃ segments, ((split '/' path.toList).mapM (parseSegment path parts urlPath)).outcome =
        .ok segments := by
    simp only [parseTemplate, bind_outcome_eq_ok_iff]
    constructor
    · rintro ⟨_, segments, h, -⟩
      exact ⟨segments, h⟩
    · rintro ⟨segments, h⟩
      exact ⟨⟨path, segments⟩, segments, h, rfl⟩
  rw [hsegments, exists_mapM_outcome_eq_ok_iff]
  simp only [exists_parseSegment_iff, placeholderName?_eq_some_iff]
  constructor
  · intro h name hne hbraces hpiece
    exact h _ hpiece name ⟨rfl, hne, hbraces⟩
  · rintro h _ hpiece name ⟨rfl, hne, hbraces⟩
    exact h name hne hbraces hpiece

/-! ### Methods and body -/

theorem isMethodToken_eq_true_iff {token : String} :
    isMethodToken token = true ↔ IsMethodToken token := by
  simp [isMethodToken, IsMethodToken, isAlpha_eq_true_iff]

theorem parseMethods_eq_ok_iff {descriptor : Fields} {name : String} {tokens : List String} :
    parseMethods descriptor name = .ok tokens ↔
      descriptor.get? "methods" = some (.array (tokens.map .string)) ∧ tokens ≠ [] ∧
        ∀ token ∈ tokens, IsMethodToken token := by
  have hfind : tokens.find? (!isMethodToken ·) = none ↔ ∀ token ∈ tokens, IsMethodToken token := by
    simp only [List.find?_eq_none, ← isMethodToken_eq_true_iff, Bool.not_eq_true',
      Bool.not_eq_false]
  rw [parseMethods, bind_eq_ok_iff]
  dsimp only
  constructor
  · rintro ⟨read, hread, h⟩
    by_cases hempty : read.isEmpty = true
    · rw [if_pos hempty] at h
      exact nomatch h
    · rw [if_neg hempty] at h
      split at h
      · exact nomatch h
      · next hnone =>
        obtain rfl := Except.ok.inj h
        exact ⟨Fields.strings_eq_ok_iff.1 hread, by simpa using hempty, hfind.1 hnone⟩
  · rintro ⟨hget, hne, htokens⟩
    refine ⟨tokens, Fields.strings_eq_ok_iff.2 hget, ?_⟩
    rw [if_neg (by simpa using hne), hfind.2 htokens]
    rfl

theorem exists_parseBody_iff (name : String) {descriptor : Fields} :
    (∃ requirement, parseBody descriptor name = .ok requirement) ↔
      ∃ body : Option Fields, descriptor.present? "body" = body.map .object ∧
        ∀ fields ∈ body, IsBody fields := by
  simp only [parseBody, bind_eq_ok_iff, Fields.object?_eq_ok_iff]
  rw [exists_comm]
  refine exists_congr fun body ↦ ?_
  rw [exists_and_left]
  refine and_congr_right fun _ ↦ ?_
  cases body with
  | none => exact ⟨fun _ _ h ↦ (nomatch h), fun _ ↦ ⟨.absent, rfl⟩⟩
  | some fields =>
    simp only [bind_eq_ok_iff, Fields.bool?_eq_ok_iff, Option.mem_def, Option.some.injEq,
      forall_eq']
    constructor
    · rintro ⟨_, required, hrequired, -⟩
      exact ⟨required, hrequired⟩
    · rintro ⟨required, hrequired⟩
      match required, hrequired with
      | some true, hrequired => exact ⟨.required, some true, hrequired, rfl⟩
      | some false, hrequired => exact ⟨.optional, some false, hrequired, rfl⟩
      | none, hrequired => exact ⟨.optional, none, hrequired, rfl⟩

/-! ### What a descriptor is read as -/

/-- How the fields of an endpoint come from a descriptor. -/
structure ReadFrom (e : Endpoint) (name : String) (descriptor url : Fields)
    (paths : List String) (parts : Option Fields) : Prop where
  name_eq : e.name = name
  documentation : descriptor.get? "documentation" = some (.string e.documentation)
  allowedMethods : parseMethods descriptor name = .ok e.allowedMethods
  url_eq : descriptor.get? "url" = some (.object url)
  paths_eq : url.get? "paths" = some (.array (paths.map .string))
  parts_eq : url.present? "parts" = parts.map .object
  templates : List.Forall₂ (fun path t ↦
    (parseTemplate parts (name ++ ".url") path).outcome = .ok t) paths e.templates
  body : parseBody descriptor name = .ok e.body

/-- A document is read as an endpoint exactly if each field of the endpoint is read from it. -/
theorem parse_eq_ok_iff {name : String} {document : Json} {e : Endpoint} :
    (parse name document).outcome = .ok e ↔
      ∃ descriptor url paths parts, document = .object descriptor ∧
        e.ReadFrom name descriptor url paths parts := by
  constructor
  · intro h
    obtain ⟨descriptor, hdescriptor, h⟩ := bind_outcome_eq_ok_iff.1 h
    obtain ⟨documentation, hdocumentation, h⟩ := bind_outcome_eq_ok_iff.1 h
    obtain ⟨allowedMethods, hmethods, h⟩ := bind_outcome_eq_ok_iff.1 h
    obtain ⟨url?, hurl, h⟩ := bind_outcome_eq_ok_iff.1 h
    cases url? with
    | none => exact nomatch h
    | some url =>
      obtain ⟨paths, hpaths, h⟩ := bind_outcome_eq_ok_iff.1 h
      obtain ⟨parts, hparts, h⟩ := bind_outcome_eq_ok_iff.1 h
      obtain ⟨templates, htemplates, h⟩ := bind_outcome_eq_ok_iff.1 h
      obtain ⟨body, hbody, h⟩ := bind_outcome_eq_ok_iff.1 h
      obtain rfl := Except.ok.inj h
      exact ⟨descriptor, url, paths, parts, asObject_eq_ok_iff.1 hdescriptor,
        { name_eq := rfl
          documentation := Fields.string_eq_ok_iff.1 hdocumentation
          allowedMethods := hmethods
          url_eq := Fields.object?_eq_ok_some_iff.1 hurl
          paths_eq := Fields.strings_eq_ok_iff.1 hpaths
          parts_eq := Fields.object?_eq_ok_iff.1 hparts
          templates := mapM_outcome_eq_ok_iff.1 htemplates
          body := hbody }⟩
  · rintro ⟨descriptor, url, paths, parts, rfl, h⟩
    obtain ⟨rfl, hdocumentation, hmethods, hurl, hpaths, hparts, htemplates, hbody⟩ := h
    refine bind_outcome_eq_ok_iff.2 ⟨descriptor, rfl, ?_⟩
    refine bind_outcome_eq_ok_iff.2 ⟨_, Fields.string_eq_ok_iff.2 hdocumentation, ?_⟩
    refine bind_outcome_eq_ok_iff.2 ⟨_, hmethods, ?_⟩
    refine bind_outcome_eq_ok_iff.2 ⟨some url, Fields.object?_eq_ok_some_iff.2 hurl, ?_⟩
    refine bind_outcome_eq_ok_iff.2 ⟨paths, Fields.strings_eq_ok_iff.2 hpaths, ?_⟩
    refine bind_outcome_eq_ok_iff.2 ⟨parts, Fields.object?_eq_ok_iff.2 hparts, ?_⟩
    refine bind_outcome_eq_ok_iff.2 ⟨_, mapM_outcome_eq_ok_iff.2 htemplates, ?_⟩
    exact bind_outcome_eq_ok_iff.2 ⟨_, hbody, rfl⟩

/-- A descriptor that has the form of one is read as some endpoint, and no other is. -/
theorem exists_readFrom_iff (name : String) {descriptor : Fields} :
    (∃ e url paths parts, ReadFrom e name descriptor url paths parts) ↔ IsEndpoint descriptor := by
  constructor
  · rintro ⟨e, url, paths, parts, h⟩
    refine ⟨⟨_, h.documentation⟩, ⟨_, parseMethods_eq_ok_iff.1 h.allowedMethods⟩,
      ⟨url, h.url_eq, paths, parts, h.paths_eq, h.parts_eq, fun path hpath ↦ ?_⟩,
      (exists_parseBody_iff name).1 ⟨_, h.body⟩⟩
    obtain ⟨t, -, ht⟩ := Report.exists_mem_of_forall₂ h.templates hpath
    exact (exists_parseTemplate_iff (name ++ ".url")).1 ⟨t, ht⟩
  · rintro ⟨⟨text, hdocumentation⟩, ⟨tokens, hmethods⟩, ⟨url, hurl, paths, parts, hpaths, hparts,
      hfit⟩, hbody⟩
    obtain ⟨body, hbody⟩ := (exists_parseBody_iff name).2 hbody
    obtain ⟨templates, htemplates⟩ := exists_mapM_outcome_eq_ok_iff.2 fun path hpath ↦
      (exists_parseTemplate_iff (name ++ ".url")).2 (hfit path hpath)
    exact ⟨⟨name, text, templates, tokens, body⟩, url, paths, parts, rfl, hdocumentation,
      parseMethods_eq_ok_iff.2 hmethods, hurl, hpaths, hparts,
      mapM_outcome_eq_ok_iff.1 htemplates, hbody⟩

/-! ### Paths written again -/

/-- The piece of a path that a segment comes from. -/
def Segment.written : Segment → List Char
  | .literal text => text.toList
  | .placeholder param => '\x7b' :: (param.name.toList ++ ['\x7d'])

theorem written_of_stands {parts : Option Fields} {piece : List Char} {segment : Segment}
    (h : Stands parts piece segment) : segment.written = piece := by
  cases h with
  | literal _ => exact String.toList_ofList
  | placeholder hname =>
    have hplaceholder := (resolvedName?_eq_some_iff.1 hname).1
    exact (placeholderName?_eq_some_iff.1 hplaceholder).1.symm

theorem map_written_of_stands {parts : Option Fields} {pieces : List (List Char)}
    {segments : List Segment} (h : List.Forall₂ (Stands parts) pieces segments) :
    segments.map Segment.written = pieces := by
  induction h with
  | nil => rfl
  | cons hpiece _ ih => rw [List.map_cons, written_of_stands hpiece, ih]

theorem map_path_of_parseTemplate {parts : Option Fields} {urlPath : String} {paths : List String}
    {templates : List UrlTemplate}
    (h : List.Forall₂ (fun path t ↦ (parseTemplate parts urlPath path).outcome = .ok t) paths
      templates) : templates.map UrlTemplate.path = paths := by
  induction h with
  | nil => rfl
  | cons ht _ ih => rw [List.map_cons, (forall₂_stands_of_parseTemplate ht).1, ih]

namespace ReadFrom

variable {e : Endpoint} {name : String} {descriptor url : Fields} {paths : List String}
  {parts : Option Fields}

/-- The templates are those of the paths, in their order. -/
theorem map_path (h : e.ReadFrom name descriptor url paths parts) :
    e.templates.map UrlTemplate.path = paths := map_path_of_parseTemplate h.templates

/-- The segments of each template stand beside the pieces of its path. -/
theorem forall₂_stands (h : e.ReadFrom name descriptor url paths parts) {t : UrlTemplate}
    (ht : t ∈ e.templates) :
    List.Forall₂ (Stands parts) (split '/' t.path.toList) t.segments := by
  obtain ⟨path, -, hpath⟩ := Report.exists_mem_of_forall₂ h.templates.flip ht
  obtain ⟨rfl, hstands⟩ := forall₂_stands_of_parseTemplate hpath
  exact hstands

end ReadFrom

/-! ### The grammar -/

/-- **A document is accepted as an endpoint exactly if it is an object that has the form of an
endpoint descriptor.** The templates are then those of the paths it lists, and each path is its
segments, with placeholders between braces and slashes between the segments. -/
theorem parse_ok_iff (name : String) (document : Json) :
    ((∃ e, (parse name document).outcome = .ok e) ↔
      ∃ descriptor, document = .object descriptor ∧ IsEndpoint descriptor) ∧
    ∀ e, (parse name document).outcome = .ok e → ∃ descriptor url : Fields,
      document = .object descriptor ∧ descriptor.get? "url" = some (.object url) ∧
      url.get? "paths" = some (.array (e.templates.map fun t ↦ .string t.path)) ∧
      ∀ t ∈ e.templates, t.segments.map Segment.written = split '/' t.path.toList ∧
        joinWith '/' (t.segments.map Segment.written) = t.path.toList := by
  simp only [parse_eq_ok_iff]
  constructor
  · constructor
    · rintro ⟨e, descriptor, url, paths, parts, rfl, h⟩
      exact ⟨descriptor, rfl, (exists_readFrom_iff name).1 ⟨e, url, paths, parts, h⟩⟩
    · rintro ⟨descriptor, rfl, h⟩
      obtain ⟨e, url, paths, parts, h⟩ := (exists_readFrom_iff name).2 h
      exact ⟨e, descriptor, url, paths, parts, rfl, h⟩
  · rintro e ⟨descriptor, url, paths, parts, rfl, h⟩
    refine ⟨descriptor, url, rfl, h.url_eq, ?_, fun t ht ↦ ?_⟩
    · rw [h.paths_eq, ← h.map_path, List.map_map]
      rfl
    · have hwritten := map_written_of_stands (h.forall₂_stands ht)
      exact ⟨hwritten, by rw [hwritten, Text.joinWith_split]⟩

/-- An entry that is no part does not count as long as no path has a placeholder of its name, and a
placeholder without an entry stays as it is. -/
theorem parse_ok_iff_of_spare_entry :
    let document (path : String) : Json := .object [("documentation", .string "d"),
      ("methods", .array [.string "GET", .string "post"]), ("body", .object [("required", .null)]),
      ("url", .object [("paths", .array [.string path]), ("parts", .object [
        ("index", .object [("type", .string "list"), ("description", .string "")]),
        ("method", .object [("type", .string "string"), ("description", .string "")]),
        ("x", .null)])])]
    (∃ e, (parse "search" (document "/{index}//{x}/{}")).outcome = .ok e ∧
      ∃ t ∈ e.templates, t.params = [⟨"index", .list, ""⟩] ∧
        joinWith '/' (t.segments.map Segment.written) = "/{index}//{x}/{}".toList) ∧
    ¬ ∃ e, (parse "search" (document "/{method}")).outcome = .ok e := by
  intro document
  let t : UrlTemplate := ⟨"/{index}//{x}/{}", [.literal "", .placeholder ⟨"index", .list, ""⟩,
    .literal "", .literal "{x}", .literal "{}"]⟩
  let e : Endpoint := ⟨"search", "d", [t], ["GET", "post"], .optional⟩
  have haccepted : (parse "search" (document "/{index}//{x}/{}")).outcome = .ok e := by rfl
  have hrefused : (parse "search" (document "/{method}")).outcome =
      .error (.invalid "search.url.parts.method" (.reservedPart "method" "method")) := by
    decide +kernel
  obtain ⟨-, -, -, -, -, hwritten⟩ := (parse_ok_iff "search" _).2 e haccepted
  refine ⟨⟨e, haccepted, t, List.mem_singleton_self t, rfl,
    (hwritten t (List.mem_singleton_self t)).2⟩, ?_⟩
  rintro ⟨e', he'⟩
  exact nomatch hrefused.symm.trans he'

end ClientSynthesis.Endpoint
