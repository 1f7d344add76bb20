import ClientSynthesis.Code.MethodItem
import ClientSynthesis.Proofs.Endpoint.Grammar
import ClientSynthesis.Proofs.Endpoint.MethodNames
import ClientSynthesis.Proofs.Naming.WordContent

/-!
# The parameters of a generated method

A method declares a parameter for each resolved placeholder of its path, then the HTTP method, then
the body. An accepted endpoint keeps the last two apart from the others, because a part whose
identifier is reserved is refused (`not_reserved_of_parse`). Of the placeholders among themselves
nothing is asked: their names may repeat, two of them may have one identifier, and a name without
letters and numbers has an empty one. `signature_names_iff` says that nothing else can go wrong.
-/

namespace ClientSynthesis.Endpoint

open Code (bodyParamType? signature)
open Naming (fieldName fieldName_eq_empty_iff)
open Report (exists_mem_of_forall₂)
open Report.Traced
open Text (isAlphanumeric isAlphanumeric_of_ascii)

/-! ### Accepted endpoints -/

/-- The templates of an accepted endpoint have been read from its paths. -/
theorem exists_path_of_parse {name : String} {document : Json} {e : Endpoint}
    (h : (Endpoint.parse name document).outcome = .ok e) {t : UrlTemplate} (ht : t ∈ e.templates) :
    ∃ parts urlPath path, (parseTemplate parts urlPath path).outcome = .ok t := by
  obtain ⟨_, _, _, parts, -, hread⟩ := parse_eq_ok_iff.1 h
  obtain ⟨path, -, hpath⟩ := exists_mem_of_forall₂ hread.templates.flip ht
  exact ⟨parts, _, path, hpath⟩

/-- **No path parameter of an accepted endpoint has a reserved identifier.** -/
theorem not_reserved_of_parse {name : String} {document : Json} {e : Endpoint}
    (h : (Endpoint.parse name document).outcome = .ok e) {t : UrlTemplate} (ht : t ∈ e.templates)
    {p : PathParam} (hp : p ∈ t.params) : fieldName p.name ∉ reservedIdents := by
  obtain ⟨parts, urlPath, path, hparse⟩ := exists_path_of_parse h ht
  obtain ⟨segments, hsegments, hparse⟩ := bind_outcome_eq_ok_iff.1 hparse
  obtain rfl := Except.ok.inj hparse
  rw [params_eq] at hp
  obtain ⟨segment, hsegment, hparam⟩ := List.mem_filterMap.1 hp
  obtain ⟨piece, -, hpiece⟩ := exists_mem_of_mapM_ok hsegments hsegment
  rcases parseSegment_eq_ok_iff.1 hpiece with ⟨-, rfl⟩ | ⟨param, entry, -, -, hpart, rfl⟩
  · exact nomatch hparam
  · obtain rfl : param = p := Option.some.inj hparam
    exact (parsePart_eq_ok_iff.1 hpart).2.2.2

/-! ### Signatures -/

/-- The names of the parameters that a method declares. -/
def parameterNames (m : Method) : List String :=
  m.pathParams.map (fun p ↦ fieldName p.name) ++
    "method" :: if m.body = .none then [] else ["body"]

/-- The parameters of the rendered signature have these names. -/
theorem map_fst_signature (bodyTrait : String) (m : Method) :
    (signature bodyTrait m).map Prod.fst = parameterNames m := by
  have hbody : ((bodyParamType? bodyTrait m.body).map ("body", ·)).toList.map Prod.fst =
      if m.body = .none then [] else ["body"] := by
    cases m.body with
    | none => rfl
    | typed required => cases required <;> rfl
    | document required => cases required <;> rfl
  rw [signature, List.map_append, List.map_map, List.map_cons, hbody, parameterNames,
    Function.comp_def]

/-- The names behind the path parameters are distinct, so only the path parameters can repeat. -/
theorem nodup_parameterNames_iff {m : Method}
    (hreserved : ∀ p ∈ m.pathParams, fieldName p.name ∉ reservedIdents) :
    (parameterNames m).Nodup ↔ (m.pathParams.map fun p ↦ fieldName p.name).Nodup := by
  have hbehind : ("method" :: if m.body = .none then [] else ["body"]).Nodup ∧
      ∀ name ∈ "method" :: if m.body = .none then [] else ["body"], name ∈ reservedIdents := by
    split_ifs <;> decide
  rw [parameterNames, List.nodup_append]
  constructor
  · exact fun h ↦ h.1
  · intro hnodup
    refine ⟨hnodup, hbehind.1, fun ident hident name hname heq ↦ ?_⟩
    obtain ⟨p, hp, rfl⟩ := List.mem_map.1 hident
    exact hreserved p hp (heq ▸ hbehind.2 name hname)

theorem empty_mem_parameterNames_iff {m : Method} :
    "" ∈ parameterNames m ↔ ∃ p ∈ m.pathParams, ∀ c ∈ p.name.toList, isAlphanumeric c = false := by
  have hbehind : "" ∉ "method" :: if m.body = .none then [] else ["body"] := by
    split_ifs <;> decide
  rw [parameterNames, List.mem_append, or_iff_left hbehind, List.mem_map]
  exact exists_congr fun p ↦ and_congr_right fun _ ↦ fieldName_eq_empty_iff

/-- **What the signature of a generated method can have wrong.** Its parameters are those of the
path, the HTTP method and the body. Their names are distinct and not empty exactly if the path
parameters have identifiers of their own and each has a letter or number in its name: none of them
can clash with what stands behind them. -/
theorem signature_names_iff {name : String} {document : Json} {e : Endpoint}
    (h : (Endpoint.parse name document).outcome = .ok e) {skip : SkipList} {m : Method}
    (hm : m ∈ e.methods skip) (bodyTrait : String) :
    (signature bodyTrait m).map Prod.fst = parameterNames m ∧
    (((signature bodyTrait m).map Prod.fst).Nodup ∧ "" ∉ (signature bodyTrait m).map Prod.fst ↔
      (m.pathParams.map fun p ↦ fieldName p.name).Nodup ∧
        ∀ p ∈ m.pathParams, ∃ c ∈ p.name.toList, isAlphanumeric c = true) := by
  obtain ⟨t, ht, hmt⟩ := exists_template_of_mem_methods hm
  have hreserved : ∀ p ∈ m.pathParams, fieldName p.name ∉ reservedIdents := by
    intro p hp
    rw [(pathParams_and_url_of_mem_methodsOf hmt).1] at hp
    exact not_reserved_of_parse h ht hp
  refine ⟨map_fst_signature bodyTrait m, ?_⟩
  rw [map_fst_signature, nodup_parameterNames_iff hreserved, empty_mem_parameterNames_iff]
  simp only [not_exists, not_and, not_forall, Bool.not_eq_false, exists_prop]

/-- A keyword and a word as path parameters of a method with a body. -/
theorem signature_names_of_keyword :
    let document : Json := .object [("documentation", .string "d"),
      ("methods", .array [.string "PUT"]),
      ("url", .object [("paths", .array [.string "/\x7bindex\x7d/\x7btype\x7d"]),
        ("parts", .object [
          ("index", .object [("type", .string "list"), ("description", .string "")]),
          ("type", .object [("type", .string "string"), ("description", .string "")])])]),
      ("body", .object [("required", .bool true)])]
    ∃ e m, (Endpoint.parse "index" document).outcome = .ok e ∧ m ∈ e.methods .none ∧
      parameterNames m = ["index", "r#type", "method", "body"] ∧
      ((signature "Body" m).map Prod.fst).Nodup ∧ "" ∉ (signature "Body" m).map Prod.fst := by
  intro document
  let index : PathParam := ⟨"index", .list, ""⟩
  let type : PathParam := ⟨"type", .scalar, ""⟩
  let t : UrlTemplate := ⟨"/\x7bindex\x7d/\x7btype\x7d",
    [.literal "", .placeholder index, .placeholder type]⟩
  let e : Endpoint := ⟨"index", "d", [t], ["PUT"], .required⟩
  let m : Method := e.methodWith t (e.identOf t) (.typed true)
  have hparse : (Endpoint.parse "index" document).outcome = .ok e := by decide +kernel
  have hm : m ∈ e.methods .none := by decide +kernel
  have hnames : parameterNames m = ["index", "r#type", "method", "body"] := by decide +kernel
  have hidents : (m.pathParams.map fun p ↦ fieldName p.name) = ["index", "r#type"] := by
    decide +kernel
  refine ⟨e, m, hparse, hm, hnames, (signature_names_iff hparse hm "Body").2.2 ⟨?_, ?_⟩⟩
  · rw [hidents]
    decide
  · have hparams : m.pathParams = [index, type] := rfl
    have hletter (c : Char) (hascii : c.toNat < 0x80) (h : c.isAlphanum = true) :
        isAlphanumeric c = true := by rw [isAlphanumeric_of_ascii hascii, h]
    rw [hparams]
    simp only [List.forall_mem_cons]
    exact ⟨⟨'i', by decide, hletter _ (by decide) (by decide)⟩,
      ⟨'t', by decide, hletter _ (by decide) (by decide)⟩, nofun⟩

/-- A placeholder that is repeated gives two parameters of one name, and one without letters and
numbers a parameter without a name. -/
theorem signature_names_of_repeated :
    let document (part : String) (path : String) : Json := .object [("documentation", .string "d"),
      ("methods", .array [.string "GET"]),
      ("url", .object [("paths", .array [.string path]),
        ("parts", .object [
          (part, .object [("type", .string "string"), ("description", .string "")])])])]
    (∃ e m, (Endpoint.parse "search" (document "a" "/\x7ba\x7d/\x7ba\x7d")).outcome = .ok e ∧
      m ∈ e.methods .none ∧ (signature "Body" m).map Prod.fst = ["a", "a", "method"] ∧
      ¬ ((signature "Body" m).map Prod.fst).Nodup) ∧
    ∃ e m, (Endpoint.parse "search" (document "-" "/\x7b-\x7d")).outcome = .ok e ∧
      m ∈ e.methods .none ∧ (signature "Body" m).map Prod.fst = ["", "method"] := by
  intro document
  let param (name : String) : Segment := .placeholder ⟨name, .scalar, ""⟩
  let t : UrlTemplate := ⟨"/\x7ba\x7d/\x7ba\x7d", [.literal "", param "a", param "a"]⟩
  let u : UrlTemplate := ⟨"/\x7b-\x7d", [.literal "", param "-"]⟩
  let e (t : UrlTemplate) : Endpoint := ⟨"search", "d", [t], ["GET"], .absent⟩
  let m (t : UrlTemplate) : Method := (e t).methodWith t ((e t).identOf t) .none
  have hnames : (signature "Body" (m t)).map Prod.fst = ["a", "a", "method"] := by decide +kernel
  refine ⟨⟨e t, m t, by decide +kernel, by decide +kernel, hnames, ?_⟩,
    ⟨e u, m u, by decide +kernel, by decide +kernel, by decide +kernel⟩⟩
  rw [hnames]
  decide

end ClientSynthesis.Endpoint
