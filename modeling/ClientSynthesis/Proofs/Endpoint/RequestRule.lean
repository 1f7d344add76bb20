import ClientSynthesis.Proofs.Code.RequestRun

/-!
# The request rule

What a call of a generated method does is settled by the descriptor of its endpoint. The HTTP method
is the one given, or that of the first token; it has to be that of one of the tokens; a request with
a body goes by `Post` where it would go by `Get`; and the body is what the caller passes.

The rule is stated of the text of the method (`request_rule`): the statements are those that the
text is read as, and the outcome is that of running them.
-/

namespace ClientSynthesis.Endpoint

open Code
open Naming (capitalized fieldName isNameChar_of_mem_verbVariant verbVariant verbVariant_eq
  verbVariant_eq_iff)
open Text (isAlpha_eq_true_iff)

/-! ### Tokens -/

/-- A token is made of letters. -/
theorem IsMethodToken.isAlpha {token : String} (h : IsMethodToken token) :
    ∀ c ∈ token.toList, c.isAlpha = true := fun c hc ↦ isAlpha_eq_true_iff.2 (h.2 c hc)

/-- An accepted endpoint has a token, and nothing but tokens. -/
theorem exists_tokens_of_parse {name : String} {document : Json} {e : Endpoint}
    (h : (Endpoint.parse name document).outcome = .ok e) :
    (∃ first more, e.allowedMethods = first :: more) ∧
      ∀ token ∈ e.allowedMethods, IsMethodToken token := by
  obtain ⟨descriptor, url, paths, parts, -, hread⟩ := parse_eq_ok_iff.1 h
  obtain ⟨-, hne, htokens⟩ := parseMethods_eq_ok_iff.1 hread.allowedMethods
  exact ⟨List.exists_cons_of_ne_nil hne, htokens⟩

/-! ### Overloads -/

/-- The body parameters of the overloads that a requirement asks for. -/
def BodyRequirement.params : BodyRequirement → List BodyParam
  | .absent => [.none]
  | .optional => [.typed false, .document false]
  | .required => [.typed true, .document true]

theorem allowedMethods_and_body_of_mem_methodsOf {e : Endpoint} {t : UrlTemplate} {m : Method}
    (hm : m ∈ e.methodsOf t) :
    m.allowedMethods = e.allowedMethods.map verbVariant ∧ m.body ∈ e.body.params := by
  unfold methodsOf at hm
  cases hbody : e.body <;> simp only [hbody, List.mem_cons, List.not_mem_nil, or_false] at hm
  · rw [hm]; exact ⟨rfl, .head _⟩
  · rcases hm with rfl | rfl
    · exact ⟨rfl, .head _⟩
    · exact ⟨rfl, .tail _ (.head _)⟩
  · rcases hm with rfl | rfl
    · exact ⟨rfl, .head _⟩
    · exact ⟨rfl, .tail _ (.head _)⟩

/-! ### The rule -/

/-- What comes of a call by the rule, where the first of the tokens is the default. -/
def ruledOutcome {V : Type} (toDocument : V → Json) (url : List Char) (tokens : List String)
    (default : String) (b : BodyParam) (verb? : Option String) (input : b.Input V) : CallOutcome :=
  let chosen := verb?.getD (verbVariant default)
  if ∃ token ∈ tokens, verbVariant token = chosen then
    .sends ⟨if b ≠ .none ∧ chosen = "Get" then "Post" else chosen, url,
      b.document? toDocument input⟩
  else .refused

/-- **A generated method implements the request rule.** There is a first token, and the variants of
the method are those of the tokens, each one the token capitalized, so that tokens share one just if
they are the same but for case. The text of the method is its first line, its statements and a
brace. Read back and run with what a caller passes for the declared parameters, the statements do
what the rule says, whatever a typed body serializes to and whatever the path evaluates to; and a
call that does not say by which HTTP method is not refused. -/
theorem request_rule {name : String} {document : Json} {e : Endpoint}
    (h : (Endpoint.parse name document).outcome = .ok e) {skip : SkipList} {m : Method}
    (hm : m ∈ e.methods skip) :
    ∃ first more, e.allowedMethods = first :: more ∧
      m.allowedMethods = e.allowedMethods.map verbVariant ∧ m.body ∈ e.body.params ∧
      (∀ token ∈ e.allowedMethods, IsMethodToken token) ∧
      (∀ token, IsMethodToken token →
        verbVariant token = String.ofList (capitalized token.toList)) ∧
      (∀ token other, IsMethodToken token → IsMethodToken other →
        (verbVariant token = verbVariant other ↔
          token.toList.map Char.toLower = other.toList.map Char.toLower)) ∧
      (∀ config, methodItem config m = [.doc (methodDocs m),
        .code (methodOpening config m ++ requestBody m ++ "    \x7d\n")]) ∧
      ∃ statements, readRequest (requestBody m) = some statements ∧
        ∀ (V : Type) (toDocument : V → Json)
          (path : List FormatUnit → List UrlArgument → List Char) (input : m.body.Input V),
          (∀ verb?, (∀ bodyTrait, (arguments m verb? input).map Prod.fst =
              (signature bodyTrait m).map Prod.fst) ∧
            runRequest toDocument path (arguments m verb? input) statements =
              some (ruledOutcome toDocument (path (m.url.flatMap units) (m.url.filterMap argument?))
                e.allowedMethods first m.body verb? input)) ∧
          runRequest toDocument path (arguments m none input) statements ≠ some .refused := by
  obtain ⟨⟨first, more, hallowed⟩, htokens⟩ := exists_tokens_of_parse h
  obtain ⟨t, ht, hmt⟩ := exists_template_of_mem_methods hm
  obtain ⟨hvariants, hbody⟩ := allowedMethods_and_body_of_mem_methodsOf hmt
  have hreserved : ∀ p ∈ m.pathParams, fieldName p.name ∉ reservedIdents := by
    intro p hp
    rw [(pathParams_and_url_of_mem_methodsOf hmt).1] at hp
    exact not_reserved_of_parse h ht hp
  have hread : readRequest (requestBody m) = some (requestStatements m) := by
    refine readRequest_requestBody (by simp [hvariants, hallowed]) ?_
    rw [hvariants]
    exact List.forall_mem_map.2 fun token _ ↦ isNameChar_of_mem_verbVariant token
  have hdefault : m.allowedMethods.headD "Get" = verbVariant first := by
    rw [hvariants, hallowed, List.map_cons, List.headD_cons]
  have hrun (V : Type) (toDocument : V → Json)
      (path : List FormatUnit → List UrlArgument → List Char) (input : m.body.Input V)
      (verb? : Option String) :
      runRequest toDocument path (arguments m verb? input) (requestStatements m) =
        some (ruledOutcome toDocument (path (m.url.flatMap units) (m.url.filterMap argument?))
          e.allowedMethods first m.body verb? input) := by
    rw [runRequest_requestStatements hreserved toDocument path verb? input rfl, hdefault,
      ruledOutcome, hvariants]
    simp only [List.mem_map]
  refine ⟨first, more, hallowed, hvariants, hbody, htokens,
    fun token htoken ↦ verbVariant_eq htoken.isAlpha,
    fun token other htoken hother ↦ verbVariant_eq_iff htoken.isAlpha hother.isAlpha,
    fun config ↦ methodItem_requestBody config m, requestStatements m, hread,
    fun V toDocument path input ↦ ⟨fun verb? ↦ ⟨fun bodyTrait ↦
      map_fst_arguments bodyTrait m verb? input, hrun V toDocument path input verb?⟩, ?_⟩⟩
  have hfirst : ∃ token ∈ e.allowedMethods,
      verbVariant token = (none : Option String).getD (verbVariant first) :=
    ⟨first, by rw [hallowed]; exact List.mem_cons_self, rfl⟩
  rw [hrun, ruledOutcome, if_pos hfirst]
  exact fun h ↦ nomatch h

/-- The default is `Get`, which gives way to `Post` since there may be a body. An HTTP method that
the descriptor does not list is refused. -/
theorem request_rule_of_default :
    let document : Json := .object [("documentation", .string "d"),
      ("methods", .array [.string "get", .string "HEAD"]), ("body", .object []),
      ("url", .object [("paths", .array [.string "/_search"])])]
    let t : UrlTemplate := ⟨"/_search", [.literal "", .literal "_search"]⟩
    let e : Endpoint := ⟨"search", "d", [t], ["get", "HEAD"], .optional⟩
    let m : Method := e.methodWith t "search_json" (.document false)
    (Endpoint.parse "search" document).outcome = .ok e ∧ m ∈ e.methods .none ∧
      ∃ statements, readRequest (requestBody m) = some statements ∧
        ∀ (url : List Char) (json? : Option Json),
          let run (verb? : Option String) : Option CallOutcome :=
            runRequest id (fun _ _ ↦ url) (arguments m verb? json?) statements
          run none = some (.sends ⟨"Post", url, json?⟩) ∧
            run (some "Head") = some (.sends ⟨"Head", url, json?⟩) ∧
            run (some "Post") = some .refused := by
  intro document t e m
  have hparse : (Endpoint.parse "search" document).outcome = .ok e := by rfl
  have hm : m ∈ e.methods .none := by decide +kernel
  have hget : verbVariant "get" = "Get" := by decide +kernel
  have hhead : verbVariant "HEAD" = "Head" := by decide +kernel
  obtain ⟨first, more, hallowed, -, -, -, -, -, -, statements, hread, hrun⟩ :=
    request_rule hparse hm
  obtain ⟨rfl, rfl⟩ : "get" = first ∧ ["HEAD"] = more := List.cons.inj hallowed
  refine ⟨hparse, hm, statements, hread, fun url json? ↦ ?_⟩
  obtain ⟨hruled, -⟩ := hrun Json id (fun _ _ ↦ url) json?
  have hruled (verb? : Option String) := (hruled verb?).2
  have hbody : m.body ≠ .none := fun h ↦ nomatch h
  have hdocument : m.body.document? id json? = json? := rfl
  have hallowed : e.allowedMethods = ["get", "HEAD"] := rfl
  simp only [hruled, ruledOutcome, hallowed, hget, hdocument]
  simp [hget, hhead, hbody]

end ClientSynthesis.Endpoint
