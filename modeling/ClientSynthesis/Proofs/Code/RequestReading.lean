import ClientSynthesis.Proofs.Code.WholeLines
import ClientSynthesis.Proofs.Naming.Variants

/-!
# Reading request methods

The body of a generated method is read back line by line, into statements that say no more than
their text does: which variant a missing HTTP method is replaced by, which variants an assertion
lets pass, which variant gives way to which, and what is handed over as the body. What a statement
does is said elsewhere, so that a method is judged by its text and not by the steps that it was
printed from.

Variants have to be made of name characters, as those of tokens are, and there has to be at least
one of them, since a pattern is never empty.
-/

namespace ClientSynthesis.Code

open Naming (isNameChar)
open Text

/-- A statement of a method that builds a request. -/
inductive RequestStatement where
  /-- Bind the HTTP method to the one given, or else to a variant. -/
  | unwrapMethod (default : String)
  /-- Assert that the HTTP method is one of some variants. -/
  | assertMethod (variants : List String)
  /-- Bind the path. -/
  | bindUrl (units : List FormatUnit) (arguments : List UrlArgument)
  /-- Bind the HTTP method to another variant if it is a certain one. -/
  | replaceMethod (matched replacement : String)
  /-- The request, made of the HTTP method, the path and a body. -/
  | construct (body : BodyArgument)
  deriving DecidableEq, Repr

/-! ### Readers -/

/-- A variant at the start. -/
def readVerb (cs : List Char) : Option (String × List Char) :=
  (expect "HttpMethod::" cs).map (readRun isNameChar)

/-- A further variant of a pattern, behind the bar. -/
def readAlternative (cs : List Char) : Option (String × List Char) :=
  (expect " | " cs).bind readVerb

/-- The variant for a missing HTTP method. -/
def readUnwrap (cs : List Char) : Option RequestStatement := do
  let (default, cs) ← readVerb cs
  if cs = ");".toList then return .unwrapMethod default else none

/-- The variants that an assertion lets pass. -/
def readAssert (cs : List Char) : Option RequestStatement := do
  let (first, cs) ← readVerb cs
  return .assertMethod (first :: (← readItems "));".toList readAlternative cs))

/-- The expression for the path, up to its semicolon. -/
def readBindUrl (cs : List Char) : Option RequestStatement :=
  if cs.getLast? = some ';' then
    (readUrl (String.ofList cs.dropLast)).map fun (units, arguments) ↦ .bindUrl units arguments
  else none

/-- The variant that gives way, and the one that takes its place. -/
def readReplace (cs : List Char) : Option RequestStatement := do
  let (matched, cs) ← readVerb cs
  let (replacement, cs) ← readVerb (← expect ") \x7b " cs)
  if cs = " \x7d else \x7b method \x7d;".toList then return .replaceMethod matched replacement
  else none

/-- The body that is handed over. -/
def readConstruct (cs : List Char) : Option RequestStatement :=
  ([.none, .serialized, .serializedIfPresent, .document, .documentIfPresent].find?
    fun body : BodyArgument ↦ (body.text ++ ")").toList = cs).map .construct

/-- How the lines of a method body begin, and what reads the rest of each. -/
def requestForms : List (String × (List Char → Option RequestStatement)) :=
  [("        let method = method.unwrap_or(", readUnwrap),
    ("        assert!(matches!(method, ", readAssert),
    ("        let url = ", readBindUrl),
    ("        let method = if matches!(method, ", readReplace),
    ("        Self::new(method, url, ", readConstruct)]

/-- A line of a method body. -/
def readRequestLine (cs : List Char) : Option RequestStatement :=
  requestForms.findSome? fun form ↦ (expect form.1 cs).bind form.2

/-- The statements of a method body, which ends with its last line. -/
def readRequest (text : String) : Option (List RequestStatement) :=
  let pieces := split '\n' text.toList
  if pieces.getLast? = some [] then pieces.dropLast.mapM readRequestLine else none

/-! ### The body of a method -/

/-- The body of a generated method. -/
def requestBody (m : Method) : String := String.join ((requestSteps m).map RequestStep.text)

/-- The first line of a generated method, up to its body. -/
def methodOpening (config : Config) (m : Method) : String :=
  "    pub fn " ++ m.ident ++ "(" ++
    ", ".intercalate ((signature config.bodyTrait m).map fun (ident, type) ↦
      ident ++ ": " ++ type) ++ ") -> Self \x7b\n"

/-- The text of a method is that body between its first line and a brace. -/
theorem methodItem_requestBody (config : Config) (m : Method) :
    methodItem config m = [.doc (methodDocs m),
      .code (methodOpening config m ++ requestBody m ++ "    \x7d\n")] := rfl

theorem requestBody_eq (m : Method) :
    requestBody m = unlines ((requestSteps m).map RequestStep.line) := by
  rw [requestBody, unlines_map]
  exact congrArg String.join (List.map_congr_left fun s _ ↦ s.text_eq)

/-- The statements that a method is read as. -/
def requestStatements (m : Method) : List RequestStatement :=
  .unwrapMethod (m.allowedMethods.headD "Get") :: .assertMethod m.allowedMethods ::
    .bindUrl (m.url.flatMap units) (m.url.filterMap argument?) ::
      ((if m.body = .none then [] else [.replaceMethod "Get" "Post"]) ++
        [.construct (.ofParam m.body)])

/-! ### Lines are read back -/

/-- No line begins in two ways, so each is read by the reader for how it begins. -/
theorem readRequestLine_append {form : String × (List Char → Option RequestStatement)}
    (hform : form ∈ requestForms) (rest : List Char) :
    readRequestLine (form.1.toList ++ rest) = form.2 rest := by
  have hapart : requestForms.Pairwise fun f g ↦
      ¬ f.1.toList <+: g.1.toList ∧ ¬ g.1.toList <+: f.1.toList := by decide
  rw [readRequestLine]
  generalize requestForms = forms at hform hapart
  induction forms with
  | nil => exact nomatch hform
  | cons f later ih =>
    obtain ⟨hfirst, hlater⟩ := List.pairwise_cons.1 hapart
    rcases List.mem_cons.1 hform with rfl | hmem
    · have hnone : later.findSome? (fun g ↦ (expect g.1 (form.1.toList ++ rest)).bind g.2) =
          none := by
        refine List.findSome?_eq_none_iff.2 fun g hg ↦ ?_
        obtain ⟨hfg, hgf⟩ := hfirst g hg
        rw [expect_append_eq_none hgf hfg]
        rfl
      rw [List.findSome?_cons, expect_append, Option.bind_some, hnone]
      cases form.2 rest <;> rfl
    · obtain ⟨hfg, hgf⟩ := hfirst form hmem
      rw [List.findSome?_cons, expect_append_eq_none hfg hgf]
      exact ih hmem hlater

/-- A variant is read up to a character that cannot belong to it. -/
theorem readVerb_append {variant : String} (h : ∀ c ∈ variant.toList, isNameChar c = true)
    {rest : List Char} (hrest : ∃ c closed, rest = c :: closed ∧ isNameChar c = false) :
    readVerb ("HttpMethod::".toList ++ (variant.toList ++ rest)) = some (variant, rest) := by
  obtain ⟨c, closed, rfl, hc⟩ := hrest
  rw [readVerb, expect_append, Option.map_some, readRun_append h hc]

theorem readUnwrap_text {variant : String} (h : ∀ c ∈ variant.toList, isNameChar c = true) :
    readUnwrap ("HttpMethod::".toList ++ (variant.toList ++ ");".toList)) =
      some (.unwrapMethod variant) := by
  have hread := readVerb_append h ⟨')', _, (rfl : ");".toList = _), by decide⟩
  rw [readUnwrap, hread]
  rfl

/-- A further variant of a pattern as program text, behind the bar. -/
def alternativeText (variant : String) : List Char :=
  " | ".toList ++ ("HttpMethod::".toList ++ variant.toList)

/-- Variants with bars between them are the first one, and the others with a bar before each. -/
theorem toList_intercalate_verbs (first : String) (more : List String) :
    (" | ".intercalate ((first :: more).map ("HttpMethod::" ++ ·))).toList =
      "HttpMethod::".toList ++ (first.toList ++ more.flatMap alternativeText) := by
  induction more generalizing first with
  | nil => simp
  | cons next rest ih =>
    rw [List.map_cons, List.map_cons, String.intercalate_cons_cons, String.toList_append,
      String.toList_append, String.toList_append, ← List.map_cons, ih next, List.flatMap_cons,
      alternativeText]
    simp only [List.append_assoc]

theorem readAssert_text {first : String} {more : List String}
    (h : ∀ variant ∈ first :: more, ∀ c ∈ variant.toList, isNameChar c = true) :
    readAssert ((" | ".intercalate ((first :: more).map ("HttpMethod::" ++ ·))).toList ++
      "));".toList) = some (.assertMethod (first :: more)) := by
  obtain ⟨hfirst, hmore⟩ := List.forall_mem_cons.1 h
  -- Behind a variant stands the bar before the next one, or a parenthesis.
  have hbehind (later : List String) : ∃ c closed,
      later.flatMap alternativeText ++ "));".toList = c :: closed ∧ isNameChar c = false := by
    cases later with
    | nil => exact ⟨')', _, rfl, by decide⟩
    | cons next rest => exact ⟨' ', _, rfl, by decide⟩
  have hitems : readItems "));".toList readAlternative
      (more.flatMap alternativeText ++ "));".toList) = some more := by
    refine readItems_flatMap (fun variant hvariant later ↦ ?_) fun variant _ ↦ List.cons_ne_nil _ _
    rw [alternativeText, List.append_assoc, List.append_assoc, readAlternative, expect_append]
    exact readVerb_append (hmore variant hvariant) (hbehind later)
  rw [toList_intercalate_verbs, List.append_assoc, List.append_assoc, readAssert,
    readVerb_append hfirst (hbehind more)]
  simp only [Option.bind_eq_bind, Option.bind_some, hitems]
  rfl

theorem readBindUrl_text (parts : List UrlPart) :
    readBindUrl ((UrlExpression.ofParts parts).text.toList ++ [';']) =
      some (.bindUrl (parts.flatMap units) (parts.filterMap argument?)) := by
  rw [readBindUrl, List.getLast?_concat, if_pos rfl, List.dropLast_concat, String.ofList_toList,
    readUrl_text]
  rfl

theorem readReplace_text : readReplace
    "HttpMethod::Get) \x7b HttpMethod::Post \x7d else \x7b method \x7d;".toList =
      some (.replaceMethod "Get" "Post") := by
  decide

theorem readConstruct_text (body : BodyArgument) :
    readConstruct (body.text ++ ")").toList = some (.construct body) := by
  cases body <;> decide

-- The lines are taken apart where the readers take them apart, by equations of their literals.

theorem readRequestLine_chooseMethod {variant : String}
    (h : ∀ c ∈ variant.toList, isNameChar c = true) :
    readRequestLine (RequestStep.chooseMethod variant).line.toList =
      some (.unwrapMethod variant) := by
  have hline : (RequestStep.chooseMethod variant).line.toList =
      "        let method = method.unwrap_or(".toList ++
        ("HttpMethod::".toList ++ (variant.toList ++ ");".toList)) := by
    have hopening : "        let method = method.unwrap_or(HttpMethod::".toList =
        "        let method = method.unwrap_or(".toList ++ "HttpMethod::".toList := rfl
    delta RequestStep.line
    simp only [String.toList_append, hopening, List.append_assoc]
  have hform : ("        let method = method.unwrap_or(", readUnwrap) ∈ requestForms := .head _
  rw [hline]
  exact (readRequestLine_append hform _).trans (readUnwrap_text h)

theorem readRequestLine_checkMethod {first : String} {more : List String}
    (h : ∀ variant ∈ first :: more, ∀ c ∈ variant.toList, isNameChar c = true) :
    readRequestLine (RequestStep.checkMethod (first :: more)).line.toList =
      some (.assertMethod (first :: more)) := by
  have hline : (RequestStep.checkMethod (first :: more)).line.toList =
      "        assert!(matches!(method, ".toList ++
        ((" | ".intercalate ((first :: more).map ("HttpMethod::" ++ ·))).toList ++
          "));".toList) := by
    delta RequestStep.line
    simp only [String.toList_append, List.append_assoc]
  have hform : ("        assert!(matches!(method, ", readAssert) ∈ requestForms :=
    .tail _ (.head _)
  rw [hline]
  exact (readRequestLine_append hform _).trans (readAssert_text h)

theorem readRequestLine_buildUrl (parts : List UrlPart) :
    readRequestLine (RequestStep.buildUrl (.ofParts parts)).line.toList =
      some (.bindUrl (parts.flatMap units) (parts.filterMap argument?)) := by
  have hline : (RequestStep.buildUrl (.ofParts parts)).line.toList =
      "        let url = ".toList ++ ((UrlExpression.ofParts parts).text.toList ++ [';']) := by
    have hend : ";".toList = [';'] := rfl
    delta RequestStep.line
    simp only [String.toList_append, hend, List.append_assoc]
  have hform : ("        let url = ", readBindUrl) ∈ requestForms := .tail _ (.tail _ (.head _))
  rw [hline]
  exact (readRequestLine_append hform _).trans (readBindUrl_text parts)

theorem readRequestLine_promoteGet :
    readRequestLine RequestStep.promoteGet.line.toList = some (.replaceMethod "Get" "Post") := by
  have hline : RequestStep.promoteGet.line.toList =
      "        let method = if matches!(method, ".toList ++
        "HttpMethod::Get) \x7b HttpMethod::Post \x7d else \x7b method \x7d;".toList := by
    decide
  have hform : ("        let method = if matches!(method, ", readReplace) ∈ requestForms :=
    .tail _ (.tail _ (.tail _ (.head _)))
  rw [hline]
  exact (readRequestLine_append hform _).trans readReplace_text

theorem readRequestLine_construct (body : BodyArgument) :
    readRequestLine (RequestStep.construct body).line.toList = some (.construct body) := by
  have hline : (RequestStep.construct body).line.toList =
      "        Self::new(method, url, ".toList ++ (body.text ++ ")").toList := by
    delta RequestStep.line
    simp only [String.toList_append, List.append_assoc]
  have hform : ("        Self::new(method, url, ", readConstruct) ∈ requestForms :=
    .tail _ (.tail _ (.tail _ (.tail _ (.head _))))
  rw [hline]
  exact (readRequestLine_append hform _).trans (readConstruct_text body)

/-- **The body of a method is read back**, line by line. -/
theorem readRequest_requestBody {m : Method} (hne : m.allowedMethods ≠ [])
    (h : ∀ variant ∈ m.allowedMethods, ∀ c ∈ variant.toList, isNameChar c = true) :
    readRequest (requestBody m) = some (requestStatements m) := by
  have hwhole : ∀ l ∈ (requestSteps m).map RequestStep.line, '\n' ∉ l.toList := by
    have hverbs : ∀ verb ∈ m.allowedMethods, '\n' ∉ verb.toList :=
      fun verb hverb hmem ↦ absurd (h verb hverb '\n' hmem) (by decide)
    exact List.forall_mem_map.2 fun s hs ↦ (innerLine_requestStep hverbs s hs).1
  obtain ⟨first, more, hallowed⟩ := List.exists_cons_of_ne_nil hne
  rw [hallowed] at h
  have hlines : ((requestSteps m).map fun s ↦ s.line.toList).mapM readRequestLine =
      some (requestStatements m) := by
    have hchoose := readRequestLine_chooseMethod (h first List.mem_cons_self)
    unfold requestSteps requestStatements
    rw [hallowed]
    split_ifs <;>
      simp only [List.map_append, List.map_cons, List.map_nil, List.headD_cons, List.mapM_append,
        List.mapM_cons, List.mapM_nil, hchoose, readRequestLine_checkMethod h,
        readRequestLine_buildUrl, readRequestLine_promoteGet, readRequestLine_construct] <;> rfl
  rw [requestBody_eq, readRequest, split_unlines hwhole, List.map_map]
  simp only [List.getLast?_concat, if_true, List.dropLast_concat]
  exact hlines

end ClientSynthesis.Code
