import ClientSynthesis.Proofs.Code.RequestReading
import ClientSynthesis.Proofs.Endpoint.Signatures

/-!
# Running request methods

What the statements of a request method do. They run in an environment of variables, where a binding
hides an earlier one of its name, and a statement that finds a variable missing or of another type
is stuck. An assertion that fails refuses the call. What the expression for the path yields has no
bearing on the rest, and is a parameter, as is what a typed body serializes to.

Each statement has its equation, and the run of a generated method follows them in order
(`runRequest_requestStatements`): the default is filled in before the assertion, and the assertion
comes before the replacement, so that a method is never refused for having been replaced.
-/

namespace ClientSynthesis

open Naming (fieldName)

/-! ### Arguments -/

/-- What a caller passes for a body parameter. -/
def BodyParam.Input (V : Type) : BodyParam → Type
  | .none => Unit
  | .typed true => V
  | .typed false => Option V
  | .document true => Json
  | .document false => Option Json

/-- The document that a body parameter asks to be sent: none without a body, and else what is
passed, serialized if it is typed. -/
def BodyParam.document? {V : Type} (toDocument : V → Json) :
    (b : BodyParam) → b.Input V → Option Json
  | .none, _ => Option.none
  | .typed true, value => some (toDocument value)
  | .typed false, value? => Option.map toDocument value?
  | .document true, json => some json
  | .document false, json? => json?

namespace Code

open Endpoint (parameterNames reservedIdents)

variable {V : Type}

/-- What a variable holds. -/
inductive Held (V : Type) where
  /-- The value of a path parameter, of which nothing is asked. -/
  | pathValue
  | verb (variant : String)
  | verb? (variant? : Option String)
  | url (text : List Char)
  | typed (value : V)
  | typed? (value? : Option V)
  | document (json : Json)
  | document? (json? : Option Json)

/-- Variables with what they hold, the latest binding first. -/
abbrev Environment (V : Type) := List (String × Held V)

/-- What the body variable holds, if there is one. -/
def heldBody : (b : BodyParam) → b.Input V → Option (Held V)
  | .none, _ => Option.none
  | .typed true, value => some (.typed value)
  | .typed false, value? => some (.typed? value?)
  | .document true, json => some (.document json)
  | .document false, json? => some (.document? json?)

/-- The variables that a method starts with: its parameters. -/
def arguments (m : Method) (verb? : Option String) (input : m.body.Input V) : Environment V :=
  m.pathParams.map (fun p ↦ (fieldName p.name, .pathValue)) ++
    ("method", .verb? verb?) :: ((heldBody m.body input).map ("body", ·)).toList

/-! ### Running -/

/-- A request as it is constructed. -/
structure Request where
  verb : String
  url : List Char
  body : Option Json
  deriving Repr

/-- What comes of a call. -/
inductive CallOutcome where
  /-- An assertion has failed. -/
  | refused
  | sends (request : Request)
  deriving Repr

/-- What a body argument evaluates to. -/
def BodyArgument.eval? (toDocument : V → Json) (env : Environment V) :
    BodyArgument → Option (Option Json)
  | .none => some Option.none
  | .serialized =>
    match env.lookup "body" with
    | some (.typed value) => some (some (toDocument value))
    | _ => Option.none
  | .serializedIfPresent =>
    match env.lookup "body" with
    | some (.typed? value?) => some (value?.map toDocument)
    | _ => Option.none
  | .document =>
    match env.lookup "body" with
    | some (.document json) => some (some json)
    | _ => Option.none
  | .documentIfPresent =>
    match env.lookup "body" with
    | some (.document? json?) => some json?
    | _ => Option.none

/-- The HTTP method that the variable for it holds. -/
def verbOf? (env : Environment V) : Option String :=
  match env.lookup "method" with
  | some (.verb variant) => some variant
  | _ => none

/-- Run the statements of a method. -/
def runRequest (toDocument : V → Json) (path : List FormatUnit → List UrlArgument → List Char) :
    Environment V → List RequestStatement → Option CallOutcome
  | _, [] => none
  | env, .unwrapMethod default :: rest =>
    match env.lookup "method" with
    | some (.verb? variant?) =>
      runRequest toDocument path (("method", .verb (variant?.getD default)) :: env) rest
    | _ => none
  | env, .assertMethod variants :: rest =>
    (verbOf? env).bind fun variant ↦
      if variant ∈ variants then runRequest toDocument path env rest else some .refused
  | env, .bindUrl units arguments :: rest =>
    runRequest toDocument path (("url", .url (path units arguments)) :: env) rest
  | env, .replaceMethod matched replacement :: rest =>
    (verbOf? env).bind fun variant ↦
      let chosen := if variant = matched then replacement else variant
      runRequest toDocument path (("method", .verb chosen) :: env) rest
  | env, [.construct body] =>
    match env.lookup "url" with
    | some (.url url) => do
      let verb ← verbOf? env
      return .sends ⟨verb, url, ← body.eval? toDocument env⟩
    | _ => none
  | _, .construct _ :: _ :: _ => none

/-! ### Variables -/

/-- A binding hides no variable of another name. -/
theorem lookup_cons_of_ne {name other : String} (h : name ≠ other) (held : Held V)
    (env : Environment V) : List.lookup name ((other, held) :: env) = env.lookup name := by
  rw [List.lookup_cons, beq_false_of_ne h]

theorem verbOf?_cons (variant : String) (env : Environment V) :
    verbOf? (("method", .verb variant) :: env) = some variant := by
  rw [verbOf?, List.lookup_cons_self]

theorem verbOf?_cons_of_ne {other : String} (h : "method" ≠ other) (held : Held V)
    (env : Environment V) : verbOf? ((other, held) :: env) = verbOf? env := by
  rw [verbOf?, lookup_cons_of_ne h, verbOf?]

/-- The variables are those of the rendered signature. -/
theorem map_fst_arguments (bodyTrait : String) (m : Method) (verb? : Option String)
    (input : m.body.Input V) :
    (arguments m verb? input).map Prod.fst = (signature bodyTrait m).map Prod.fst := by
  have hbody (b : BodyParam) (input : b.Input V) :
      ((heldBody b input).map ("body", ·)).toList.map Prod.fst =
        if b = .none then [] else ["body"] := by
    cases b with
    | none => rfl
    | typed required => cases required <;> rfl
    | document required => cases required <;> rfl
  rw [Endpoint.map_fst_signature, parameterNames, arguments, List.map_append, List.map_map,
    List.map_cons, hbody m.body input, Function.comp_def]

/-- A reserved name is not looked for among the path parameters. -/
theorem lookup_arguments {m : Method}
    (hreserved : ∀ p ∈ m.pathParams, fieldName p.name ∉ reservedIdents) (verb? : Option String)
    (input : m.body.Input V) :
    (arguments m verb? input).lookup "method" = some (.verb? verb?) ∧
      (arguments m verb? input).lookup "body" = heldBody m.body input := by
  have hpath : ∀ name ∈ reservedIdents, (m.pathParams.map fun p ↦
      (fieldName p.name, (Held.pathValue : Held V))).lookup name = none := by
    intro name hname
    simp only [List.lookup_eq_none_iff, List.forall_mem_map, bne_iff_ne]
    rintro p hp rfl
    exact hreserved p hp hname
  rw [arguments, List.lookup_append, List.lookup_append, hpath "method" (by decide),
    hpath "body" (by decide), Option.none_or, Option.none_or]
  refine ⟨List.lookup_cons_self, ?_⟩
  rw [lookup_cons_of_ne (by decide)]
  cases heldBody m.body input with
  | none => rfl
  | some held => rw [Option.map_some, Option.toList_some, List.lookup_cons_self]

/-- The body argument for a body parameter evaluates to the document that it asks for. -/
theorem eval?_ofParam (toDocument : V → Json) {b : BodyParam} {input : b.Input V}
    {env : Environment V} (h : env.lookup "body" = heldBody b input) :
    (BodyArgument.ofParam b).eval? toDocument env = some (b.document? toDocument input) := by
  cases b with
  | none => rfl
  | typed required =>
    cases required <;> (rw [BodyArgument.ofParam, BodyArgument.eval?, h]; rfl)
  | document required =>
    cases required <;> (rw [BodyArgument.ofParam, BodyArgument.eval?, h]; rfl)

/-- The variables hold what a request is constructed from. -/
structure Ready (env : Environment V) (variant : String) (url : List Char)
    (held? : Option (Held V)) : Prop where
  verb : verbOf? env = some variant
  url : env.lookup "url" = some (.url url)
  body : env.lookup "body" = held?

/-- They still do when another HTTP method takes the place of the one held. -/
theorem Ready.rebind {env : Environment V} {variant : String} {url : List Char}
    {held? : Option (Held V)} (h : Ready env variant url held?) (other : String) :
    Ready (("method", .verb other) :: env) other url held? where
  verb := verbOf?_cons other env
  url := (lookup_cons_of_ne (by decide) _ env).trans h.url
  body := (lookup_cons_of_ne (by decide) _ env).trans h.body

/-! ### Statements -/

section Statements

variable {toDocument : V → Json} {path : List FormatUnit → List UrlArgument → List Char}
  {env : Environment V} {rest : List RequestStatement}

theorem runRequest_unwrapMethod {variant? : Option String}
    (h : env.lookup "method" = some (.verb? variant?)) (default : String) :
    runRequest toDocument path env (.unwrapMethod default :: rest) =
      runRequest toDocument path (("method", .verb (variant?.getD default)) :: env) rest := by
  rw [runRequest, h]

theorem runRequest_assertMethod {variant : String} (h : verbOf? env = some variant)
    (variants : List String) :
    runRequest toDocument path env (.assertMethod variants :: rest) =
      if variant ∈ variants then runRequest toDocument path env rest else some .refused := by
  rw [runRequest, h, Option.bind_some]

theorem runRequest_bindUrl (units : List FormatUnit) (arguments : List UrlArgument) :
    runRequest toDocument path env (.bindUrl units arguments :: rest) =
      runRequest toDocument path (("url", .url (path units arguments)) :: env) rest := by
  rw [runRequest]

theorem runRequest_replaceMethod {variant : String} (h : verbOf? env = some variant)
    (matched replacement : String) :
    runRequest toDocument path env (.replaceMethod matched replacement :: rest) =
      runRequest toDocument path
        (("method", .verb (if variant = matched then replacement else variant)) :: env) rest := by
  rw [runRequest, h, Option.bind_some]

theorem runRequest_construct {variant : String} {url : List Char} {b : BodyParam}
    {input : b.Input V} (h : Ready env variant url (heldBody b input)) :
    runRequest toDocument path env [.construct (.ofParam b)] =
      some (.sends ⟨variant, url, b.document? toDocument input⟩) := by
  simp only [runRequest, h.url, h.verb, eval?_ofParam toDocument h.body, Option.bind_eq_bind,
    Option.bind_some]
  rfl

end Statements

/-! ### A generated method -/

/-- **A generated method runs as the request rule has it.** The chosen HTTP method is the one given,
or else the default; it is refused unless it is among the allowed ones; what is sent goes by `Post`
in place of `Get` if there is a body; and the body is what the parameter asks for. -/
theorem runRequest_requestStatements {m : Method}
    (hreserved : ∀ p ∈ m.pathParams, fieldName p.name ∉ reservedIdents) (toDocument : V → Json)
    (path : List FormatUnit → List UrlArgument → List Char) (verb? : Option String)
    (input : m.body.Input V) {chosen : String}
    (hchosen : verb?.getD (m.allowedMethods.headD "Get") = chosen) :
    runRequest toDocument path (arguments m verb? input) (requestStatements m) = some
      (if chosen ∈ m.allowedMethods then
        .sends ⟨if m.body ≠ .none ∧ chosen = "Get" then "Post" else chosen,
          path (m.url.flatMap units) (m.url.filterMap argument?), m.body.document? toDocument input⟩
      else .refused) := by
  obtain ⟨hmethod, hbody⟩ := lookup_arguments hreserved verb? input
  have hunwrapped : verbOf? (("method", .verb chosen) :: arguments m verb? input) = some chosen :=
    verbOf?_cons chosen _
  rw [requestStatements, runRequest_unwrapMethod hmethod, hchosen,
    runRequest_assertMethod hunwrapped]
  by_cases hallowed : chosen ∈ m.allowedMethods
  · rw [if_pos hallowed, if_pos hallowed, runRequest_bindUrl]
    generalize path (m.url.flatMap units) (m.url.filterMap argument?) = url
    have hready : Ready (("url", .url url) :: ("method", .verb chosen) :: arguments m verb? input)
        chosen url (heldBody m.body input) :=
      { verb := by rw [verbOf?_cons_of_ne (by decide), hunwrapped]
        url := List.lookup_cons_self
        body := by rw [lookup_cons_of_ne (by decide), lookup_cons_of_ne (by decide), hbody] }
    by_cases hnone : m.body = .none
    · rw [if_pos hnone, List.nil_append, runRequest_construct hready, if_neg (by simp [hnone])]
    · rw [if_neg hnone, List.singleton_append, runRequest_replaceMethod hready.verb,
        runRequest_construct (hready.rebind _)]
      simp [hnone]
  · rw [if_neg hallowed, if_neg hallowed]

end Code

end ClientSynthesis
