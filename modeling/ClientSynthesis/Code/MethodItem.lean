import ClientSynthesis.Code.Chunk
import ClientSynthesis.Code.Url
import ClientSynthesis.Config.Basic

/-!
# Items of a method group

Every generated method builds a request in the same five steps, which are data here: choose the HTTP
method, check that it is allowed, build the path, send a body by `Post` where `Get` was chosen, and
construct the request. `requestSteps` lists the steps a method needs and `RequestStep.text` spells
them.
-/

namespace ClientSynthesis.Code

/-- What a method hands over as the body of the request. -/
inductive BodyArgument where
  | none
  /-- The typed body, serialized. -/
  | serialized
  /-- The typed body, serialized if there is one. -/
  | serializedIfPresent
  /-- The document. -/
  | document
  /-- The document, if there is one. -/
  | documentIfPresent
  deriving DecidableEq, Repr

/-- A body argument as program text. -/
def BodyArgument.text : BodyArgument → String
  | .none => "None"
  | .serialized => "Some(body.to_document())"
  | .serializedIfPresent => "body.map(|body| body.to_document())"
  | .document => "Some(body)"
  | .documentIfPresent => "body"

/-- What is handed over for a body parameter. -/
def BodyArgument.ofParam : BodyParam → BodyArgument
  | .none => .none
  | .typed true => .serialized
  | .typed false => .serializedIfPresent
  | .document true => .document
  | .document false => .documentIfPresent

/-- A step of a generated method. -/
inductive RequestStep where
  /-- Take the HTTP method given, or the default. -/
  | chooseMethod (default : String)
  /-- Refuse an HTTP method that is not among those allowed. -/
  | checkMethod (allowed : List String)
  /-- Build the path. -/
  | buildUrl (url : UrlExpression)
  /-- Send by `Post` what would be sent by `Get`. -/
  | promoteGet
  /-- Construct the request. -/
  | construct (body : BodyArgument)
  deriving DecidableEq, Repr

/-- A step as program text. -/
def RequestStep.text : RequestStep → String
  | .chooseMethod default =>
    "        let method = method.unwrap_or(HttpMethod::" ++ default ++ ");\n"
  | .checkMethod allowed =>
    "        assert!(matches!(method, " ++
      " | ".intercalate (allowed.map ("HttpMethod::" ++ ·)) ++ "));\n"
  | .buildUrl url => "        let url = " ++ url.text ++ ";\n"
  | .promoteGet =>
    "        let method = if matches!(method, HttpMethod::Get) \x7b HttpMethod::Post \x7d " ++
      "else \x7b method \x7d;\n"
  | .construct body => "        Self::new(method, url, " ++ body.text ++ ")\n"

/-- The steps of a method. -/
def requestSteps (m : Method) : List RequestStep :=
  [.chooseMethod (m.allowedMethods.headD "Get"), .checkMethod m.allowedMethods,
   .buildUrl (.ofParts m.url)] ++
  (if m.body = .none then [] else [.promoteGet]) ++
  [.construct (.ofParam m.body)]

/-! ### Signatures -/

/-- The type of a path parameter. -/
def pathParamType : PathParamKind → String
  | .scalar => "&str"
  | .list => "&[&str]"

/-- The type of the body parameter, if there is one. -/
def bodyParamType? (bodyTrait : String) : BodyParam → Option String
  | .none => none
  | .typed true => some ("&dyn " ++ bodyTrait)
  | .typed false => some ("Option<&dyn " ++ bodyTrait ++ ">")
  | .document true => some "Value"
  | .document false => some "Option<Value>"

/-- The parameters of a method with their types: those of the path, the HTTP method, the body. -/
def signature (bodyTrait : String) (m : Method) : List (String × String) :=
  m.pathParams.map (fun p => (Naming.fieldName p.name, pathParamType p.kind)) ++
    ("method", "Option<HttpMethod>") ::
    ((bodyParamType? bodyTrait m.body).map ("body", ·)).toList

/-- The documentation of a method: that of the endpoint, and a line for each parameter. -/
def methodDocs (m : Method) : String :=
  docComment "    " m.documentation ++ "    ///\n" ++
  String.join (m.pathParams.map fun p =>
    docComment "    " ("- `" ++ p.name ++ "`: " ++ p.description)) ++
  "    /// - `method`: The http method used to execute the request\n" ++
  (if m.body = .none then "" else "    /// - `body`: The body to be sent with the request\n")

/-- The chunks of a method. -/
def methodItem (config : Config) (m : Method) : List Chunk :=
  [.doc (methodDocs m),
   .code ("    pub fn " ++ m.ident ++ "(" ++
    ", ".intercalate ((signature config.bodyTrait m).map fun (ident, type) =>
      ident ++ ": " ++ type) ++
    ") -> Self \x7b\n" ++
    String.join ((requestSteps m).map RequestStep.text) ++
    "    \x7d\n")]

/-- The chunks of the methods of an endpoint, with blank lines between them. -/
def groupItem (config : Config) (group : MethodGroup) : List Chunk :=
  .code ("impl " ++ config.receiverType ++ " \x7b\n") ::
    [Chunk.code "\n"].intercalate (group.methods.map (methodItem config)) ++
    [.code "\x7d\n"]

end ClientSynthesis.Code
