import ClientSynthesis.Files.Kind
import ClientSynthesis.Json.Lexeme

/-!
# Errors

An error is a cause together with the place it was found. The place of a descriptor fault is the
dotted path of the node, that of a file fault the path of the file. `Defect.message` and
`Error.message` hold the whole wording.
-/

namespace ClientSynthesis.Descriptor

/-- What is wrong with a descriptor. -/
inductive Defect where
  | notAnObject (found : String)
  | missingString (key : String)
  | missingList (key : String)
  | missingObject (key : String)
  | mismatch (key expected found : String)
  | itemNotAString (found : String)
  | unknownKind (token : String)
  | chainedReference (parameter : String)
  | childrenBesideValue
  | valueWithoutKey
  | sharedField (ident : String)
  | sharedVariant (ident : String)
  | noMethods
  | invalidMethod (token : String)
  | unknownPartType (token : String)
  | reservedPart (part ident : String)
  | documentNotAnObject
  deriving DecidableEq, Repr

/-- A defect in words. -/
def Defect.message : Defect → String
  | .notAnObject found => "expected an object, found " ++ found
  | .missingString key => "missing required string '" ++ key ++ "'"
  | .missingList key => "missing required array '" ++ key ++ "'"
  | .missingObject key => "missing required object '" ++ key ++ "'"
  | .mismatch key expected found => "'" ++ key ++ "' must be " ++ expected ++ ", found " ++ found
  | .itemNotAString found => "expected a string, found " ++ found
  | .unknownKind token => "unknown kind '" ++ token ++ "'"
  | .chainedReference parameter =>
    "parameter '" ++ parameter ++ "' resolves to another parameter reference"
  | .childrenBesideValue => "an object cannot declare both children and a container value"
  | .valueWithoutKey => "a container value requires a container key"
  | .sharedField ident => "two fields map to the identifier '" ++ ident ++ "'"
  | .sharedVariant ident => "two options map to the variant '" ++ ident ++ "'"
  | .noMethods => "'methods' must not be empty"
  | .invalidMethod token => "invalid HTTP method token '" ++ token ++ "'"
  | .unknownPartType token => "unknown part type '" ++ token ++ "'"
  | .reservedPart part ident =>
    "part '" ++ part ++ "' clashes with the generated '" ++ ident ++ "' parameter"
  | .documentNotAnObject => "top-level document must be a JSON object"

/-- Why loading or interpreting descriptors stopped. -/
inductive Error where
  /-- A descriptor is not formed as it has to be. -/
  | invalid (path : String) (defect : Defect)
  /-- No enclosing parameter table binds a reference. -/
  | unresolvedParameter (name path : String)
  /-- Two definitions of one name differ. -/
  | nameConflict (name : String)
  /-- A parameter fragment contains a reference to itself, so its expansion has no end. -/
  | endlessExpansion (path : String)
  /-- A file does not hold the JSON expected of it. -/
  | document (path : String) (fault : Json.Fault)
  /-- A file operation failed. -/
  | file (path : String) (kind : Files.Kind)
  deriving DecidableEq, Repr

/-- An error in words. -/
def Error.message : Error → String
  | .invalid path defect => "invalid descriptor at '" ++ path ++ "': " ++ defect.message
  | .unresolvedParameter name path =>
    "unresolved parameter reference '" ++ name ++ "' at '" ++ path ++ "'"
  | .nameConflict name => "duplicate definition '" ++ name ++ "' with different content"
  | .endlessExpansion path => "endless parameter expansion at '" ++ path ++ "'"
  | .document path fault =>
    "malformed JSON document " ++ path ++ ": " ++
      match fault with
      | .malformed => "the text is not JSON"
      | .truncated => "the text ends too early"
      | .mistyped => "a value has the wrong type"
  | .file path kind => "IO error on " ++ path ++ ": " ++ kind.message

end ClientSynthesis.Descriptor
