import ClientSynthesis.Endpoint.SkipList

/-!
# Settings of a run

What may be chosen about the generated code. Every setting has a default.
-/

namespace ClientSynthesis

/-- The settings of a run. -/
structure Config where
  /-- Write documentation comments. -/
  docs : Bool
  /-- Write a `mod.rs` that declares all generated modules. -/
  modFile : Bool
  /-- The module that the runtime types are imported from. -/
  runtimePath : String
  /-- The type that endpoint methods belong to. -/
  receiverType : String
  /-- The trait of all body types. -/
  bodyTrait : String
  /-- The URL templates to leave out. -/
  skipList : Endpoint.SkipList
  deriving DecidableEq, Repr

/-- The settings used where nothing else is chosen. -/
def Config.default : Config where
  docs := true
  modFile := false
  runtimePath := "crate::runtime"
  receiverType := "Request"
  bodyTrait := "QueryItem"
  skipList := .default

end ClientSynthesis
