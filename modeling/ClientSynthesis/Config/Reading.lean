import ClientSynthesis.Config.Basic
import ClientSynthesis.Json.Record

/-!
# Reading settings

A settings file is a JSON record. What it leaves out keeps its default, inside the skip list too.
-/

namespace ClientSynthesis

open Endpoint (SkipList)
open Json (Fault Reading RecordField readBool readString readStrings record)

/-- The fields of a skip list, in the order they have when no keys are written. -/
def Endpoint.SkipList.fields : List (RecordField SkipList) :=
  [.of "segments" readStrings fun skip xs => { skip with segments := xs },
   .of "prefixes" readStrings fun skip xs => { skip with prefixes := xs },
   .of "suffixes" readStrings fun skip xs => { skip with suffixes := xs }]

/-- A skip list. -/
def Endpoint.SkipList.read : Reading SkipList := record SkipList.fields .default

namespace Config

/-- The fields of the settings, in the order they have when no keys are written. -/
def fields : List (RecordField Config) :=
  [.of "generate_docs" readBool fun config b => { config with docs := b },
   .of "generate_mod_rs" readBool fun config b => { config with modFile := b },
   .of "runtime_path" readString fun config s => { config with runtimePath := s },
   .of "receiver_type" readString fun config s => { config with receiverType := s },
   .of "body_trait" readString fun config s => { config with bodyTrait := s },
   .of "skip_list" SkipList.read fun config skip => { config with skipList := skip }]

/-- The settings that a text holds. -/
def parse (text : String) : Except Fault Config := Json.whole (record fields default) text

end Config

end ClientSynthesis
