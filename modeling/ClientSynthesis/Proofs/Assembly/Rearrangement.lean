import ClientSynthesis.Endpoint.Methods
import ClientSynthesis.Proofs.Assembly.EndlessExpansion
import ClientSynthesis.Proofs.Body.Rearrangement
import ClientSynthesis.Proofs.Endpoint.Rearrangement

/-!
# What a rearrangement leaves as it is

Descriptors that have been rearranged are interpreted alike. For a body this is the equality of
elaborations with the same number of levels, and the bounds of the two documents differ; but the
bound is of no account for whatever comes to an end.
-/

namespace ClientSynthesis.Assembly

open Body (Scope)
open Descriptor (Rearranged)
open Endpoint (SkipList)

/-- A rearranged node in a rearranged scope is interpreted the same, or both are without an end. -/
theorem Registry.sameEnd_interpret_of_rearranged (r : Registry) {scope scope' : Scope}
    {node node' : Json} (hscope : scope.Rearranged scope') (hnode : Rearranged .node node node') :
    (r.interpret scope node).SameEnd (r.interpret scope' node') :=
  r.sameEnd_interpret_of_elaborateAt_eq fun levels ↦
    Body.elaborateAt_eq_of_rearranged hscope.alike hnode levels ""

/-- **A rearrangement makes no difference.** The interpretation of a body leaves the same registry
and the same events, and ends in the same element or the same error, unless the expansion has no end
either way. An endpoint descriptor describes the same endpoint, with the same methods, or has the
same fault. -/
theorem rearrangement_immaterial :
    (∀ (r : Registry) (scope scope' : Scope) (node node' : Json), scope.Rearranged scope' →
      Rearranged .node node node' → (r.interpret scope node).SameEnd (r.interpret scope' node')) ∧
    ∀ (name : String) (skip : SkipList) (document document' : Json),
      Rearranged .endpoint document document' →
        Endpoint.parse name document = Endpoint.parse name document' ∧
        (Endpoint.parse name document).outcome.map (fun e ↦ (e, e.methods skip)) =
          (Endpoint.parse name document').outcome.map fun e ↦ (e, e.methods skip) := by
  refine ⟨fun r _ _ _ _ hscope hnode ↦ r.sameEnd_interpret_of_rearranged hscope hnode, ?_⟩
  intro name skip document document' h
  have hparse := Endpoint.parse_eq_of_rearranged h name
  exact ⟨hparse, by rw [hparse]⟩

/-! ### A range and an endpoint -/

/-- A range with a bound, which is a parameter. -/
def plainRange : Json :=
  .object [("key", .string "range"), ("type", .string "struct"), ("typeName", .string "Range"),
    ("any_of", .array [.object [("key", .string "gte"), ("type", .string "parameter")]])]

/-- The same range with a remark, with its parent blanked out, and in another order. -/
def remarkedRange : Json :=
  .object [("remark", .bool true), ("type", .string "struct"), ("key", .string "range"),
    ("typeName", .string "Range"), ("parent", .null),
    ("any_of", .array [.object [("type", .string "parameter"), ("key", .string "gte")]])]

/-- The table that binds the bound to a number. -/
def plainTable : Json.Fields :=
  [("gte", .object [("key", .string "gte"), ("type", .string "simple"),
    ("typeName", .string "f64")])]

/-- The same table, with options blanked out. -/
def blankedTable : Json.Fields :=
  [("gte", .object [("key", .string "gte"), ("options", .null), ("type", .string "simple"),
    ("typeName", .string "f64")])]

/-- An endpoint. -/
def plainEndpoint : Json :=
  .object [("documentation", .string "Delete."), ("methods", .array [.string "DELETE"]),
    ("url", .object [("paths", .array [.string "/\x7bindex\x7d"]), ("parts", .object [])])]

/-- The same endpoint, with a part blanked out. -/
def blankedEndpoint : Json :=
  .object [("methods", .array [.string "DELETE"]), ("documentation", .string "Delete."),
    ("url", .object [("paths", .array [.string "/\x7bindex\x7d"]),
      ("parts", .object [("index", .null)])])]

theorem rearranged_plainRange : Rearranged .node plainRange remarkedRange := by
  refine .trans (.reordered (.swap _ _ _) (by decide)) ?_
  refine .trans (.unknown [] _ "remark" (.bool true) rfl) ?_
  refine .trans (.null [("remark", .bool true), ("type", .string "struct"),
    ("key", .string "range"), ("typeName", .string "Range")] _ "parent" nofun (by decide)) ?_
  refine .field [("remark", .bool true), ("type", .string "struct"), ("key", .string "range"),
    ("typeName", .string "Range"), ("parent", .null)] _ "any_of" rfl ?_
  exact .item [] _ (.reordered (.swap _ _ _) (by decide))

theorem rearranged_plainTable :
    Rearranged .parameters (.object plainTable) (.object blankedTable) := by
  refine .field [] _ "gte" rfl ?_
  exact .null [("key", .string "gte")] _ "options" nofun (by decide)

theorem rearranged_plainEndpoint : Rearranged .endpoint plainEndpoint blankedEndpoint := by
  refine .trans (.reordered (.swap _ _ _) (by decide)) ?_
  refine .field [("methods", .array [.string "DELETE"]), ("documentation", .string "Delete.")] _
    "url" rfl ?_
  refine .field [("paths", .array [.string "/\x7bindex\x7d"])] _ "parts" rfl ?_
  exact .null [] [] "index" nofun (by decide)

/-- Both come to an end, and so they are the same. -/
theorem rearrangement_immaterial_of_plain :
    Registry.empty.interpret (.ofTables [plainTable]) plainRange =
        Registry.empty.interpret (.ofTables [blankedTable]) remarkedRange ∧
      (Registry.empty.interpret (.ofTables [plainTable]) plainRange).registry.names = ["Range"] ∧
      Endpoint.parse "delete" plainEndpoint = Endpoint.parse "delete" blankedEndpoint := by
  obtain ⟨hbodies, hendpoints⟩ := rearrangement_immaterial
  have hends :
      (Registry.empty.interpret (.ofTables [plainTable]) plainRange).outcome.isOk = true ∧
        (Registry.empty.interpret (.ofTables [plainTable]) plainRange).registry.names =
          ["Range"] := by
    decide +kernel
  have hscope : (Scope.ofTables [plainTable]).Rearranged (.ofTables [blankedTable]) :=
    .cons rearranged_plainTable .nil
  refine ⟨?_, hends.2, (hendpoints "delete" .default _ _ rearranged_plainEndpoint).1⟩
  rcases hbodies .empty _ _ _ _ hscope rearranged_plainRange with heq | ⟨⟨path, hpath⟩, -⟩
  · exact heq
  · rw [hpath] at hends
    exact nomatch hends.1

end ClientSynthesis.Assembly
