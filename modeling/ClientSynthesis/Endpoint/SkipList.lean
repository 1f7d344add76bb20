import ClientSynthesis.Endpoint.Template

/-!
# Skip lists

Some URL templates of a descriptor collection are irregular, and no method is generated for them. A
skip list names them by a literal segment, or by the beginning or the end of the path as written.
-/

namespace ClientSynthesis.Endpoint

/-- Which URL templates to leave out. -/
structure SkipList where
  /-- Literal segments. -/
  segments : List String
  /-- Beginnings of a path. -/
  prefixes : List String
  /-- Ends of a path. -/
  suffixes : List String
  deriving DecidableEq, Repr

namespace SkipList

/-- The list used unless another one is configured: aliases, warmers, mappings and diagnostics. -/
def default : SkipList where
  segments := ["_aliases", "_warmers", "_mappings", "hotthreads"]
  prefixes := ["/_cluster/nodes", "/_update_by_query"]
  suffixes := ["/\x7btype\x7d/_mapping"]

/-- The list that leaves nothing out. -/
def none : SkipList := ⟨[], [], []⟩

/-- Whether a template is left out. -/
def excludes (skip : SkipList) (t : UrlTemplate) : Bool :=
  (t.segments.any fun
    | .literal text => skip.segments.contains text
    | .placeholder _ => false) ||
  skip.prefixes.any (fun p => p.toList.isPrefixOf t.path.toList) ||
  skip.suffixes.any (fun s => s.toList.isSuffixOf t.path.toList)

/-! ### Interface -/

@[simp] theorem excludes_none (t : UrlTemplate) : none.excludes t = false := by
  simp only [excludes, none, List.any_nil, Bool.or_false, List.any_eq_false]
  intro segment _
  cases segment <;> simp

end SkipList

end ClientSynthesis.Endpoint
