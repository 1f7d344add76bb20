import ClientSynthesis.Proofs.Body.Comparison
import ClientSynthesis.Proofs.Body.CutOff

/-!
# Calls

An elaboration calls itself for a node below an object once it has come there (`Comes`): what is
read before has been read, and the nodes that come before have been elaborated. So it happens in an
elaboration that fails later, too, and this is what a call has over `Situation.Leads`.

A descent is cut off exactly if it makes a call that is cut off with one level less
(`exists_calls_of_cutOff`, `Calls.cutAfter`). What has been defined by then is what was defined
before the call and what the call has defined.
-/

namespace ClientSynthesis.Body

open Descriptor (Error)
open Json (Fields)
open Report (Traced bind_eq_ok_iff)
open Report.Traced

/-! ### Coming to a node -/

/-- Where a node stands in the descriptor of the object above it. -/
inductive Way where
  /-- It is the value of the child container. -/
  | value
  /-- It is an item of the list of the container, or of the object itself if it has none. -/
  | item (inContainer : Bool) (multiplicity : Multiplicity) (index : Nat)
  deriving DecidableEq

/-- An object is elaborated as far as a node below it, with the given definitions on the way. -/
inductive Comes (elaborateChild : Json → Elaborated Element) (descriptor : Fields) (path : String) :
    Way → Json → List Definition → Prop
  | value {container : Option Fields} {containerKey : Option String} {node : Json}
    (hcontainer : descriptor.object? "childContainer" path = .ok container)
    (hkey : (container.getD []).string? "key" path = .ok containerKey)
    (hvalue : (container.getD []).present? "value" = some node) :
    Comes elaborateChild descriptor path .value node []
  | item {container : Option Fields} {containerKey : Option String} {value : Option Element}
    {multiplicity : Multiplicity} {front back : List Json} {node : Json}
    {children : List (Child Element)} {required : Bool}
    (hcontainer : descriptor.object? "childContainer" path = .ok container)
    (hkey : (container.getD []).string? "key" path = .ok containerKey)
    (hvalue : (((container.getD []).present? "value").mapM elaborateChild).outcome = .ok value)
    (hdeclared : declaredChildren (container.getD descriptor) path =
      .ok (multiplicity, front ++ node :: back))
    (hfront : (front.mapM (elaborateItem elaborateChild path)).outcome = .ok children)
    (hrequired : requiredFlag node path = .ok required) :
    Comes elaborateChild descriptor path (.item container.isSome multiplicity front.length) node
      (definitions (((container.getD []).present? "value").mapM elaborateChild) ++
        definitions (front.mapM (elaborateItem elaborateChild path)))

variable {elaborateChild elaborateChild' : Json → Elaborated Element} {descriptor : Fields}
  {path path' : String} {way : Way} {node : Json} {defs : List Definition}

/-- Another elaboration of what stands below comes to the same nodes if it agrees with the first
one. -/
theorem Comes.of_agrees (h : Comes elaborateChild descriptor path way node defs)
    (hagree : ∀ node, Agrees (elaborateChild node) (elaborateChild' node)) (path' : String) :
    Comes elaborateChild' descriptor path' way node defs := by
  cases h with
  | value hcontainer hkey hvalue =>
    exact .value (Fields.typed?_path hcontainer path') (Fields.typed?_path hkey path') hvalue
  | @item container _ value _ front _ _ children _ hcontainer hkey hvalue hdeclared hfront
      hrequired =>
    have hvalueM : Agrees (((container.getD []).present? "value").mapM elaborateChild)
        (((container.getD []).present? "value").mapM elaborateChild') := by
      have h := Agrees.mapM_option (f := elaborateChild) (g := elaborateChild')
        (x := (container.getD []).present? "value") id fun node _ ↦ hagree node
      rwa [Option.map_id_fun, id_eq] at h
    have hfrontM : Agrees (front.mapM (elaborateItem elaborateChild path))
        (front.mapM (elaborateItem elaborateChild' path')) := by
      have h : Agrees (front.mapM (elaborateItem elaborateChild path))
          ((front.map id).mapM (elaborateItem elaborateChild' path')) := .mapM id fun item _ ↦
        .bind (.liftM fun _ h ↦ requiredFlag_path h path') fun _ _ ↦
          .bind (hagree item) fun _ _ ↦ .refl _
      rwa [List.map_id] at h
    obtain ⟨hvalue', hdefs⟩ := hvalueM value hvalue
    obtain ⟨hfront', hdefs'⟩ := hfrontM children hfront
    rw [← hdefs, ← hdefs']
    exact .item (Fields.typed?_path hcontainer path') (Fields.typed?_path hkey path') hvalue'
      (declaredChildren_path hdeclared path') hfront' (requiredFlag_path hrequired path')

/-! ### Cuts below an object -/

theorem CutOff.of_mapM_option {value : Option Json} (h : CutOff (value.mapM elaborateChild)) :
    ∃ node, value = some node ∧ CutOff (elaborateChild node) := by
  cases value with
  | none => exact absurd h (not_cutOff_pure _)
  | some node =>
    rw [Option.mapM_some, map_eq_pure_bind] at h
    rcases h.of_bind with hcut | ⟨_, -, hcut⟩
    · exact ⟨node, rfl, hcut⟩
    · exact absurd hcut (not_cutOff_pure _)

theorem CutOff.of_elaborateItem (h : CutOff (elaborateItem elaborateChild path node)) :
    (∃ required, requiredFlag node path = .ok required) ∧ CutOff (elaborateChild node) := by
  rcases CutOff.of_bind h with hcut | ⟨required, hrequired, hcut⟩
  · exact absurd hcut (not_cutOff_liftM (failsOnly_requiredFlag node path))
  · rcases hcut.of_bind with hcut | ⟨_, -, hcut⟩
    · exact ⟨⟨required, hrequired⟩, hcut⟩
    · exact absurd hcut (not_cutOff_pure _)

/-- If an object is cut off, it is so at a node below it. -/
theorem CutOff.of_elaborateShape (h : CutOff (elaborateShape elaborateChild descriptor path)) :
    ∃ way node defs, Comes elaborateChild descriptor path way node defs ∧
      CutOff (elaborateChild node) := by
  rw [elaborateShape_eq] at h
  rcases h.of_bind with hcut | ⟨container, hcontainer, hcut⟩
  · exact absurd hcut (not_cutOff_liftM (Fields.failsOnly_typed? _ _ _ _ _))
  rcases hcut.of_bind with hcut | ⟨containerKey, hkey, hcut⟩
  · exact absurd hcut (not_cutOff_liftM (Fields.failsOnly_typed? _ _ _ _ _))
  rcases hcut.of_bind with hcut | ⟨value, hvalue, hcut⟩
  · obtain ⟨node, hnode, hcut⟩ := hcut.of_mapM_option
    exact ⟨.value, node, [], .value hcontainer hkey hnode, hcut⟩
  rcases hcut.of_bind with hcut | ⟨⟨multiplicity, items⟩, hdeclared, hcut⟩
  · exact absurd hcut (not_cutOff_liftM (failsOnly_declaredChildren _ _))
  rcases hcut.of_bind with hcut | ⟨children, -, hcut⟩
  · obtain ⟨front, node, back, children, rfl, hfront, hcut⟩ := hcut.of_mapM
    obtain ⟨⟨required, hrequired⟩, hcut⟩ := hcut.of_elaborateItem
    exact ⟨_, node, _, .item hcontainer hkey hvalue hdeclared hfront hrequired, hcut⟩
  · exact absurd hcut (not_cutOff_closeShape _ _ _ _ _)

theorem liftM_ok_bind {α β : Type} (a : α) (f : α → Elaborated β) :
    (liftM (Except.ok a : Except Error α) >>= f : Elaborated β) = f a := rfl

/-- A node below an object that is cut off cuts off the object. -/
theorem Comes.cutAfter (h : Comes elaborateChild descriptor path way node defs)
    (hcut : CutOff (elaborateChild node)) :
    CutAfter defs (elaborateShape elaborateChild descriptor path) (elaborateChild node) := by
  rw [elaborateShape_eq]
  cases h with
  | value hcontainer hkey hvalue =>
    rw [hcontainer, liftM_ok_bind, hkey, liftM_ok_bind, hvalue, Option.mapM_some, map_eq_pure_bind]
    exact ((CutAfter.refl hcut).bind _).bind _
  | item hcontainer hkey hvalue hdeclared hfront hrequired =>
    rw [hcontainer, liftM_ok_bind, hkey, liftM_ok_bind]
    refine .bind_of_ok hvalue ?_
    rw [hdeclared, liftM_ok_bind]
    refine .bind (.mapM hfront ?_ _) _
    rw [elaborateItem, hrequired, liftM_ok_bind]
    exact (CutAfter.refl hcut).bind _

/-! ### Calls of a descent -/

namespace Situation

variable {s s' t : Situation} {levels more : Nat}

/-- The elaboration of a node as a descent comes to it. -/
def descend (s : Situation) (levels : Nat) : Elaborated Element :=
  elaborateAt levels s.scope s.parent s.node

/-- With so many levels below it, an elaboration calls itself for another node, having defined
something before. -/
def Calls (s : Situation) (levels : Nat) (defs : List Definition) (t : Situation) : Prop :=
  ∃ o way, (openNode s.scope s.parent s.node).outcome = .ok o ∧ o.kind = .object ∧
    Comes (elaborateAt levels o.inner o.path) o.descriptor o.path way t.node defs ∧
    t.scope = o.inner ∧ t.parent = o.path

/-- **A descent that is cut off has called itself, and that call is cut off.** -/
theorem exists_calls_of_cutOff (h : CutOff (s.descend (levels + 1))) :
    ∃ defs t, s.Calls levels defs t ∧ CutOff (t.descend levels) := by
  rw [descend, elaborateAt_succ] at h
  rcases h.of_bind with hcut | ⟨o, hopen, hcut⟩
  · exact absurd hcut (not_cutOff_openNode _ _ _)
  rcases hcut.of_bind with hcut | ⟨e, -, hcut⟩
  · rw [fillNode] at hcut
    split at hcut
    · next hkind =>
      rcases hcut.of_bind with hcut | ⟨shape, -, hcut⟩
      · obtain ⟨way, node, defs, hcomes, hcut⟩ := hcut.of_elaborateShape
        exact ⟨defs, ⟨o.inner, o.path, node⟩, ⟨o, way, hopen, hkind, hcomes, rfl, rfl⟩, hcut⟩
      · exact absurd hcut (not_cutOff_pure _)
    · rcases hcut.of_bind with hcut | ⟨options, -, hcut⟩
      · exact absurd hcut (not_cutOff_liftM (Fields.failsOnly_strings? _ _ _))
      · exact absurd hcut (not_cutOff_pure _)
    · exact absurd hcut (not_cutOff_pure _)
  · exact absurd hcut (not_cutOff_closeNode _ _)

/-- **And a call that is cut off cuts off the descent.** -/
theorem Calls.cutAfter {defs : List Definition} (h : s.Calls levels defs t)
    (hcut : CutOff (t.descend levels)) :
    CutAfter defs (s.descend (levels + 1)) (t.descend levels) := by
  obtain ⟨o, way, hopen, hkind, hcomes, hscope, hparent⟩ := h
  have hnode : t.descend levels = elaborateAt levels o.inner o.path t.node := by
    rw [descend, hscope, hparent]
  rw [hnode] at hcut ⊢
  have hfill : CutAfter defs (fillNode (elaborateAt levels o.inner o.path) o)
      (elaborateAt levels o.inner o.path t.node) := by
    rw [fillNode, hkind]
    exact (hcomes.cutAfter hcut).bind _
  have hwhole := CutAfter.bind_of_ok hopen (f := fun o ↦
    fillNode (elaborateAt levels o.inner o.path) o >>= closeNode o.path) (hfill.bind _)
  rwa [definitions_openNode, List.nil_append, ← elaborateAt_succ] at hwhole

/-- What is called with some levels is called with more. -/
theorem Calls.mono {defs : List Definition} (h : s.Calls levels defs t) (hle : levels ≤ more) :
    s.Calls more defs t := by
  obtain ⟨o, way, hopen, hkind, hcomes, hbelow⟩ := h
  exact ⟨o, way, hopen, hkind, hcomes.of_agrees (agrees_of_le hle _ _) _, hbelow⟩

/-- Calls depend on the node and on what names are bound to. -/
theorem Calls.congr {defs : List Definition} (h : s.Calls levels defs t) (hnode : s.node = s'.node)
    (hscope : s.scope.lookup = s'.scope.lookup) :
    ∃ t', s'.Calls levels defs t' ∧ t.node = t'.node ∧ t.scope.lookup = t'.scope.lookup := by
  obtain ⟨o, way, hopen, hkind, hcomes, hbelow, -⟩ := h
  obtain ⟨fields, hobject, hopens⟩ := openNode_eq_ok_iff.1 hopen
  have hopen' := openNode_eq_ok_iff.2 ⟨fields, hnode ▸ hobject, hopens.congr hscope s'.parent⟩
  have hinner : o.inner.lookup = (scopeBelow s'.scope o.descriptor).lookup := by
    rw [hopens.inner]
    exact lookup_scopeBelow_congr hscope o.descriptor
  refine ⟨⟨_, _, t.node⟩, ⟨_, way, hopen', hkind, ?_, rfl, rfl⟩, rfl, hbelow ▸ hinner⟩
  exact hcomes.of_agrees (agrees_of_lookup_eq hinner levels _ _) _

/-- Whether a descent is cut off, and what it defines before that, depends on the node and on what
names are bound to. -/
theorem cutOff_congr (hnode : s.node = s'.node) (hscope : s.scope.lookup = s'.scope.lookup)
    (h : CutOff (s.descend levels)) : CutAfter [] (s'.descend levels) (s.descend levels) := by
  induction levels generalizing s s' with
  | zero => exact ⟨⟨_, rfl⟩, rfl⟩
  | succ levels ih =>
    obtain ⟨defs, t, hcalls, hcut⟩ := exists_calls_of_cutOff h
    obtain ⟨t', hcalls', hnode', hscope'⟩ := hcalls.congr hnode hscope
    have hbelow := ih hnode' hscope' hcut
    have hwhole := hcalls'.cutAfter hbelow.cutOff
    refine ⟨hwhole.cutOff, ?_⟩
    rw [hwhole.definitions_eq, hbelow.definitions_eq, (hcalls.cutAfter hcut).definitions_eq]
    rfl

end Situation

end ClientSynthesis.Body
