import ClientSynthesis.Proofs.Assembly.Reached
import ClientSynthesis.Proofs.Code.EnumReading
import Mathlib.Data.List.FinRange
import Mathlib.Data.Set.Function

/-!
# Wire values of enums

An option of an enum goes two ways. It names a variant, after case conversion and escapes that may
merge it with another option, and it is the text that the variant stands for, behind the escapes of
a string literal. An enum is defined only where the first way keeps the options apart, and the
second loses nothing, so in the generated program variants and options correspond to each other
exactly (`wire_values_exact`).

Variants are compared as they are written. Whether a compiler that normalises identifiers tells them
apart is another question.
-/

namespace ClientSynthesis

open Naming (variantName isNameChar_of_mem_variantName)
open Report (bind_eq_ok_iff)
open Report.Traced (bind_outcome_eq_ok_iff)

/-! ### Options and variants -/

/-- **Options have variants just if the names of the variants are injective on their positions.** -/
theorem EnumCase.exists_ofOptions_iff {options : List String} {path : String} :
    (∃ cases, EnumCase.ofOptions options path = .ok cases) ↔
      Function.Injective fun i : Fin options.length ↦ variantName options[i] := by
  have hidents : (options.map fun option ↦ (⟨variantName option, option⟩ : EnumCase)).map
      EnumCase.ident = List.ofFn fun i : Fin options.length ↦ variantName options[i] := by
    conv_lhs => rw [← @List.ofFn_getElem _ options, List.map_ofFn, List.map_ofFn]
    rfl
  rw [← List.nodup_ofFn, ← hidents]
  constructor
  · rintro ⟨cases, h⟩
    obtain ⟨hnodup, rfl⟩ := EnumCase.ofOptions_eq_ok_iff.1 h
    exact hnodup
  · exact fun hnodup ↦ ⟨_, EnumCase.ofOptions_eq_ok_iff.2 ⟨hnodup, rfl⟩⟩

/-! ### Where options come from -/

/-- A list of strings that may be missing is read exactly where an array of just these strings
stands, or nothing. -/
theorem Json.Fields.strings?_eq_ok_iff {fields : Json.Fields} {key path : String}
    {strings? : Option (List String)} : fields.strings? key path = .ok strings? ↔
      fields.present? key = strings?.map fun strings ↦ .array (strings.map .string) := by
  rw [Json.Fields.strings?, bind_eq_ok_iff]
  constructor
  · rintro ⟨items?, hitems, h⟩
    cases items? with
    | none =>
      obtain rfl := Except.ok.inj h
      exact Json.Fields.typed?_eq_ok_none_iff.1 hitems
    | some items =>
      obtain ⟨read, hread, h⟩ := bind_eq_ok_iff.1 h
      obtain rfl := Except.ok.inj h
      rw [Json.Fields.array?_eq_ok_some_iff_present?.1 hitems,
        Json.Fields.stringItems_eq_ok_iff.1 hread, Option.map_some]
  · intro h
    cases strings? with
    | none => exact ⟨none, Json.Fields.typed?_eq_ok_none_iff.2 h, rfl⟩
    | some strings =>
      refine ⟨some _, Json.Fields.array?_eq_ok_some_iff_present?.2 h, ?_⟩
      exact bind_eq_ok_iff.2 ⟨strings, Json.Fields.stringItems_eq_ok_iff.2 rfl, rfl⟩

namespace Body

/-- What a descriptor lists as options: nothing, if it does not say. -/
def ListsOptions (descriptor : Json.Fields) (options : List String) : Prop :=
  ∃ listed? : Option (List String), options = listed?.getD [] ∧
    descriptor.present? "options" = listed?.map fun listed ↦ .array (listed.map .string)

theorem fillNode_outcome_eq_enum_iff {elaborateChild : Json → Elaborated Element} {o : Opened}
    {head : Head} {options : List String} :
    (fillNode elaborateChild o).outcome = .ok (.enum head options) ↔
      o.kind = .enum ∧ o.head = head ∧ ListsOptions o.descriptor options := by
  unfold fillNode
  cases o.kind with
  | object =>
    rw [bind_outcome_eq_ok_iff]
    constructor
    · rintro ⟨shape, -, h⟩
      exact nomatch h
    · exact fun h ↦ nomatch h.1
  | enum =>
    rw [bind_outcome_eq_ok_iff]
    constructor
    · rintro ⟨listed?, hlisted, h⟩
      obtain ⟨hhead, rfl⟩ := Element.enum.inj (Except.ok.inj h)
      exact ⟨rfl, hhead, listed?, rfl, Json.Fields.strings?_eq_ok_iff.1 hlisted⟩
    · rintro ⟨-, rfl, listed?, rfl, hlisted⟩
      exact ⟨listed?, Json.Fields.strings?_eq_ok_iff.2 hlisted, rfl⟩
  | leaf kind => exact ⟨nofun, nofun⟩

/-- A descent reads an enum: it visits a node that opens to one, whose descriptor lists the options. -/
def Situation.ReadsEnum (s : Situation) (o : Opened) (options : List String) : Prop :=
  ∃ t, s.Visits t ∧ (openNode t.scope t.parent t.node).outcome = .ok o ∧ o.kind = .enum ∧
    ListsOptions o.descriptor options

/-- What is elaborated to an enum where a descent comes by is read by the descent. -/
theorem Situation.Visits.readsEnum {s t : Situation} (h : s.Visits t) {levels : Nat} {head : Head}
    {options : List String}
    (hok : (elaborateAt levels t.scope t.parent t.node).outcome = .ok (.enum head options)) :
    ∃ o, s.ReadsEnum o options ∧ o.head = head := by
  obtain ⟨below, o, hopen, hfill⟩ := exists_opened_of_elaborateAt hok
  obtain ⟨hkind, hhead, hlists⟩ := fillNode_outcome_eq_enum_iff.1 hfill
  exact ⟨o, ⟨t, h, hopen, hkind, hlists⟩, hhead⟩

end Body

/-! ### What a match gives -/

/-- The first of distinct keys is the only one. -/
theorem lookup_eq_some_of_mem {α β : Type} [BEq α] [LawfulBEq α] {pairs : List (α × β)}
    (h : (pairs.map Prod.fst).Nodup) {p : α × β} (hp : p ∈ pairs) :
    pairs.lookup p.1 = some p.2 := by
  obtain ⟨before, after, rfl⟩ := List.append_of_mem hp
  rw [List.map_append, List.map_cons, List.nodup_append] at h
  refine List.lookup_eq_some_iff.2 ⟨before, after, rfl, fun q hq ↦ ?_⟩
  have hne : q.1 ≠ p.1 := h.2.2 _ (List.mem_map_of_mem hq) _ List.mem_cons_self
  simpa using hne.symm

/-- A match with distinct variants and distinct texts gives every variant a text of its own. -/
theorem bijOn_lookup {α β : Type} [BEq α] [LawfulBEq α] {pairs : List (α × β)}
    (hfst : (pairs.map Prod.fst).Nodup) (hsnd : (pairs.map Prod.snd).Nodup) :
    Set.BijOn (fun a ↦ pairs.lookup a) {a | a ∈ pairs.map Prod.fst}
      (some '' {b | b ∈ pairs.map Prod.snd}) := by
  have hlookup : ∀ p ∈ pairs, pairs.lookup p.1 = some p.2 :=
    fun p hp ↦ lookup_eq_some_of_mem hfst hp
  refine ⟨?_, ?_, ?_⟩
  · intro a ha
    obtain ⟨p, hp, rfl⟩ := List.mem_map.1 ha
    exact ⟨p.2, List.mem_map_of_mem hp, (hlookup p hp).symm⟩
  · intro a ha b hb heq
    obtain ⟨p, hp, rfl⟩ := List.mem_map.1 ha
    obtain ⟨q, hq, rfl⟩ := List.mem_map.1 hb
    have hsame : some p.2 = some q.2 := (hlookup p hp).symm.trans (heq.trans (hlookup q hq))
    rw [List.inj_on_of_nodup_map hsnd hp hq (Option.some.inj hsame)]
  · rintro _ ⟨b, hb, rfl⟩
    obtain ⟨p, hp, rfl⟩ := List.mem_map.1 hb
    exact ⟨p.1, List.mem_map_of_mem hp, hlookup p hp⟩

namespace Assembly.Registry

open Body (Element Scope Situation)

/-- An enum is the definition of an enum, from which it has its name, its wire key and its cases. -/
theorem exists_enum_of_ofElement? {e : Element} {path name : String} {type : TypeDefinition}
    {cases : List EnumCase} (h : Definition.ofElement? e path = .ok (some ⟨name, .type type⟩))
    (hshape : type.shape = .enum cases) :
    ∃ head options, e = .enum head options ∧ head.typeName = name ∧ head.key = type.wireKey ∧
      EnumCase.ofOptions options path = .ok cases := by
  cases e with
  | object head object =>
    obtain ⟨shape, -, hd⟩ := Body.ofElement?_object_eq_ok_iff.1 h
    obtain ⟨-, hkind⟩ := Definition.mk.inj (Option.some.inj hd)
    obtain rfl := DefinitionKind.type.inj hkind
    exact nomatch hshape
  | enum head options =>
    obtain ⟨cases', hofOptions, hd⟩ := Body.ofElement?_enum_eq_ok_iff.1 h
    obtain ⟨rfl, hkind⟩ := Definition.mk.inj (Option.some.inj hd)
    obtain rfl := DefinitionKind.type.inj hkind
    obtain rfl := TypeShape.enum.inj hshape
    exact ⟨head, options, rfl, rfl, rfl, hofOptions⟩
  | leaf head kind => exact nomatch h

/-- **Wire values survive exactly.** A list of options makes an enum just if the names of the
variants are injective on its positions, and then pairs each name with its option, in order. And
whatever enum a history leaves in a registry, it leaves it for a descriptor that was read on the way
and lists options. In the text of the enum each option has its variant, all of them distinct; the
match over the variants has one arm for each, in the same order; and reading the literals of the arms
gives back the options. So the function with the match is a bijection from the variants to the
options, whatever these are. -/
theorem wire_values_exact :
    (∀ (options : List String) (path : String),
      ((∃ cases, EnumCase.ofOptions options path = .ok cases) ↔
        Function.Injective fun i : Fin options.length ↦ variantName options[i]) ∧
      ∀ cases, EnumCase.ofOptions options path = .ok cases →
        cases = options.map fun option ↦ ⟨variantName option, option⟩) ∧
    ∀ (history : List (Scope × Json)) {name : String} {type : TypeDefinition} {cases : List EnumCase},
      (empty.interpretEach history).type? name = some type → type.shape = .enum cases →
      ∃ options,
      (∃ entry ∈ history, ∃ o, Situation.ReadsEnum ⟨entry.1, "", entry.2⟩ o options ∧
        o.head.typeName = name ∧ o.head.key = type.wireKey) ∧
      cases = options.map (fun option ↦ ⟨variantName option, option⟩) ∧
      ∀ config : Config, ∃ text,
        Code.readEnum name (Code.render config.docs (Code.typeItem config name type)) = some text ∧
        text.variants = options.map variantName ∧ text.variants.Nodup ∧
        text.arms.map Prod.fst = text.variants ∧ text.arms.map Prod.snd = options ∧
        Set.BijOn text.asStr {variant | variant ∈ text.variants}
          (some '' {option | option ∈ options}) := by
  refine ⟨fun options path ↦ ⟨EnumCase.exists_ofOptions_iff,
    fun cases h ↦ (EnumCase.ofOptions_eq_ok_iff.1 h).2⟩, ?_⟩
  intro history name type cases htype hshape
  obtain ⟨entry, hentry, levels, t, e, path, hvisits, hok, hdefines⟩ :=
    exists_origin_of_mem_content (mem_content_of_type? htype)
  obtain ⟨head, options, rfl, hname, hkey, hofOptions⟩ := exists_enum_of_ofElement? hdefines hshape
  obtain ⟨hnodup, rfl⟩ := EnumCase.ofOptions_eq_ok_iff.1 hofOptions
  obtain ⟨o, hreads, rfl⟩ := hvisits.readsEnum hok
  refine ⟨options, ⟨entry, hentry, o, hreads, hname, hkey⟩, rfl, fun config ↦ ?_⟩
  have hnamed : ∀ case ∈ options.map fun option ↦ (⟨variantName option, option⟩ : EnumCase),
      ∀ c ∈ case.ident.toList, Naming.isNameChar c = true :=
    List.forall_mem_map.2 fun option _ ↦ isNameChar_of_mem_variantName option
  have hread := Code.readEnum_render config.docs name type hnamed
  have hitem : Code.typeItem config name type = Code.enumItem name type
      (options.map fun option ↦ ⟨variantName option, option⟩) := by
    rw [Code.typeItem, hshape]
  let arms := options.map fun option ↦ (variantName option, option)
  have hidents : (options.map fun option ↦ (⟨variantName option, option⟩ : EnumCase)).map
      EnumCase.ident = options.map variantName := List.map_map
  have harms : (options.map fun option ↦ (⟨variantName option, option⟩ : EnumCase)).map
      (fun c ↦ (c.ident, c.wireValue)) = arms := List.map_map
  have hvariants : arms.map Prod.fst = options.map variantName := List.map_map
  have hvalues : arms.map Prod.snd = options := List.map_map.trans (List.map_id options)
  rw [hidents] at hnodup
  rw [← hitem, hidents, harms] at hread
  have hbijOn : Set.BijOn (fun variant ↦ arms.lookup variant) _ _ :=
    bijOn_lookup (by rwa [hvariants]) (by rw [hvalues]; exact hnodup.of_map variantName)
  rw [hvariants, hvalues] at hbijOn
  exact ⟨⟨_, arms⟩, hread, rfl, hnodup, hvariants, hvalues, hbijOn⟩

/-- An enum whose options begin with a digit, need escapes, and are not ASCII; and two options that
have no letters, which cannot be told apart. -/
theorem wire_values_exact_of_unit :
    let options := ["1h", "say \"hi\"\n", "größe"]
    let node := Json.object [("key", .string "unit"), ("type", .string "enum"),
      ("typeName", .string "Unit"), ("options", .array (options.map .string))]
    let type : TypeDefinition := ⟨"unit", none,
      .enum [⟨"V1h", "1h"⟩, ⟨"SayHi", "say \"hi\"\n"⟩, ⟨"Größe", "größe"⟩]⟩
    (empty.interpretEach [(.root, node)]).type? "Unit" = some type ∧
    (∃ o, Situation.ReadsEnum ⟨.root, "", node⟩ o options ∧ o.head.typeName = "Unit") ∧
    (∃ text, Code.readEnum "Unit" (Code.render true (Code.typeItem .default "Unit" type)) =
        some text ∧
      text.variants = ["V1h", "SayHi", "Größe"] ∧ text.arms.map Prod.snd = options ∧
      Set.BijOn text.asStr {variant | variant ∈ text.variants}
        (some '' {option | option ∈ options})) ∧
    ¬ ∃ cases, EnumCase.ofOptions ["*", "-"] "unit" = .ok cases := by
  intro options node type
  have htype : (empty.interpretEach [(.root, node)]).type? "Unit" = some type := by decide +kernel
  obtain ⟨hoptions, henums⟩ := wire_values_exact
  obtain ⟨listed, ⟨entry, hentry, o, hreads, hname, -⟩, hcases, htexts⟩ :=
    henums [(.root, node)] htype rfl
  obtain rfl : options = listed := by
    have hvalues := congrArg (List.map EnumCase.wireValue) hcases
    rw [List.map_map] at hvalues
    exact hvalues.trans (List.map_id listed)
  obtain ⟨text, hread, hvariants, -, -, hvalues, hbijOn⟩ := htexts .default
  obtain rfl := List.mem_singleton.1 hentry
  refine ⟨htype, ⟨o, hreads, hname⟩, ⟨text, hread, ?_, hvalues, hbijOn⟩, fun hcases ↦ ?_⟩
  · rw [hvariants]
    decide +kernel
  · have hinjective := (hoptions ["*", "-"] "unit").1.1 hcases
    have hsame : variantName "*" = variantName "-" := by decide +kernel
    exact absurd (@hinjective 0 1 hsame) (by decide)

end Assembly.Registry

end ClientSynthesis
