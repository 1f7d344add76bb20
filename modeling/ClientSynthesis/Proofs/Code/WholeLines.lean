import ClientSynthesis.Proofs.Code.Imports
import ClientSynthesis.Proofs.Code.ModuleLines
import ClientSynthesis.Proofs.Code.UrlReading
import Mathlib.Tactic.SplitIfs

/-!
# Lines that are not broken

Names, types and identifiers stand in a module as they were given, and so do the settings that it has
a use for. Only a line feed in one of these texts (`givenTexts`) can break a line. Keys and
documentation cannot: a literal holds no line feed, and a comment is made line by line. So a definition
whose texts have no line feed is written in whole lines (`OneLine`).

What begins with a letter at the margin of a module is an import or the head of an item
(`moduleHeads`); everything else is indented, a brace, an attribute or a comment. A reader of heads thus
finds what it finds in these few lines (`filterMap_split_moduleText`).
-/

namespace ClientSynthesis.Text

theorem forall_mem_intercalate {α : Type} {p : α → Prop} {sep : List α} {ls : List (List α)}
    (hsep : ∀ a ∈ sep, p a) (h : ∀ l ∈ ls, ∀ a ∈ l, p a) : ∀ a ∈ sep.intercalate ls, p a := by
  induction ls with
  | nil => exact nofun
  | cons l rest ih =>
    obtain ⟨hl, hrest⟩ := List.forall_mem_cons.1 h
    cases rest with
    | nil => simpa using hl
    | cons next more =>
      rw [List.intercalate_cons_cons]
      simp only [List.forall_mem_append]
      exact ⟨⟨hl, hsep⟩, ih hrest⟩

theorem not_mem_intercalate {c : Char} {sep : String} {ls : List String} (hsep : c ∉ sep.toList)
    (h : ∀ l ∈ ls, c ∉ l.toList) : c ∉ (sep.intercalate ls).toList := by
  rw [String.toList_intercalate]
  have hne : ∀ a ∈ sep.toList.intercalate (ls.map String.toList), a ≠ c :=
    forall_mem_intercalate (fun a ha heq ↦ hsep (heq ▸ ha))
      (List.forall_mem_map.2 fun l hl a ha heq ↦ h l hl (heq ▸ ha))
  exact fun hmem ↦ hne c hmem rfl

/-- A literal holds no line feed. -/
theorem not_mem_quotedChars (cs : List Char) : '\n' ∉ quotedChars cs := by
  have hchar (c : Char) : '\n' ∉ quotedChar c := by
    unfold quotedChar
    split_ifs with hquote hback hfeed
    all_goals simp [not_mem_hexDigits fun d ↦ Nat.digitChar_ne '\n' (by decide)]
    exact Ne.symm hfeed
  simp [quotedChars, hchar]

end ClientSynthesis.Text

namespace ClientSynthesis.Code

open Assembly (Registry)
open Naming (fieldName isNameChar isNameChar_of_mem_fieldName)
open Text

/-- Whether a line begins with a small letter. -/
def isHead (line : List Char) : Bool := line.head?.any Char.isLower

/-- A line that is not broken and is not a head. -/
def InnerLine (line : String) : Prop := '\n' ∉ line.toList ∧ isHead line.toList = false

theorem innerLine_ofList {cs : List Char} (h : '\n' ∉ cs ∧ isHead cs = false) :
    InnerLine (String.ofList cs) := by
  rw [InnerLine, String.toList_ofList]
  exact h

theorem isHead_blank (cs : List Char) : isHead (' ' :: cs) = false := rfl

/-- A reader that expects a text of a head finds nothing in a line that is none. -/
theorem expect_eq_none {token : String} {line : List Char} (htoken : isHead token.toList = true)
    (hline : isHead line = false) : expect token line = none := by
  refine Option.eq_none_iff_forall_ne_some.2 fun rest hrest ↦ ?_
  rw [← expect_eq_some_iff.1 hrest, isHead] at hline
  rw [isHead] at htoken
  cases htext : token.toList with
  | nil => exact absurd htoken (by rw [htext]; decide)
  | cons c cs =>
    rw [htext, List.head?_cons] at htoken
    rw [htext, List.cons_append, List.head?_cons, htoken] at hline
    exact absurd hline (by decide)

/-- Lines of which none is broken, and their heads. -/
structure Heads (ls heads : List String) : Prop where
  whole : ∀ l ∈ ls, '\n' ∉ l.toList
  filter_eq : (ls.filter fun l ↦ isHead l.toList) = heads

theorem Heads.nil : Heads [] [] := ⟨nofun, rfl⟩

theorem Heads.of_inner {ls : List String} (h : ∀ l ∈ ls, InnerLine l) : Heads ls [] where
  whole l hl := (h l hl).1
  filter_eq := List.filter_eq_nil_iff.2 fun l hl ↦ by simp [(h l hl).2]

theorem Heads.append {ls ms heads others : List String} (hl : Heads ls heads)
    (hm : Heads ms others) : Heads (ls ++ ms) (heads ++ others) where
  whole := List.forall_mem_append.2 ⟨hl.whole, hm.whole⟩
  filter_eq := by rw [List.filter_append, hl.filter_eq, hm.filter_eq]

theorem Heads.cons_inner {l : String} {ls heads : List String} (hl : InnerLine l)
    (h : Heads ls heads) : Heads (l :: ls) heads :=
  (Heads.of_inner (List.forall_mem_singleton.2 hl)).append h

theorem Heads.cons {l : String} {ls heads : List String}
    (hl : '\n' ∉ l.toList ∧ isHead l.toList = true) (h : Heads ls heads) :
    Heads (l :: ls) (l :: heads) where
  whole := List.forall_mem_cons.2 ⟨hl.1, h.whole⟩
  filter_eq := by
    rw [List.filter_cons, if_pos hl.2, h.filter_eq]

theorem Heads.flatMap {α : Type} {as : List α} {f g : α → List String}
    (h : ∀ a ∈ as, Heads (f a) (g a)) : Heads (as.flatMap f) (as.flatMap g) := by
  induction as with
  | nil => exact .nil
  | cons a rest ih =>
    obtain ⟨ha, hrest⟩ := List.forall_mem_cons.1 h
    exact ha.append (ih hrest)

/-- A reader of heads reads the heads. -/
theorem Heads.filterMap_eq {α : Type} {ls heads : List String} (h : Heads ls heads)
    {read : List Char → Option α} (hread : ∀ line, isHead line = false → read line = none) :
    (split '\n' (unlines ls).toList).filterMap read = heads.filterMap fun l ↦ read l.toList := by
  rw [filterMap_split_unlines (hread [] rfl) h.whole, ← h.filter_eq, List.filterMap_filter]
  refine List.filterMap_congr fun l _ ↦ ?_
  split_ifs with hhead
  · rfl
  · exact hread _ (Bool.eq_false_iff.2 hhead)

theorem not_mem_fieldName (name : String) : '\n' ∉ (fieldName name).toList := fun h ↦
  absurd (isNameChar_of_mem_fieldName name '\n' h) (by decide)

/-! ### Documentation -/

/-- A line of documentation is a comment, and is not broken. -/
theorem exists_of_mem_docLines {text line : List Char} (h : line ∈ docLines text) :
    ∃ rest, line = "///".toList ++ rest ∧ '\n' ∉ rest := by
  have hline : ∀ piece, '\n' ∉ piece → ∃ rest, docLine piece = "///".toList ++ rest ∧ '\n' ∉ rest := by
    intro piece hpiece
    unfold docLine
    split_ifs
    · exact ⟨[], rfl, List.not_mem_nil⟩
    · refine ⟨' ' :: trimEnd piece, rfl, ?_⟩
      have htrim : '\n' ∉ trimEnd piece := fun hmem ↦ hpiece (by
        rw [trimEnd, List.mem_reverse] at hmem
        exact List.mem_reverse.1 ((List.dropWhile_sublist _).subset hmem))
      simp [htrim]
  unfold docLines at h
  split at h
  · exact ⟨[], by simpa using h, List.not_mem_nil⟩
  · obtain ⟨piece, hpiece, rfl⟩ := List.mem_map.1 h
    exact hline piece (not_mem_of_mem_lines hpiece)

/-- A line of a comment is one behind the indentation. -/
theorem exists_of_mem_commentLines {indent text line : String} (h : line ∈ commentLines indent text) :
    ∃ rest, line.toList = (indent ++ "///").toList ++ rest ∧ '\n' ∉ rest := by
  obtain ⟨comment, hcomment, rfl⟩ := List.mem_map.1 h
  obtain ⟨rest, rfl, hrest⟩ := exists_of_mem_docLines hcomment
  exact ⟨rest, by simp, hrest⟩

theorem not_mem_commentLines {indent : String} (h : '\n' ∉ indent.toList) (text : String) :
    ∀ l ∈ commentLines indent text, '\n' ∉ l.toList := by
  intro l hl
  obtain ⟨rest, hline, hrest⟩ := exists_of_mem_commentLines hl
  simp [hline, h, hrest]

theorem innerLine_commentLines {indent : String} (h : indent = "" ∨ indent = "    ") (text : String) :
    ∀ l ∈ commentLines indent text, InnerLine l := by
  intro l hl
  obtain ⟨rest, hline, hrest⟩ := exists_of_mem_commentLines hl
  rcases h with rfl | rfl <;> simp [InnerLine, isHead, hline, hrest]

/-! ### Types -/

theorem not_mem_fieldText {config : Config} {f : Field} (htrait : '\n' ∉ config.bodyTrait.toList)
    (hident : '\n' ∉ f.ident.toList) (htype : ∀ name ∈ f.type.referenced?, '\n' ∉ name.toList) :
    '\n' ∉ (fieldText config f).toList := by
  have hbase : '\n' ∉ (fieldTypeText config f).toList := by
    unfold fieldTypeText
    cases hf : f.type with
    | named name | list name =>
      have hname : '\n' ∉ name.toList := htype name (by rw [hf]; rfl)
      dsimp only
      split_ifs <;> simp [hname]
    | polymorphic =>
      dsimp only
      split_ifs <;> simp [htrait]
  simp [fieldText, hident, hbase]

theorem heads_structLines {config : Config} {name : String} {shape : StructShape}
    (hname : '\n' ∉ name.toList)
    (hfields : ∀ f ∈ shape.fields, '\n' ∉ (fieldText config f).toList)
    (hidents : ∀ f ∈ shape.fields, '\n' ∉ f.ident.toList) :
    Heads (structLines config name shape)
      ["pub struct " ++ name ++ " \x7b", "impl " ++ name ++ " \x7b"] := by
  have hparams : '\n' ∉ (", ".intercalate (shape.fields.map (fieldText config))).toList :=
    not_mem_intercalate (by decide) (List.forall_mem_map.2 hfields)
  have hinits : '\n' ∉ (", ".intercalate (shape.fields.map (·.ident))).toList :=
    not_mem_intercalate (by decide) (List.forall_mem_map.2 hidents)
  have hdeclared : ∀ l ∈ (shape.fields.map (fieldText config)).map fun f ↦ "    pub " ++ f ++ ",",
      InnerLine l := by
    refine List.forall_mem_map.2 (List.forall_mem_map.2 fun f hf ↦ ?_)
    simp [InnerLine, isHead, hfields f hf]
  unfold structLines
  dsimp only
  generalize ", ".intercalate (shape.fields.map (fieldText config)) = params at hparams ⊢
  generalize ", ".intercalate (shape.fields.map (·.ident)) = inits at hinits ⊢
  refine ((Heads.cons_inner (innerLine_ofList (by decide)) (.cons ?_ (.nil))).append
    (.of_inner hdeclared)).append (.cons_inner (innerLine_ofList (by decide))
      (.cons_inner (innerLine_ofList (by decide)) (.cons ?_ (.of_inner ?_))))
  · simp [isHead, hname]
  · simp [isHead, hname]
  · simp only [List.forall_mem_cons]
    refine ⟨?_, ?_, innerLine_ofList (by decide), innerLine_ofList (by decide),
      innerLine_ofList (by decide), nofun⟩
    · simp [InnerLine, isHead, hparams]
    · split_ifs
      · exact innerLine_ofList (by decide)
      · simp [InnerLine, isHead, hinits]

theorem not_mem_insertLine {indent : String} {map : LocalMap} {key : KeyExpression}
    {value : ValueExpression} (hindent : '\n' ∉ indent.toList)
    (hkey : ∀ ident ∈ key.idents, '\n' ∉ ident.toList)
    (hvalue : ∀ ident ∈ value.idents, '\n' ∉ ident.toList) :
    '\n' ∉ (insertLine indent map key value).toList := by
  have hmap : '\n' ∉ map.ident.toList := by cases map <;> decide
  have hkeyText : '\n' ∉ key.text.toList := by
    cases key with
    | fixed text => simp [KeyExpression.text, not_mem_quotedChars]
    | container ident => simpa [KeyExpression.text] using hkey ident List.mem_cons_self
  have hvalueText : '\n' ∉ value.text.toList := by
    have hother (map : LocalMap) : '\n' ∉ (ValueExpression.object map).text.toList := by
      cases map <;> decide
    cases value with
    | null | emptyObject => decide
    | object map => exact hother map
    | encoded place encoding =>
      have hplace : '\n' ∉ place.text.toList := by
        cases place with
        | field ident => simpa [Place.text] using hvalue ident List.mem_cons_self
        | bound => decide
      cases encoding <;> simp [ValueExpression.text, hplace]
  simp [insertLine, hindent, hmap, hkeyText, hvalueText]

theorem innerLine_of_statement {s : Statement} (h : ∀ ident ∈ s.idents, '\n' ∉ ident.toList) :
    ∀ l ∈ s.lines, InnerLine l := by
  have hinsert (indent : String) (rest : List Char) (hindent : indent.toList = ' ' :: rest)
      (map : LocalMap) (key : KeyExpression) (value : ValueExpression) :
      isHead (insertLine indent map key value).toList = false := by
    simp [insertLine, hindent, isHead_blank]
  cases s with
  | declare map | result map =>
    have hmap : '\n' ∉ map.ident.toList := by cases map <;> decide
    refine List.forall_mem_singleton.2 ?_
    simp [InnerLine, isHead_blank, hmap]
  | insert map key value =>
    obtain ⟨hkey, hvalue⟩ := List.forall_mem_append.1 h
    refine List.forall_mem_singleton.2 ⟨not_mem_insertLine (by decide) hkey hvalue, ?_⟩
    exact hinsert "        " _ rfl map key value
  | insertIfPresent ident map key value =>
    obtain ⟨hident, hrest⟩ := List.forall_mem_cons.1 h
    obtain ⟨hkey, hvalue⟩ := List.forall_mem_append.1 hrest
    refine List.forall_mem_cons.2 ⟨⟨by simp [hident], by simp [isHead_blank]⟩,
      List.forall_mem_cons.2 ⟨⟨not_mem_insertLine (by decide) hkey hvalue, ?_⟩,
        List.forall_mem_singleton.2 (innerLine_ofList (by decide))⟩⟩
    exact hinsert "            " _ rfl map key value

theorem heads_serializerLines {config : Config} {name : String} (wireKey : String)
    {shape : StructShape} (hname : '\n' ∉ name.toList) (htrait : '\n' ∉ config.bodyTrait.toList)
    (hidents : ∀ ident ∈ shapeIdents shape, '\n' ∉ ident.toList) :
    Heads (serializerLines config name wireKey shape)
      ["impl " ++ config.bodyTrait ++ " for " ++ name ++ " \x7b"] := by
  have hstatements : ∀ s ∈ serializer wireKey shape, ∀ l ∈ s.lines, InnerLine l := fun s hs ↦
    innerLine_of_statement fun ident h ↦ hidents ident (idents_serializer wireKey shape s hs h)
  have hclosing : ∀ l ∈ ["    \x7d", "\x7d"], InnerLine l :=
    List.forall_mem_cons.2 ⟨innerLine_ofList (by decide),
      List.forall_mem_singleton.2 (innerLine_ofList (by decide))⟩
  unfold serializerLines
  refine ((Heads.cons ?_ (.cons_inner (innerLine_ofList (by decide)) (.nil))).append
    (.of_inner (List.forall_mem_flatMap.2 hstatements))).append (.of_inner hclosing)
  simp [isHead, hname, htrait]

theorem heads_enumLines {name : String} {cases : List EnumCase} (hname : '\n' ∉ name.toList)
    (hcases : ∀ c ∈ cases, '\n' ∉ c.ident.toList) :
    Heads (enumLines name cases) ["pub enum " ++ name ++ " \x7b", "impl " ++ name ++ " \x7b"] := by
  have hcase : ∀ l ∈ cases.map fun c ↦ "    " ++ c.ident ++ ",", InnerLine l :=
    List.forall_mem_map.2 fun c hc ↦ by simp [InnerLine, isHead_blank, hcases c hc]
  unfold enumLines
  refine ((Heads.cons_inner (innerLine_ofList (by decide)) (.cons ?_ (.nil))).append
    (.of_inner hcase)).append (.cons_inner (innerLine_ofList (by decide))
      (.cons_inner (innerLine_ofList (by decide)) (.cons ?_ (.nil))))
  · simp [isHead, hname]
  · simp [isHead, hname]

theorem innerLine_armLines {name : String} {cases : List EnumCase} (hname : '\n' ∉ name.toList)
    (hcases : ∀ c ∈ cases, '\n' ∉ c.ident.toList) : ∀ l ∈ armLines name cases, InnerLine l := by
  have harm : ∀ c ∈ cases, InnerLine (armLine name c) := fun c hc ↦ by
    unfold armLine
    simp [InnerLine, isHead_blank, hname, hcases c hc, not_mem_quotedChars]
  unfold armLines
  simp only [List.forall_mem_append, List.forall_mem_cons, List.forall_mem_map]
  exact ⟨⟨⟨innerLine_ofList (by decide), innerLine_ofList (by decide), nofun⟩, harm⟩,
    innerLine_ofList (by decide), innerLine_ofList (by decide), innerLine_ofList (by decide), nofun⟩

theorem heads_conversionLines {name parent : String} (hname : '\n' ∉ name.toList)
    (hparent : '\n' ∉ parent.toList) :
    Heads (conversionLines name parent)
      ["impl From<" ++ name ++ "> for " ++ parent ++ " \x7b"] := by
  unfold conversionLines
  refine .cons_inner (innerLine_ofList (by decide)) (.cons ?_ (.of_inner ?_))
  · simp [isHead, hname, hparent]
  · simp only [List.forall_mem_cons]
    refine ⟨?_, ?_, innerLine_ofList (by decide), innerLine_ofList (by decide), nofun⟩
    · simp [InnerLine, isHead_blank, hname]
    · simp [InnerLine, isHead_blank, hparent]

/-! ### Methods -/

theorem innerLine_methodDocLines (m : Method) : ∀ l ∈ methodDocLines m, InnerLine l := by
  have hcomment (text : String) : ∀ l ∈ commentLines "    " text, InnerLine l :=
    innerLine_commentLines (.inr rfl) text
  unfold methodDocLines
  simp only [List.forall_mem_append, List.forall_mem_cons, List.forall_mem_flatMap]
  refine ⟨⟨⟨⟨hcomment _, innerLine_ofList (by decide), nofun⟩, fun p _ ↦ hcomment _⟩,
    innerLine_ofList (by decide), nofun⟩, ?_⟩
  split_ifs
  · exact nofun
  · exact List.forall_mem_singleton.2 (innerLine_ofList (by decide))

theorem not_mem_urlText (parts : List UrlPart) :
    '\n' ∉ (UrlExpression.ofParts parts).text.toList := by
  unfold UrlExpression.ofParts
  dsimp only
  split_ifs
  · simp [UrlExpression.text, not_mem_quotedChars]
  · have harguments : '\n' ∉ (", ".intercalate ((parts.filterMap argument?).map fun a ↦
        if a.joined then a.ident ++ ".join(\",\")" else a.ident)).toList := by
      refine not_mem_intercalate (by decide) (List.forall_mem_map.2 fun a ha ↦ ?_)
      obtain ⟨part, -, hpart⟩ := List.mem_filterMap.1 ha
      have hident : '\n' ∉ a.ident.toList := fun h ↦
        absurd (isNameChar_of_argument? hpart '\n' h) (by decide)
      split_ifs <;> simp [hident]
    unfold UrlExpression.text
    dsimp only
    generalize ", ".intercalate _ = arguments at harguments ⊢
    simp [not_mem_quotedChars, harguments]

theorem innerLine_requestStep {m : Method} (hallowed : ∀ verb ∈ m.allowedMethods, '\n' ∉ verb.toList) :
    ∀ s ∈ requestSteps m, InnerLine s.line := by
  have hdefault : '\n' ∉ (m.allowedMethods.headD "Get").toList := by
    cases hmethods : m.allowedMethods with
    | nil => decide
    | cons verb rest => exact hallowed verb (by rw [hmethods]; exact List.mem_cons_self)
  have hverbs : '\n' ∉ (" | ".intercalate (m.allowedMethods.map ("HttpMethod::" ++ ·))).toList := by
    refine not_mem_intercalate (by decide) (List.forall_mem_map.2 fun verb hverb ↦ ?_)
    simp [hallowed verb hverb]
  have hbody (argument : BodyArgument) : InnerLine (RequestStep.construct argument).line := by
    have htext : '\n' ∉ argument.text.toList := by cases argument <;> decide
    unfold RequestStep.line
    simp [InnerLine, isHead_blank, htext]
  unfold requestSteps
  simp only [List.forall_mem_append, List.forall_mem_cons]
  refine ⟨⟨⟨?_, ?_, ?_, nofun⟩, ?_⟩, hbody _, nofun⟩
  · unfold RequestStep.line
    generalize m.allowedMethods.headD "Get" = default at hdefault ⊢
    simp [InnerLine, isHead_blank, hdefault]
  · unfold RequestStep.line
    dsimp only
    generalize " | ".intercalate _ = verbs at hverbs ⊢
    simp [InnerLine, isHead_blank, hverbs]
  · unfold RequestStep.line
    simp [InnerLine, isHead_blank, not_mem_urlText]
  · split_ifs
    · exact nofun
    · refine List.forall_mem_singleton.2 ?_
      unfold RequestStep.line
      simp [InnerLine, isHead_blank]

theorem innerLine_methodLines {config : Config} {m : Method} (htrait : '\n' ∉ config.bodyTrait.toList)
    (hident : '\n' ∉ m.ident.toList) (hallowed : ∀ verb ∈ m.allowedMethods, '\n' ∉ verb.toList) :
    ∀ l ∈ methodLines config m, InnerLine l := by
  unfold methodLines
  generalize htext : ", ".intercalate _ = params
  have hparams : '\n' ∉ params.toList := by
    rw [← htext]
    refine not_mem_intercalate (by decide) (List.forall_mem_map.2 ?_)
    unfold signature
    simp only [List.forall_mem_append, List.forall_mem_cons, List.forall_mem_map]
    refine ⟨fun p _ ↦ ?_, by decide, fun param hparam ↦ ?_⟩
    · cases p.kind <;> simp [pathParamType, not_mem_fieldName]
    · obtain ⟨type, htype, rfl⟩ := Option.map_eq_some_iff.1 (Option.mem_toList.1 hparam)
      revert htype
      unfold bodyParamType?
      split <;> rintro ⟨⟩ <;> simp [htrait]
  simp only [List.forall_mem_append, List.forall_mem_cons, List.forall_mem_map]
  refine ⟨⟨⟨?_, List.forall_mem_nil _⟩, innerLine_requestStep hallowed⟩,
    innerLine_ofList (by decide), List.forall_mem_nil _⟩
  simp [InnerLine, isHead_blank, hident, hparams]

/-! ### Given texts -/

/-- The texts that a shape is written with as they were given. Only a struct implements the trait of
all bodies. -/
def TypeShape.givenTexts (config : Config) : TypeShape → List String
  | .struct shape => config.bodyTrait ::
    (shapeIdents shape ++ shape.fields.flatMap fun f ↦ f.type.referenced?.toList)
  | .enum cases => cases.map EnumCase.ident

/-- The texts of the settings and of a definition that its module has as they were given. -/
def givenTexts (config : Config) (d : Definition) : List String :=
  config.runtimePath :: match d.kind with
  | .type type => d.name :: (type.parentType.toList ++ TypeShape.givenTexts config type.shape)
  | .methodGroup group => config.receiverType :: config.bodyTrait :: group.endpoint ::
    group.methods.flatMap fun m ↦ m.ident :: m.allowedMethods

/-- No text with a line feed would be written as it is in the module of a definition. -/
def OneLine (config : Config) (d : Definition) : Prop :=
  ∀ text ∈ givenTexts config d, '\n' ∉ text.toList

instance (config : Config) (d : Definition) : Decidable (OneLine config d) :=
  inferInstanceAs (Decidable (∀ text ∈ givenTexts config d, '\n' ∉ text.toList))

theorem OneLine.path {config : Config} {d : Definition} (h : OneLine config d) :
    '\n' ∉ config.runtimePath.toList := h config.runtimePath List.mem_cons_self

/-- What is known of the texts of a type: of its name, its parent and its shape. -/
theorem OneLine.of_type {config : Config} {name : String} {type : TypeDefinition}
    (h : OneLine config ⟨name, .type type⟩) :
    '\n' ∉ name.toList ∧ (∀ parent ∈ type.parentType.toList, '\n' ∉ parent.toList) ∧
      ∀ text ∈ TypeShape.givenTexts config type.shape, '\n' ∉ text.toList := by
  obtain ⟨-, hgiven⟩ := List.forall_mem_cons.1 h
  obtain ⟨hname, hgiven⟩ := List.forall_mem_cons.1 hgiven
  exact ⟨hname, List.forall_mem_append.1 hgiven⟩

/-- What is known of the texts of a method group: of the settings, the endpoint and the methods. -/
theorem OneLine.of_methodGroup {config : Config} {name : String} {group : MethodGroup}
    (h : OneLine config ⟨name, .methodGroup group⟩) :
    '\n' ∉ config.receiverType.toList ∧ '\n' ∉ config.bodyTrait.toList ∧
      '\n' ∉ group.endpoint.toList ∧
      ∀ m ∈ group.methods, ∀ text ∈ m.ident :: m.allowedMethods, '\n' ∉ text.toList := by
  obtain ⟨-, hgiven⟩ := List.forall_mem_cons.1 h
  obtain ⟨hreceiver, hgiven⟩ := List.forall_mem_cons.1 hgiven
  obtain ⟨htrait, hgiven⟩ := List.forall_mem_cons.1 hgiven
  obtain ⟨hendpoint, hmethods⟩ := List.forall_mem_cons.1 hgiven
  exact ⟨hreceiver, htrait, hendpoint, List.forall_mem_flatMap.1 hmethods⟩

/-- The heads of a type: its declaration and what is implemented for it. -/
def typeHeads (config : Config) (name : String) (type : TypeDefinition) : List String :=
  match type.shape with
  | .struct _ =>
    ["pub struct " ++ name ++ " \x7b", "impl " ++ name ++ " \x7b",
      "impl " ++ config.bodyTrait ++ " for " ++ name ++ " \x7b"] ++
    type.parentType.toList.map fun parent ↦ "impl " ++ parent ++ " for " ++ name ++ " \x7b\x7d"
  | .enum _ =>
    ["pub enum " ++ name ++ " \x7b", "impl " ++ name ++ " \x7b"] ++
    type.parentType.toList.map fun parent ↦ "impl From<" ++ name ++ "> for " ++ parent ++ " \x7b"

theorem innerLine_docs {ls : List String} (h : ∀ l ∈ ls, InnerLine l) (docs : Bool) :
    ∀ l ∈ (Block.doc ls).lines docs, InnerLine l := by
  cases docs with
  | true => exact h
  | false => exact nofun

theorem heads_structBlocks {config : Config} {name : String} {type : TypeDefinition}
    {shape : StructShape} (h : OneLine config ⟨name, .type type⟩) (htype : type.shape = .struct shape)
    (docs : Bool) :
    Heads ((structBlocks config name type shape).flatMap (Block.lines docs))
      (typeHeads config name type) := by
  obtain ⟨hname, hparent, hshape⟩ := h.of_type
  rw [htype] at hshape
  obtain ⟨htrait, hshape⟩ := List.forall_mem_cons.1 hshape
  obtain ⟨hidents, hreferences⟩ := List.forall_mem_append.1 hshape
  have hfieldIdents : ∀ f ∈ shape.fields, '\n' ∉ f.ident.toList := fun f hf ↦
    hidents f.ident (List.mem_cons_of_mem _ (List.mem_append_left _ (List.mem_map_of_mem hf)))
  have hfields : ∀ f ∈ shape.fields, '\n' ∉ (fieldText config f).toList := fun f hf ↦
    not_mem_fieldText htrait (hfieldIdents f hf) fun other hother ↦
      hreferences other (List.mem_flatMap.2 ⟨f, hf, Option.mem_toList.2 hother⟩)
  have hmarkers : Heads
      ((type.parentType.toList.map fun parent ↦
        Block.code ["", "impl " ++ parent ++ " for " ++ name ++ " \x7b\x7d"]).flatMap (Block.lines docs))
      (type.parentType.toList.map fun parent ↦
        "impl " ++ parent ++ " for " ++ name ++ " \x7b\x7d") := by
    cases hcase : type.parentType with
    | none => exact .nil
    | some parent =>
      have hline := hparent parent (by simp [hcase])
      refine .cons_inner (innerLine_ofList (by decide)) (.cons ?_ (.nil))
      simp [isHead, hname, hline]
  rw [typeHeads, htype]
  unfold structBlocks
  rw [List.flatMap_append]
  exact (((Heads.of_inner (innerLine_docs (innerLine_commentLines (.inl rfl) _) docs)).append
    ((heads_structLines hname hfields hfieldIdents).append
      ((heads_serializerLines _ hname htrait hidents).append (.nil)))).append hmarkers)

theorem heads_enumBlocks {config : Config} {name : String} {type : TypeDefinition}
    {cases : List EnumCase} (h : OneLine config ⟨name, .type type⟩) (htype : type.shape = .enum cases)
    (docs : Bool) :
    Heads ((enumBlocks name type cases).flatMap (Block.lines docs)) (typeHeads config name type) := by
  obtain ⟨hname, hparent, hshape⟩ := h.of_type
  rw [htype] at hshape
  have hcases : ∀ c ∈ cases, '\n' ∉ c.ident.toList := fun c hc ↦
    hshape c.ident (List.mem_map_of_mem hc)
  have hliteral : ∀ l ∈ ["    /// Literal value written on the wire."], InnerLine l :=
    List.forall_mem_singleton.2 (innerLine_ofList (by decide))
  have hconversions : Heads
      ((type.parentType.toList.map fun parent ↦
        Block.code (conversionLines name parent)).flatMap (Block.lines docs))
      (type.parentType.toList.map fun parent ↦
        "impl From<" ++ name ++ "> for " ++ parent ++ " \x7b") := by
    cases hcase : type.parentType with
    | none => exact .nil
    | some parent =>
      exact (heads_conversionLines hname (hparent parent (by simp [hcase]))).append (.nil)
  rw [typeHeads, htype]
  unfold enumBlocks
  rw [List.flatMap_append]
  exact ((Heads.of_inner (innerLine_docs (innerLine_commentLines (.inl rfl) _) docs)).append
    ((heads_enumLines hname hcases).append
      ((Heads.of_inner (innerLine_docs hliteral docs)).append
        ((Heads.of_inner (innerLine_armLines hname hcases)).append (.nil))))).append
    hconversions

theorem heads_groupBlocks {config : Config} {name : String} {group : MethodGroup}
    (h : OneLine config ⟨name, .methodGroup group⟩) (docs : Bool) :
    Heads ((groupBlocks config group).flatMap (Block.lines docs))
      ["impl " ++ config.receiverType ++ " \x7b"] := by
  obtain ⟨hreceiver, htrait, -, hmethods⟩ := h.of_methodGroup
  have hmethod : ∀ m ∈ group.methods, ∀ b ∈ methodBlocks config m, ∀ l ∈ b.lines docs, InnerLine l := by
    intro m hm
    obtain ⟨hident, hallowed⟩ := List.forall_mem_cons.1 (hmethods m hm)
    exact List.forall_mem_cons.2 ⟨innerLine_docs (innerLine_methodDocLines m) docs,
      List.forall_mem_singleton.2 (innerLine_methodLines htrait hident hallowed)⟩
  have hblocks : ∀ b ∈ [Block.code [""]].intercalate (group.methods.map (methodBlocks config)),
      ∀ l ∈ b.lines docs, InnerLine l :=
    forall_mem_intercalate
      (List.forall_mem_singleton.2 (List.forall_mem_singleton.2 (innerLine_ofList (by decide))))
      (List.forall_mem_map.2 hmethod)
  have hclosing : ∀ l ∈ (Block.code ["\x7d"]).lines docs, InnerLine l :=
    List.forall_mem_singleton.2 (innerLine_ofList (by decide))
  unfold groupBlocks
  rw [List.flatMap_append, List.flatMap_cons]
  refine ((Heads.cons ?_ (.nil)).append
    (.of_inner (List.forall_mem_flatMap.2 hblocks))).append ((Heads.of_inner hclosing).append
      (.nil))
  simp [isHead, hreceiver]

/-- The heads of a definition. -/
def itemHeads (config : Config) (d : Definition) : List String :=
  match d.kind with
  | .type type => typeHeads config d.name type
  | .methodGroup _ => ["impl " ++ config.receiverType ++ " \x7b"]

theorem heads_itemBlocks {config : Config} {d : Definition} (h : OneLine config d) (docs : Bool) :
    Heads ((itemBlocks config d).flatMap (Block.lines docs)) (itemHeads config d) := by
  obtain ⟨name, kind⟩ := d
  cases kind with
  | type type =>
    simp only [itemBlocks, itemHeads, typeBlocks]
    split
    · next shape hshape => exact heads_structBlocks h hshape docs
    · next cases hshape => exact heads_enumBlocks h hshape docs
  | methodGroup group => exact heads_groupBlocks h docs

/-! ### Imports -/

/-- Every line of an import is a head. -/
theorem heads_importLines {i : Import} (hpath : '\n' ∉ i.path.toList)
    (hnames : ∀ name ∈ i.names, '\n' ∉ name.toList) : Heads i.lines i.lines := by
  have hlist : '\n' ∉ (", ".intercalate i.names).toList := not_mem_intercalate (by decide) hnames
  obtain ⟨path, names⟩ := i
  dsimp only at hpath hnames hlist
  match names with
  | [] => exact .nil
  | [name] =>
    have hname := hnames name List.mem_cons_self
    refine .cons ?_ .nil
    simp [isHead, hpath, hname]
  | first :: second :: more =>
    refine .cons ?_ .nil
    dsimp only
    generalize ", ".intercalate _ = listed at hlist ⊢
    simp [isHead, hpath, hlist]

theorem heads_typeImports {config : Config} (r : Registry) {name : String} {type : TypeDefinition}
    (h : OneLine config ⟨name, .type type⟩) :
    Heads ((typeImports config r name type).flatMap Import.lines)
      ((typeImports config r name type).flatMap Import.lines) := by
  obtain ⟨-, hparent, hshape⟩ := h.of_type
  have hjson : ∀ other ∈ jsonNames type, '\n' ∉ other.toList := by
    unfold jsonNames
    cases type.shape with
    | struct shape =>
      dsimp only
      split_ifs <;> decide
    | enum cases => exact nofun
  have hruntime : ∀ other ∈ runtimeNames config type, '\n' ∉ other.toList := by
    unfold runtimeNames
    cases htype : type.shape with
    | struct shape =>
      rw [htype] at hshape
      exact List.forall_mem_cons.2 ⟨hshape config.bodyTrait List.mem_cons_self, hparent⟩
    | enum cases => exact fun other hother ↦ hparent other (List.mem_of_mem_filter hother)
  have hreferences : ∀ other ∈ Assembly.references type, '\n' ∉ other.toList := by
    unfold Assembly.references
    cases htype : type.shape with
    | struct shape =>
      rw [htype] at hshape
      intro other hother
      obtain ⟨f, hf, hrefers⟩ := List.mem_filterMap.1 hother
      exact hshape other (List.mem_cons_of_mem _ (List.mem_append_right _
        (List.mem_flatMap.2 ⟨f, hf, Option.mem_toList.2 hrefers⟩)))
    | enum cases => exact nofun
  rw [flatMap_typeImports rfl]
  refine ((heads_importLines (show '\n' ∉ "serde_json".toList by decide) hjson).append
    (heads_importLines h.path fun other hother ↦
      hruntime other (Assembly.mem_inNameOrder.1 hother))).append (.flatMap fun other hother ↦ ?_)
  refine heads_importLines ?_ (List.forall_mem_singleton.2 ?_)
  · simp [siblingImport, Naming.not_mem_moduleName (c := '\n') (by decide)]
  · exact hreferences other (mem_siblings_iff.1 hother).2.1

theorem heads_groupImports {config : Config} {name : String} {group : MethodGroup}
    (h : OneLine config ⟨name, .methodGroup group⟩) :
    Heads ((groupImports config group).flatMap Import.lines)
      ((groupImports config group).flatMap Import.lines) := by
  obtain ⟨hreceiver, htrait, -, -⟩ := h.of_methodGroup
  have hnames : ∀ other ∈ "HttpMethod" :: config.receiverType ::
      (if group.methods.any takesTyped then [config.bodyTrait] else []), '\n' ∉ other.toList := by
    refine List.forall_mem_cons.2 ⟨by decide, List.forall_mem_cons.2 ⟨hreceiver, ?_⟩⟩
    split_ifs
    · exact List.forall_mem_singleton.2 htrait
    · exact nofun
  have hjson :
      Heads (Import.lines ⟨"serde_json", ["Value"]⟩) (Import.lines ⟨"serde_json", ["Value"]⟩) :=
    heads_importLines (show '\n' ∉ "serde_json".toList by decide) (by decide)
  rw [groupImports, List.flatMap_append, List.flatMap_singleton]
  refine Heads.append ?_ (heads_importLines h.path fun other hother ↦
    hnames other (Assembly.mem_inNameOrder.1 hother))
  split_ifs
  · exact hjson.append .nil
  · exact .nil

theorem heads_imports {config : Config} (r : Registry) {d : Definition} (h : OneLine config d) :
    Heads ((imports config r d).flatMap Import.lines) ((imports config r d).flatMap Import.lines) := by
  obtain ⟨name, kind⟩ := d
  cases kind with
  | type type => exact heads_typeImports r h
  | methodGroup group => exact heads_groupImports h

/-! ### Whole modules -/

theorem innerLine_title {config : Config} {d : Definition} (h : OneLine config d) :
    InnerLine ("//! " ++ title d) := by
  have htitle : '\n' ∉ (title d).toList := by
    obtain ⟨name, kind⟩ := d
    cases kind with
    | type type => simp [title, h.of_type.1]
    | methodGroup group => simp [title, h.of_methodGroup.2.2.1]
  simp [InnerLine, isHead, htitle]

/-- The lines of a module in front of its imports. -/
def preamble (config : Config) (d : Definition) : List String :=
  ["// @generated by apigen. Do not edit.", ""] ++
    if config.docs then ["//! " ++ title d, ""] else []

/-- The lines of a module behind its imports. -/
def itemLines (config : Config) (d : Definition) : List String :=
  "" :: (itemBlocks config d).flatMap (Block.lines config.docs)

theorem moduleLines_eq (config : Config) (r : Registry) (d : Definition) :
    moduleLines config r d =
      preamble config d ++ (imports config r d).flatMap Import.lines ++ itemLines config d := by
  simp [moduleLines, moduleBlocks, preamble, itemLines, Block.lines]

theorem innerLine_preamble {config : Config} {d : Definition} (h : OneLine config d) :
    ∀ l ∈ preamble config d, InnerLine l := by
  refine List.forall_mem_append.2 ⟨List.forall_mem_cons.2 ⟨innerLine_ofList (by decide),
    List.forall_mem_singleton.2 (innerLine_ofList (by decide))⟩, ?_⟩
  split_ifs
  · exact List.forall_mem_cons.2 ⟨innerLine_title h,
      List.forall_mem_singleton.2 (innerLine_ofList (by decide))⟩
  · exact nofun

/-- The heads of a module: its imports, and the heads of its item. -/
def moduleHeads (config : Config) (r : Registry) (d : Definition) : List String :=
  (imports config r d).flatMap Import.lines ++ itemHeads config d

theorem heads_moduleLines {config : Config} (r : Registry) {d : Definition} (h : OneLine config d) :
    Heads (moduleLines config r d) (moduleHeads config r d) := by
  rw [moduleLines_eq, List.append_assoc]
  exact (Heads.of_inner (innerLine_preamble h)).append ((heads_imports r h).append
    (.cons_inner (innerLine_ofList (by decide)) (heads_itemBlocks h config.docs)))

/-- What a reader of heads finds in a module that is written in whole lines, it finds in the imports and
the heads of the item. -/
theorem filterMap_split_moduleText {α : Type} {config : Config} (r : Registry) {d : Definition}
    {read : List Char → Option α} (hread : ∀ line, isHead line = false → read line = none)
    (h : OneLine config d) :
    (split '\n' (moduleText config r d).toList).filterMap read =
      (moduleHeads config r d).filterMap fun l ↦ read l.toList := by
  rw [moduleText_eq]
  exact (heads_moduleLines r h).filterMap_eq hread

end ClientSynthesis.Code
