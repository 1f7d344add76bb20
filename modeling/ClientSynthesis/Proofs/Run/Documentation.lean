import ClientSynthesis.Proofs.Code.WholeLines
import ClientSynthesis.Proofs.Run.Generation

/-!
# What documentation adds

With documentation the same files are written, and each of them is the file without documentation into
which lines were inserted. That these lines are comments is what keeps the texts of a descriptor from
being taken for code. Documentation is written line by line, so whatever the lines of a description are,
they are comments. The title of a module is not: it is written as it is, so the lines that were inserted
are comments just if those of the titles are (`docs_insert_remarks`).
-/

namespace ClientSynthesis.Text

/-! ### Insertion -/

/-- The second list is the first with items of a kind inserted. -/
inductive Inserted {α : Type} (p : α → Bool) : List α → List α → Prop
  | nil : Inserted p [] []
  | keep {a : α} {as bs : List α} (h : Inserted p as bs) : Inserted p (a :: as) (a :: bs)
  | add {b : α} {as bs : List α} (hb : p b = true) (h : Inserted p as bs) : Inserted p as (b :: bs)

variable {α : Type} {p : α → Bool}

theorem Inserted.refl (as : List α) : Inserted p as as := by
  induction as with
  | nil => exact .nil
  | cons a rest ih => exact .keep ih

theorem Inserted.of_forall {bs : List α} (h : ∀ b ∈ bs, p b = true) : Inserted p [] bs := by
  induction bs with
  | nil => exact .nil
  | cons b rest ih =>
    obtain ⟨hb, hrest⟩ := List.forall_mem_cons.1 h
    exact .add hb (ih hrest)

theorem Inserted.append {as bs cs ds : List α} (h : Inserted p as bs) (h' : Inserted p cs ds) :
    Inserted p (as ++ cs) (bs ++ ds) := by
  induction h with
  | nil => exact h'
  | keep _ ih => exact .keep ih
  | add hb _ ih => exact .add hb ih

/-- What is not of the kind was there before. -/
theorem Inserted.filter_eq {as bs : List α} (h : Inserted p as bs) :
    (bs.filter fun b ↦ !p b) = as.filter fun a ↦ !p a := by
  induction h with
  | nil => rfl
  | keep _ ih => rw [List.filter_cons, List.filter_cons, ih]
  | add hb _ ih => rw [List.filter_cons, if_neg (by simp [hb]), ih]

/-! ### Lines of a text -/

/-- The lines of a text, with what is behind the last line feed. -/
def textLines (text : String) : List (List Char) := split '\n' text.toList

/-- The lines that some texts make, each ended by a line feed. -/
def pieces (ls : List String) : List (List Char) := ls.flatMap textLines

theorem textLines_unlines (ls : List String) : textLines (unlines ls) = pieces ls ++ [[]] := by
  have hsplit := split_unlines_append ls []
  rwa [List.append_nil, split_of_not_mem List.not_mem_nil] at hsplit

/-- Whether a line is blank or a comment of documentation. -/
def isRemark (line : List Char) : Bool :=
  line.all isBlank ||
    ["///", "//!"].any fun mark ↦ mark.toList.isPrefixOf (line.dropWhile (· == ' '))

end ClientSynthesis.Text

namespace ClientSynthesis.Code

open Assembly (NameMap Registry)
open Text

variable {config : Config} {r : Registry}

/-! ### Blocks -/

theorem pieces_append (ls ms : List String) : pieces (ls ++ ms) = pieces ls ++ pieces ms :=
  List.flatMap_append

/-- A comment of documentation that is not broken. -/
def RemarkLine (line : String) : Prop := '\n' ∉ line.toList ∧ isRemark line.toList = true

theorem remarkLine_ofList {cs : List Char} (h : '\n' ∉ cs ∧ isRemark cs = true) :
    RemarkLine (String.ofList cs) := by
  rw [RemarkLine, String.toList_ofList]
  exact h

theorem isRemark_of_mem_pieces {ls : List String} (h : ∀ l ∈ ls, RemarkLine l) :
    ∀ piece ∈ pieces ls, isRemark piece = true := by
  refine List.forall_mem_flatMap.2 fun l hl piece hpiece ↦ ?_
  obtain ⟨hwhole, hremark⟩ := h l hl
  rw [textLines, split_of_not_mem hwhole] at hpiece
  rwa [List.mem_singleton.1 hpiece]

theorem remarkLine_commentLines {indent : String} (h : indent = "" ∨ indent = "    ") (text : String) :
    ∀ l ∈ commentLines indent text, RemarkLine l := by
  intro l hl
  obtain ⟨rest, hline, hrest⟩ := exists_of_mem_commentLines hl
  rcases h with rfl | rfl <;> simp [RemarkLine, isRemark, List.isPrefixOf, hline, hrest]

theorem remarkLine_methodDocLines (m : Method) : ∀ l ∈ methodDocLines m, RemarkLine l := by
  have hcomment (text : String) : ∀ l ∈ commentLines "    " text, RemarkLine l :=
    remarkLine_commentLines (.inr rfl) text
  unfold methodDocLines
  simp only [List.forall_mem_append, List.forall_mem_cons, List.forall_mem_flatMap]
  refine ⟨⟨⟨⟨hcomment _, remarkLine_ofList (by decide), nofun⟩, fun p _ ↦ hcomment _⟩,
    remarkLine_ofList (by decide), nofun⟩, ?_⟩
  split_ifs
  · exact nofun
  · exact List.forall_mem_singleton.2 (remarkLine_ofList (by decide))

/-- A block in whose documentation every line is blank or a comment. -/
def Block.Remarks (b : Block) : Prop :=
  ∀ ls, b = .doc ls → ∀ piece ∈ pieces ls, isRemark piece = true

theorem Block.Remarks.code (ls : List String) : (Block.code ls).Remarks := nofun

theorem Block.Remarks.doc {ls : List String} (h : ∀ l ∈ ls, RemarkLine l) : (Block.doc ls).Remarks :=
  fun _ heq ↦ Block.doc.inj heq ▸ isRemark_of_mem_pieces h

/-- Blocks with documentation are those without it and the lines of the documentation. -/
theorem inserted_blocks {blocks : List Block}
    (h : ∀ b ∈ blocks, b.Remarks) :
    Inserted isRemark (pieces (blocks.flatMap (Block.lines false)))
      (pieces (blocks.flatMap (Block.lines true))) := by
  induction blocks with
  | nil => exact .nil
  | cons b rest ih =>
    obtain ⟨hb, hrest⟩ := List.forall_mem_cons.1 h
    rw [List.flatMap_cons, List.flatMap_cons, pieces_append, pieces_append]
    refine Inserted.append ?_ (ih hrest)
    cases b with
    | code ls => exact .refl _
    | doc ls => exact .of_forall (hb ls rfl)

/-- The documentation of an item is made of comments. -/
theorem remarks_itemBlocks (config : Config) (d : Definition) : ∀ b ∈ itemBlocks config d, b.Remarks := by
  have hcomment (text : String) : (Block.doc (commentLines "" text)).Remarks :=
    .doc (remarkLine_commentLines (.inl rfl) text)
  obtain ⟨name, kind⟩ := d
  cases kind with
  | type type =>
    simp only [itemBlocks, typeBlocks]
    cases type.shape with
    | struct shape =>
      unfold structBlocks
      simp only [List.forall_mem_append, List.forall_mem_cons, List.forall_mem_map]
      exact ⟨⟨hcomment _, .code _, .code _, List.forall_mem_nil _⟩, fun parent _ ↦ .code _⟩
    | enum cases =>
      have hliteral : ∀ l ∈ ["    /// Literal value written on the wire."], RemarkLine l :=
        List.forall_mem_singleton.2 (remarkLine_ofList (by decide))
      unfold enumBlocks
      simp only [List.forall_mem_append, List.forall_mem_cons, List.forall_mem_map]
      exact ⟨⟨hcomment _, .code _, .doc hliteral, .code _, List.forall_mem_nil _⟩,
        fun parent _ ↦ .code _⟩
  | methodGroup group =>
    have hmethods : ∀ blocks ∈ group.methods.map (methodBlocks config), ∀ b ∈ blocks, b.Remarks :=
      List.forall_mem_map.2 fun m _ ↦ List.forall_mem_cons.2
        ⟨.doc (remarkLine_methodDocLines m), List.forall_mem_singleton.2 (.code _)⟩
    simp only [itemBlocks, groupBlocks, List.forall_mem_append, List.forall_mem_cons]
    exact ⟨⟨.code _, forall_mem_intercalate
      (List.forall_mem_singleton.2 (.code _)) hmethods⟩, .code _, List.forall_mem_nil _⟩

/-! ### Modules -/

/-- The lines of a module: the settings decide on documentation only by leaving it out or not. -/
theorem textLines_moduleText (docs : Bool) (d : Definition) :
    textLines (moduleText { config with docs := docs } r d) =
      pieces ["// @generated by apigen. Do not edit.", ""] ++
        ((if docs then textLines ("//! " ++ title d) ++ [[]] else []) ++
          (pieces ((imports config r d).flatMap Import.lines ++ [""]) ++
            (pieces ((itemBlocks config d).flatMap (Block.lines docs)) ++ [[]]))) := by
  have hlines : moduleLines { config with docs := docs } r d =
      ["// @generated by apigen. Do not edit.", ""] ++
        ((if docs then ["//! " ++ title d, ""] else []) ++
          (((imports config r d).flatMap Import.lines ++ [""]) ++
            (itemBlocks config d).flatMap (Block.lines docs))) := rfl
  have htitle : pieces (if docs then ["//! " ++ title d, ""] else []) =
      if docs then textLines ("//! " ++ title d) ++ [[]] else [] := by
    cases docs <;> rfl
  rw [moduleText_eq, textLines_unlines, hlines, pieces_append, pieces_append, pieces_append, htitle]
  simp only [List.append_assoc]

/-- Behind its title, all documentation of a module is made of comments. So what documentation adds to
the module is blank or comments just if this is so of the title. -/
theorem inserted_moduleText_iff (d : Definition) :
    Inserted isRemark (textLines (moduleText { config with docs := false } r d))
        (textLines (moduleText { config with docs := true } r d)) ↔
      ∀ line ∈ textLines ("//! " ++ title d), isRemark line = true := by
  have hitems := inserted_blocks (remarks_itemBlocks config d)
  rw [textLines_moduleText, textLines_moduleText, if_pos rfl, if_neg nofun]
  constructor
  · -- Of the lines that are neither blank nor comments, as many are in both texts.
    intro h
    have hcount := congrArg List.length h.filter_eq
    simp only [List.filter_append, hitems.filter_eq, List.length_append, List.nil_append] at hcount
    have hempty : ((textLines ("//! " ++ title d)).filter fun line ↦ !isRemark line) = [] :=
      List.length_eq_zero_iff.1 (by omega)
    simpa using List.filter_eq_nil_iff.1 hempty
  · intro htitle
    have hadded : Inserted isRemark [] (textLines ("//! " ++ title d) ++ [[]]) :=
      .of_forall (List.forall_mem_append.2 ⟨htitle, List.forall_mem_singleton.2 rfl⟩)
    exact (Inserted.refl _).append (hadded.append ((Inserted.refl _).append (hitems.append (.refl _))))

/-- A title in one line is a comment. -/
theorem isRemark_title {d : Definition} (h : '\n' ∉ (title d).toList) :
    ∀ line ∈ textLines ("//! " ++ title d), isRemark line = true := by
  have hwhole : '\n' ∉ ("//! " ++ title d).toList := by simp [h]
  rw [textLines, split_of_not_mem hwhole]
  refine List.forall_mem_singleton.2 ?_
  simp [isRemark, List.isPrefixOf]

/-! ### Packages -/

variable {documented plain : NameMap String}

theorem names_eq_of_package_docs (hdocs : package { config with docs := true } r = .ok documented)
    (hplain : package { config with docs := false } r = .ok plain) :
    documented.names = plain.names := by
  have hmem : ∀ file, file ∈ documented.names ↔ file ∈ plain.names := by
    intro file
    simp only [NameMap.mem_names_iff, NameMap.mem_entries_iff, get?_eq_some_iff_of_package hdocs,
      get?_eq_some_iff_of_package hplain]
    constructor
    · rintro ⟨_, ⟨d, hd, hfile, -⟩ | ⟨hmod, hfile, -⟩⟩
      · exact ⟨_, .inl ⟨d, hd, hfile, rfl⟩⟩
      · exact ⟨_, .inr ⟨hmod, hfile, rfl⟩⟩
    · rintro ⟨_, ⟨d, hd, hfile, -⟩ | ⟨hmod, hfile, -⟩⟩
      · exact ⟨_, .inl ⟨d, hd, hfile, rfl⟩⟩
      · exact ⟨_, .inr ⟨hmod, hfile, rfl⟩⟩
  have hperm := (List.perm_ext_iff_of_nodup documented.nodup_names plain.nodup_names).2 hmem
  exact hperm.eq_of_pairwise (fun a b _ _ hab hba ↦ absurd (hab.trans hba) (Before.irrefl a))
    documented.pairwise_names plain.pairwise_names

/-- A file with documentation beside the one without it. -/
theorem get?_of_package_docs (hdocs : package { config with docs := true } r = .ok documented)
    (hplain : package { config with docs := false } r = .ok plain) {file text text' : String}
    (h : plain.get? file = some text) (h' : documented.get? file = some text') :
    (∃ d ∈ r.definitions, file = fileName d.name ∧
      text = moduleText { config with docs := false } r d ∧
      text' = moduleText { config with docs := true } r d) ∨
    (text = text' ∧ ∀ d ∈ r.definitions, fileName d.name ≠ file) := by
  rcases (get?_eq_some_iff_of_package hplain).1 h with ⟨d, hd, rfl, rfl⟩ | ⟨hmod, rfl, rfl⟩
  · rcases (get?_eq_some_iff_of_package hdocs).1 h' with ⟨e, he, hfile, rfl⟩ | ⟨hmod, hfile, -⟩
    · obtain rfl := eq_of_moduleName_eq hplain hd he (fileName_eq_iff.1 hfile)
      exact .inl ⟨d, hd, rfl, rfl, rfl⟩
    · exact absurd hfile (fileName_ne_of_package hplain hmod hd)
  · rcases (get?_eq_some_iff_of_package hdocs).1 h' with ⟨e, he, hfile, -⟩ | ⟨-, -, rfl⟩
    · exact absurd hfile.symm (fileName_ne_of_package hplain hmod he)
    · exact .inr ⟨rfl, fun d hd ↦ fileName_ne_of_package hplain hmod hd⟩

end ClientSynthesis.Code

namespace ClientSynthesis.Run

open Assembly (NameMap Registry)
open Code
open Text

/-- **Documentation adds blank lines and comments, but for titles that go over several lines.** A
namespace can be rendered with documentation just if it can be without, and to files of the same names.
The lines of a file with documentation are those without, with lines inserted; and these are blank or
comments just if the lines of the title are, which they are if the title is in one line. -/
theorem docs_insert_remarks (mode : Mode) (config : Config) (documents : Json.Fields) :
    ((∃ documented,
        (renderDocuments mode { config with docs := true } documents).outcome = .ok documented) ↔
      ∃ plain, (renderDocuments mode { config with docs := false } documents).outcome = .ok plain) ∧
    ∀ documented plain,
      (renderDocuments mode { config with docs := true } documents).outcome = .ok documented →
      (renderDocuments mode { config with docs := false } documents).outcome = .ok plain →
      documented.names = plain.names ∧
      ∃ r, (interpret mode config documents).outcome = .ok r ∧
        ∀ file text text', plain.get? file = some text → documented.get? file = some text' →
          (Inserted isRemark (textLines text) (textLines text') ↔
            ∀ d ∈ r.definitions, fileName d.name = file →
              ∀ line ∈ textLines ("//! " ++ title d), isRemark line = true) ∧
          ((∀ d ∈ r.definitions, fileName d.name = file → '\n' ∉ (title d).toList) →
            Inserted isRemark (textLines text) (textLines text')) := by
  have hinterpret (docs : Bool) :
      interpret mode { config with docs := docs } documents = interpret mode config documents := by
    cases mode <;> rfl
  have hpackage (r : Registry) (docs docs' : Bool)
      (h : ∃ files, package { config with docs := docs } r = .ok files) :
      ∃ files, package { config with docs := docs' } r = .ok files := by
    obtain ⟨files, h⟩ := h
    obtain ⟨hnodup, hfree, -⟩ := package_eq_ok_iff.1 h
    exact ⟨_, package_eq_ok_iff.2 ⟨hnodup, hfree, rfl⟩⟩
  simp only [renderDocuments_eq_ok_iff, hinterpret]
  refine ⟨?_, ?_⟩
  · constructor
    · rintro ⟨files, r, hr, h⟩
      obtain ⟨plain, hplain⟩ := hpackage r true false ⟨files, h⟩
      exact ⟨plain, r, hr, hplain⟩
    · rintro ⟨files, r, hr, h⟩
      obtain ⟨documented, hdocumented⟩ := hpackage r false true ⟨files, h⟩
      exact ⟨documented, r, hr, hdocumented⟩
  · rintro documented plain ⟨r, hr, hdocs⟩ ⟨r', hr', hplain⟩
    obtain rfl : r = r' := Except.ok.inj (hr.symm.trans hr')
    refine ⟨names_eq_of_package_docs hdocs hplain, r, hr, fun file text text' h h' ↦ ?_⟩
    rcases get?_of_package_docs hdocs hplain h h' with ⟨d, hd, rfl, rfl, rfl⟩ | ⟨rfl, hnone⟩
    · have hown : (∀ e ∈ r.definitions, fileName e.name = fileName d.name →
          ∀ line ∈ textLines ("//! " ++ title e), isRemark line = true) ↔
            ∀ line ∈ textLines ("//! " ++ title d), isRemark line = true := by
        refine ⟨fun hall ↦ hall d hd rfl, fun hd' e he hfile ↦ ?_⟩
        rwa [eq_of_moduleName_eq hplain he hd (fileName_eq_iff.1 hfile)]
      rw [hown, inserted_moduleText_iff]
      exact ⟨Iff.rfl, fun htitle ↦ isRemark_title (htitle d hd rfl)⟩
    · exact ⟨iff_of_true (.refl _) fun d hd hfile ↦ absurd hfile (hnone d hd), fun _ ↦ .refl _⟩

/-- The namespace of one endpoint without parameters. -/
def rootEndpoint (name : String) : Json.Fields :=
  [(name, .object [("documentation", .string "d"), ("methods", .array [.string "GET"]),
    ("url", .object [("paths", .array [.string "/"])])])]

/-- The definition of such an endpoint. -/
def rootGroup (name ident : String) : Definition :=
  ⟨name, .methodGroup ⟨name, [⟨ident, "d", [], [.literal "/"], ["Get"], .none⟩]⟩⟩

theorem exists_rootEndpoint {name ident : String}
    (h : (interpret .endpoints .default (rootEndpoint name)).outcome.toOption.map
      Registry.definitions = some [rootGroup name ident]) (docs : Bool) :
    ∃ r files, (interpret .endpoints .default (rootEndpoint name)).outcome = .ok r ∧
      r.definitions = [rootGroup name ident] ∧
      (renderDocuments .endpoints { Config.default with docs := docs } (rootEndpoint name)).outcome =
        .ok files ∧
      files.get? (fileName name) =
        some (moduleText { Config.default with docs := docs } r (rootGroup name ident)) := by
  obtain ⟨r, files, hinterpret, hdefinitions, hpackage, hrender⟩ :=
    exists_renderDocuments_of_definitions .endpoints { Config.default with docs := docs }
      (rootEndpoint name) h (List.nodup_singleton _) nofun
  refine ⟨r, files, hinterpret, hdefinitions, hrender,
    (get?_eq_some_iff_of_package hpackage).2 (.inl ⟨rootGroup name ident, ?_, rfl, rfl⟩)⟩
  rw [hdefinitions]
  exact List.mem_singleton.2 rfl

/-- In a title that goes over two lines the second is no comment. -/
theorem not_inserted_of_brokenEndpoint :
    ∃ (documented plain : NameMap String) (text text' : String),
      (renderDocuments .endpoints { Config.default with docs := true } (rootEndpoint "a\nb")).outcome =
        .ok documented ∧
      (renderDocuments .endpoints { Config.default with docs := false } (rootEndpoint "a\nb")).outcome =
        .ok plain ∧
      plain.get? "a_b.rs" = some text ∧ documented.get? "a_b.rs" = some text' ∧
      ¬ Inserted isRemark (textLines text) (textLines text') := by
  have hdefinitions : (interpret .endpoints .default (rootEndpoint "a\nb")).outcome.toOption.map
      Registry.definitions = some [rootGroup "a\nb" "a_b"] := by
    decide +kernel
  obtain ⟨r, documented, hr, -, hdocumented, htext'⟩ := exists_rootEndpoint hdefinitions true
  obtain ⟨r', plain, hr', -, hplain, htext⟩ := exists_rootEndpoint hdefinitions false
  obtain rfl : r = r' := Except.ok.inj (hr.symm.trans hr')
  rw [show fileName "a\nb" = "a_b.rs" by decide +kernel] at htext htext'
  refine ⟨documented, plain, _, _, hdocumented, hplain, htext, htext', ?_⟩
  rw [inserted_moduleText_iff]
  decide +kernel

theorem docs_insert_remarks_of_ping :
    ∃ (documented plain : NameMap String) (text text' : String),
      (renderDocuments .endpoints { Config.default with docs := true } (rootEndpoint "ping")).outcome =
        .ok documented ∧
      (renderDocuments .endpoints { Config.default with docs := false } (rootEndpoint "ping")).outcome =
        .ok plain ∧
      documented.names = plain.names ∧
      plain.get? "ping.rs" = some text ∧ documented.get? "ping.rs" = some text' ∧
      Inserted isRemark (textLines text) (textLines text') := by
  have hdefinitions : (interpret .endpoints .default (rootEndpoint "ping")).outcome.toOption.map
      Registry.definitions = some [rootGroup "ping" "ping"] := by
    decide +kernel
  obtain ⟨_, documented, -, -, hdocumented, htext'⟩ := exists_rootEndpoint hdefinitions true
  obtain ⟨r, plain, hr, hr', hplain, htext⟩ := exists_rootEndpoint hdefinitions false
  rw [show fileName "ping" = "ping.rs" by decide +kernel] at htext htext'
  obtain ⟨hnames, s, hs, hinserted⟩ :=
    (docs_insert_remarks .endpoints .default (rootEndpoint "ping")).2 documented plain hdocumented
      hplain
  obtain rfl : s = r := Except.ok.inj (hs.symm.trans hr)
  refine ⟨documented, plain, _, _, hdocumented, hplain, hnames, htext, htext',
    (hinserted _ _ _ htext htext').2 ?_⟩
  rw [hr']
  exact List.forall_mem_singleton.2 fun _ ↦ by decide +kernel

end ClientSynthesis.Run
