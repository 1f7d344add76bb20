import ClientSynthesis.Code.MethodItem
import ClientSynthesis.Endpoint.Methods
import ClientSynthesis.Proofs.Code.UrlReading
import ClientSynthesis.Proofs.Descriptor.Accessors

/-!
# The path behind a URL expression

Filling the holes of a generated URL expression gives back the path it was generated from, with the
values in place of the placeholders that were resolved. What was resolved is read off the path and
the parts table (`resolvedName?`), and so is the path with its values (`substitute`); neither
mentions segments, parts or templates.

The argument runs through the units of the segments (`segmentUnits`). They are what the emitted text
is read as, since merging literal text does not show there, and filling them follows the path piece
by piece, since each segment stands beside the piece it came from (`Stands`).
-/

namespace ClientSynthesis.Endpoint

open Code (FormatUnit UrlArgument UrlExpression argument? fill? readUrl units)
open Json (Fields)
open Naming (fieldName)
open Report (bind_eq_ok_iff)
open Report.Traced
open Text (joinWith split)

/-! ### Placeholders of a path -/

/-- A placeholder is a name between braces, and the name is not empty and holds no brace. -/
theorem placeholderName?_eq_some_iff {piece : List Char} {name : String} :
    placeholderName? piece = some name ↔
      piece = '\x7b' :: (name.toList ++ ['\x7d']) ∧ name ≠ "" ∧
        ∀ c ∈ name.toList, c ≠ '\x7b' ∧ c ≠ '\x7d' := by
  cases piece with
  | nil => simp [placeholderName?]
  | cons c rest =>
    by_cases hc : c = '\x7b'
    · subst hc
      rw [placeholderName?]
      -- The last character is looked at before the name is cut out.
      rcases List.eq_nil_or_concat rest with rfl | ⟨front, last, rfl⟩
      · simp
      · rw [List.concat_eq_append, List.getLast?_concat, List.dropLast_concat]
        by_cases hlast : last = '\x7d'
        · subst hlast
          have hname : ¬ (front.isEmpty || front.any fun c ↦ c == '\x7b' || c == '\x7d') = true ↔
              front ≠ [] ∧ ∀ c ∈ front, c ≠ '\x7b' ∧ c ≠ '\x7d' := by simp
          show (if (front.isEmpty || front.any fun c ↦ c == '\x7b' || c == '\x7d') = true then none
            else some (String.ofList front)) = some name ↔ _
          rw [Option.ite_none_left_eq_some, hname, Option.some.injEq]
          constructor
          · rintro ⟨⟨hne, hall⟩, rfl⟩
            rw [String.toList_ofList]
            exact ⟨rfl, fun hempty ↦ hne (String.ofList_eq_empty_iff.1 hempty), hall⟩
          · rintro ⟨hpiece, hne, hall⟩
            have hfront : front = name.toList := by simpa using hpiece
            subst hfront
            exact ⟨⟨fun hempty ↦ hne (String.toList_eq_nil_iff.1 hempty), hall⟩,
              String.ofList_toList⟩
        · simp [hlast]
    · simp [placeholderName?, hc]

/-- The name of a piece of a path that is a placeholder the parts table describes. -/
def resolvedName? (parts : Option Fields) (piece : List Char) : Option String :=
  (placeholderName? piece).filter fun name ↦ ((parts.getD []).present? name).isSome

/-- The names of the resolved placeholders of a path, in path order. -/
def resolvedNames (parts : Option Fields) (path : String) : List String :=
  (split '/' path.toList).filterMap (resolvedName? parts)

/-- Pieces of a path with values in place of its resolved placeholders, one after the other. -/
def substitutePieces (parts : Option Fields) :
    List (List Char) → List (List Char) → List (List Char)
  | [], _ => []
  | piece :: rest, values =>
    match resolvedName? parts piece, values with
    | some _, value :: values => value :: substitutePieces parts rest values
    | _, values => piece :: substitutePieces parts rest values

/-- A path with values in place of its resolved placeholders. -/
def substitute (parts : Option Fields) (path : String) (values : List (List Char)) : List Char :=
  joinWith '/' (substitutePieces parts (split '/' path.toList) values)

/-! ### Parts -/

/-- How a part states whether it takes one value or several. -/
def kindToken : PathParamKind → String
  | .scalar => "string"
  | .list => "list"

/-- **The entries of the parts table that are accepted**: they state a kind and a description, and
the name of the part leaves the reserved identifiers alone. -/
theorem parsePart_eq_ok_iff {name urlPath : String} {entry : Fields} {param : PathParam} :
    parsePart name entry urlPath = .ok param ↔
      param.name = name ∧ entry.get? "type" = some (.string (kindToken param.kind)) ∧
        entry.get? "description" = some (.string param.description) ∧
        fieldName name ∉ reservedIdents := by
  rw [parsePart, bind_eq_ok_iff]
  extract_lets finish
  have hfinish (kind : PathParamKind) : finish kind = .ok param ↔
      param.name = name ∧ param.kind = kind ∧
        entry.get? "description" = some (.string param.description) ∧
        fieldName name ∉ reservedIdents := by
    refine bind_eq_ok_iff.trans ⟨?_, ?_⟩
    · rintro ⟨description, hdescription, h⟩
      dsimp only at h
      split at h
      · exact nomatch h
      · next hreserved =>
        obtain rfl := Except.ok.inj h
        exact ⟨rfl, rfl, Fields.string_eq_ok_iff.1 hdescription, by simpa using hreserved⟩
    · rintro ⟨rfl, rfl, hdescription, hreserved⟩
      refine ⟨param.description, Fields.string_eq_ok_iff.2 hdescription, ?_⟩
      exact if_neg (by simpa using hreserved)
  constructor
  · rintro ⟨type, htype, h⟩
    have hget := Fields.string_eq_ok_iff.1 htype
    split at h
    · obtain ⟨hname, hkind, hrest⟩ := (hfinish .scalar).1 h
      exact ⟨hname, by rw [hkind]; exact hget, hrest⟩
    · obtain ⟨hname, hkind, hrest⟩ := (hfinish .list).1 h
      exact ⟨hname, by rw [hkind]; exact hget, hrest⟩
    · exact nomatch h
  · rintro ⟨hname, htype, hrest⟩
    refine ⟨kindToken param.kind, Fields.string_eq_ok_iff.2 htype, ?_⟩
    have hparam : finish param.kind = .ok param := (hfinish param.kind).2 ⟨hname, rfl, hrest⟩
    generalize param.kind = kind at hparam
    cases kind <;> exact hparam

theorem name_of_parsePart {name urlPath : String} {entry : Fields} {param : PathParam}
    (h : parsePart name entry urlPath = .ok param) : param.name = name :=
  (parsePart_eq_ok_iff.1 h).1

/-! ### Segments beside pieces -/

theorem resolvedName?_eq_some_iff {parts : Option Fields} {piece : List Char} {name : String} :
    resolvedName? parts piece = some name ↔
      placeholderName? piece = some name ∧ ∃ entry, (parts.getD []).present? name = some entry := by
  rw [resolvedName?, Option.filter_eq_some_iff, Option.isSome_iff_exists]

/-- **How a piece of a path is read.** It is literal text, unless it is a placeholder that the parts
table has an entry for; then it is the parameter that the entry describes. -/
theorem parseSegment_eq_ok_iff {path urlPath : String} {parts : Option Fields} {piece : List Char}
    {segment : Segment} :
    (parseSegment path parts urlPath piece).outcome = .ok segment ↔
      resolvedName? parts piece = none ∧ segment = .literal (String.ofList piece) ∨
      ∃ param entry, resolvedName? parts piece = some param.name ∧
        (parts.getD []).get? param.name = some (.object entry) ∧
        parsePart param.name entry urlPath = .ok param ∧ segment = .placeholder param := by
  unfold parseSegment
  constructor
  · intro h
    cases hname : placeholderName? piece with
    | none =>
      rw [hname] at h
      exact .inl ⟨by rw [resolvedName?, hname, Option.filter_none], (Except.ok.inj h).symm⟩
    | some name =>
      rw [hname] at h
      obtain ⟨table, htable, h⟩ := bind_outcome_eq_ok_iff.1 h
      rw [outcome_liftM] at htable
      cases table with
      | none =>
        have habsent := Fields.typed?_eq_ok_none_iff.1 htable
        exact .inl ⟨by simp [resolvedName?, hname, habsent], (Except.ok.inj h).symm⟩
      | some entry =>
        obtain ⟨param, hparam, hsegment⟩ := bind_outcome_eq_ok_iff.1 h
        rw [outcome_liftM] at hparam
        obtain rfl := name_of_parsePart hparam
        have hget := Fields.object?_eq_ok_some_iff.1 htable
        have hpresent := Fields.present?_eq_some_iff.2 ⟨hget, rfl⟩
        exact .inr ⟨param, entry, resolvedName?_eq_some_iff.2 ⟨hname, _, hpresent⟩, hget, hparam,
          (Except.ok.inj hsegment).symm⟩
  · rintro (⟨hnone, rfl⟩ | ⟨param, entry, hsome, hget, hparam, rfl⟩)
    · cases hname : placeholderName? piece with
      | none => rfl
      | some name =>
        have habsent : (parts.getD []).present? name = none := by
          simpa [resolvedName?, hname] using hnone
        exact bind_outcome_eq_ok_iff.2 ⟨none, Fields.typed?_eq_ok_none_iff.2 habsent, rfl⟩
    · rw [(resolvedName?_eq_some_iff.1 hsome).1]
      exact bind_outcome_eq_ok_iff.2 ⟨some entry, Fields.object?_eq_ok_some_iff.2 hget,
        bind_outcome_eq_ok_iff.2 ⟨param, hparam, rfl⟩⟩

/-- How a segment comes from a piece of a path. -/
inductive Stands (parts : Option Fields) : List Char → Segment → Prop where
  | literal {piece : List Char} (h : resolvedName? parts piece = none) :
    Stands parts piece (.literal (String.ofList piece))
  | placeholder {piece : List Char} {param : PathParam}
    (h : resolvedName? parts piece = some param.name) : Stands parts piece (.placeholder param)

theorem stands_of_parseSegment {path urlPath : String} {parts : Option Fields} {piece : List Char}
    {segment : Segment} (h : (parseSegment path parts urlPath piece).outcome = .ok segment) :
    Stands parts piece segment := by
  rcases parseSegment_eq_ok_iff.1 h with ⟨hnone, rfl⟩ | ⟨param, entry, hsome, -, -, rfl⟩
  · exact .literal hnone
  · exact .placeholder hsome

theorem forall₂_stands_of_parseTemplate {path urlPath : String} {parts : Option Fields}
    {t : UrlTemplate} (h : (parseTemplate parts urlPath path).outcome = .ok t) :
    t.path = path ∧ List.Forall₂ (Stands parts) (split '/' path.toList) t.segments := by
  obtain ⟨segments, hsegments, h⟩ := bind_outcome_eq_ok_iff.1 h
  obtain rfl := Except.ok.inj h
  exact ⟨rfl, (mapM_outcome_eq_ok_iff.1 hsegments).imp fun _ _ ↦ stands_of_parseSegment⟩

/-! ### Units of segments -/

/-- The units of segments with slashes between them. -/
def segmentUnits : List Segment → List FormatUnit
  | [] => []
  | segment :: rest => units segment.part ++ rest.flatMap fun s ↦ .char '/' :: units s.part

/-- Merging literal text and dropping empty text changes no unit. -/
theorem flatMap_units_consPart (part : UrlPart) (parts : List UrlPart) :
    (consPart part parts).flatMap units = units part ++ parts.flatMap units := by
  unfold consPart
  split
  · simp [units]
  · next text _ =>
    split_ifs with hempty
    · obtain rfl : text = "" := String.isEmpty_iff.1 hempty
      simp [units]
    · rfl
  · rfl

/-- Nor does it change an argument. -/
theorem filterMap_argument?_consPart (part : UrlPart) (parts : List UrlPart) :
    (consPart part parts).filterMap argument? =
      (argument? part).toList ++ parts.filterMap argument? := by
  unfold consPart
  split
  · rfl
  · split_ifs <;> rfl
  · cases part <;> rfl

theorem flatMap_units_urlParts (segments : List Segment) :
    (urlParts segments).flatMap units = segmentUnits segments := by
  induction segments using urlParts.induct with
  | case1 => rfl
  | case2 segment => rw [urlParts, flatMap_units_consPart]; rfl
  | case3 segment next rest ih =>
    rw [urlParts, flatMap_units_consPart, flatMap_units_consPart, ih]
    rfl

/-! ### Parameters and arguments -/

/-- The argument for a parameter: its identifier, joined exactly if it is a list. -/
def paramArgument (p : PathParam) : UrlArgument := ⟨Naming.fieldName p.name, p.kind = .list⟩

/-- The parameter of a segment that is a placeholder. -/
def Segment.param? : Segment → Option PathParam
  | .placeholder param => some param
  | .literal _ => none

theorem argument?_part (segment : Segment) :
    argument? segment.part = segment.param?.map paramArgument := by
  cases segment with
  | literal text => rfl
  | placeholder param =>
    obtain ⟨name, kind, description⟩ := param
    cases kind <;> rfl

theorem filterMap_argument?_urlParts (segments : List Segment) :
    (urlParts segments).filterMap argument? =
      (segments.filterMap Segment.param?).map paramArgument := by
  induction segments using urlParts.induct with
  | case1 => rfl
  | case2 segment =>
    rw [urlParts, filterMap_argument?_consPart, argument?_part, List.filterMap_cons]
    cases segment.param? <;> rfl
  | case3 segment next rest ih =>
    rw [urlParts, filterMap_argument?_consPart, filterMap_argument?_consPart, ih, argument?_part,
      List.filterMap_cons (a := segment)]
    cases segment.param? <;> rfl

theorem params_eq (t : UrlTemplate) : t.params = t.segments.filterMap Segment.param? := by
  refine List.filterMap_congr fun segment _ ↦ ?_
  cases segment <;> rfl

/-- The parameters of a template are named by the resolved placeholders of its path. -/
theorem map_name_filterMap_param? {parts : Option Fields} {pieces : List (List Char)}
    {segments : List Segment} (h : List.Forall₂ (Stands parts) pieces segments) :
    (segments.filterMap Segment.param?).map PathParam.name =
      pieces.filterMap (resolvedName? parts) := by
  induction h with
  | nil => rfl
  | cons hpiece _ ih =>
    cases hpiece with
    | literal hnone =>
      rw [List.filterMap_cons_none hnone, List.filterMap_cons_none rfl, ih]
    | placeholder hsome =>
      rw [List.filterMap_cons_some hsome, ← ih]
      rfl

/-! ### Filling -/

theorem fill?_map_char_append (cs : List Char) (us : List FormatUnit) (values : List (List Char)) :
    fill? (cs.map .char ++ us) values = (fill? us values).map (cs ++ ·) := by
  induction cs with
  | nil => simp
  | cons c cs ih =>
    rw [List.map_cons, List.cons_append, fill?, ih, Option.map_map]
    rfl

/-- One segment is filled with the text that replaces its piece, and what remains of the values is
for the pieces behind it. -/
theorem exists_fill?_units {parts : Option Fields} {piece : List Char} {segment : Segment}
    (h : Stands parts piece segment) {pieces values : List (List Char)}
    (hlength : values.length = ((piece :: pieces).filterMap (resolvedName? parts)).length) :
    ∃ text others, others.length = (pieces.filterMap (resolvedName? parts)).length ∧
      substitutePieces parts (piece :: pieces) values =
        text :: substitutePieces parts pieces others ∧
      ∀ us, fill? (units segment.part ++ us) values = (fill? us others).map (text ++ ·) := by
  cases h with
  | literal hnone =>
    refine ⟨piece, values, ?_, ?_, fun us ↦ ?_⟩
    · rwa [List.filterMap_cons_none hnone] at hlength
    · simp only [substitutePieces, hnone]
    · rw [Segment.part, units, String.toList_ofList, fill?_map_char_append]
  | placeholder hsome =>
    rw [List.filterMap_cons_some hsome, List.length_cons] at hlength
    obtain ⟨value, others, rfl⟩ := List.exists_cons_of_length_eq_add_one hlength
    refine ⟨value, others, Nat.succ.inj hlength, ?_, fun us ↦ ?_⟩
    · simp only [substitutePieces, hsome]
    · next param =>
      obtain ⟨name, kind, description⟩ := param
      cases kind <;> rfl

theorem fill?_flatMap_units {parts : Option Fields} {pieces : List (List Char)}
    {segments : List Segment} (h : List.Forall₂ (Stands parts) pieces segments)
    {values : List (List Char)}
    (hlength : values.length = (pieces.filterMap (resolvedName? parts)).length) :
    fill? (segments.flatMap fun s ↦ .char '/' :: units s.part) values =
      some ((substitutePieces parts pieces values).flatMap ('/' :: ·)) := by
  induction h generalizing values with
  | nil =>
    obtain rfl := List.length_eq_zero_iff.1 hlength
    rfl
  | cons hpiece _ ih =>
    obtain ⟨text, others, hothers, hsubstitute, hfill⟩ := exists_fill?_units hpiece hlength
    rw [List.flatMap_cons, List.cons_append, fill?, hfill, ih hothers, hsubstitute]
    rfl

theorem joinWith_cons (sep : Char) (piece : List Char) (pieces : List (List Char)) :
    joinWith sep (piece :: pieces) = piece ++ pieces.flatMap (sep :: ·) := by
  induction pieces generalizing piece with
  | nil => simp [joinWith]
  | cons next rest ih => rw [joinWith, ih]; rfl

/-- Segments that stand beside the pieces of a path are filled to that path with the values put
in. -/
theorem fill?_segmentUnits {parts : Option Fields} {pieces : List (List Char)}
    {segments : List Segment} (h : List.Forall₂ (Stands parts) pieces segments)
    {values : List (List Char)}
    (hlength : values.length = (pieces.filterMap (resolvedName? parts)).length) :
    fill? (segmentUnits segments) values =
      some (joinWith '/' (substitutePieces parts pieces values)) := by
  cases h with
  | nil =>
    obtain rfl := List.length_eq_zero_iff.1 hlength
    rfl
  | cons hpiece hrest =>
    obtain ⟨text, others, hothers, hsubstitute, hfill⟩ := exists_fill?_units hpiece hlength
    rw [segmentUnits, hfill, fill?_flatMap_units hrest hothers, hsubstitute, joinWith_cons]
    rfl

theorem fill?_map_char (cs : List Char) : fill? (cs.map .char) [] = some cs := by
  have h := fill?_map_char_append cs [] []
  rwa [List.append_nil, fill?, Option.map_some, List.append_nil] at h

/-- What can be filled has a hole for each value. -/
theorem count_hole_of_fill? {us : List FormatUnit} {values : List (List Char)} {cs : List Char}
    (h : fill? us values = some cs) : us.count .hole = values.length := by
  induction us generalizing values cs with
  | nil =>
    cases values with
    | nil => rfl
    | cons value rest => exact nomatch h
  | cons u rest ih =>
    cases u with
    | char c =>
      rw [fill?, Option.map_eq_some_iff] at h
      obtain ⟨filled, hfilled, -⟩ := h
      rw [List.count_cons_of_ne (by simp), ih hfilled]
    | hole =>
      cases values with
      | nil => exact nomatch h
      | cons value values =>
        rw [fill?, Option.map_eq_some_iff] at h
        obtain ⟨filled, hfilled, -⟩ := h
        rw [List.count_cons_self, ih hfilled, List.length_cons]

/-- Putting every resolved placeholder in its own place gives the path as written. -/
theorem substitute_placeholders (parts : Option Fields) (path : String) :
    substitute parts path ((split '/' path.toList).filter (resolvedName? parts · |>.isSome)) =
      path.toList := by
  have hpieces (pieces : List (List Char)) :
      substitutePieces parts pieces (pieces.filter (resolvedName? parts · |>.isSome)) = pieces := by
    induction pieces with
    | nil => rfl
    | cons piece rest ih => cases h : resolvedName? parts piece <;> simp [substitutePieces, h, ih]
  rw [substitute, hpieces, Text.joinWith_split]

/-! ### Generated methods -/

/-- The methods for a template differ in their names and bodies only. -/
theorem pathParams_and_url_of_mem_methodsOf {e : Endpoint} {t : UrlTemplate} {m : Method}
    (hm : m ∈ e.methodsOf t) : m.pathParams = t.params ∧ m.url = t.url := by
  unfold methodsOf at hm
  cases hbody : e.body <;> simp only [hbody, List.mem_cons, List.not_mem_nil, or_false] at hm
  · rw [hm]; exact ⟨rfl, rfl⟩
  · rcases hm with rfl | rfl <;> exact ⟨rfl, rfl⟩
  · rcases hm with rfl | rfl <;> exact ⟨rfl, rfl⟩

end ClientSynthesis.Endpoint
