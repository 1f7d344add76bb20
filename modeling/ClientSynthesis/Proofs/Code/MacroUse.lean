import ClientSynthesis.Proofs.Code.Arrangement
import ClientSynthesis.Proofs.Text.Outside

/-!
# Where serializers use a macro

A serializer stores a plain value through a macro, which has to be imported, and the import is
decided on by another piece of code, from the fields of the struct instead of the statements. The
two are brought together here: what the statements store is read off the text of the serializer
(`invokes_statements_iff`), outside of the keys that stand in it as literals, and what the fields
ask for is read off the statements (`usesJsonMacro_iff`).

Both scan fields that the other may not look at. The import asks for any field with the role of the
value, where the serializer takes the first, so the two agree only on structs with one value at
most, as those of objects are.
-/

namespace ClientSynthesis.Code

open Body (Element ObjectShape)
open Naming (isNameChar)
open StructShape (childField objectFields ofObject ofObject_eq_ok_iff)
open Text

/-! ### What statements look like outside of literals -/

/-- A text with neither a literal nor a macro in it. -/
def Plain (cs : List Char) : Prop := ∀ c ∈ cs, c ≠ '"' ∧ c ≠ '!'

-- By the characters of the text, and not by all there are.
instance (cs : List Char) : Decidable (Plain cs) :=
  List.decidableBAll (fun c ↦ c ≠ '"' ∧ c ≠ '!') cs

theorem Plain.append {cs ds : List Char} (hcs : Plain cs) (hds : Plain ds) : Plain (cs ++ ds) :=
  List.forall_mem_append.2 ⟨hcs, hds⟩

theorem Plain.closed {cs : List Char} (h : Plain cs) : Closed cs :=
  closed_of_not_mem fun hmem ↦ (h _ hmem).1 rfl

theorem Plain.outside_eq {cs : List Char} (h : Plain cs) : outside cs = cs :=
  outside_of_not_mem fun hmem ↦ (h _ hmem).1 rfl

theorem Plain.not_mem {cs : List Char} (h : Plain cs) : '!' ∉ cs := fun hmem ↦ (h _ hmem).2 rfl

/-- An identifier holds neither. -/
theorem plain_of_isNameChar {cs : List Char} (h : ∀ c ∈ cs, isNameChar c = true) : Plain cs := by
  intro c hc
  constructor <;> rintro rfl <;> exact absurd (h _ hc) (by decide)

theorem plain_map (map : LocalMap) : Plain map.ident.toList := by cases map <;> decide

theorem plain_place {place : Place} (h : place.Named) : Plain place.text.toList := by
  cases place with
  | field ident =>
    rw [Place.text, String.toList_append]
    exact (by decide : Plain "self.".toList).append (plain_of_isNameChar h)
  | bound => decide

/-- Only the expression for a plain value uses a macro. -/
theorem plain_value {value : ValueExpression} (h : value.Named)
    (hnot : ∀ place, value ≠ .encoded place .verbatim) : Plain value.text.toList := by
  cases value with
  | null | emptyObject => decide
  | object map =>
    rw [ValueExpression.text, String.toList_append, String.toList_append]
    exact ((by decide : Plain "Value::Object(".toList).append (plain_map map)).append (by decide)
  | encoded place encoding =>
    have hplace : Plain place.text.toList := plain_place h
    cases encoding with
    | verbatim => exact absurd rfl (hnot place)
    | document =>
      rw [ValueExpression.text, String.toList_append]
      exact hplace.append (by decide)
    | wireValue =>
      rw [ValueExpression.text, String.toList_append, String.toList_append]
      exact ((by decide : Plain "Value::from(".toList).append hplace).append (by decide)
    | documentList =>
      rw [ValueExpression.text, String.toList_append, String.toList_append]
      exact ((by decide : Plain "Value::Array(".toList).append hplace).append (by decide)

/-- No expression has a literal in it. -/
theorem not_mem_value {value : ValueExpression} (h : value.Named) : '"' ∉ value.text.toList := by
  by_cases hverbatim : ∃ place, value = .encoded place .verbatim
  · obtain ⟨place, rfl⟩ := hverbatim
    have hplace : '"' ∉ place.text.toList := fun hmem ↦ (plain_place h _ hmem).1 rfl
    rw [ValueExpression.text]
    simp [hplace]
  · intro hmem
    exact (plain_value h (not_exists.1 hverbatim) _ hmem).1 rfl

/-- A key is closed, and outside of its literal there is no macro, whatever the literal is for. -/
theorem closed_key {key : KeyExpression} (h : key.Named) :
    Closed key.text.toList ∧ '!' ∉ outside key.text.toList := by
  cases key with
  | fixed key =>
    have hcall : Plain ".to_string()".toList := by decide
    rw [KeyExpression.text, String.toList_append, toList_quoted]
    refine ⟨(closed_quotedChars _).append hcall.closed, ?_⟩
    rw [outside_quotedChars_append, hcall.outside_eq]
    decide
  | container ident =>
    have hplain : Plain (KeyExpression.container ident).text.toList := by
      rw [KeyExpression.text, String.toList_append, String.toList_append]
      exact ((by decide : Plain "self.".toList).append (plain_of_isNameChar h)).append (by decide)
    rw [hplain.outside_eq]
    exact ⟨hplain.closed, hplain.not_mem⟩

/-- A statement that stores an entry has the text of the entry between plain texts, and the others
are plain. -/
theorem text_cases {s : Statement} (hs : s.Named) :
    (s.value? = none ∧ Plain s.text.toList) ∨
    ∃ front map key value back, s.text.toList = front ++ (entryText map key value ++ back) ∧
      s.value? = some value ∧ key.Named ∧ value.Named ∧ Plain front ∧ Plain back := by
  cases s with
  | declare map =>
    have htext : (Statement.declare map).text.toList =
        ("        let mut " ++ map.ident ++ " = Map::new();\n").toList := rfl
    rw [htext, String.toList_append, String.toList_append]
    exact .inl ⟨rfl, ((by decide : Plain "        let mut ".toList).append (plain_map map)).append
      (by decide)⟩
  | result map =>
    have htext : (Statement.result map).text.toList =
        ("        Value::Object(" ++ map.ident ++ ")\n").toList := rfl
    rw [htext, String.toList_append, String.toList_append]
    exact .inl ⟨rfl, ((by decide : Plain "        Value::Object(".toList).append
      (plain_map map)).append (by decide)⟩
  | insert map key value =>
    have htext : (Statement.insert map key value).text.toList =
        (insertText "        " map key value).toList := rfl
    rw [htext, toList_insertText]
    exact .inr ⟨"        ".toList, map, key, value, [], by rw [List.append_nil], rfl, hs.1, hs.2,
      by decide, by decide⟩
  | insertIfPresent ident map key value =>
    obtain ⟨hident, hkey, hvalue⟩ := hs
    have htext : (Statement.insertIfPresent ident map key value).text.toList =
        ("        if let Some(value) = &self." ++ ident ++ " \x7b\n" ++
          insertText "            " map key value ++ "        \x7d\n").toList := rfl
    have hfront : Plain ("        if let Some(value) = &self.".toList ++ ident.toList ++
        " \x7b\n            ".toList) :=
      ((by decide : Plain "        if let Some(value) = &self.".toList).append
        (plain_of_isNameChar hident)).append (by decide)
    refine .inr ⟨_, map, key, value, "        \x7d\n".toList, ?_, rfl, hkey, hvalue, hfront,
      by decide⟩
    rw [htext]
    simp only [String.toList_append, toList_insertText, List.append_assoc]
    rfl

theorem closed_entryText (map : LocalMap) {key : KeyExpression} {value : ValueExpression}
    (hkey : key.Named) (hvalue : value.Named) :
    Closed (entryText map key value) ∧ outside (entryText map key value) =
      map.ident.toList ++ (".insert(".toList ++ (outside key.text.toList ++ (", ".toList ++
        (value.text.toList ++ ");\n".toList)))) := by
  have hmap : Plain map.ident.toList := plain_map map
  have hinsert : Plain ".insert(".toList := by decide
  have hcomma : Plain ", ".toList := by decide
  have hend : Plain ");\n".toList := by decide
  have hclosed : Closed value.text.toList := closed_of_not_mem (not_mem_value hvalue)
  have hkeyClosed := (closed_key hkey).1
  refine ⟨?_, ?_⟩
  · exact hmap.closed.append (hinsert.closed.append (hkeyClosed.append (hcomma.closed.append
      (hclosed.append hend.closed))))
  · rw [entryText, hmap.closed, hinsert.closed, hkeyClosed, hcomma.closed, hclosed,
      hmap.outside_eq, hinsert.outside_eq, hcomma.outside_eq, hend.outside_eq,
      outside_of_not_mem (not_mem_value hvalue)]

/-! ### Statements that store a plain value -/

/-- The statement stores a value as it is, through the macro for that. -/
def Statement.StoresPlain (s : Statement) : Prop :=
  ∃ place, s.value? = some (.encoded place .verbatim)

theorem closed_statement {s : Statement} (hs : s.Named) : Closed s.text.toList := by
  rcases text_cases hs with ⟨-, hplain⟩ | ⟨front, map, key, value, back, htext, -, hkey, hvalue,
    hfront, hback⟩
  · exact hplain.closed
  · rw [htext]
    exact hfront.closed.append ((closed_entryText map hkey hvalue).1.append hback.closed)

/-- **A statement that stores a plain value invokes the macro for it**, behind a blank. -/
theorem invocation_of_storesPlain {s : Statement} (hs : s.Named) (hplain : s.StoresPlain) :
    ∃ before after, outside s.text.toList =
      before ++ ' ' :: ("json".toList ++ '!' :: '(' :: after) := by
  obtain ⟨place, hvalue?⟩ := hplain
  rcases text_cases hs with ⟨hnone, -⟩ | ⟨front, map, key, value, back, htext, hsome, hkey, hvalue,
    hfront, hback⟩
  · exact nomatch hnone.symm.trans hvalue?
  · obtain rfl := Option.some.inj (hsome.symm.trans hvalue?)
    obtain ⟨hclosed, houtside⟩ := closed_entryText map hkey hvalue
    refine ⟨front ++ map.ident.toList ++ ".insert(".toList ++ outside key.text.toList ++ [','],
      place.text.toList ++ ")".toList ++ ");\n".toList ++ back, ?_⟩
    rw [htext, hfront.closed, hclosed, hfront.outside_eq, hback.outside_eq, houtside,
      ValueExpression.text]
    simp

/-- A statement that stores no plain value has no macro in it. -/
theorem not_mem_of_not_storesPlain {s : Statement} (hs : s.Named) (hnot : ¬ s.StoresPlain) :
    '!' ∉ outside s.text.toList := by
  rcases text_cases hs with ⟨-, hplain⟩ | ⟨front, map, key, value, back, htext, hsome, hkey, hvalue,
    hfront, hback⟩
  · rw [hplain.outside_eq]
    exact hplain.not_mem
  · obtain ⟨hclosed, houtside⟩ := closed_entryText map hkey hvalue
    have hvaluePlain : Plain value.text.toList :=
      plain_value hvalue fun place heq ↦ hnot ⟨place, by rw [hsome, heq]⟩
    have hend : Plain ");\n".toList := by decide
    rw [htext, hfront.closed, hclosed, hfront.outside_eq, hback.outside_eq, houtside]
    simp only [List.mem_append, not_or]
    exact ⟨hfront.not_mem, ⟨(plain_map map).not_mem, by decide, (closed_key hkey).2, by decide,
      hvaluePlain.not_mem, by decide⟩, hback.not_mem⟩

/-- **The macro is invoked in the text of statements just if one of them stores a plain value.** -/
theorem invokes_statements_iff {statements : List Statement} (h : ∀ s ∈ statements, s.Named) :
    Invokes "json" (outside (String.join (statements.map Statement.text)).toList) ↔
      ∃ s ∈ statements, s.StoresPlain := by
  have houtside : outside (String.join (statements.map Statement.text)).toList =
      statements.flatMap fun s ↦ outside s.text.toList := by
    rw [String.toList_join, List.flatMap_map]
    exact outside_flatMap fun s hs ↦ closed_statement (h s hs)
  rw [houtside]
  constructor
  · intro hinvokes
    obtain ⟨s, hs, hmem⟩ := List.mem_flatMap.1 hinvokes.mem
    exact ⟨s, hs, by_contra fun hnot ↦ not_mem_of_not_storesPlain (h s hs) hnot hmem⟩
  · rintro ⟨s, hs, hplain⟩
    obtain ⟨before, after, heq⟩ := invocation_of_storesPlain (h s hs) hplain
    obtain ⟨earlier, later, rfl⟩ := List.append_of_mem hs
    refine ⟨(earlier.flatMap fun s ↦ outside s.text.toList) ++ before ++ [' '],
      after ++ later.flatMap fun s ↦ outside s.text.toList, ?_, ?_⟩
    · simp [heq]
    · rw [List.getLast?_concat]
      intro c hc
      obtain rfl := Option.mem_some_iff.1 hc
      decide

/-! ### Fields that ask for the macro -/

theorem storesPlain_childStatement_iff {f : Field} :
    (childStatement f).StoresPlain ↔ f.encoding = .verbatim := by
  unfold childStatement Statement.StoresPlain
  split_ifs <;> simp [Statement.value?]

/-- What makes the document itself stores no plain value. -/
theorem exists_storesPlain_serializer_iff {wireKey : String} {shape : StructShape} :
    (∃ s ∈ serializer wireKey shape, s.StoresPlain) ↔
      ∃ s ∈ (contentStatements shape).1, s.StoresPlain := by
  have hcontent : ∀ place, (contentStatements shape).2 ≠ .encoded place .verbatim := by
    unfold contentStatements
    cases shape.serialization with
    | fields container => cases container <;> simp
    | _ => simp
  constructor
  · rintro ⟨s, hs, place, hplain⟩
    rcases List.mem_append.1 hs with hs | hs
    · exact ⟨s, hs, place, hplain⟩
    · simp only [List.mem_cons, List.not_mem_nil, or_false] at hs
      rcases hs with rfl | rfl | rfl
      · simp [Statement.value?] at hplain
      · exact absurd (Option.some.inj hplain) (hcontent place)
      · simp [Statement.value?] at hplain
  · rintro ⟨s, hs, hplain⟩
    exact ⟨s, List.mem_append_left _ hs, hplain⟩

/-- **The macro is imported exactly if the serializer stores a plain value**, if the struct has no
two fields for the value. -/
theorem usesJsonMacro_iff {type : TypeDefinition} {shape : StructShape}
    (hshape : type.shape = .struct shape)
    (hvalue : (shape.fields.filter (hasRole .value)).length ≤ 1) :
    usesJsonMacro type = true ↔ ∃ s ∈ serializer type.wireKey shape, s.StoresPlain := by
  rw [exists_storesPlain_serializer_iff]
  unfold usesJsonMacro contentStatements
  rw [hshape]
  dsimp only
  cases hserialization : shape.serialization with
  | exactlyOne => simp
  | empty => simp
  | containerValue container value =>
    -- With one value at most, the first is the only one.
    dsimp only
    rw [← List.any_filter, ← List.head?_filter]
    cases hfields : shape.fields.filter (hasRole .value) with
    | nil => simp [Statement.StoresPlain, Statement.value?]
    | cons f rest =>
      rw [hfields, List.length_cons, Nat.succ_le_succ_iff, Nat.le_zero_eq,
        List.length_eq_zero_iff] at hvalue
      simp [hvalue, Statement.StoresPlain, Statement.value?]
  | fields container =>
    have hchildren : (∃ s ∈ (shape.fields.filter (hasRole .child)).map childStatement,
        s.StoresPlain) ↔ ((shape.fields.filter (hasRole .child)).any
          fun f ↦ f.encoding == .verbatim) = true := by
      rw [List.any_eq_true]
      simp only [List.mem_map, exists_exists_and_eq_and, storesPlain_childStatement_iff, beq_iff_eq]
    have hdeclare (map : LocalMap) : ¬ (Statement.declare map).StoresPlain := by
      simp [Statement.StoresPlain, Statement.value?]
    have hobject (map map' : LocalMap) (key : KeyExpression) :
        ¬ (Statement.insert map key (.object map')).StoresPlain := by
      simp [Statement.StoresPlain, Statement.value?]
    dsimp only
    rw [← List.any_filter, ← hchildren]
    cases container <;> simp [or_and_right, exists_or, hdeclare, hobject]

/-- An object has no two values. -/
theorem length_filter_value_of_ofObject {object : ObjectShape Element} {path : String}
    {shape : StructShape} (h : ofObject object path = .ok shape) :
    (shape.fields.filter (hasRole .value)).length ≤ 1 := by
  rcases ofObject_eq_ok_iff.1 h with ⟨-, rfl⟩ | ⟨-, -, rfl⟩
  · decide
  · have hchildren : (object.children.map childField).filter (hasRole .value) = [] := by
      rw [List.filter_map, List.map_eq_nil_iff]
      exact List.filter_eq_nil_iff.2 fun c _ ↦ Bool.false_ne_true
    rw [objectFields, List.filter_append, List.filter_append, hchildren]
    cases object.containerKey <;> cases object.value <;> exact Nat.le_of_ble_eq_true rfl

end ClientSynthesis.Code
