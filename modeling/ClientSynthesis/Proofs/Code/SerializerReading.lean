import ClientSynthesis.Code.Serializer
import ClientSynthesis.Proofs.Naming.NameCharacters
import ClientSynthesis.Proofs.Text.Literal
import ClientSynthesis.Proofs.Text.Reading

/-!
# Reading serializers

The statements of a serializer are read back from their text. The reader knows no more than the
forms that statements have: what it reads is given a meaning elsewhere, so that the text, and not
the data it was printed from, is what a serializer is judged by.

A form is recognised by how it begins, except that a `to_document` call begins with its place and is
tried last. Places and keys hold identifiers, and a statement is read back if these hold name
characters only (`Statement.Named`). Literals need no such condition.
-/

namespace ClientSynthesis.Code

open Naming (isNameChar)
open Text

/-! ### Readers -/

/-- The name of a local map at the start. -/
def readMap (cs : List Char) : Option (LocalMap × List Char) :=
  (expect "inner" cs).map (.inner, ·) <|> (expect "container" cs).map (.container, ·) <|>
    (expect "document" cs).map (.document, ·)

/-- A place at the start. -/
def readPlace (cs : List Char) : Option (Place × List Char) :=
  match expect "self." cs with
  | some cs =>
    let (ident, cs) := readRun isNameChar cs
    some (.field ident, cs)
  | none => (expect "value" cs).map (.bound, ·)

/-- What is between the parentheses of an object. -/
def readObject (cs : List Char) : Option (ValueExpression × List Char) :=
  match expect "Map::new())" cs with
  | some cs => some (.emptyObject, cs)
  | none => do
    let (map, cs) ← readMap cs
    return (.object map, ← expect ")" cs)

/-- A place between the two texts that make up an encoding. -/
def readEncoded (opening closing : String) (encoding : Encoding) (cs : List Char) :
    Option (ValueExpression × List Char) := do
  let cs ← expect opening cs
  let (place, cs) ← readPlace cs
  return (.encoded place encoding, ← expect closing cs)

/-- An expression for a JSON value at the start. -/
def readValue (cs : List Char) : Option (ValueExpression × List Char) :=
  (expect "Value::Null" cs).map (.null, ·) <|>
  (expect "Value::Object(" cs).bind readObject <|>
  readEncoded "Value::from(" ".as_str())" .wireValue cs <|>
  readEncoded "json!(" ")" .verbatim cs <|>
  readEncoded "Value::Array(" ".iter().map(|item| item.to_document()).collect())"
    .documentList cs <|>
  readEncoded "" ".to_document()" .document cs

/-- A key at the start. -/
def readKey (cs : List Char) : Option (KeyExpression × List Char) :=
  match expect "self." cs with
  | some cs => do
    let (ident, cs) := readRun isNameChar cs
    return (.container ident, ← expect ".clone()" cs)
  | none => do
    let (key, cs) ← readLiteral cs
    return (.fixed (String.ofList key), ← expect ".to_string()" cs)

/-- An entry that is stored: the map, the key and the value. -/
def readInsert (cs : List Char) :
    Option ((LocalMap × KeyExpression × ValueExpression) × List Char) := do
  let (map, cs) ← readMap cs
  let (key, cs) ← readKey (← expect ".insert(" cs)
  let (value, cs) ← readValue (← expect ", " cs)
  return ((map, key, value), ← expect ");\n" cs)

/-- What follows the name of a local map, which is all there is to a statement but its form. -/
def readMapped (closing : String) (form : LocalMap → Statement) (cs : List Char) :
    Option (Statement × List Char) := do
  let (map, cs) ← readMap cs
  return (form map, ← expect closing cs)

/-- An entry that is stored if an optional field is present, behind the words that say so. -/
def readIfPresent (cs : List Char) : Option (Statement × List Char) := do
  let (ident, cs) := readRun isNameChar cs
  let ((map, key, value), cs) ← readInsert (← expect " \x7b\n            " cs)
  return (.insertIfPresent ident map key value, ← expect "        \x7d\n" cs)

/-- A statement at the start. -/
def readStatement (cs : List Char) : Option (Statement × List Char) := do
  let cs ← expect "        " cs
  (expect "let mut " cs).bind (readMapped " = Map::new();\n" .declare) <|>
    (expect "Value::Object(" cs).bind (readMapped ")\n" .result) <|>
    (expect "if let Some(value) = &self." cs).bind readIfPresent <|>
    (readInsert cs).map fun ((map, key, value), cs) ↦ (.insert map key value, cs)

/-- The statements of a text. -/
def readStatements (text : String) : Option (List Statement) :=
  readItems [] readStatement text.toList

/-! ### Expressions are read back -/

/-- Whether the identifier of a place is made of name characters. -/
def Place.Named : Place → Prop
  | .field ident => ∀ c ∈ ident.toList, isNameChar c = true
  | .bound => True

/-- Whether the identifier in an expression is made of name characters. -/
def ValueExpression.Named : ValueExpression → Prop
  | .encoded place _ => place.Named
  | .null | .emptyObject | .object _ => True

/-- Whether the identifier in a key is made of name characters. -/
def KeyExpression.Named : KeyExpression → Prop
  | .fixed _ => True
  | .container ident => ∀ c ∈ ident.toList, isNameChar c = true

theorem readMap_ident (map : LocalMap) (rest : List Char) :
    readMap (map.ident.toList ++ rest) = some (map, rest) := by
  cases map <;> simp [readMap, LocalMap.ident, expect, List.isPrefixOf?]

theorem readPlace_text {place : Place} (hplace : place.Named) {c : Char} (hc : isNameChar c = false)
    (rest : List Char) : readPlace (place.text.toList ++ c :: rest) = some (place, c :: rest) := by
  cases place with
  | field ident =>
    rw [Place.text, String.toList_append, List.append_assoc, readPlace, expect_append]
    dsimp only
    rw [readRun_append hplace hc]
  | bound => simp [readPlace, Place.text, expect, List.isPrefixOf?]

theorem readEncoded_text {place : Place} (hplace : place.Named) (opening closing : String)
    (encoding : Encoding) {c : Char} {closed : List Char} (hclosing : closing.toList = c :: closed)
    (hc : isNameChar c = false) (rest : List Char) :
    readEncoded opening closing encoding
      (opening.toList ++ (place.text.toList ++ (closing.toList ++ rest))) =
      some (.encoded place encoding, rest) := by
  have hplaced := readPlace_text hplace hc (closed ++ rest)
  rw [← List.cons_append, ← hclosing] at hplaced
  simp only [readEncoded, expect_append, hplaced, Option.bind_eq_bind, Option.bind_some]
  rfl

theorem readEncoded_eq_none {opening : String} {cs : List Char} (h : expect opening cs = none)
    (closing : String) (encoding : Encoding) : readEncoded opening closing encoding cs = none := by
  rw [readEncoded, h]
  rfl

/-- An expression is read back, whatever follows it. -/
theorem readValue_text {value : ValueExpression} (hvalue : value.Named) (rest : List Char) :
    readValue (value.text.toList ++ rest) = some (value, rest) := by
  cases value with
  | null => simp [readValue, ValueExpression.text, expect, List.isPrefixOf?]
  | emptyObject => simp [readValue, readObject, ValueExpression.text, expect, List.isPrefixOf?]
  | object map =>
    cases map <;>
      simp [readValue, readObject, readMap, ValueExpression.text, LocalMap.ident, expect,
        List.isPrefixOf?]
  | encoded place encoding =>
    have hplace : place.Named := hvalue
    rw [readValue]
    -- The forms that are tried before fail at their first or their eighth character.
    cases encoding with
    | document =>
      have hread := readEncoded_text hplace "" ".to_document()" .document rfl (by decide) rest
      have hskip : ∀ token ∈ ["Value::Null", "Value::Object(", "Value::from(", "json!(",
          "Value::Array("], ∀ cs, expect token (place.text.toList ++ cs) = none := by
        cases place <;> simp [Place.text, expect, List.isPrefixOf?]
      simp only [List.forall_mem_cons] at hskip
      obtain ⟨hnull, hobject, hfrom, hjson, harray, -⟩ := hskip
      simp only [ValueExpression.text, String.toList_append, List.append_assoc, hnull, hobject,
        readEncoded_eq_none (hfrom _), readEncoded_eq_none (hjson _),
        readEncoded_eq_none (harray _)]
      exact hread
    | wireValue =>
      have hread :=
        readEncoded_text hplace "Value::from(" ".as_str())" .wireValue rfl (by decide) rest
      have hskip : ∀ token ∈ ["Value::Null", "Value::Object("],
          ∀ cs, expect token ("Value::from(".toList ++ cs) = none := by
        simp [expect, List.isPrefixOf?]
      simp only [List.forall_mem_cons] at hskip
      obtain ⟨hnull, hobject, -⟩ := hskip
      simp only [ValueExpression.text, String.toList_append, List.append_assoc, hnull, hobject,
        hread]
      rfl
    | verbatim =>
      have hread := readEncoded_text hplace "json!(" ")" .verbatim rfl (by decide) rest
      have hskip : ∀ token ∈ ["Value::Null", "Value::Object(", "Value::from("],
          ∀ cs, expect token ("json!(".toList ++ cs) = none := by
        simp [expect, List.isPrefixOf?]
      simp only [List.forall_mem_cons] at hskip
      obtain ⟨hnull, hobject, hfrom, -⟩ := hskip
      simp only [ValueExpression.text, String.toList_append, List.append_assoc, hnull, hobject,
        readEncoded_eq_none (hfrom _), hread]
      rfl
    | documentList =>
      have hread := readEncoded_text hplace "Value::Array("
        ".iter().map(|item| item.to_document()).collect())" .documentList rfl (by decide) rest
      have hskip : ∀ token ∈ ["Value::Null", "Value::Object(", "Value::from(", "json!("],
          ∀ cs, expect token ("Value::Array(".toList ++ cs) = none := by
        simp [expect, List.isPrefixOf?]
      simp only [List.forall_mem_cons] at hskip
      obtain ⟨hnull, hobject, hfrom, hjson, -⟩ := hskip
      simp only [ValueExpression.text, String.toList_append, List.append_assoc, hnull, hobject,
        readEncoded_eq_none (hfrom _), readEncoded_eq_none (hjson _), hread]
      rfl

/-- A key is read back, whatever follows it. -/
theorem readKey_text {key : KeyExpression} (hkey : key.Named) (rest : List Char) :
    readKey (key.text.toList ++ rest) = some (key, rest) := by
  cases key with
  | fixed key =>
    have hself (cs : List Char) :
        expect "self." (quotedChars cs ++ (".to_string()".toList ++ rest)) = none := by
      simp [expect, quotedChars, List.isPrefixOf?]
    rw [KeyExpression.text, String.toList_append, toList_quoted, List.append_assoc, readKey, hself]
    simp only [readLiteral_quotedChars, expect_append, Option.bind_eq_bind, Option.bind_some,
      String.ofList_toList]
    rfl
  | container ident =>
    have hrun := readRun_append hkey (show isNameChar '.' = false by decide)
      ("clone()".toList ++ rest)
    have hclone : '.' :: ("clone()".toList ++ rest) = ".clone()".toList ++ rest := rfl
    simp only [KeyExpression.text, String.toList_append, List.append_assoc, readKey, expect_append,
      ← hclone, hrun]
    rw [hclone, expect_append]
    rfl

/-! ### Statements are read back -/

/-- Whether the identifiers of a statement are made of name characters. -/
def Statement.Named : Statement → Prop
  | .insert _ key value => key.Named ∧ value.Named
  | .insertIfPresent ident _ key value =>
    (∀ c ∈ ident.toList, isNameChar c = true) ∧ key.Named ∧ value.Named
  | .declare _ | .result _ => True

/-- The identifier of a place. -/
def Place.idents : Place → List String
  | .field ident => [ident]
  | .bound => []

/-- The identifier in an expression. -/
def ValueExpression.idents : ValueExpression → List String
  | .encoded place _ => place.idents
  | .null | .emptyObject | .object _ => []

/-- The identifier in a key. -/
def KeyExpression.idents : KeyExpression → List String
  | .fixed _ => []
  | .container ident => [ident]

/-- The identifiers of fields in a statement. -/
def Statement.idents : Statement → List String
  | .insert _ key value => key.idents ++ value.idents
  | .insertIfPresent ident _ key value => ident :: (key.idents ++ value.idents)
  | .declare _ | .result _ => []

theorem ValueExpression.named_of_idents (value : ValueExpression)
    (h : ∀ ident ∈ value.idents, ∀ c ∈ ident.toList, isNameChar c = true) : value.Named := by
  cases value with
  | null | emptyObject | object => trivial
  | encoded place encoding =>
    cases place with
    | field ident => exact h ident List.mem_cons_self
    | bound => trivial

theorem KeyExpression.named_of_idents (key : KeyExpression)
    (h : ∀ ident ∈ key.idents, ∀ c ∈ ident.toList, isNameChar c = true) : key.Named := by
  cases key with
  | fixed key => trivial
  | container ident => exact h ident List.mem_cons_self

theorem Statement.named_of_idents (s : Statement)
    (h : ∀ ident ∈ s.idents, ∀ c ∈ ident.toList, isNameChar c = true) : s.Named := by
  cases s with
  | declare | result => trivial
  | insert map key value =>
    obtain ⟨hkey, hvalue⟩ := List.forall_mem_append.1 h
    exact ⟨key.named_of_idents hkey, value.named_of_idents hvalue⟩
  | insertIfPresent ident map key value =>
    obtain ⟨hident, hrest⟩ := List.forall_mem_cons.1 h
    obtain ⟨hkey, hvalue⟩ := List.forall_mem_append.1 hrest
    exact ⟨hident, key.named_of_idents hkey, value.named_of_idents hvalue⟩

/-- The text that stores an entry, without what indents it. -/
def entryText (map : LocalMap) (key : KeyExpression) (value : ValueExpression) : List Char :=
  map.ident.toList ++ (".insert(".toList ++ (key.text.toList ++ (", ".toList ++
    (value.text.toList ++ ");\n".toList))))

theorem toList_insertText (indent : String) (map : LocalMap) (key : KeyExpression)
    (value : ValueExpression) :
    (insertText indent map key value).toList = indent.toList ++ entryText map key value := by
  simp only [insertText, entryText, String.toList_append, List.append_assoc]

theorem readInsert_entryText {key : KeyExpression} {value : ValueExpression} (map : LocalMap)
    (hkey : key.Named) (hvalue : value.Named) (rest : List Char) :
    readInsert (entryText map key value ++ rest) = some ((map, key, value), rest) := by
  simp only [entryText, List.append_assoc, readInsert, readMap_ident, expect_append,
    readKey_text hkey, readValue_text hvalue, Option.bind_eq_bind, Option.bind_some]
  rfl

theorem readMapped_text (closing : String) (form : LocalMap → Statement) (map : LocalMap)
    (rest : List Char) :
    readMapped closing form (map.ident.toList ++ (closing.toList ++ rest)) =
      some (form map, rest) := by
  simp only [readMapped, readMap_ident, expect_append, Option.bind_eq_bind, Option.bind_some]
  rfl

theorem readIfPresent_text {ident : String} {key : KeyExpression} {value : ValueExpression}
    (hident : ∀ c ∈ ident.toList, isNameChar c = true) (map : LocalMap) (hkey : key.Named)
    (hvalue : value.Named) (rest : List Char) :
    readIfPresent (ident.toList ++ (" \x7b\n            ".toList ++
      (entryText map key value ++ ("        \x7d\n".toList ++ rest)))) =
      some (.insertIfPresent ident map key value, rest) := by
  have hrun := readRun_append hident (show isNameChar ' ' = false by decide)
    ("\x7b\n            ".toList ++ (entryText map key value ++ ("        \x7d\n".toList ++ rest)))
  have hopen (cs : List Char) :
      ' ' :: ("\x7b\n            ".toList ++ cs) = " \x7b\n            ".toList ++ cs := by simp
  rw [hopen] at hrun
  simp only [readIfPresent, hrun, expect_append, readInsert_entryText map hkey hvalue,
    Option.bind_eq_bind, Option.bind_some]
  rfl

/-- A statement is read back, whatever follows it. -/
theorem readStatement_text {statement : Statement} (h : statement.Named) (rest : List Char) :
    readStatement (statement.text.toList ++ rest) = some (statement, rest) := by
  cases statement with
  | declare map =>
    have htext : (Statement.declare map).text =
      "        let mut " ++ map.ident ++ " = Map::new();\n" := rfl
    have hdeclare : "        let mut ".toList = "        ".toList ++ "let mut ".toList := by simp
    simp only [htext, String.toList_append, List.append_assoc, hdeclare, readStatement,
      expect_append, readMapped_text, Option.bind_eq_bind, Option.bind_some,
      Option.orElse_eq_orElse, Option.orElse_some]
  | result map =>
    have htext : (Statement.result map).text = "        Value::Object(" ++ map.ident ++ ")\n" := rfl
    have hresult : "        Value::Object(".toList =
      "        ".toList ++ "Value::Object(".toList := by simp
    have hskip (cs : List Char) : expect "let mut " ("Value::Object(".toList ++ cs) = none := by
      simp [expect, List.isPrefixOf?]
    simp only [htext, String.toList_append, List.append_assoc, hresult, readStatement,
      expect_append, hskip, readMapped_text, Option.bind_eq_bind, Option.bind_some,
      Option.bind_none, Option.orElse_eq_orElse, Option.orElse_none, Option.orElse_some]
  | insert map key value =>
    obtain ⟨hkey, hvalue⟩ := h
    have htext : (Statement.insert map key value).text = insertText "        " map key value := rfl
    have hskip : ∀ token ∈ ["let mut ", "Value::Object(", "if let Some(value) = &self."],
        ∀ cs, expect token (map.ident.toList ++ cs) = none := by
      cases map <;> simp [LocalMap.ident, expect, List.isPrefixOf?]
    simp only [List.forall_mem_cons] at hskip
    obtain ⟨hlet, hobject, hif, -⟩ := hskip
    -- No token is left in front of an insertion, so the reader of those is the last to try.
    have hread := readInsert_entryText map hkey hvalue rest
    rw [entryText, List.append_assoc] at hread
    simp only [htext, toList_insertText, entryText, List.append_assoc, readStatement,
      expect_append, hlet, hobject, hif, Option.bind_eq_bind, Option.bind_some, Option.bind_none,
      Option.orElse_eq_orElse, Option.orElse_none]
    simp only [List.append_assoc] at hread
    rw [hread, Option.map_some]
  | insertIfPresent ident map key value =>
    obtain ⟨hident, hkey, hvalue⟩ := h
    have htext : (Statement.insertIfPresent ident map key value).text =
      "        if let Some(value) = &self." ++ ident ++ " \x7b\n" ++
        insertText "            " map key value ++ "        \x7d\n" := rfl
    have hpresent : "        if let Some(value) = &self.".toList =
      "        ".toList ++ "if let Some(value) = &self.".toList := by simp
    have hopen (cs : List Char) : " \x7b\n".toList ++ ("            ".toList ++ cs) =
      " \x7b\n            ".toList ++ cs := by simp
    have hskip : ∀ token ∈ ["let mut ", "Value::Object("],
        ∀ cs, expect token ("if let Some(value) = &self.".toList ++ cs) = none := by
      simp [expect, List.isPrefixOf?]
    simp only [List.forall_mem_cons] at hskip
    obtain ⟨hlet, hobject, -⟩ := hskip
    simp only [htext, String.toList_append, toList_insertText, List.append_assoc, hpresent,
      hopen, readStatement, expect_append, hlet, hobject,
      readIfPresent_text hident map hkey hvalue, Option.bind_eq_bind, Option.bind_some,
      Option.bind_none, Option.orElse_eq_orElse, Option.orElse_none, Option.orElse_some]

/-- The statements of a text are those whose texts it was put together from. -/
theorem readStatements_join {statements : List Statement} (h : ∀ s ∈ statements, s.Named) :
    readStatements (String.join (statements.map Statement.text)) = some statements := by
  have hne : ∀ s ∈ statements, s.text.toList ≠ [] := by
    intro s hs hempty
    have hread := readStatement_text (h s hs) []
    rw [hempty] at hread
    exact nomatch hread
  have hread : readItems [] readStatement (statements.flatMap (fun s ↦ s.text.toList) ++ []) =
      some statements :=
    readItems_flatMap (fun s hs later ↦ readStatement_text (h s hs) _) hne
  rw [readStatements, String.toList_join, List.flatMap_map, ← hread, List.append_nil]

end ClientSynthesis.Code
