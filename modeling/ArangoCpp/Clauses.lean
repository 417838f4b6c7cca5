/-
This file reads the clause that returns the selected fields back from its text.

The grammar of the clause is `RETURN`, perhaps `DISTINCT`, and then a variable or an object that has
under each name a path behind the variable. Blanks may stand between the tokens. A name stands
between quotes, so that it may hold the separators of the grammar; a path ends at the first comma,
brace, quote or blank. As long as the names and the paths keep to this, the text says which fields
are selected and in which order.
-/

import ArangoCpp.Query
import ArangoCpp.Aql
import ArangoCpp.Reader

namespace ArangoCpp

namespace Clause

open Reader

/-! ### Tokens -/

/-- A byte of an identifier. -/
def isIdentifierByte (byte : UInt8) : Bool := Aql.isWordByte byte || byte = 0x24

def IsIdentifier (name : Bytes) : Prop := name ≠ [] ∧ ∀ byte ∈ name, isIdentifierByte byte = true

/-- Nothing but blanks. -/
def Blanks (gap : Bytes) : Prop := ∀ byte ∈ gap, Aql.isBlank byte = true

/-- A reader behind blanks. -/
def token {Value : Type} (reader : Reader UInt8 Value) : Reader UInt8 Value :=
  spaced Aql.isBlank reader

def keyword (letters : Bytes) : Reader UInt8 Unit := token (word isIdentifierByte letters)

def identifier : Reader UInt8 Bytes := token (run isIdentifierByte)

def mark (letters : Bytes) : Reader UInt8 Unit := token (exactly letters)

/-- A name in quotes with a colon behind it. -/
def label (kind : UInt8 → Bool) : Reader UInt8 Bytes := do
  let name ← token (enclosed "\"" "\"" kind)
  mark ":"
  pure name

/-- A path behind a variable. -/
def reference (path : Reader UInt8 Bytes) : Reader UInt8 (Bytes × Bytes) := do
  let collvalue ← identifier
  exactly "."
  let steps ← path
  pure (collvalue, steps)

theorem isBlank_eq_false_of_isIdentifierByte :
    ∀ byte, isIdentifierByte byte = true → Aql.isBlank byte = false :=
  forall_byte (by decide +kernel)

theorem blanks_nil : Blanks [] := fun _ member => absurd member List.not_mem_nil

theorem blanks_space : Blanks (text " ") := List.all_eq_true.mp rfl

theorem blanks_spaces : Blanks (text "  ") := List.all_eq_true.mp rfl

theorem Blanks.stops {gap : Bytes} (blanks : Blanks gap) {kind : UInt8 → Bool}
    (excludes : ∀ byte, Aql.isBlank byte = true → kind byte = false) : Stops kind gap :=
  fun byte first => excludes byte (blanks byte (List.mem_of_mem_head? first))

/-- Blanks stop an identifier. -/
theorem Blanks.stops_identifier {gap : Bytes} (blanks : Blanks gap) : Stops isIdentifierByte gap :=
  blanks.stops (forall_byte (by decide +kernel))

/-- There is no token in blanks. -/
theorem Blanks.token_eq {gap : Bytes} (blanks : Blanks gap) {Value : Type}
    (reader : Reader UInt8 Value) : token reader gap = reader [] := by
  have skipped := spaced_append blanks (stops_nil Aql.isBlank) reader
  rwa [List.append_nil] at skipped

theorem IsIdentifier.begins {name : Bytes} (named : IsIdentifier name) (rest : Bytes) :
    Stops Aql.isBlank (name ++ rest) :=
  stops_append named.1 named.2 isBlank_eq_false_of_isIdentifierByte rest

variable {gap name letters : Bytes}

theorem reads_identifier (named : IsIdentifier name) (blanks : Blanks gap) :
    identifier.Reads (Stops isIdentifierByte) (gap ++ name) name :=
  (reads_run named.2 named.1).spaced blanks named.begins

theorem reads_keyword (named : IsIdentifier letters) (blanks : Blanks gap) :
    (keyword letters).Reads (Stops isIdentifierByte) (gap ++ letters) () :=
  (reads_word named.2 named.1).spaced blanks named.begins

theorem reads_mark (begins : ∀ rest, Stops Aql.isBlank (letters ++ rest)) (blanks : Blanks gap) :
    (mark letters).Reads Anything (gap ++ letters) () :=
  (reads_exactly letters).spaced blanks begins

theorem reads_label {kind : UInt8 → Bool} (all : ∀ byte ∈ name, kind byte = true)
    (closes : kind Aql.doubleQuote = false) (blanks : Blanks gap) :
    (label kind).Reads Anything (gap ++ ("\"" ++ name ++ "\" :")) name := by
  have shape : gap ++ (text "\"" ++ name ++ text "\" :") =
      (gap ++ (text "\"" ++ (name ++ text "\""))) ++ (text " " ++ text ":") := by
    have colon : text "\" :" = text "\"" ++ (text " " ++ text ":") := rfl
    simp only [colon, List.append_assoc]
  have readsName : (token (enclosed (text "\"") (text "\"") kind)).Reads Anything
      (gap ++ (text "\"" ++ (name ++ text "\""))) name :=
    (reads_enclosed all fun rest => stops_cons closes rest).spaced blanks fun rest =>
      stops_cons rfl _
  rw [shape]
  refine readsName.bind ?_ fun _ _ => trivial
  exact (reads_mark (fun rest => stops_cons rfl rest) blanks_space).bind_nil (reads_pure name)

theorem reads_reference {reader : Reader UInt8 Bytes} {follows : Bytes → Prop}
    {collvalue path : Bytes} (named : IsIdentifier collvalue)
    (reads : reader.Reads follows path path) (blanks : Blanks gap) :
    (reference reader).Reads follows (gap ++ (collvalue ++ "." ++ path)) (collvalue, path) := by
  have shape : gap ++ (collvalue ++ text "." ++ path) =
      (gap ++ collvalue) ++ (text "." ++ path) := by
    simp only [List.append_assoc]
  rw [shape]
  refine (reads_identifier named blanks).bind ?_ fun rest _ => stops_cons rfl _
  refine (reads_exactly (text ".")).bind ?_ fun _ _ => trivial
  exact reads.bind_nil (reads_pure _)

/-! ### The grammar of the clause -/

/-- What a clause says. The fields are paths and names. -/
structure Return where
  isDistinct : Bool
  collvalue : Bytes
  fields : List (Bytes × Bytes)
  deriving DecidableEq, Repr

/-- A byte of a name: neither a quote nor a backslash. -/
def isUnescapedByte (byte : UInt8) : Bool := byte ≠ Aql.doubleQuote && byte ≠ Aql.backslash

/-- A byte of a path: no quote, no comma, no closing brace and no blank. -/
def isPathByte (byte : UInt8) : Bool :=
  byte ≠ Aql.doubleQuote && byte ≠ 0x2c && byte ≠ 0x7d && !Aql.isBlank byte

/-- A name for a path behind a variable. -/
def entry : Reader UInt8 (Bytes × Bytes × Bytes) := do
  let name ← label isUnescapedByte
  let read ← reference (run isPathByte)
  pure (read.1, read.2, name)

/-- The variable of all entries, and the entries without it. -/
def ofOneVariable : List (Bytes × Bytes × Bytes) → Option (Bytes × List (Bytes × Bytes))
  | [] => none
  | first :: others =>
    if ∀ other ∈ others, other.1 = first.1 then some (first.1, (first :: others).map Prod.snd)
    else none

/-- Entries in braces, all of them of one variable. -/
def object : Reader UInt8 (Bytes × List (Bytes × Bytes)) := do
  mark "\x7b"
  let entries ← list (mark ",") entry
  mark "\x7d"
  ofOption (ofOneVariable entries)

/-- What is returned: an object, or the value of a variable. -/
def selection : Reader UInt8 (Bytes × List (Bytes × Bytes)) :=
  orElse object do
    let collvalue ← identifier
    pure (collvalue, [])

/-- What is returned, as a clause with or without the keyword `DISTINCT`. -/
def chosen (isDistinct : Bool) : Reader UInt8 Return := do
  let selected ← selection
  pure ⟨isDistinct, selected.1, selected.2⟩

def distinct : Reader UInt8 Return := do
  keyword "DISTINCT"
  chosen true

/-- The clause. A variable may have the letters of the keyword `DISTINCT` as its name. -/
def returnClause : Reader UInt8 Return := do
  keyword "RETURN"
  orElse distinct (chosen false)

/-- What the text of a clause says. -/
def readReturn (source : Bytes) : Option Return := readAll Aql.isBlank returnClause source

/-! ### The clause that is generated -/

/-- The text of an entry, without the blank in front of it. -/
def writeEntry (collvalue : Bytes) (fld : Bytes × Bytes) : Bytes :=
  "\"" ++ fld.2 ++ "\" : " ++ collvalue ++ "." ++ fld.1

/-- A field has a name without quotes and backslashes, and a path that ends where it should. -/
def IsField (fld : Bytes × Bytes) : Prop :=
  (∀ byte ∈ fld.2, isUnescapedByte byte = true) ∧ fld.1 ≠ [] ∧
    ∀ byte ∈ fld.1, isPathByte byte = true

variable {collvalue : Bytes}

theorem reads_entry {fld : Bytes × Bytes} (named : IsIdentifier collvalue) (isField : IsField fld)
    (blanks : Blanks gap) :
    entry.Reads (Stops isPathByte) (gap ++ writeEntry collvalue fld) (collvalue, fld) := by
  have shape : gap ++ writeEntry collvalue fld =
      (gap ++ (text "\"" ++ fld.2 ++ text "\" :")) ++
        (text " " ++ (collvalue ++ text "." ++ fld.1)) := by
    have colon : text "\" : " = text "\" :" ++ text " " := rfl
    simp only [writeEntry, colon, List.append_assoc]
  have readsPath := reads_run isField.2.2 isField.2.1
  rw [shape]
  refine (reads_label isField.1 rfl blanks).bind ?_ fun _ _ => trivial
  exact (reads_reference named readsPath blanks_space).bind_nil (reads_pure _)

theorem ofOneVariable_map (collvalue : Bytes) {fields : List (Bytes × Bytes)}
    (nonempty : fields ≠ []) :
    ofOneVariable (fields.map (Prod.mk collvalue)) = some (collvalue, fields) := by
  obtain ⟨first, others, rfl⟩ := List.exists_cons_of_ne_nil nonempty
  have same : ∀ other ∈ others.map (Prod.mk collvalue), other.1 = collvalue := by
    intro other member
    obtain ⟨field, _, rfl⟩ := List.mem_map.mp member
    rfl
  have back : (others.map (Prod.mk collvalue)).map Prod.snd = others := by
    rw [List.map_map]
    exact List.map_id others
  rw [List.map_cons, ofOneVariable, if_pos same, List.map_cons, back]

/-- The text of an object of fields, without the blanks in front of it. -/
def writeObject (collvalue : Bytes) (fields : List (Bytes × Bytes)) : Bytes :=
  "\x7b" ++ (text "  " ++ (text ",  ").intercalate (fields.map (writeEntry collvalue))) ++ " \x7d"

theorem reads_object {fields : List (Bytes × Bytes)} (named : IsIdentifier collvalue)
    (nonempty : fields ≠ []) (areFields : ∀ fld ∈ fields, IsField fld) (blanks : Blanks gap) :
    object.Reads Anything (gap ++ writeObject collvalue fields) (collvalue, fields) := by
  have shape : gap ++ writeObject collvalue fields =
      (gap ++ text "\x7b") ++ ((text "  " ++ (text "," ++ text "  ").intercalate
        ((fields.map (Prod.mk collvalue)).map fun entry => writeEntry entry.1 entry.2)) ++
          (text " " ++ text "\x7d")) := by
    have comma : text ",  " = text "," ++ text "  " := rfl
    have closing : text " \x7d" = text " " ++ text "\x7d" := rfl
    simp only [writeObject, comma, closing, List.map_map, Function.comp_def, List.append_assoc]
  have entries : ∀ read ∈ fields.map (Prod.mk collvalue), ∀ gap, Blanks gap →
      entry.Reads (Stops isPathByte) (gap ++ writeEntry read.1 read.2) read := by
    intro read member gap blanks
    obtain ⟨fld, isField, rfl⟩ := List.mem_map.mp member
    exact reads_entry named (areFields fld isField) blanks
  have comma : (mark ",").Reads Anything (text ",") () :=
    reads_mark (fun rest => stops_cons rfl rest) blanks_nil
  have ends : ∀ rest, (∃ back, rest = text " \x7d" ++ back) →
      Stops isPathByte rest ∧ mark "," rest = none := by
    rintro rest ⟨back, rfl⟩
    exact ⟨stops_cons rfl _, rfl⟩
  have some : fields.map (Prod.mk collvalue) ≠ [] := fun empty =>
    nonempty (List.map_eq_nil_iff.mp empty)
  have readsEntries := reads_list comma (fun rest => stops_cons rfl rest) ends blanks_spaces entries
    (List.cons_ne_nil _ _) some blanks_spaces
  rw [shape]
  refine (reads_mark (fun rest => stops_cons rfl rest) blanks).bind ?_ fun _ _ => trivial
  refine readsEntries.bind ?_ fun rest _ => ⟨rest, rfl⟩
  refine (reads_mark (fun rest => stops_cons rfl rest) blanks_space).bind_nil ?_
  exact reads_ofOption (ofOneVariable_map collvalue nonempty)

/-- The text of what is returned. -/
def writeSelection (collvalue : Bytes) (fields : List (Bytes × Bytes)) : Bytes :=
  if fields = [] then " " ++ collvalue else "  " ++ writeObject collvalue fields

theorem selection_eq_none (blanks : Blanks gap) : selection gap = none := by
  have noObject : object gap = none := bind_eq_of_eq_none ((blanks.token_eq _).trans rfl) _
  have noIdentifier : identifier gap = none := (blanks.token_eq _).trans rfl
  rw [selection, orElse, noObject]
  exact bind_eq_of_eq_none noIdentifier _

theorem reads_selection {fields : List (Bytes × Bytes)} (named : IsIdentifier collvalue)
    (areFields : ∀ fld ∈ fields, IsField fld) :
    selection.Reads Blanks (writeSelection collvalue fields) (collvalue, fields) := by
  have noBrace : ∀ byte, isIdentifierByte byte = true → decide (byte = 0x7b) = false :=
    forall_byte (by decide +kernel)
  by_cases empty : fields = []
  · subst empty
    rw [writeSelection, if_pos rfl]
    refine Reads.orElse_right ?_ fun rest _ => ?_
    · have ends : ∀ rest, Blanks rest → Stops isIdentifierByte rest :=
        fun _ blanks => blanks.stops_identifier
      exact ((reads_identifier named blanks_space).imp ends).bind_nil (reads_pure _)
    · refine bind_eq_of_eq_none ?_ _
      rw [List.append_assoc, mark, token, spaced_append blanks_space (named.begins rest)]
      exact exactly_eq_none (stops_append named.1 named.2 noBrace rest)
  · rw [writeSelection, if_neg empty]
    exact ((reads_object named empty areFields blanks_spaces).imp
      fun _ _ => trivial).orElse_left _

/-- What is returned is not taken for the keyword in front of it. -/
theorem distinct_eq_none {fields : List (Bytes × Bytes)} (named : IsIdentifier collvalue)
    {rest : Bytes} (blanks : Blanks rest) :
    distinct (writeSelection collvalue fields ++ rest) = none := by
  by_cases empty : fields = []
  · rw [writeSelection, if_pos empty]
    by_cases same : collvalue = text "DISTINCT"
    · have readsKeyword := reads_keyword named blanks_space rest blanks.stops_identifier
      rw [distinct, ← same, bind_eq_of_eq_some readsKeyword]
      exact bind_eq_of_eq_none (selection_eq_none blanks) _
    · refine bind_eq_of_eq_none ?_ _
      rw [List.append_assoc, keyword, token, spaced_append blanks_space (named.begins rest)]
      exact word_eq_none named.2 named.1 same blanks.stops_identifier
  · rw [writeSelection, if_neg empty]
    have noWord : keyword "DISTINCT" (text "  " ++ writeObject collvalue fields ++ rest) = none :=
      rfl
    exact bind_eq_of_eq_none noWord _

/-- The text of a clause. -/
def writeReturn (said : Return) : Bytes :=
  "\nRETURN" ++ (if said.isDistinct then text " DISTINCT" else []) ++
    writeSelection said.collvalue said.fields

theorem reads_returnClause {said : Return} (named : IsIdentifier said.collvalue)
    (areFields : ∀ fld ∈ said.fields, IsField fld) :
    returnClause.Reads Blanks (writeReturn said) said := by
  obtain ⟨isDistinct, collvalue, fields⟩ := said
  have isReturn : IsIdentifier (text "RETURN") := ⟨List.cons_ne_nil _ _, List.all_eq_true.mp rfl⟩
  have isDistinctWord : IsIdentifier (text "DISTINCT") :=
    ⟨List.cons_ne_nil _ _, List.all_eq_true.mp rfl⟩
  have newline : Blanks (text "\n") := List.all_eq_true.mp rfl
  have begins : ∀ rest, Stops isIdentifierByte (writeSelection collvalue fields ++ rest) := by
    intro rest
    rw [writeSelection]
    split
    · exact stops_cons rfl _
    · exact stops_cons rfl _
  have selected := reads_selection named areFields
  cases isDistinct with
  | true =>
    have shape : writeReturn ⟨true, collvalue, fields⟩ = (text "\n" ++ text "RETURN") ++
        ((text " " ++ text "DISTINCT") ++ writeSelection collvalue fields) := rfl
    rw [shape]
    refine (reads_keyword isReturn newline).bind (Reads.orElse_left ?_ _) fun rest _ =>
      stops_cons rfl _
    refine (reads_keyword isDistinctWord blanks_space).bind ?_ fun rest _ => begins rest
    exact selected.bind_nil (reads_pure _)
  | false =>
    have shape : writeReturn ⟨false, collvalue, fields⟩ = (text "\n" ++ text "RETURN") ++
        writeSelection collvalue fields := rfl
    rw [shape]
    refine (reads_keyword isReturn newline).bind (Reads.orElse_right ?_ ?_) fun rest _ =>
      begins rest
    · exact selected.bind_nil (reads_pure _)
    · exact fun rest blanks => distinct_eq_none named blanks

end Clause

namespace ArangoDBQuery

open Clause

theorem isEmpty_iff (map : Std.TreeMap Bytes Bytes) : map.isEmpty = true ↔ map.toList = [] := by
  rw [← Std.TreeMap.isEmpty_toList, List.isEmpty_iff]

/-- The loop joins the entries. -/
theorem foldl_addField (collvalue : Bytes) {fields : List (Bytes × Bytes)} (some : fields ≠ []) :
    fields.foldl (addField collvalue) [] =
      " " ++ (text ",  ").intercalate (fields.map (writeEntry collvalue)) := by
  have steps : ∀ fldslst fld, addField collvalue fldslst fld =
      Text.joinStep (text ", ") fldslst (text " " ++ writeEntry collvalue fld ++ []) := by
    intro fldslst fld
    have quote : text " \"" = text " " ++ text "\"" := rfl
    rw [Text.joinStep_eq, addField, writeEntry, quote]
    simp only [List.append_assoc, List.append_nil]
  have joined := Text.foldl_eq_intercalate some steps fun fld => List.cons_ne_nil _ _
  rw [List.append_nil] at joined
  exact joined

/-- The clause that is generated. -/
theorem generateRETURNOf_eq (isDistinct : Bool) (mapFields : QueryFields) (collvalue : Bytes) :
    generateRETURNOf isDistinct mapFields collvalue =
      writeReturn ⟨isDistinct, collvalue, mapFields.toList⟩ ++ " " := by
  have keywords : text "\nRETURN " ++ (if isDistinct then text "DISTINCT " else []) =
      text "\nRETURN" ++ (if isDistinct then text " DISTINCT" else []) ++ text " " := by
    cases isDistinct
    · rfl
    · rfl
  rw [generateRETURNOf, keywords, writeReturn, writeSelection]
  by_cases empty : mapFields.toList = []
  · rw [if_pos ((isEmpty_iff mapFields).mpr empty), if_pos empty]
    simp only [List.append_assoc]
  · have opening : text " \x7b " = text " \x7b" ++ text " " := rfl
    have shape : text "  " = text " " ++ text " " := rfl
    rw [if_neg fun isEmpty => empty ((isEmpty_iff mapFields).mp isEmpty), if_neg empty,
      foldl_addField collvalue empty, writeObject]
    simp only [List.append_assoc, shape]
    rfl

/-- The clause is read back as what it was generated from. So another clause that is generated has
the same text only if it is for the same variable and fields, in the same order, and is distinct as
well. -/
theorem readReturn_generateRETURN (isDistinct : Bool) {mapFields : QueryFields} {collvalue : Bytes}
    (named : IsIdentifier collvalue) (areFields : ∀ fld ∈ mapFields.toList, IsField fld) :
    readReturn (generateRETURNOf isDistinct mapFields collvalue) =
        some ⟨isDistinct, collvalue, mapFields.toList⟩ ∧
      ∀ (otherDistinct : Bool) (otherFields : QueryFields) (othervalue : Bytes),
        IsIdentifier othervalue → (∀ fld ∈ otherFields.toList, IsField fld) →
        generateRETURNOf otherDistinct otherFields othervalue =
          generateRETURNOf isDistinct mapFields collvalue →
        otherDistinct = isDistinct ∧ othervalue = collvalue ∧
          otherFields.toList = mapFields.toList := by
  have back : ∀ (isDistinct : Bool) (mapFields : QueryFields) (collvalue : Bytes),
      IsIdentifier collvalue → (∀ fld ∈ mapFields.toList, IsField fld) →
      readReturn (generateRETURNOf isDistinct mapFields collvalue) =
        some ⟨isDistinct, collvalue, mapFields.toList⟩ := by
    intro isDistinct mapFields collvalue named areFields
    rw [generateRETURNOf_eq]
    exact (reads_returnClause named areFields).readAll blanks_space blanks_space
  refine ⟨back isDistinct mapFields collvalue named areFields, ?_⟩
  intro otherDistinct otherFields othervalue otherNamed otherAreFields same
  have read := back otherDistinct otherFields othervalue otherNamed otherAreFields
  rw [same, back isDistinct mapFields collvalue named areFields, Option.some_inj] at read
  have parts := Return.mk.inj read
  exact ⟨parts.1.symm, parts.2.1.symm, parts.2.2.symm⟩

/-- Separators in a name are no separators of the clause. -/
theorem readReturn_generateRETURN_separators :
    readReturn (generateRETURNOf true (Std.TreeMap.ofList
        [(text "foo.baz[3].boo", text "\x7b a : b, c \x7d"), (text "bar", text "")]) "DISTINCT") =
      some ⟨true, text "DISTINCT",
        [(text "bar", text ""), (text "foo.baz[3].boo", text "\x7b a : b, c \x7d")]⟩ := by
  have listed : (Std.TreeMap.ofList [(text "foo.baz[3].boo", text "\x7b a : b, c \x7d"),
      (text "bar", text "")] : QueryFields).toList =
        [(text "bar", text ""), (text "foo.baz[3].boo", text "\x7b a : b, c \x7d")] := rfl
  have areFields : ∀ fld ∈ [(text "bar", text ""),
      (text "foo.baz[3].boo", text "\x7b a : b, c \x7d")], IsField fld := by
    refine List.forall_mem_cons.mpr ⟨?_, List.forall_mem_singleton.mpr ?_⟩
    · exact ⟨List.all_eq_true.mp rfl, List.cons_ne_nil _ _, List.all_eq_true.mp rfl⟩
    · exact ⟨List.all_eq_true.mp rfl, List.cons_ne_nil _ _, List.all_eq_true.mp rfl⟩
  have named : IsIdentifier (text "DISTINCT") := ⟨List.cons_ne_nil _ _, List.all_eq_true.mp rfl⟩
  rw [← listed] at areFields
  exact (readReturn_generateRETURN true named areFields).1.trans (by rw [listed])

end ArangoDBQuery

end ArangoCpp
