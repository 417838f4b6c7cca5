/-
This file reads the two forms of a filter back from their texts.

A template is an object whose members have a path as their name and a scalar as their value. The
clause is `FILTER` and then comparisons of a path behind a variable with a scalar, with `&&` between
them. A string may hold the separators of either form, since it ends at its closing quote only. Both
forms of a map of values give back the entries of the map in their order, so they ask for the same.
-/

import ArangoCpp.Clauses
import ArangoCpp.JsonScalar

namespace ArangoCpp

namespace Filters

open Reader Clause JsonScalar

/-! ### Paths -/

/-- What of a path has been read. -/
inductive PathState : Type where
  | start | name | bracket | index | behind
  deriving DecidableEq, Repr

namespace PathState

/-- What leads on behind a name or an index. -/
def onward (byte : UInt8) : Option PathState :=
  if byte = 0x2e then some start else if byte = 0x5b then some bracket else none

def step : PathState → UInt8 → Option PathState
  | start, byte => if Aql.isWordByte byte then some name else none
  | name, byte => if Aql.isWordByte byte then some name else onward byte
  | bracket, byte => if Aql.isDigit byte then some index else none
  | index, byte =>
    if Aql.isDigit byte then some index else if byte = 0x5d then some behind else none
  | behind, byte => onward byte

def final : PathState → Bool
  | name | behind => true
  | start | bracket | index => false

end PathState

/-- Paths such as `name1.name2[3].name3`. -/
def jsonpaths : Automaton PathState UInt8 := ⟨.start, PathState.step, PathState.final⟩

/-- A byte of a path. -/
def isJsonpathByte (byte : UInt8) : Bool := Aql.isWordByte byte || (text ".[]").contains byte

theorem isJsonpathByte_of_step (state : PathState) (byte : UInt8) (next : PathState)
    (step : state.step byte = some next) : isJsonpathByte byte = true := by
  have each : ∀ byte, (state.step byte).isSome = true → isJsonpathByte byte = true := by
    cases state <;> exact forall_byte (by decide +kernel)
  exact each byte (Option.isSome_of_eq_some step)

/-! ### The grammars -/

/-- A byte of a string in which nothing is escaped. -/
def isMemberByte (byte : UInt8) : Bool := 0x20 ≤ byte && isUnescapedByte byte

def member : Reader UInt8 (Bytes × Bytes) := do
  let key ← label isMemberByte
  let value ← token scalar
  pure (key, value)

/-- An object. -/
def template : Reader UInt8 (List (Bytes × Bytes)) := do
  mark "\x7b"
  orElse
    (do
      let members ← list (mark ",") member
      mark "\x7d"
      pure members)
    (do
      mark "\x7d"
      pure [])

/-- The value that is asked for at a path behind a variable. -/
structure Condition where
  collvalue : Bytes
  path : Bytes
  value : Bytes
  deriving DecidableEq, Repr

/-- The condition that a member of a template states about the variable. -/
def Condition.ofMember (collvalue : Bytes) (ent : Bytes × Bytes) : Condition :=
  ⟨collvalue, ent.1, ent.2⟩

def condition : Reader UInt8 Condition := do
  let read ← reference (lexeme isJsonpathByte jsonpaths.accepts)
  mark "=="
  let value ← token scalar
  pure ⟨read.1, read.2, value⟩

/-- The clause, or nothing. -/
def filterClause : Reader UInt8 (List Condition) :=
  orElse
    (do
      keyword "FILTER"
      list (mark "&&") condition)
    (pure [])

def readTemplate (source : Bytes) : Option (List (Bytes × Bytes)) :=
  readAll Aql.isBlank template source

def readFilter (source : Bytes) : Option (List Condition) :=
  readAll Aql.isBlank filterClause source

/-! ### The texts that are generated -/

/-- An entry of a map of values has a path and the text of a scalar. -/
def IsEntry (ent : Bytes × Bytes) : Prop := jsonpaths.accepts ent.1 = true ∧ isScalar ent.2 = true

variable {collvalue gap : Bytes} {ent : Bytes × Bytes}

/-- The text of a member, without the blanks around it. -/
def writeMember (ent : Bytes × Bytes) : Bytes := "\"" ++ ent.1 ++ "\" : " ++ ent.2

/-- The text of a condition, without the blanks around it. -/
def writeCondition (collvalue : Bytes) (ent : Bytes × Bytes) : Bytes :=
  collvalue ++ "." ++ ent.1 ++ " == " ++ ent.2

theorem reads_value (isEntry : IsEntry ent) (blanks : Blanks gap) :
    (token scalar).Reads (Stops isPlainByte) (gap ++ ent.2) ent.2 := by
  have noBlank : ∀ byte, isPlainByte byte = true → Aql.isBlank byte = false :=
    forall_byte (by decide +kernel)
  exact (reads_scalar isEntry.2).spaced blanks fun rest =>
    stops_of_isScalar isEntry.2 rfl noBlank rest

theorem isJsonpathByte_of_mem (isEntry : IsEntry ent) :
    ∀ byte ∈ ent.1, isJsonpathByte byte = true :=
  Automaton.forall_of_acceptsFrom isJsonpathByte_of_step isEntry.1

theorem reads_member (isEntry : IsEntry ent) (blanks : Blanks gap) :
    member.Reads (Stops isPlainByte) (gap ++ writeMember ent) ent := by
  have shape : gap ++ writeMember ent =
      (gap ++ (text "\"" ++ ent.1 ++ text "\" :")) ++ (text " " ++ ent.2) := by
    have colon : text "\" : " = text "\" :" ++ text " " := rfl
    simp only [writeMember, colon, List.append_assoc]
  have isKey : ∀ byte, isJsonpathByte byte = true → isMemberByte byte = true :=
    forall_byte (by decide +kernel)
  have key : ∀ byte ∈ ent.1, isMemberByte byte = true := fun byte inPath =>
    isKey byte (isJsonpathByte_of_mem isEntry byte inPath)
  rw [shape]
  refine (reads_label key rfl blanks).bind ?_ fun _ _ => trivial
  exact (reads_value isEntry blanks_space).bind_nil (reads_pure _)

theorem reads_condition (named : IsIdentifier collvalue) (isEntry : IsEntry ent)
    (blanks : Blanks gap) :
    condition.Reads (Stops isPlainByte) (gap ++ writeCondition collvalue ent)
      (Condition.ofMember collvalue ent) := by
  have shape : gap ++ writeCondition collvalue ent =
      (gap ++ (collvalue ++ text "." ++ ent.1)) ++ ((text " " ++ text "==") ++
        (text " " ++ ent.2)) := by
    have equal : text " == " = text " " ++ (text "==" ++ text " ") := rfl
    simp only [writeCondition, equal, List.append_assoc]
  have readsPath := reads_lexeme (isJsonpathByte_of_mem isEntry)
    (Automaton.ne_nil_of_accepts rfl isEntry.1) isEntry.1
  rw [shape]
  refine (reads_reference named readsPath blanks).bind ?_ fun rest _ => stops_cons rfl _
  refine (reads_mark (fun rest => stops_cons rfl rest) blanks_space).bind ?_ fun _ _ => trivial
  exact (reads_value isEntry blanks_space).bind_nil (reads_pure _)

/-- The members of a template, in its braces. -/
theorem reads_template {entries : List (Bytes × Bytes)} (some : entries ≠ [])
    (areEntries : ∀ ent ∈ entries, IsEntry ent) :
    template.Reads Anything
      ("\x7b" ++ (text " " ++ (text " ,  ").intercalate (entries.map writeMember) ++ " \x7d"))
      entries := by
  have comma : (mark ",").Reads Anything (text " ,") () :=
    reads_mark (fun rest => stops_cons rfl rest) blanks_space
  have ends : ∀ rest, (∃ back, rest = text " \x7d" ++ back) →
      Stops isPlainByte rest ∧ mark "," rest = none := by
    rintro rest ⟨back, rfl⟩
    exact ⟨stops_cons rfl _, rfl⟩
  have members : ∀ ent ∈ entries, ∀ gap, Blanks gap →
      member.Reads (Stops isPlainByte) (gap ++ writeMember ent) ent :=
    fun ent inEntries _ blanks => reads_member (areEntries ent inEntries) blanks
  have readsMembers := reads_list comma (fun rest => stops_cons rfl rest) ends blanks_spaces members
    (List.cons_ne_nil _ _) some blanks_space
  refine (reads_mark (fun rest => stops_cons rfl rest) blanks_nil).bind (Reads.orElse_left ?_ _)
    fun _ _ => trivial
  refine readsMembers.bind ?_ fun rest _ => ⟨rest, rfl⟩
  exact (reads_mark (fun rest => stops_cons rfl rest) blanks_space).bind_nil (reads_pure entries)

/-- The clause with its conditions. -/
theorem reads_filterClause (named : IsIdentifier collvalue) {entries : List (Bytes × Bytes)}
    (some : entries ≠ []) (areEntries : ∀ ent ∈ entries, IsEntry ent) :
    filterClause.Reads Blanks
      ("\nFILTER" ++
        (text " " ++ (text " && ").intercalate (entries.map (writeCondition collvalue))))
      (entries.map (Condition.ofMember collvalue)) := by
  have isFilter : IsIdentifier (text "FILTER") := ⟨List.cons_ne_nil _ _, List.all_eq_true.mp rfl⟩
  have newline : Blanks (text "\n") := List.all_eq_true.mp rfl
  have both : (mark "&&").Reads Anything (text " &&") () :=
    reads_mark (fun rest => stops_cons rfl rest) blanks_space
  have ends : ∀ rest, Blanks rest → Stops isPlainByte rest ∧ mark "&&" rest = none :=
    fun rest blanks =>
      ⟨blanks.stops (forall_byte (by decide +kernel)), (blanks.token_eq _).trans rfl⟩
  have conditions : ∀ asked ∈ entries.map (Condition.ofMember collvalue),
      ∀ gap, Blanks gap → condition.Reads (Stops isPlainByte)
        (gap ++ writeCondition asked.collvalue (asked.path, asked.value)) asked := by
    intro asked inList gap blanks
    obtain ⟨ent, inEntries, rfl⟩ := List.mem_map.mp inList
    exact reads_condition named (areEntries ent inEntries) blanks
  have nonempty : entries.map (Condition.ofMember collvalue) ≠ [] := fun empty =>
    some (List.map_eq_nil_iff.mp empty)
  have readsConditions := reads_list both (fun rest => stops_cons rfl rest) ends blanks_space
    conditions (List.cons_ne_nil _ _) nonempty blanks_space
  rw [List.map_map] at readsConditions
  refine Reads.orElse_left ?_ _
  exact (reads_keyword isFilter newline).bind readsConditions fun rest _ => stops_cons rfl _

end Filters

namespace ArangoDBQuery

open Clause Filters

theorem foldl_addMember {entries : List (Bytes × Bytes)} (some : entries ≠ []) :
    entries.foldl addMember [] =
      " " ++ (text " ,  ").intercalate (entries.map writeMember) ++ " " := by
  have steps : ∀ generated ent, addMember generated ent =
      Text.joinStep (text ", ") generated (text " " ++ writeMember ent ++ text " ") := by
    intro generated ent
    have quote : text " \"" = text " " ++ text "\"" := rfl
    rw [Text.joinStep_eq, addMember, writeMember, quote]
    simp only [List.append_assoc]
  exact Text.foldl_eq_intercalate some steps fun ent => List.cons_ne_nil _ _

theorem foldl_addCondition (collvalue : Bytes) {entries : List (Bytes × Bytes)}
    (some : entries ≠ []) :
    entries.foldl (addCondition collvalue) [] =
      (text " && ").intercalate (entries.map (writeCondition collvalue)) := by
  have steps : ∀ generated ent, addCondition collvalue generated ent =
      Text.joinStep (text " && ") generated ([] ++ writeCondition collvalue ent ++ []) := by
    intro generated ent
    rw [Text.joinStep_eq, addCondition, writeCondition]
    simp only [List.append_assoc, List.nil_append, List.append_nil]
  have joined := Text.foldl_eq_intercalate some steps fun ent => by simp [writeCondition, text]
  rwa [List.nil_append, List.append_nil, List.nil_append, List.append_nil] at joined

/-- Both forms of a filter are read back as the entries of the map, in their order, and nothing is
written for an empty map. So the two forms ask for the same values at the same paths. -/
theorem readFilter_generateFILTER {fldvalues : FieldValueMap} {collvalue : Bytes}
    (named : IsIdentifier collvalue) (areEntries : ∀ ent ∈ fldvalues.toList, IsEntry ent) :
    readTemplate ("\x7b" ++ generateFILTER fldvalues true collvalue ++ "\x7d") =
        some fldvalues.toList ∧
      readFilter (generateFILTER fldvalues false collvalue) =
        some (fldvalues.toList.map (Condition.ofMember collvalue)) ∧
      (fldvalues.isEmpty = true → generateFILTER fldvalues false collvalue = []) ∧
      readFilter (generateFILTER fldvalues false collvalue) =
        (readTemplate ("\x7b" ++ generateFILTER fldvalues true collvalue ++ "\x7d")).map
          (List.map (Condition.ofMember collvalue)) := by
  have both : readTemplate ("\x7b" ++ generateFILTER fldvalues true collvalue ++ "\x7d") =
        some fldvalues.toList ∧
      readFilter (generateFILTER fldvalues false collvalue) =
        some (fldvalues.toList.map (Condition.ofMember collvalue)) := by
    by_cases empty : fldvalues.toList = []
    · have nothing : ∀ asTemplate, generateFILTER fldvalues asTemplate collvalue = [] :=
        fun asTemplate => if_pos ((isEmpty_iff fldvalues).mpr empty)
      rw [nothing, nothing, empty]
      exact ⟨rfl, rfl⟩
    · have nonempty : ¬ fldvalues.isEmpty = true := fun isEmpty =>
        empty ((isEmpty_iff fldvalues).mp isEmpty)
      have closing : text " \x7d" = text " " ++ text "\x7d" := rfl
      have opening : text "\nFILTER " = text "\nFILTER" ++ text " " := rfl
      refine ⟨?_, ?_⟩
      · have back := (reads_template empty areEntries).readAll blanks_nil trivial
        rw [readTemplate, generateFILTER, if_neg nonempty, if_pos rfl, foldl_addMember empty]
        rw [List.append_nil, closing] at back
        simpa only [List.append_assoc] using back
      · have back := (reads_filterClause named empty areEntries).readAll blanks_space blanks_space
        rw [readFilter, generateFILTER, if_neg nonempty, if_neg Bool.false_ne_true,
          foldl_addCondition collvalue empty, opening]
        simpa only [List.append_assoc] using back
  refine ⟨both.1, both.2, fun empty => if_pos empty, ?_⟩
  rw [both.1, both.2, Option.map_some]

/-- Separators in a string are no separators of either form. -/
theorem readFilter_generateFILTER_separators :
    readFilter (generateFILTER (Std.TreeMap.ofList
        [(text "foo.baz[3].boo", text "-1.5e3"), (text "bar", text "\"a && \\\", \x7d\"")])
          false "u") =
      some [⟨text "u", text "bar", text "\"a && \\\", \x7d\""⟩,
        ⟨text "u", text "foo.baz[3].boo", text "-1.5e3"⟩] := by
  have listed : (Std.TreeMap.ofList [(text "foo.baz[3].boo", text "-1.5e3"),
      (text "bar", text "\"a && \\\", \x7d\"")] : FieldValueMap).toList =
        [(text "bar", text "\"a && \\\", \x7d\""), (text "foo.baz[3].boo", text "-1.5e3")] := rfl
  have areEntries : ∀ ent ∈ [(text "bar", text "\"a && \\\", \x7d\""),
      (text "foo.baz[3].boo", text "-1.5e3")], IsEntry ent :=
    List.forall_mem_cons.mpr ⟨⟨rfl, rfl⟩, List.forall_mem_singleton.mpr ⟨rfl, rfl⟩⟩
  have named : IsIdentifier (text "u") := ⟨List.cons_ne_nil _ _, List.all_eq_true.mp rfl⟩
  rw [← listed] at areEntries
  exact (readFilter_generateFILTER named areEntries).2.1.trans (by rw [listed]; rfl)

end ArangoDBQuery

end ArangoCpp
