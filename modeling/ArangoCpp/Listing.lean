/-
This file says what the client makes of the list of the collections that the server sends.

`collectionNames` keeps the names of the collections of the kinds that are asked for, without the
system collections. A list may have the same name twice; the set of names has it once.
`queryEdgesToFrom` names in its query the edge collections among them, or those of the list of the
process that are among them. The names are joined with a comma and a space, which no name has, so
that the text spells exactly these names.
-/

import ArangoCpp.Cursor
import ArangoCpp.Queries
import Mathlib.Data.Bool.AllAny

namespace ArangoCpp

variable {env : Env}

/-! ### Lists of collections -/

/-- An entry of a list of collections. A name has no comma and no space, and the number of a type
is one that the client can read. -/
structure Listed where
  name : Bytes
  isSystem : Bool
  type : Int
  named : name ≠ []
  plain : ∀ byte ∈ name, byte ∉ text ", "
  readable : type < 0x8000000000000000

namespace Listed

/-- An item of a list shows an entry. -/
structure Shown (entry : Listed) (item : Slice) : Prop where
  isSystem : item.get "isSystem" = .ok (.bool entry.isSystem)
  type : item.get "type" = .ok (.int entry.type)
  name : item.get "name" = .ok (.string entry.name)

/-- The item that shows an entry and nothing else. -/
def item (entry : Listed) : Slice :=
  .object [("name", .string entry.name), ("isSystem", .bool entry.isSystem),
    ("type", .int entry.type)]

theorem shown_item (entry : Listed) : entry.Shown entry.item := ⟨rfl, rfl, rfl⟩

/-- An entry is of the kinds that are asked for, and not a system collection. Documents have the
type 2 and edges the type 3. -/
def Selected (ctype : CollectionTypes) (entry : Listed) : Prop :=
  entry.isSystem = false ∧
    (ctype.and .vertex = true ∧ entry.type = 2 ∨ ctype.and .edge = true ∧ entry.type = 3)

instance (ctype : CollectionTypes) (entry : Listed) : Decidable (entry.Selected ctype) :=
  inferInstanceAs (Decidable (_ ∧ _))

theorem selected_edge_iff (entry : Listed) :
    entry.Selected .edge ↔ entry.isSystem = false ∧ entry.type = 3 := by
  have noVertex : CollectionTypes.and .edge .vertex = false := rfl
  have both : CollectionTypes.and .edge .edge = true := rfl
  simp [Selected, noVertex, both]

end Listed

/-- A response with the status 200 lists collections. -/
def HttpMessage.Lists (env : Env) (response : HttpMessage) (entries : List Listed) : Prop :=
  response.statusCode = statusOK ∧ ∃ value items, response.front env = .ok value ∧
    value.get "result" = .ok (.array items) ∧ List.Forall₂ Listed.Shown entries items

namespace ArangoDBCollectionAPI

theorem addCollection_eq {entry : Listed} {item : Slice} (shown : entry.Shown item)
    (ctype : CollectionTypes) (collnames : StringSet) :
    addCollection ctype item collnames =
      .ok (if entry.Selected ctype then collnames.insert entry.name else collnames) := by
  have name : (item.get "name" >>= Slice.copyString) = .ok entry.name := by
    rw [shown.name]
    rfl
  have isType : ∀ (kind : CollectionTypes) (code : Int),
      (if ctype.and kind then do
        let type ← item.get "type" >>= Slice.getInt
        return type == code
      else return false) =
        (Except.ok (decide (ctype.and kind = true ∧ entry.type = code)) :
          Except VpackException Bool) := by
    intro kind code
    by_cases asked : ctype.and kind = true
    · rw [if_pos asked, shown.type, ok_bind, Slice.getInt, if_pos entry.readable, ok_bind]
      simp only [asked, true_and, pure, Except.pure, beq_eq_decide]
    · rw [if_neg asked, decide_eq_false fun both => asked both.1]
      rfl
  unfold addCollection
  simp only [shown.isSystem, isType, name, ok_bind, Slice.getBool, decide_eq_true_iff]
  by_cases system : entry.isSystem = true
  · rw [if_pos system, if_neg fun selected : entry.Selected ctype => by
      cases system.symm.trans selected.1]
    rfl
  · have other : entry.isSystem = false := Bool.not_eq_true _ ▸ system
    rw [if_neg system]
    by_cases vertex : ctype.and .vertex = true ∧ entry.type = 2
    · rw [if_pos vertex, if_pos ⟨other, Or.inl vertex⟩]
      rfl
    · rw [if_neg vertex]
      by_cases edge : ctype.and .edge = true ∧ entry.type = 3
      · rw [if_pos edge, if_pos ⟨other, Or.inr edge⟩]
        rfl
      · rw [if_neg edge, if_neg fun selected => selected.2.elim vertex edge]
        rfl

/-- The loop of `collectionNames` adds the names of the selected entries. -/
theorem foldlM_addCollection (ctype : CollectionTypes) {entries : List Listed}
    {items : List Slice} (shown : List.Forall₂ Listed.Shown entries items)
    (collnames : StringSet) :
    ∃ names, items.foldlM (fun collnames item => addCollection ctype item collnames) collnames =
        .ok names ∧
      ∀ name, name ∈ names ↔
        name ∈ collnames ∨ ∃ entry ∈ entries, entry.Selected ctype ∧ entry.name = name := by
  induction shown generalizing collnames with
  | nil => exact ⟨collnames, rfl, fun name => by simp⟩
  | @cons entry item entries items first _ inductionHypothesis =>
    obtain ⟨names, added, member⟩ := inductionHypothesis
      (if entry.Selected ctype then collnames.insert entry.name else collnames)
    refine ⟨names, ?_, fun name => ?_⟩
    · rw [List.foldlM_cons, addCollection_eq first, ok_bind, added]
    · rw [member, List.exists_mem_cons_iff]
      by_cases selected : entry.Selected ctype
      · rw [if_pos selected, Std.TreeSet.mem_insert, Std.LawfulEqCmp.compare_eq_iff_eq]
        simp only [selected, true_and, or_assoc, or_left_comm]
      · rw [if_neg selected]
        simp only [selected, false_and, false_or]

/-- What `collectionNames` reads off a list of collections is the set of the names of the selected
entries. -/
theorem collectionNames_eq (env : Env) (ctype : CollectionTypes) :
    ∃ read, collectionNames env ctype =
        .exchange (createREQUEST env .get "/_api/collection") read ∧
      ∀ response entries, response.Lists env entries →
        ∃ names, read response = .ok names ∧
          ∀ name, name ∈ names ↔ ∃ entry ∈ entries, entry.Selected ctype ∧ entry.name = name := by
  refine ⟨_, rfl, ?_⟩
  rintro response entries ⟨status, value, items, front, result, shown⟩
  obtain ⟨names, added, member⟩ := foldlM_addCollection ctype shown ∅
  refine ⟨names, ?_, fun name => ?_⟩
  · have loop := foldlM_itemAt (fun collnames item => addCollection ctype item collnames) items ∅
    rw [listValue, if_pos status, front, ok_bind, result, ok_bind]
    exact congrArg ofVpack (loop.trans added)
  · rw [member]
    simp

/-! ### Names that are joined -/

/-- Names are joined with a comma and a space. -/
theorem foldl_addEdges {names : List Bytes} (named : ∀ name ∈ names, name ≠ []) :
    names.foldl addEdges [] = List.intercalate (text ", ") names :=
  Text.foldl_joinStep named

/-- The names that the edge collections of a query spell. -/
def spelledNames (edgeCollections : Bytes) : List Bytes :=
  if edgeCollections = [] then [] else Text.splitAt 0x2C (text " ") [] edgeCollections

/-- The joined names can be read back. -/
theorem spelledNames_foldl_addEdges {names : List Bytes} (named : ∀ name ∈ names, name ≠ [])
    (plain : ∀ name ∈ names, 0x2C ∉ name) : spelledNames (names.foldl addEdges []) = names := by
  have separator : text ", " = 0x2C :: text " " := rfl
  cases names with
  | nil => rfl
  | cons name names =>
    have joined : (name :: names).foldl addEdges [] ≠ [] := by
      intro empty
      rw [foldl_addEdges named] at empty
      have head := named name List.mem_cons_self
      cases names with
      | nil => exact head (List.intercalate_singleton.symm.trans empty)
      | cons next names =>
        rw [List.intercalate_cons_cons, List.append_assoc] at empty
        exact head (List.append_eq_nil_iff.mp empty).1
    rw [spelledNames, if_neg joined, foldl_addEdges named, separator,
      Text.splitAt_intercalate (List.cons_ne_nil name names) plain]

end ArangoDBCollectionAPI

/-! ### The edge collections of a query -/

/-- The name of an edge collection that is not a system collection. -/
def IsEdgeName (entries : List Listed) (name : Bytes) : Prop :=
  ∃ entry ∈ entries, (entry.isSystem = false ∧ entry.type = 3) ∧ entry.name = name

instance (entries : List Listed) (name : Bytes) : Decidable (IsEdgeName entries name) :=
  List.decidableBEx _ _

/-- The edge collections that a query should name: all that exist, in ascending order and once
each, or, when the process has a list of them, those of the list that exist, as they stand there. -/
def NamesEdges (env : Env) (entries : List Listed) (names : List Bytes) : Prop :=
  if env.fullListOfEdges = [] then
    names.Pairwise (fun first second => compare first second = .lt) ∧
      ∀ name, name ∈ names ↔ IsEdgeName entries name
  else names = env.fullListOfEdges.filter fun name => IsEdgeName entries name

theorem namesEdges_existingEdges {entries : List Listed} {edgesexist : StringSet}
    (exist : ∀ name, name ∈ edgesexist ↔ IsEdgeName entries name) :
    NamesEdges env entries (ArangoDBCollectionAPI.existingEdges env edgesexist) := by
  unfold NamesEdges ArangoDBCollectionAPI.existingEdges
  by_cases noList : env.fullListOfEdges = []
  · rw [if_pos noList, if_pos noList]
    refine ⟨Std.TreeSet.ordered_toList, fun name => ?_⟩
    rw [Std.TreeSet.mem_toList, exist]
  · rw [if_neg noList, if_neg noList, Detail.getSubset]
    refine List.filter_congr fun name _ => ?_
    rw [Bool.eq_iff_iff, ← Std.TreeSet.mem_iff_contains, exist, decide_eq_true_iff]

theorem mem_of_mem_existingEdges {edgesexist : StringSet} {name : Bytes}
    (listed : name ∈ ArangoDBCollectionAPI.existingEdges env edgesexist) : name ∈ edgesexist := by
  unfold ArangoDBCollectionAPI.existingEdges at listed
  split at listed
  · exact Std.TreeSet.mem_toList.mp listed
  · exact Std.TreeSet.mem_iff_contains.mpr (List.mem_filter.mp listed).2

theorem NamesEdges.isEdgeName {entries : List Listed} {names : List Bytes}
    (edges : NamesEdges env entries names) {name : Bytes} (member : name ∈ names) :
    IsEdgeName entries name := by
  unfold NamesEdges at edges
  by_cases noList : env.fullListOfEdges = []
  · rw [if_pos noList] at edges
    exact (edges.2 name).mp member
  · rw [if_neg noList] at edges
    rw [edges] at member
    exact of_decide_eq_true (List.mem_filter.mp member).2

open ArangoDBCollectionAPI in
/-- An edge query without edge collections asks for the list of the collections, and names in its
text the edge collections that it should name. -/
theorem queryEdgesToFrom_namesEdges (lawful : env.vpack.Lawful) (dispatch : Dispatch)
    (connectData : ArangoDBConnection) {atype : QueryType} {keyword : Bytes}
    (edge : directionKeyword atype = some keyword) (startVertex : Bytes) {transfer : Transfer}
    {response : HttpMessage} {entries : List Listed} (accepted : transfer.Accepted env response)
    (lists : response.Lists env entries) (transfers : List Transfer) :
    ∃ query edgeCollections,
      (conduct env dispatch connectData (queryEdgesToFrom env atype startVertex [])).run
          (transfer :: transfers) =
        ⟨[(createREQUEST env .get "/_api/collection").transmission env dispatch connectData []],
          transfers, .returned query⟩ ∧
      query.findCondition = edgeQuerySource keyword startVertex edgeCollections ∧
      NamesEdges env entries (spelledNames edgeCollections) := by
  obtain ⟨read, names, reads⟩ := collectionNames_eq env .edge
  obtain ⟨edgesexist, found, member⟩ := reads response entries lists
  have exist : ∀ name, name ∈ edgesexist ↔ IsEdgeName entries name := by
    intro name
    simp only [member, Listed.selected_edge_iff, IsEdgeName]
  have edges := @namesEdges_existingEdges env _ _ exist
  have named : ∀ name ∈ existingEdges env edgesexist, name ≠ [] := by
    intro name listed
    obtain ⟨entry, _, _, rfl⟩ := edges.isEdgeName listed
    exact entry.named
  have plain : ∀ name ∈ existingEdges env edgesexist, 0x2C ∉ name := by
    intro name listed comma
    obtain ⟨entry, _, _, rfl⟩ := edges.isEdgeName listed
    exact entry.plain _ comma List.mem_cons_self
  refine ⟨.new (edgeQuerySource keyword startVertex
    ((existingEdges env edgesexist).foldl addEdges [])) .aql, _, ?_, rfl, ?_⟩
  · rw [Operation.conduct_eq_through lawful (orderly_queryEdgesToFrom atype startVertex []).asks,
      queryEdgesToFrom_eq_bind edge, edgeCollectionsOr, if_pos rfl, names]
    have asked := Dialogue.run_through_exchange
      (encode_createREQUEST lawful dispatch connectData (Or.inl rfl) "/_api/collection")
      ((decode_eq_ok_iff lawful dispatch connectData _).mpr accepted) found transfers
    exact (Dialogue.run_through_bind (Dialogue.run_through_bind asked _) _).trans rfl
  · rw [spelledNames_foldl_addEdges named plain]
    exact edges

open ArangoDBCollectionAPI in
/-- The list of the process has a name twice, and one of a collection that does not exist. -/
theorem queryEdgesToFrom_namesEdges_twice :
    let env : Env := ⟨.simple [], true, true, ["e2", "x", "_e", "e1", "d", "e2"], false⟩
    let entries : List Listed :=
      [⟨"e1", false, 3, by decide, List.all_iff_forall_prop.mp rfl, by decide⟩,
        ⟨"d", false, 2, by decide, List.all_iff_forall_prop.mp rfl, by decide⟩,
        ⟨"_e", true, 3, by decide, List.all_iff_forall_prop.mp rfl, by decide⟩,
        ⟨"e2", false, 3, by decide, List.all_iff_forall_prop.mp rfl, by decide⟩]
    let value : Slice := .object [("result", .array (entries.map Listed.item))]
    let transfer : Transfer := ⟨0, 200, [], [env.vpack.build value]⟩
    ∃ query asked edgeCollections,
      (conduct env .base .default (queryEdgesToFrom env .edgesAll "c/k" [])).run [transfer] =
        ⟨[asked], [], .returned query⟩ ∧
      query.findCondition = edgeQuerySource "ANY" "c/k" edgeCollections ∧
      spelledNames edgeCollections = ["e2", "e1", "e2"] := by
  intro env entries value transfer
  have lawful : env.vpack.Lawful := Velocypack.simple_lawful []
  have represented : value.Represented := by simp [value, entries, Listed.item, IsWord]
  obtain ⟨response, accepted, reads⟩ := (holds_build lawful 0 200 represented).accepted lawful
    (Nat.succ_ne_zero 199) fun debug => by cases debug
  have lists : response.Lists env entries :=
    ⟨accepted.status, value, _, reads.front, rfl,
      List.forall₂_map_right_iff.mpr (List.forall₂_same.mpr fun entry _ => entry.shown_item)⟩
  obtain ⟨query, edgeCollections, ran, source, edges⟩ :=
    @queryEdgesToFrom_namesEdges env lawful .base .default .edgesAll "ANY" rfl "c/k" transfer
      response entries accepted lists []
  refine ⟨query, _, edgeCollections, ran, source, ?_⟩
  rw [NamesEdges, if_neg (List.cons_ne_nil _ _)] at edges
  rw [edges]
  decide

end ArangoCpp
