/-
This file compares the inequality of queries with what `selectQuery` sends for them.

The inequality looks at the type and the text. All but AQL queries are sent from these two
alone; the request of an AQL query also has its bind parameters, its options and the clause that
returns the selected fields, so that queries that count as equal are sent differently.
-/

import ArangoCpp.Batches
import ArangoCpp.Layout
import ArangoCpp.Queries

namespace ArangoCpp

/-! ### The requests of AQL queries -/

variable {env : Env}

/-- The value of a JSON text that may be empty. -/
def optionalJson (env : Env) (json : Bytes) : Option (Option Slice) :=
  if json = [] then some none else (env.vpack.fromJson parseOptions json).toOption.map some

/-- The bind parameters and the options of a query, when both texts are accepted. -/
def aqlData (env : Env) (query : ArangoDBQuery) : Option (Option Slice × Option Slice) := do
  let bindVars ← optionalJson env query.bindVars
  let options ← optionalJson env query.queryOptions
  return (bindVars, options)

def bindVarsMembers (batchSize : Int32) : Option Slice → List (Bytes × Slice)
  | some data => [("bindVars", data), ("batchSize", .int (batchSize.toInt * 2))]
  | none => [("batchSize", .int batchSize.toInt)]

def optionsMembers : Option Slice → List (Bytes × Slice)
  | some data => [("options", data)]
  | none => []

/-- The value that is sent for an AQL query. -/
def aqlValue (batchSize : Int32) (source : Bytes) (data : Option Slice × Option Slice) : Slice :=
  .object (("query", .string source) :: ("count", .bool true) ::
    (bindVarsMembers batchSize data.1 ++ optionsMembers data.2))

theorem aqlValue_inj (batchSize : Int32) {source other : Bytes}
    {data change : Option Slice × Option Slice} :
    aqlValue batchSize source data = aqlValue batchSize other change ↔
      source = other ∧ data = change := by
  have apart : text "bindVars" ≠ text "batchSize" := by decide
  constructor
  · intro same
    obtain ⟨bindVars, options⟩ := data
    obtain ⟨bindVars', options'⟩ := change
    simp only [aqlValue, Slice.object.injEq, List.cons.injEq, Prod.mk.injEq, Slice.string.injEq,
      true_and] at same
    obtain ⟨source, members⟩ := same
    refine ⟨source, ?_⟩
    cases bindVars <;> cases bindVars' <;> cases options <;> cases options' <;>
      simp_all [bindVarsMembers, optionsMembers, apart.symm]
  · intro same
    rw [same.1, same.2]

theorem represented_of_optionalJson (lawful : env.vpack.Lawful) {json : Bytes} {data : Slice}
    (read : optionalJson env json = some (some data)) : data.Represented := by
  unfold optionalJson at read
  split at read
  · cases read
  · cases parsed : env.vpack.fromJson parseOptions json with
    | error exception =>
      rw [parsed] at read
      cases read
    | ok value =>
      rw [parsed] at read
      cases read
      exact lawful.represented _ _ _ parsed

theorem represented_aqlValue (lawful : env.vpack.Lawful) (batchSize : Int32) (source : Bytes)
    {query : ArangoDBQuery} {data : Option Slice × Option Slice}
    (accepted : aqlData env query = some data) :
    (aqlValue batchSize source data).Represented := by
  obtain ⟨bindVars, bound, accepted⟩ := Option.bind_eq_some_iff.mp accepted
  obtain ⟨options, opted, accepted⟩ := Option.bind_eq_some_iff.mp accepted
  cases accepted
  refine ArangoDBCollectionAPI.represented_aql source ?_ ?_
  · cases bindVars with
    | none => simp [bindVarsMembers, ArangoDBCollectionAPI.isWord_batchSize]
    | some data =>
      simp [bindVarsMembers, ArangoDBCollectionAPI.isWord_batchSize_two,
        represented_of_optionalJson lawful bound]
  · cases options with
    | none => simp [optionsMembers]
    | some data => simp [optionsMembers, represented_of_optionalJson lawful opted]

theorem createREQUESTWith_inj (lawful : env.vpack.Lawful) {verb : RestVerb} {path : Bytes}
    {first second : Slice} (left : first.Represented) (right : second.Represented) :
    createREQUESTWith env verb path first = createREQUESTWith env verb path second ↔
      first = second := by
  constructor
  · intro same
    have holds := @holds_createREQUESTWith env verb path first left
    rw [same] at holds
    exact holds.unique lawful (holds_createREQUESTWith verb path right)
  · intro same
    rw [same]

/-- What is sent for an AQL query. -/
theorem toOption_createAQLRequest (batchSize : Int32) (query : ArangoDBQuery) :
    (ArangoDBCollectionAPI.createAQLRequest env batchSize query).toOption =
      (aqlData env query).map fun data => createREQUESTWith env .post "/_api/cursor"
        (aqlValue batchSize (ArangoDBCollectionAPI.aqlQuery query) data) := by
  rw [ArangoDBCollectionAPI.createAQLRequest, ArangoDBCollectionAPI.bindVarsData,
    ArangoDBCollectionAPI.optionsData, aqlData, optionalJson, optionalJson]
  simp only [addVPack_createREQUEST]
  by_cases unbound : query.bindVars = [] <;> by_cases plain : query.queryOptions = [] <;>
    simp only [unbound, plain, ne_eq, not_true, not_false_iff, if_true, if_false]
  · rfl
  · cases env.vpack.fromJson parseOptions query.queryOptions <;> rfl
  · cases env.vpack.fromJson parseOptions query.bindVars <;> rfl
  · cases env.vpack.fromJson parseOptions query.bindVars <;>
      cases env.vpack.fromJson parseOptions query.queryOptions <;> rfl

/-- The texts are the same when one keyword or the same clause follows the same condition. -/
theorem aqlQuery_inj {first second : ArangoDBQuery}
    (same : first.findCondition = second.findCondition) :
    ArangoDBCollectionAPI.aqlQuery first = ArangoDBCollectionAPI.aqlQuery second ↔
      Aql.returnKeyword <:+: first.findCondition ∨
        first.generateRETURN false "u" = second.generateRETURN false "u" := by
  rw [aqlQuery_eq, aqlQuery_eq, ← same]
  by_cases occurs : Aql.returnKeyword <:+: first.findCondition
  · rw [if_pos occurs, if_pos occurs]
    exact iff_of_true rfl (Or.inl occurs)
  · rw [if_neg occurs, if_neg occurs, or_iff_right occurs, List.append_cancel_left_eq]

/-! ### Queries that count as equal -/

/-- `selectQuery` issues the same requests for two queries until it has the one for the first batch,
and the same one then. -/
def SameRequest (env : Env) (batchSize : Int32) (collname : Bytes) (first second : ArangoDBQuery) :
    Prop :=
  (ArangoDBCollectionAPI.selectRequest env batchSize collname first).Alike
    (ArangoDBCollectionAPI.selectRequest env batchSize collname second)

/-- Every query is made by a constructor and the setters. -/
theorem exists_made (query : ArangoDBQuery) :
    ∃ made : ArangoDBQuery, (made = .ofType query.queryType ∨
        made = .new query.findCondition query.queryType) ∧
      query = ((made.setBindVars query.bindVars).setOptions query.queryOptions).setQueryFields
        query.queryFields := by
  by_cases empty : query.findCondition = []
  · refine ⟨_, Or.inl rfl, ?_⟩
    rw [ArangoDBQuery.ofType, ← empty]
    rfl
  · refine ⟨_, Or.inr rfl, ?_⟩
    rw [ArangoDBQuery.new, if_neg empty]
    rfl

theorem sameRequest_of_aql {batchSize : Int32} {collname : Bytes} {first second : ArangoDBQuery}
    (lawful : env.vpack.Lawful) (condition : first.findCondition = second.findCondition)
    (left : first.queryType = .aql) (right : second.queryType = .aql) :
    SameRequest env batchSize collname first second ↔
      aqlData env first = aqlData env second ∧
        (aqlData env first = none ∨ Aql.returnKeyword <:+: first.findCondition ∨
          first.generateRETURN false "u" = second.generateRETURN false "u") := by
  rw [SameRequest, ArangoDBCollectionAPI.selectRequest, ArangoDBCollectionAPI.selectRequest, left,
    right]
  show (Dialogue.ofExcept _).Alike (Dialogue.ofExcept _) ↔ _
  rw [Dialogue.alike_ofExcept_iff, toOption_createAQLRequest, toOption_createAQLRequest,
    ← aqlQuery_inj condition]
  cases accepted : aqlData env first with
  | none =>
    cases aqlData env second with
    | none => exact iff_of_true rfl ⟨rfl, Or.inl rfl⟩
    | some change => exact iff_of_false (fun same => by cases same) fun same => by cases same.1
  | some data =>
    cases changed : aqlData env second with
    | none => exact iff_of_false (fun same => by cases same) fun same => by cases same.1
    | some change =>
      rw [Option.map_some, Option.map_some, Option.some_inj,
        createREQUESTWith_inj lawful (represented_aqlValue lawful batchSize _ accepted)
          (represented_aqlValue lawful batchSize _ changed), aqlValue_inj, Option.some_inj,
          or_iff_right (Option.some_ne_none data), and_comm]

/-- Two queries that count as equal are sent alike exactly when they are not AQL queries, or their
texts for bind parameters and options are rejected, or stand for the same values and the same
clause is returned. -/
theorem sameRequest_iff (lawful : env.vpack.Lawful) (batchSize : Int32) (collname : Bytes)
    (first second : ArangoDBQuery) (equal : first.ne second = false) :
    SameRequest env batchSize collname first second ↔
      first.queryType ≠ .aql ∨ (aqlData env first = aqlData env second ∧
        (aqlData env first = none ∨ Aql.returnKeyword <:+: first.findCondition ∨
          first.generateRETURN false "u" = second.generateRETURN false "u")) := by
  rw [ArangoDBQuery.ne, Bool.or_eq_false_iff, bne_eq_false_iff_eq, bne_eq_false_iff_eq] at equal
  obtain ⟨type, condition⟩ := equal
  by_cases aql : first.queryType = .aql
  · rw [or_iff_right (not_not_intro aql)]
    exact sameRequest_of_aql lawful condition aql (type ▸ aql)
  · refine iff_of_true ?_ (Or.inl aql)
    have same : ArangoDBCollectionAPI.selectRequest env batchSize collname first =
        ArangoDBCollectionAPI.selectRequest env batchSize collname second := by
      rw [ArangoDBCollectionAPI.selectRequest, ArangoDBCollectionAPI.selectRequest, ← type]
      cases kind : first.queryType with
      | template => rw [condition]
      | edgesFrom | edgesTo | edgesAll =>
        dsimp only
        rw [ArangoDBCollectionAPI.createEdgeRequest, ArangoDBCollectionAPI.createEdgeRequest,
          ArangoDBCollectionAPI.edgeQuery, ArangoDBCollectionAPI.edgeQuery, ← type, condition]
      | all => rfl
      | undef => rfl
      | aql => exact absurd kind aql
    rw [SameRequest, same]
    exact Dialogue.alike_refl _

/-- The inequality does not see bind parameters. -/
theorem ne_setBindVars (query : ArangoDBQuery) (first second : Bytes) :
    (query.setBindVars first).ne (query.setBindVars second) = false := by
  rw [ArangoDBQuery.ne, Bool.or_eq_false_iff]
  exact ⟨bne_self_eq_false _, bne_self_eq_false _⟩

/-- A query, and the same query with bind parameters. -/
theorem sameRequest_iff_bound :
    let env : Env := ⟨.simple [("\x7b\x7d", .object [])], true, true, [], false⟩
    let first := (ArangoDBQuery.new "FOR u IN c" .aql).setBindVars []
    let second := (ArangoDBQuery.new "FOR u IN c" .aql).setBindVars "\x7b\x7d"
    SameRequest env 500 "c" first second ↔
      first.queryType ≠ .aql ∨ (aqlData env first = aqlData env second ∧
        (aqlData env first = none ∨ Aql.returnKeyword <:+: first.findCondition ∨
          first.generateRETURN false "u" = second.generateRETURN false "u")) :=
  sameRequest_iff (Velocypack.simple_lawful _) 500 "c" _ _ (ne_setBindVars _ _ _)

/-- An AQL query is not sent alike with texts for its bind parameters that do not stand for the same
value. -/
theorem not_sameRequest_setBindVars (lawful : env.vpack.Lawful) {query : ArangoDBQuery}
    (aql : query.queryType = .aql) (plain : query.queryOptions = []) {first second : Bytes}
    (apart : optionalJson env first ≠ optionalJson env second) (batchSize : Int32)
    (collname : Bytes) :
    ¬ SameRequest env batchSize collname (query.setBindVars first) (query.setBindVars second) := by
  have bound : ∀ jsonBindObject, aqlData env (query.setBindVars jsonBindObject) =
      (optionalJson env jsonBindObject).map fun bindVars => (bindVars, none) := by
    intro jsonBindObject
    show (optionalJson env jsonBindObject >>= fun bindVars =>
      optionalJson env query.queryOptions >>= fun options => some (bindVars, options)) = _
    rw [plain]
    cases optionalJson env jsonBindObject <;> rfl
  have condition : (query.setBindVars first).findCondition =
    (query.setBindVars second).findCondition := rfl
  intro same
  have data := ((sameRequest_of_aql lawful condition aql aql).mp same).1
  rw [bound, bound] at data
  have injective : Function.Injective fun bindVars : Option Slice =>
      (bindVars, (none : Option Slice)) := fun _ _ equal => congrArg Prod.fst equal
  exact apart (Option.map_injective injective data)

/-- Bind parameters with one name. -/
def bindName (name : Bytes) : Slice := .object [("name", .string name)]

theorem not_forall_sameRequest : ¬ ∀ env : Env, env.vpack.Lawful →
    ∀ (batchSize : Int32) (collname : Bytes) (first second : ArangoDBQuery),
      first.ne second = false → SameRequest env batchSize collname first second := by
  intro same
  obtain ⟨env, library⟩ : ∃ env : Env, env.vpack = .printing
      [((bindName "a").print, bindName "a"), ((bindName "b").print, bindName "b")] :=
    ⟨⟨.printing _, true, true, [], false⟩, rfl⟩
  have lawful : env.vpack.Lawful := library ▸ Velocypack.printing_lawful _ (by simp [bindName])
  let query : ArangoDBQuery := ⟨.aql, "FOR u IN c FILTER u.name == @name RETURN u", [], [], ∅⟩
  have apart : optionalJson env (bindName "a").print ≠ optionalJson env (bindName "b").print := by
    rw [optionalJson, optionalJson, library, if_neg (Slice.print_ne_nil _),
      if_neg (Slice.print_ne_nil _)]
    intro equal
    have names : some (some (bindName "a")) = some (some (bindName "b")) := equal
    simp [bindName] at names
    revert names
    decide
  exact not_sameRequest_setBindVars lawful rfl rfl apart 500 "c"
    (same env lawful 500 "c" (query.setBindVars _) (query.setBindVars _) (ne_setBindVars _ _ _))

end ArangoCpp
