/-
This file proves that the operations that read many documents read them as they are in one instant.

Between the batches of a cursor the server answers other clients, who change the documents that are
read and read cursors of their own. What is left to read under an identifier is cut off the list
that was made when the query was answered, and nobody else reads it. So the loop hands on the
documents of that list in order, all of them, or the first ones when the cursor is given up. A query
for edges that does not name the edge collections asks for them first; they are those that there are
when the query is answered, as long as nobody creates or drops any in between.
-/

import ArangoCpp.Readings

namespace ArangoCpp

open Dialogue

/-! ### Batches that are read -/

section

open ArangoDBCollectionAPI

variable {env : Env} {policy : Policy} {Given : Type}
  {extract : Given → Slice → Except VpackException Given}
  {take : Given → Slice → Except VpackException Given}

/-- The documents of a batch are taken one after the other. -/
def Takes (extract take : Given → Slice → Except VpackException Given) : Prop :=
  ∀ items given, extract given (.array items) = items.foldlM take given

theorem takes_extractData (env : Env) (setfnc : Given → Bytes → Given) :
    Takes (extractData env setfnc) (giveText env setfnc) := fun items given =>
  foldlM_itemAt (giveText env setfnc) items given

theorem takes_extractDataId (env : Env) (setfnc : Given → Bytes → Bytes → Given) :
    Takes (extractDataId env setfnc) (giveTextId env setfnc) := by
  intro items given
  rw [← foldlM_itemAt (giveTextId env setfnc) items given]
  simp only [extractDataId, giveTextId, Slice.length, ok_bind]

theorem readBatch_eq (takes : Takes extract take) {response : HttpMessage} {value : Slice}
    (front : response.front env = .ok value) {more : Bool}
    (hasMore : value.get "hasMore" = .ok (.bool more)) {items : List Slice}
    (result : value.get "result" = .ok (.array items)) (given : Given) :
    readBatch env extract given response =
      (ofVpack (items.foldlM take given)).map fun after => ⟨value, more, after⟩ := by
  rw [readBatch, front, ok_bind, hasMore, ok_bind, result, ← takes items given]
  change (ofVpack (extract given (.array items)) >>= fun after =>
    pure (⟨value, more, after⟩ : Cursor Given)) = _
  cases extract given (.array items) <;> rfl

variable (understands : policy.Understands env) (connectData : ArangoDBConnection)
  (rq : HttpMessage) {reply : Transfer}

include understands

/-- What the loop is told by a batch. -/
theorem told_nextBatch (takes : Takes extract take) {value : JsonValue} {items : List JsonValue}
    {next : Option Bytes} (brings : reply.Brings env value items next) (given : Given) :
    told env .base connectData rq (nextBatch env extract given) reply =
      (ofVpack ((items.map Subtype.val).foldlM take given)).map fun after =>
        .inl ⟨value.1, next.isSome, after⟩ := by
  obtain ⟨response, reads, same, heard⟩ := @Policy.Understands.told_holds env policy
    connectData understands .base rq _ _ (nextBatch env extract given) _ brings.holds
    (by rcases brings.status with same | same <;> rw [same] <;> decide)
  have accepted : ¬ badRequest response.statusCode = true := by
    rw [same]
    rcases brings.status with same | same <;> rw [same] <;> exact Bool.false_ne_true
  rw [heard, nextBatch, if_neg accepted,
    readBatch_eq takes reads.front brings.hasMore brings.result]
  cases ofVpack ((items.map Subtype.val).foldlM take given) <;> rfl

/-- What the loop is told by a failure. -/
theorem told_nextBatch_bad (bad : badRequest reply.responseCode = true) (plain : reply.Plain env)
    (given : Given) :
    told env .base connectData rq (nextBatch env extract given) reply = .ok (.inr given) := by
  obtain ⟨response, same, heard⟩ := @Policy.Understands.told_plain env policy connectData
    understands .base rq _ _ (nextBatch env extract given) plain (received_of_badRequest bad)
  rw [heard, nextBatch, if_pos (same ▸ bad)]

end

/-! ### Cursors that are read among other clients -/

section

open ArangoDBCollectionAPI

theorem carried_next (env : Env) (policy : Policy) (id : Bytes) :
    readingInterface.Carried env policy (.next id)
      (createREQUEST env .put ("/_api/cursor/" ++ id)) :=
  @Interface.Carried.bare _ readingInterface env policy (.next id) (Or.inr (Or.inr (Or.inr rfl)))
    rfl

variable {Client Given : Type} {env : Env} {policy : Policy} {connectData : ArangoDBConnection}
  {belongs : RecordPlace → Prop} {aql : Aql.Meaning} {expires : Prop}
  {watched : Client → CollectionName → Prop} {client : Client} {library : Library Client}
  {extract take : Given → Slice → Except VpackException Given}
  {ends : Except Fault Given → Prop}

/-- What a client guarantees: no other client notices. -/
def Library.Spares (expires : Prop) (watched : Client → CollectionName → Prop) (client : Client)
    (library after : Library Client) : Prop :=
  ∀ other, other ≠ client → library.Bears expires watched other after

/-- No other client notices a request that reads no cursor, and that cursors are given up. -/
theorem Library.Serves.spares {library between after : Library Client} {request : ReadingRequest}
    {reply : Transfer} (serves : library.Serves env aql client request reply between)
    (plain : ∀ id, request ≠ .next id) (fades : between.Fades expires after) :
    library.Spares expires watched client after :=
  fun other apart => (serves.bears (fun id same => absurd same (plain id)) apart).trans
    (fades.bears watched other)

/-- The loop ends behind the last batch. -/
theorem settled_cursorLoop_last (turns : Nat) (slice : Slice) {given : Given}
    (ended : ends (.ok given)) :
    (conduct env .base connectData (.iterate (cursorLoop env extract) turns
      ⟨slice, false, given⟩)).Settled
      (Library.Responds env policy connectData belongs aql expires client) Library.store
      (Library.Bears expires watched client) (Library.Spares expires watched client) ends
      library := by
  cases turns with
  | zero => trivial
  | succ turns => exact ended

variable (understands : policy.Understands env) (takes : Takes extract take)

include understands takes

/-- A cursor is read to its end, or until it is given up. -/
theorem settled_cursorLoop (turns : Nat) {slice : Slice} {id : Bytes}
    (identified : slice.get "id" = .ok (.string id)) {rest : List JsonValue}
    (holds : library.Holds expires client id rest) {given : Given}
    (each : ∀ shown, shown <+: rest → (¬ expires → shown = rest) →
      ends (ofVpack ((shown.map Subtype.val).foldlM take given))) :
    (conduct env .base connectData (.iterate (cursorLoop env extract) turns
      ⟨slice, true, given⟩)).Settled
      (Library.Responds env policy connectData belongs aql expires client) Library.store
      (Library.Bears expires watched client) (Library.Spares expires watched client) ends
      library := by
  induction turns generalizing slice id rest given library with
  | zero => trivial
  | succ turns inductionHypothesis =>
    have named : (slice.get "id" >>= Slice.copyString) = .ok id := by
      rw [identified]
      rfl
    rw [Dialogue.iterate, cursorLoop_eq named]
    refine (carried_next env policy id).settled_bind understands
      (fun now sent reply after sees responds => responds.serves sees) ?_
    rintro now reply after borne ⟨between, serves, fades⟩
    have still := borne.holds holds
    refine ⟨fun other apart => ?_, fades.store.trans serves.next_store, ?_⟩
    · refine (serves.bears (fun other same => ?_) apart).trans (fades.bears watched other)
      cases same
      exact ⟨rest, still⟩
    cases serves with
    | @last _ owner items value _ opened brings =>
      rcases still with mine | ⟨_, closed⟩
      · cases mine.symm.trans opened
        have told_ := told_nextBatch understands connectData
          (createREQUEST env .put ("/_api/cursor/" ++ id)) takes brings given
        have ended := each rest (List.prefix_refl rest) fun _ => rfl
        cases taken : (rest.map Subtype.val).foldlM take given with
        | error exception =>
          rw [taken] at told_ ended
          exact Or.inr ⟨.velocypack exception, told_, ended⟩
        | ok next =>
          rw [taken] at told_ ended
          exact Or.inl ⟨_, told_, settled_cursorLoop_last turns value.1 ended⟩
      · cases closed.symm.trans opened
    | @more _ another owner items left value _ opened fresh brings =>
      rcases still with mine | ⟨_, closed⟩
      · cases mine.symm.trans opened
        have told_ := told_nextBatch understands connectData
          (createREQUEST env .put ("/_api/cursor/" ++ id)) takes brings given
        have whole (shown : List JsonValue) :
            (((items ++ shown).map Subtype.val).foldlM take given) =
              (items.map Subtype.val).foldlM take given >>=
                (shown.map Subtype.val).foldlM take := by
          rw [List.map_append, List.foldlM_append]
        cases taken : (items.map Subtype.val).foldlM take given with
        | error exception =>
          have ended := each (items ++ left) (List.prefix_refl _) fun _ => rfl
          rw [whole, taken] at ended
          rw [taken] at told_
          exact Or.inr ⟨.velocypack exception, told_, ended⟩
        | ok next =>
          rw [taken] at told_
          refine Or.inl ⟨_, told_, inductionHypothesis (brings.identified another rfl)
            (fades.holds (Or.inl (Function.update_self _ _ _))) fun shown first complete => ?_⟩
          have ended := each (items ++ shown) ((List.prefix_append_right_inj items).mpr first)
            fun never => by rw [complete never]
          rw [whole, taken] at ended
          exact ended
      · cases closed.symm.trans opened
    | lost gone bad plain =>
      rcases still with mine | ⟨may, _⟩
      · exact absurd mine (gone client rest)
      · exact Or.inl ⟨_, told_nextBatch_bad understands connectData _ bad plain given,
          each [] (List.nil_prefix) fun never => absurd may never⟩

/-- A query takes effect when it is answered: what is read then and later is what was listed. -/
theorem atomic_readCursor (turns : Nat) {selection : Selection} {request : HttpMessage}
    (carried : readingInterface.Carried env policy (.select selection) request) (given : Given)
    (library : Library Client) {does : Store → ReadingAnswer Given → Store → Prop}
    (each : ∀ now : Library Client, library.Bears expires watched client now → ∀ items documents,
      selection.Lists aql now.store.documents items documents →
        does now.store (.read take given (items.getD [])) ⟨documents, now.store.kind⟩) :
    (conduct env .base connectData (readCursor env turns extract given request)).Atomic
      (Library.Responds env policy connectData belongs aql expires client) Library.store
      (Library.Bears expires watched client) (Library.Spares expires watched client) does
      (fun answer result => answer.Agrees expires (result.map .given)) library := by
  refine carried.atomic_bind understands
    (fun now sent reply after sees responds => responds.serves sees) ?_
  rintro now reply after borne ⟨between, serves, fades⟩
  refine ⟨serves.spares (fun id same => by cases same) fades, ?_⟩
  rw [fades.store]
  cases serves with
  | @answered _ items documents value _ lists brings =>
    have told_ := told_nextBatch understands connectData request takes brings given
    have done := each now borne (some items) documents lists
    have made := @ReadingAnswer.Agrees.read Given expires take given items items
      (List.prefix_refl _) fun _ => rfl
    cases taken : (items.map Subtype.val).foldlM take given with
    | error exception =>
      rw [taken] at told_ made
      exact Or.inr ⟨_, _, told_, done, made⟩
    | ok next =>
      rw [taken] at told_ made
      exact Or.inl ⟨_, told_, Or.inl ⟨_, done, settled_cursorLoop_last turns value.1 made⟩⟩
  | @opened _ items rest documents id value _ lists fresh brings =>
    have told_ := told_nextBatch understands connectData request takes brings given
    have done := each now borne (some (items ++ rest)) documents lists
    have whole (shown : List JsonValue) : (((items ++ shown).map Subtype.val).foldlM take given) =
        (items.map Subtype.val).foldlM take given >>= (shown.map Subtype.val).foldlM take := by
      rw [List.map_append, List.foldlM_append]
    cases taken : (items.map Subtype.val).foldlM take given with
    | error exception =>
      have made := @ReadingAnswer.Agrees.read Given expires take given (items ++ rest)
        (items ++ rest) (List.prefix_refl _) fun _ => rfl
      rw [whole, taken] at made
      rw [taken] at told_
      exact Or.inr ⟨_, _, told_, done, made⟩
    | ok next =>
      rw [taken] at told_
      refine Or.inl ⟨_, told_, Or.inl ⟨_, done, settled_cursorLoop understands takes turns
        (brings.identified id rfl) (fades.holds (Or.inl (Function.update_self _ _ _)))
        fun shown first complete => ?_⟩⟩
      have made := @ReadingAnswer.Agrees.read Given expires take given (items ++ rest)
        (items ++ shown) ((List.prefix_append_right_inj items).mpr first)
        fun never => by rw [complete never]
      rw [whole, taken] at made
      exact made
  | refused lists bad plain =>
    refine Or.inl ⟨_, told_nextBatch_bad understands connectData _ bad plain given,
      Or.inl ⟨_, each now borne none _ lists, ?_⟩⟩
    exact @ReadingAnswer.Agrees.read Given expires take given [] [] (List.prefix_refl _)
      fun _ => rfl

end

/-! ### The requests of queries -/

section

open ArangoDBCollectionAPI

variable {env : Env} {policy : Policy} (batchSize : Int32)

/-- The value that is sent for all documents of a collection. -/
def allValue (name : CollectionName) : Slice :=
  .object [("collection", .string name.bytes), ("batchSize", .int batchSize.toInt)]

theorem createSimpleAllRequest_eq (name : CollectionName) :
    createSimpleAllRequest env batchSize name.bytes =
      .ok (createREQUESTWith env .put "/_api/simple/all" (allValue batchSize name)) :=
  addVPack_createREQUEST _ _ _

theorem createByExampleRequest_eq (name : CollectionName) (jsontempl : Bytes) :
    createByExampleRequest env batchSize name.bytes jsontempl =
      throwVelocypack env ((ofVpack (env.vpack.fromJson parseOptions jsontempl)).map fun data =>
        createREQUESTWith env .put "/_api/simple/by-example" (.object
          [("collection", .string name.bytes), ("example", data),
            ("batchSize", .int batchSize.toInt)])) := by
  unfold createByExampleRequest
  simp only [addVPack_createREQUEST]
  cases env.vpack.fromJson parseOptions jsontempl <;> rfl

theorem createAQLRequest_eq {query : ArangoDBQuery} {bindVars options : List (Bytes × Slice)}
    (bound : bindVarsData env batchSize query = .ok bindVars)
    (opted : optionsData env query = .ok options) :
    createAQLRequest env batchSize query =
      .ok (createREQUESTWith env .post "/_api/cursor" (queryValue query bindVars options)) := by
  unfold createAQLRequest
  simp only [addVPack_createREQUEST, bound, opted, ofVpack_ok, ok_bind]
  rfl

/-- A query whose bind parameters or options are no JSON texts is not sent. -/
theorem createAQLRequest_of_error {query : ArangoDBQuery} {exception : VpackException}
    (failed : bindVarsData env batchSize query = .error exception ∨
      optionsData env query = .error exception) :
    ∃ thrown, createAQLRequest env batchSize query = .error (.arango thrown) := by
  unfold createAQLRequest
  cases bound : bindVarsData env batchSize query with
  | error exception => exact ⟨_, rfl⟩
  | ok bindVars =>
    cases opted : optionsData env query with
    | error exception => exact ⟨_, rfl⟩
    | ok options =>
      rcases failed with same | same
      · cases bound.symm.trans same
      · cases opted.symm.trans same

/-- A query without bind parameters and options is sent as its text. -/
theorem createAQLRequest_plain (source : Bytes) (queryFields : QueryFields) :
    createAQLRequest env batchSize ((ArangoDBQuery.new source .aql).setQueryFields queryFields) =
      .ok (createREQUESTWith env .post "/_api/cursor"
        (queryValue ((ArangoDBQuery.new source .aql).setQueryFields queryFields)
          [("batchSize", .int batchSize.toInt)] [])) :=
  createAQLRequest_eq batchSize rfl rfl

theorem createAQLRequest_edges (keyword startVertex edgeCollections : Bytes) :
    createAQLRequest env batchSize
        (.new (edgeQuerySource keyword startVertex edgeCollections) .aql) =
      .ok (createREQUESTWith env .post "/_api/cursor"
        (edgeValue batchSize keyword startVertex edgeCollections)) :=
  createAQLRequest_eq batchSize rfl rfl

theorem json_queryValue {query : ArangoDBQuery} {bindVars options : List (Bytes × Slice)}
    (complete : Complete (aqlQuery query))
    (bound : ∀ member ∈ bindVars, Complete member.1 ∧ member.2.Json)
    (opted : ∀ member ∈ options, Complete member.1 ∧ member.2.Json) :
    (queryValue query bindVars options).Json := by
  refine (Slice.json_object_iff _).mpr fun member listed => ?_
  rcases List.mem_cons.mp listed with rfl | listed
  · exact ⟨(by decide : Complete (text "query")), .string complete⟩
  rcases List.mem_cons.mp listed with rfl | listed
  · exact ⟨(by decide : Complete (text "count")), .bool true⟩
  rcases List.mem_append.mp listed with listed | listed
  · exact bound member listed
  · exact opted member listed

theorem json_batchSize :
    ∀ member ∈ [(text "batchSize", Slice.int batchSize.toInt)],
      Complete member.1 ∧ member.2.Json := by
  intro member listed
  rcases List.mem_singleton.mp listed with rfl
  exact ⟨(by decide : Complete (text "batchSize")), .int (isWord_batchSize batchSize)⟩

theorem json_noMember :
    ∀ member ∈ ([] : List (Bytes × Slice)), Complete member.1 ∧ member.2.Json :=
  fun _ listed => absurd listed List.not_mem_nil

variable (parses : ∀ jsonrec data, env.vpack.fromJson parseOptions jsonrec = .ok data → data.Json)

include parses

theorem json_bindVars {query : ArangoDBQuery} {bindVars : List (Bytes × Slice)}
    (bound : bindVarsData env batchSize query = .ok bindVars) :
    ∀ member ∈ bindVars, Complete member.1 ∧ member.2.Json := by
  unfold bindVarsData at bound
  split at bound
  · cases parsed : env.vpack.fromJson parseOptions query.bindVars with
    | error exception =>
      rw [parsed] at bound
      cases bound
    | ok data =>
      rw [parsed] at bound
      cases bound
      intro member listed
      rcases List.mem_cons.mp listed with rfl | listed
      · exact ⟨(by decide : Complete (text "bindVars")), parses _ _ parsed⟩
      · rcases List.mem_singleton.mp listed with rfl
        exact ⟨(by decide : Complete (text "batchSize")), .int (isWord_batchSize_two batchSize)⟩
  · cases bound
    exact json_batchSize batchSize

theorem json_options {query : ArangoDBQuery} {options : List (Bytes × Slice)}
    (opted : optionsData env query = .ok options) :
    ∀ member ∈ options, Complete member.1 ∧ member.2.Json := by
  unfold optionsData at opted
  split at opted
  · cases parsed : env.vpack.fromJson parseOptions query.queryOptions with
    | error exception =>
      rw [parsed] at opted
      cases opted
    | ok data =>
      rw [parsed] at opted
      cases opted
      intro member listed
      rcases List.mem_singleton.mp listed with rfl
      exact ⟨(by decide : Complete (text "options")), parses _ _ parsed⟩
  · cases opted
    exact json_noMember

/-- The texts of an edge query are strings of the JSON text. -/
theorem complete_edgeQuery {query : ArangoDBQuery} {startVertex edgeCollections : Bytes}
    (parsed : edgeQuery env query = .ok (startVertex, edgeCollections)) :
    Complete startVertex ∧ Complete edgeCollections := by
  obtain ⟨slice, made, parsed⟩ :=
    bind_eq_ok_iff.mp (ofVpack_eq_ok_iff.mp (throwVelocypack_eq_ok_iff.mp parsed))
  obtain ⟨label, labelled, parsed⟩ := bind_eq_ok_iff.mp parsed
  have json := parses _ _ made
  have vertex {collections : Bytes} (ends : (slice.get "startVertex" >>= Slice.copyString >>=
      fun startVertex => pure (startVertex, collections)) =
        Except.ok (startVertex, edgeCollections)) :
      Complete startVertex ∧ collections = edgeCollections := by
    obtain ⟨vertex, started, same⟩ := bind_eq_ok_iff.mp ends
    obtain ⟨read, found, copied⟩ := bind_eq_ok_iff.mp started
    cases same
    exact ⟨json.complete_of_get found copied, rfl⟩
  dsimp only at parsed
  split at parsed
  · obtain ⟨started, rfl⟩ := vertex parsed
    exact ⟨started, rfl⟩
  · obtain ⟨collections, chosen, parsed⟩ := bind_eq_ok_iff.mp parsed
    obtain ⟨started, rfl⟩ := vertex parsed
    exact ⟨started, json.complete_of_get labelled chosen⟩

omit parses

/-- The text of a query for edges can be dumped when the vertex and the collections can. -/
theorem json_edgeValue {type : QueryType} {keyword startVertex edgeCollections : Bytes}
    (edge : directionKeyword type = some keyword) (vertex : Complete startVertex)
    (collections : Complete edgeCollections) :
    (edgeValue batchSize keyword startVertex edgeCollections).Json := by
  have keyed : Complete keyword := by
    unfold directionKeyword at edge
    split at edge <;> first
      | cases edge
        decide
      | cases edge
  have source : Complete (edgeQuerySource keyword startVertex edgeCollections) := by
    refine ((by decide : Complete (text "FOR v,e IN 1..1 ")).append keyed).append ?_
    refine (by decide : Complete [0x20, Aql.singleQuote]).append (vertex.append ?_)
    refine (by decide : Complete [Aql.singleQuote, 0x20, Aql.newline]).append
      (collections.append ?_)
    exact (by decide : Complete (Aql.newline :: text "RETURN DISTINCT e "))
  refine json_queryValue ?_ (json_batchSize batchSize) json_noMember
  unfold aqlQuery
  split
  · exact source.append (by decide : Complete (ArangoDBQuery.generateRETURNOf false ∅ "u"))
  · exact source

theorem represented_edgeValue (keyword startVertex edgeCollections : Bytes) :
    (edgeValue batchSize keyword startVertex edgeCollections).Represented :=
  represented_aql _ (fun member listed => by
    rcases List.mem_singleton.mp listed with rfl
    exact .int (isWord_batchSize batchSize)) fun _ listed => absurd listed List.not_mem_nil

/-- The edge collections are named by complete texts. -/
theorem complete_addEdges {names : List Bytes} (each : ∀ name ∈ names, Complete name) :
    Complete (names.foldl addEdges []) := by
  have behind : ∀ {front : Bytes}, Complete front → Complete (names.foldl addEdges front) := by
    induction names with
    | nil => exact fun front => front
    | cons name names inductionHypothesis =>
      intro front complete
      obtain ⟨first, later⟩ := List.forall_mem_cons.mp each
      refine inductionHypothesis later ?_
      unfold addEdges
      split
      · exact first
      · exact (complete.append (by decide : Complete (text ", "))).append first
  exact behind rfl

variable (understands : policy.Understands env)

include understands

theorem carried_all (name : CollectionName) :
    readingInterface.Carried env policy (.select (.all name))
      (createREQUESTWith env .put "/_api/simple/all" (allValue batchSize name)) := by
  have json : (allValue batchSize name).Json := by
    simp +decide [allValue, name.complete, isWord_batchSize batchSize]
  have distinct : [text "collection", text "batchSize"].Nodup := by decide
  refine @Interface.carried_createREQUESTWith _ readingInterface env policy understands.lawful
    (.select (.all name)) _ (Or.inr (Or.inl rfl)) json fun fits stated => ?_
  cases stated
  exact (understands.alike ⟨_, json⟩).get_eq distinct "collection" (Slice.rigid_string name.bytes)
    rfl

/-- A template is read as one that is like it. -/
theorem carried_byExample (name : CollectionName) {template : Slice} (json : template.Json) :
    ∃ read, template.Alike read ∧
      readingInterface.Carried env policy (.select (.byExample name read))
        (createREQUESTWith env .put "/_api/simple/by-example" (.object
          [("collection", .string name.bytes), ("example", template),
            ("batchSize", .int batchSize.toInt)])) := by
  have whole : (Slice.object [(text "collection", .string name.bytes), (text "example", template),
      (text "batchSize", .int batchSize.toInt)]).Json := by
    simp +decide [name.complete, json, isWord_batchSize batchSize]
  have distinct : [text "collection", text "example", text "batchSize"].Nodup := by decide
  have alike := understands.alike ⟨_, whole⟩
  obtain ⟨value, read, stated, found, same⟩ := alike.get distinct "example"
  cases stated
  refine ⟨read, same, @Interface.carried_createREQUESTWith _ readingInterface env policy
    understands.lawful (.select (.byExample name read)) _ (Or.inr (Or.inl rfl)) whole
      fun fits stated => ?_⟩
  cases stated
  exact ⟨alike.get_eq distinct "collection" (Slice.rigid_string name.bytes) rfl, found⟩

theorem carried_query {value : Slice} (json : value.Json) :
    ∃ read, value.Alike read ∧ readingInterface.Carried env policy (.select (.query read))
      (createREQUESTWith env .post "/_api/cursor" value) :=
  ⟨policy.seen env value, understands.alike ⟨value, json⟩,
    @Interface.carried_createREQUESTWith _ readingInterface env policy understands.lawful
      (.select (.query (policy.seen env value))) _ (Or.inl rfl) json fun fits stated => by
        cases stated
        rfl⟩

end

/-! ### Each call takes effect in one instant -/

section

open ArangoDBCollectionAPI

variable {Client Given : Type} {env : Env} {policy : Policy} {connectData : ArangoDBConnection}
  {belongs : RecordPlace → Prop} {aql : Aql.Meaning} {expires races : Prop}
  {watched : Client → CollectionName → Prop} {client : Client} {batchSize : Int32}

/-- The edge collections of a list stay those that a query should name. -/
theorem Store.NamesEdges.bear {library after : Library Client}
    (bears : library.Bears expires watched client after) (all : ∀ name, watched client name)
    {names : List Bytes} (edges : library.store.NamesEdges env names) :
    after.store.NamesEdges env names := by
  obtain ⟨entries, lists, exact_⟩ := edges
  refine ⟨entries, fun entry => (lists entry).trans (exists_congr fun name => ?_), exact_⟩
  obtain ⟨there, kind⟩ := bears.steady name (all name)
  rw [kind]
  exact and_congr there.symm Iff.rfl

/-- The names of such a list are complete texts. -/
theorem Store.NamesEdges.complete {store : Store} {names : List Bytes}
    (edges : store.NamesEdges env names) : ∀ name ∈ names, Complete name := by
  obtain ⟨entries, lists, exact_⟩ := edges
  intro name listed
  obtain ⟨entry, found, _, rfl⟩ := exact_.isEdgeName listed
  obtain ⟨collection, _, rfl⟩ := (lists entry).mp found
  exact collection.complete

/-- A fault of the text of an edge query is an exception of the client. -/
theorem edgeQuery_error {query : ArangoDBQuery} {fault : Fault}
    (failed : edgeQuery env query = .error fault) : ∃ exception, fault = .arango exception := by
  unfold edgeQuery at failed
  revert failed
  cases (do
    let slice ← env.vpack.fromJson parseOptions query.findCondition
    let slicelabel ← slice.get "edgeCollections"
    let edgeCollections ← if slicelabel.isNone then pure [] else slicelabel.copyString
    let startVertex ← slice.get "startVertex" >>= Slice.copyString
    return (startVertex, edgeCollections) : Except VpackException (Bytes × Bytes)) with
  | error exception =>
    intro failed
    cases failed
    exact ⟨_, rfl⟩
  | ok value =>
    intro failed
    cases failed

/-- A query that names its edge collections is sent as its text. -/
theorem selectRequest_edges {query : ArangoDBQuery} {keyword startVertex edgeCollections : Bytes}
    (edge : directionKeyword query.queryType = some keyword)
    (parsed : edgeQuery env query = .ok (startVertex, edgeCollections)) (collname : Bytes) :
    selectRequest env batchSize collname query =
      (edgeCollectionsOr env edgeCollections).bind fun edgeCollections =>
        .done (createREQUESTWith env .post "/_api/cursor"
          (edgeValue batchSize keyword startVertex edgeCollections)) := by
  have created : createEdgeRequest env batchSize query =
      (edgeCollectionsOr env edgeCollections).bind fun edgeCollections =>
        .done (createREQUESTWith env .post "/_api/cursor"
          (edgeValue batchSize keyword startVertex edgeCollections)) := by
    unfold createEdgeRequest
    rw [parsed]
    show Dialogue.bind (queryEdgesToFrom env query.queryType startVertex edgeCollections) _ = _
    rw [queryEdgesToFrom_eq_bind edge, Dialogue.bind_assoc]
    refine congrArg (Dialogue.bind _) (funext fun edges => ?_)
    rw [done_bind, createAQLRequest_edges]
    rfl
  unfold selectRequest
  split <;> first
    | exact created
    | rename_i type
      rw [type] at edge
      cases edge

/-- A query takes effect in one instant. -/
abbrev SelectsAtomically (Given : Type) (env : Env) (policy : Policy)
    (connectData : ArangoDBConnection) (belongs : RecordPlace → Prop) (aql : Aql.Meaning)
    (expires races : Prop) (watched : Client → CollectionName → Prop) (client : Client)
    (batchSize : Int32) (name : CollectionName) {query : ArangoDBQuery}
    (sendable : query.Sendable) : Prop :=
  ∀ (turns : Nat) (setfnc : Given → Bytes → Given) (given : Given) (library : Library Client),
    (conduct env .base connectData
      (selectQuery env batchSize turns name.bytes query setfnc given)).Atomic
      (Library.Responds env policy connectData belongs aql expires client) Library.store
      (Library.Bears expires watched client) (Library.Spares expires watched client)
      ((ReadingCall.selectQuery name query sendable setfnc given).Does env aql batchSize races)
      (fun answer result => answer.Agrees expires (result.map .given)) library

/-- A query that cannot be made into a request is refused. -/
theorem atomic_selectQuery_refused {name : CollectionName} {query : ArangoDBQuery}
    {exception : ArangoException} (sendable : query.Sendable)
    (fails : selectRequest env batchSize name.bytes query = .raise (.arango exception))
    (selects : ∀ store, query.Selects env batchSize races store name none) :
    SelectsAtomically Given env policy connectData belongs aql expires races watched client
      batchSize name sendable := by
  intro turns setfnc given library
  have shape : selectQuery env batchSize turns name.bytes query setfnc given =
      .raise (.arango exception) := by
    unfold selectQuery
    rw [fails]
    rfl
  rw [shape]
  intro now borne
  exact ⟨.refused, .badQuery (selects now.store), .refused exception⟩

variable (understands : policy.Understands env)

include understands

/-- A query that is made into a request takes effect when the request is answered. -/
theorem atomic_selectQuery_sent {name : CollectionName} {query : ArangoDBQuery}
    {request : HttpMessage} {selection : Selection} (sendable : query.Sendable) (turns : Nat)
    (setfnc : Given → Bytes → Given) (given : Given)
    (carried : readingInterface.Carried env policy (.select selection) request)
    (library : Library Client)
    (selects : ∀ now : Library Client, library.Bears expires watched client now →
      query.Selects env batchSize races now.store name (some selection)) :
    (conduct env .base connectData
      (readCursor env turns (extractData env setfnc) given request)).Atomic
      (Library.Responds env policy connectData belongs aql expires client) Library.store
      (Library.Bears expires watched client) (Library.Spares expires watched client)
      ((ReadingCall.selectQuery name query sendable setfnc given).Does env aql batchSize races)
      (fun answer result => answer.Agrees expires (result.map .given)) library :=
  atomic_readCursor understands (takes_extractData env setfnc) turns carried given library
    fun now borne _ _ lists => .selectQuery (selects now borne) lists

/-- An edge query without edge collections asks for them first. -/
theorem atomic_selectQuery_edges {name : CollectionName} {query : ArangoDBQuery}
    {keyword startVertex : Bytes} (sendable : query.Sendable)
    (edge : directionKeyword query.queryType = some keyword)
    (parsed : edgeQuery env query = .ok (startVertex, []))
    (watches : ¬ races → ∀ name, watched client name) :
    SelectsAtomically Given env policy connectData belongs aql expires races watched client
      batchSize name sendable := by
  intro turns setfnc given library
  obtain ⟨read, asks, reads⟩ := collectionNames_eq env .edge
  have shape : selectQuery env batchSize turns name.bytes query setfnc given =
      .bind (.exchange (createREQUEST env .get "/_api/collection") read) fun edgesexist =>
        readCursor env turns (extractData env setfnc) given
          (createREQUESTWith env .post "/_api/cursor" (edgeValue batchSize keyword startVertex
            ((existingEdges env edgesexist).foldl addEdges []))) := by
    unfold selectQuery
    rw [selectRequest_edges edge parsed, edgeCollectionsOr, if_pos rfl, asks]
    simp only [Dialogue.bind_eq, Dialogue.bind_assoc, done_bind, pure_eq_done]
  rw [shape]
  refine (carried_list env policy).atomic_bind understands
    (fun now sent reply after sees responds => responds (.store (.collection .list)) sees) ?_
  rintro now reply after borne ⟨between, grants, fades⟩
  obtain ⟨kept, stays, entries, items, all, shown, lists⟩ : between.lease = now.lease ∧
      between.store = now.store ∧ ∃ entries items, ListsAll now.store.kind now.store.documents
        entries ∧ List.Forall₂ Listed.Shown entries items ∧ ∃ value : JsonValue,
          reply.responseCode = 200 ∧ reply.Holds env value ∧
            value.1.get "result" = .ok (.array items) := by
    cases grants with
    | store grants kept =>
      cases grants with
      | collection serves =>
        generalize served : between.store = final at serves
        cases serves with
        | listed all shown status holds result =>
          exact ⟨kept, rfl, _, _, all, shown, _, status, holds, result⟩
  obtain ⟨value, status, holds, result⟩ := lists
  have bears (other : Client) : now.Bears expires watched other after := by
    have still : now.Bears expires watched other between := by
      refine ⟨fun id rest opened => Or.inl (kept ▸ opened), fun id closed => kept ▸ closed,
        fun id rest opened => kept ▸ opened, fun name _ => ?_⟩
      rw [Store.Has, Store.Has, stays]
      exact ⟨Iff.rfl, rfl⟩
    exact still.trans (fades.bears watched other)
  obtain ⟨response, taken, same, heard⟩ := @Policy.Understands.told_holds env policy connectData
    understands .base (createREQUEST env .get "/_api/collection") _ _ read _ holds
    (by rw [status]; decide)
  obtain ⟨names, found, exact_⟩ := reads response entries
    ⟨same.trans status, value, items, taken.front, result, shown⟩
  refine ⟨fun other _ => bears other, Or.inl ⟨names, heard.trans found,
    Or.inr ⟨fades.store.trans stays, ?_⟩⟩⟩
  have edges : now.store.NamesEdges env (existingEdges env names) :=
    ⟨entries, all, namesEdges_existingEdges fun name => (exact_ name).trans (by
      simp only [Listed.selected_edge_iff, IsEdgeName])⟩
  obtain ⟨read, alike, carried⟩ := carried_query understands (json_edgeValue batchSize edge
    (complete_edgeQuery understands.parses parsed).1 (complete_addEdges edges.complete))
  refine atomic_selectQuery_sent understands sendable turns setfnc given carried after ?_
  intro later bearsToo
  exact .allEdges edge parsed (fun alone =>
    (edges.bear (bears client) (watches alone)).bear bearsToo (watches alone)) alike

omit understands in
theorem selectQuery_of_made {name : CollectionName} {query : ArangoDBQuery} {request : HttpMessage}
    (made : selectRequest env batchSize name.bytes query = .done request) (turns : Nat)
    (setfnc : Given → Bytes → Given) (given : Given) :
    selectQuery env batchSize turns name.bytes query setfnc given =
      readCursor env turns (extractData env setfnc) given request := by
  unfold selectQuery
  rw [made]
  rfl

theorem atomic_selectQuery_all (name : CollectionName) {query : ArangoDBQuery}
    (sendable : query.Sendable) (type : query.queryType = .all) :
    SelectsAtomically Given env policy connectData belongs aql expires races watched client
      batchSize name sendable := by
  intro turns setfnc given library
  have made : selectRequest env batchSize name.bytes query = .done
      (createREQUESTWith env .put "/_api/simple/all" (allValue batchSize name)) := by
    unfold selectRequest
    rw [type, createSimpleAllRequest_eq]
    rfl
  rw [selectQuery_of_made made]
  exact atomic_selectQuery_sent understands sendable turns setfnc given
    (carried_all batchSize understands name) library fun now _ => .all type

theorem atomic_selectQuery_template (name : CollectionName) {query : ArangoDBQuery}
    (sendable : query.Sendable) (type : query.queryType = .template) :
    SelectsAtomically Given env policy connectData belongs aql expires races watched client
      batchSize name sendable := by
  intro turns setfnc given library
  have made : selectRequest env batchSize name.bytes query =
      .ofExcept (createByExampleRequest env batchSize name.bytes query.findCondition) := by
    unfold selectRequest
    rw [type]
  rw [createByExampleRequest_eq] at made
  cases parsed : env.vpack.fromJson parseOptions query.findCondition with
  | error exception =>
    rw [parsed] at made
    exact atomic_selectQuery_refused sendable made
      (fun store => .badTemplate type parsed) turns setfnc given library
  | ok data =>
    rw [parsed] at made
    rw [selectQuery_of_made made]
    obtain ⟨read, alike, carried⟩ :=
      carried_byExample batchSize understands name (understands.parses _ _ parsed)
    exact atomic_selectQuery_sent understands sendable turns setfnc given carried library
      fun now _ => .template type parsed alike

theorem atomic_selectQuery_aql (name : CollectionName) {query : ArangoDBQuery}
    (sendable : query.Sendable) (type : query.queryType = .aql) :
    SelectsAtomically Given env policy connectData belongs aql expires races watched client
      batchSize name sendable := by
  intro turns setfnc given library
  have made : selectRequest env batchSize name.bytes query =
      .ofExcept (createAQLRequest env batchSize query) := by
    unfold selectRequest
    rw [type]
  by_cases failed : ∃ exception, bindVarsData env batchSize query = .error exception ∨
      optionsData env query = .error exception
  · obtain ⟨exception, failed⟩ := failed
    obtain ⟨thrown, throws⟩ := createAQLRequest_of_error batchSize failed
    rw [throws] at made
    exact atomic_selectQuery_refused sendable made (fun store => .badAql type failed) turns setfnc
      given library
  · cases bound : bindVarsData env batchSize query with
    | error exception => exact absurd ⟨exception, Or.inl bound⟩ failed
    | ok bindVars =>
      cases opted : optionsData env query with
      | error exception => exact absurd ⟨exception, Or.inr opted⟩ failed
      | ok options =>
        rw [createAQLRequest_eq batchSize bound opted] at made
        rw [selectQuery_of_made made]
        obtain ⟨read, alike, carried⟩ := carried_query understands (json_queryValue (sendable type)
          (json_bindVars batchSize understands.parses bound)
          (json_options understands.parses opted))
        exact atomic_selectQuery_sent understands sendable turns setfnc given carried library
          fun now _ => .aql type bound opted alike

/-- A query for edges names its edge collections, or asks for them first. -/
theorem atomic_selectQuery_direction (name : CollectionName) {query : ArangoDBQuery}
    (sendable : query.Sendable) {keyword : Bytes}
    (edge : directionKeyword query.queryType = some keyword)
    (watches : ¬ races → query.LeavesEdges env → ∀ name, watched client name) :
    SelectsAtomically Given env policy connectData belongs aql expires races watched client
      batchSize name sendable := by
  intro turns setfnc given library
  cases parsed : edgeQuery env query with
  | error fault =>
    obtain ⟨exception, rfl⟩ := edgeQuery_error parsed
    have fails : selectRequest env batchSize name.bytes query = .raise (.arango exception) := by
      unfold selectRequest createEdgeRequest
      rw [parsed]
      split <;> first
        | rfl
        | rename_i type
          rw [type] at edge
          cases edge
    exact atomic_selectQuery_refused sendable fails (fun store => .badEdges edge parsed) turns
      setfnc given library
  | ok named =>
    obtain ⟨startVertex, edgeCollections⟩ := named
    by_cases none : edgeCollections = []
    · subst none
      have leaves : query.LeavesEdges env := by
        refine ⟨?_, startVertex, parsed⟩
        rw [edge]
        rfl
      exact atomic_selectQuery_edges understands sendable edge parsed
        (fun alone => watches alone leaves) turns setfnc given library
    · have made := @selectRequest_edges env batchSize query _ _ _ edge parsed name.bytes
      rw [edgeCollectionsOr, if_neg none, pure_eq_done, done_bind] at made
      rw [selectQuery_of_made made]
      obtain ⟨vertex, collections⟩ := complete_edgeQuery understands.parses parsed
      obtain ⟨read, alike, carried⟩ :=
        carried_query understands (json_edgeValue batchSize edge vertex collections)
      exact atomic_selectQuery_sent understands sendable turns setfnc given carried library
        fun now _ => .edges edge parsed none alike

theorem atomic_selectQuery (name : CollectionName) (query : ArangoDBQuery)
    (sendable : query.Sendable)
    (watches : ¬ races → query.LeavesEdges env → ∀ name, watched client name) :
    SelectsAtomically Given env policy connectData belongs aql expires races watched client
      batchSize name sendable := by
  cases type : query.queryType with
  | all => exact atomic_selectQuery_all understands name sendable type
  | template =>
    exact atomic_selectQuery_template understands name sendable type
  | aql => exact atomic_selectQuery_aql understands name sendable type
  | undef =>
    have fails : ∃ exception, selectRequest env batchSize name.bytes query =
        .raise (.arango exception) := by
      unfold selectRequest
      rw [type]
      exact ⟨_, rfl⟩
    obtain ⟨exception, fails⟩ := fails
    exact atomic_selectQuery_refused sendable fails (fun store => .undef type)
  | edgesFrom =>
    exact atomic_selectQuery_direction understands name sendable (congrArg directionKeyword type)
      watches
  | edgesTo =>
    exact atomic_selectQuery_direction understands name sendable (congrArg directionKeyword type)
      watches
  | edgesAll =>
    exact atomic_selectQuery_direction understands name sendable (congrArg directionKeyword type)
      watches

theorem atomic_selectAll (name : CollectionName) (queryFields : QueryFields)
    (sendable : (selectAllQuery name.bytes queryFields).Sendable) (turns : Nat)
    (setfnc : Given → Bytes → Bytes → Given) (given : Given) (library : Library Client) :
    (conduct env .base connectData
      (selectAll env batchSize turns name.bytes queryFields setfnc given)).Atomic
      (Library.Responds env policy connectData belongs aql expires client) Library.store
      (Library.Bears expires watched client) (Library.Spares expires watched client)
      ((ReadingCall.selectAll name queryFields sendable setfnc given).Does env aql batchSize races)
      (fun answer result => answer.Agrees expires (result.map .given)) library := by
  have sent {request : HttpMessage}
      (made : selectAllRequest env batchSize name.bytes queryFields = .ok request) :
      selectAll env batchSize turns name.bytes queryFields setfnc given =
        readCursor env turns (extractDataId env setfnc) given request := by
    unfold selectAll
    rw [made]
    rfl
  by_cases plain : queryFields.isEmpty = true
  · have made : selectAllRequest env batchSize name.bytes queryFields =
        .ok (createREQUESTWith env .put "/_api/simple/all" (allValue batchSize name)) := by
      unfold selectAllRequest
      rw [if_pos plain, createSimpleAllRequest_eq]
    rw [sent made]
    exact atomic_readCursor understands (takes_extractDataId env setfnc) turns
      (carried_all batchSize understands name) given library fun now _ items documents lists =>
        .selectAll plain lists
  · have made : selectAllRequest env batchSize name.bytes queryFields =
        .ok (createREQUESTWith env .post "/_api/cursor" (queryValue
          (selectAllQuery name.bytes queryFields) [("batchSize", .int batchSize.toInt)] [])) := by
      unfold selectAllRequest
      rw [if_neg plain, createAQLRequest_plain]
      rfl
    rw [sent made]
    obtain ⟨read, alike, carried⟩ := carried_query understands
      (json_queryValue (sendable rfl) (json_batchSize batchSize) json_noMember)
    exact atomic_readCursor understands (takes_extractDataId env setfnc) turns carried given
      library fun now _ items documents lists => .selectFields plain alike lists

/-- The value that is sent for documents by their keys. -/
def keysValue (name : CollectionName) (keys : List DocumentKey) : Slice :=
  .object [("collection", .string name.bytes),
    ("keys", .array ((keys.map DocumentKey.bytes).map Slice.string))]

/-- What `lookupByKeys` makes of a response. -/
def takeDocuments (env : Env) (setfnc : Given → Bytes → Given) (given : Given)
    (result : HttpMessage) : Except Fault Given :=
  if badRequest result.statusCode then .ok given
  else do
    let slice ← result.front env
    ofVpack (slice.get "documents" >>= extractData env setfnc given)

omit understands in
theorem lookupByKeys_eq (name : CollectionName) (keys : List DocumentKey)
    (setfnc : Given → Bytes → Given) (given : Given) :
    lookupByKeys env name.bytes (keys.map DocumentKey.bytes) setfnc given =
      .exchange (createREQUESTWith env .put "/_api/simple/lookup-by-keys" (keysValue name keys))
        (takeDocuments env setfnc given) :=
  exchangeQuery_eq ..

omit understands in
theorem json_keysValue (name : CollectionName) (keys : List DocumentKey) :
    (keysValue name keys).Json := by
  have each : ∀ key ∈ keys, Complete key.bytes := fun key _ => key.complete
  simpa +decide [keysValue, name.complete] using each

theorem carried_lookup (name : CollectionName) (keys : List DocumentKey) :
    readingInterface.Carried env policy (.lookup name keys)
      (createREQUESTWith env .put "/_api/simple/lookup-by-keys" (keysValue name keys)) := by
  have distinct : [text "collection", text "keys"].Nodup := by decide
  have alike := understands.alike ⟨_, json_keysValue name keys⟩
  have rigid : (Slice.array (keys.map fun key => .string key.bytes)).Rigid := by
    refine Slice.rigid_array fun item listed => ?_
    obtain ⟨key, _, rfl⟩ := List.mem_map.mp listed
    exact Slice.rigid_string key.bytes
  refine @Interface.carried_createREQUESTWith _ readingInterface env policy understands.lawful
    (.lookup name keys) _ (Or.inr (Or.inl rfl)) (json_keysValue name keys) fun fits stated => ?_
  cases stated
  exact ⟨alike.get_eq distinct "collection" (Slice.rigid_string name.bytes) rfl,
    alike.get_eq distinct "keys" rigid
      (congrArg Except.ok (congrArg Slice.array (List.map_map ..)))⟩

theorem atomic_lookupByKeys (name : CollectionName) (keys : List DocumentKey)
    (setfnc : Given → Bytes → Given) (given : Given) (library : Library Client) :
    (conduct env .base connectData
      (lookupByKeys env name.bytes (keys.map DocumentKey.bytes) setfnc given)).Atomic
      (Library.Responds env policy connectData belongs aql expires client) Library.store
      (Library.Bears expires watched client) (Library.Spares expires watched client)
      ((ReadingCall.lookupByKeys name keys setfnc given).Does env aql batchSize races)
      (fun answer result => answer.Agrees expires (result.map .given)) library := by
  rw [lookupByKeys_eq]
  refine (carried_lookup understands name keys).atomic understands
    (fun now sent reply after sees responds => responds.serves sees) ?_
  rintro now reply after borne ⟨between, serves, fades⟩
  refine ⟨serves.spares (fun id same => by cases same) fades, ?_⟩
  rw [fades.store]
  cases serves with
  | @found _ _ items value _ lists status holds documents =>
    obtain ⟨response, taken, same, heard⟩ := @Policy.Understands.told_holds env policy connectData
      understands readingInterface.dispatch (createREQUESTWith env .put
        "/_api/simple/lookup-by-keys" (keysValue name keys)) _ _
        (takeDocuments env setfnc given) _ holds (by rw [status]; decide)
    have accepted : ¬ badRequest response.statusCode = true := by
      rw [same, status]
      exact Bool.false_ne_true
    refine ⟨_, .lookupByKeys (Or.inl lists), ?_⟩
    rw [heard, takeDocuments, if_neg accepted, taken.front, ok_bind, documents, ok_bind,
      takes_extractData env setfnc]
    exact .read (List.prefix_refl _) fun _ => rfl
  | unknown missing bad plain =>
    obtain ⟨response, same, heard⟩ := @Policy.Understands.told_plain env policy connectData
      understands readingInterface.dispatch (createREQUESTWith env .put
        "/_api/simple/lookup-by-keys" (keysValue name keys)) _ _
        (takeDocuments env setfnc given) plain (received_of_badRequest bad)
    refine ⟨_, .lookupByKeys (Or.inr ⟨missing, rfl⟩), ?_⟩
    rw [heard, takeDocuments, if_pos (same ▸ bad)]
    exact @ReadingAnswer.Agrees.read Given expires (giveText env setfnc) given [] []
      (List.prefix_refl _) fun _ => rfl

theorem carried_remove (name : CollectionName) {template : Slice} (json : template.Json) :
    ∃ read, template.Alike read ∧ readingInterface.Carried env policy (.remove name read)
      (removeByExampleRequest env name template) := by
  have whole : (Slice.object
      [(text "collection", .string name.bytes), (text "example", template)]).Json := by
    simp +decide [name.complete, json]
  have distinct : [text "collection", text "example"].Nodup := by decide
  have alike := understands.alike ⟨_, whole⟩
  obtain ⟨value, read, stated, found, same⟩ := alike.get distinct "example"
  cases stated
  refine ⟨read, same, @Interface.carried_createREQUESTWith _ readingInterface env policy
    understands.lawful (.remove name read) _ (Or.inr (Or.inl rfl)) whole fun fits stated => ?_⟩
  cases stated
  exact ⟨alike.get_eq distinct "collection" (Slice.rigid_string name.bytes) rfl, found⟩

theorem atomic_removeByTemplate (name : CollectionName) (jsontempl : Bytes)
    (library : Library Client) :
    (conduct env .base connectData (removeByTemplate env name.bytes jsontempl)).Atomic
      (Library.Responds env policy connectData belongs aql expires client) Library.store
      (Library.Bears expires watched client) (Library.Spares expires watched client)
      ((ReadingCall.removeByTemplate name jsontempl : ReadingCall Given).Does env aql batchSize
        races)
      (fun answer result => answer.Agrees expires (result.map .count)) library := by
  have shape : removeByTemplate env name.bytes jsontempl = catchVelocypack env title 11
      (.bind (.ofExcept (ofVpack (env.vpack.fromJson parseOptions jsontempl))) fun data =>
        .exchange (removeByExampleRequest env name data)
          (takeValue env badRequest "Error removeByExampleRequest: " fun slice =>
            slice.get "deleted" >>= Slice.getInt)) := by
    unfold removeByTemplate
    simp only [Dialogue.bind_eq, exchangeQuery_eq]
    rfl
  rw [shape]
  cases parsed : env.vpack.fromJson parseOptions jsontempl with
  | error exception =>
    rw [ofVpack_error, ofExcept_error, raise_bind]
    refine atomic_catchVelocypack understands.lawful (asks_raise _) fun now borne => ?_
    refine ⟨.refused, .badTemplate fun template same => ?_, .refused _⟩
    cases parsed.symm.trans same
  | ok template =>
    obtain ⟨read, alike, carried⟩ :=
      carried_remove understands name (understands.parses _ _ parsed)
    rw [ofVpack_ok, ofExcept_ok, done_bind]
    refine atomic_catchVelocypack understands.lawful (asks_exchange carried.issued _) ?_
    refine carried.atomic understands
      (fun now sent reply after sees responds => responds.serves sees) ?_
    rintro now reply after borne ⟨between, serves, fades⟩
    refine ⟨serves.spares (fun id same => by cases same) fades, ?_⟩
    rw [fades.store]
    cases serves with
    | @removed _ _ items documents value _ lists loses status holds counted =>
      refine ⟨_, .removeByTemplate parsed alike lists loses, ?_⟩
      rw [understands.told_takeValue readingInterface.dispatch _ (by rw [status]; rfl)
        (by rw [status]; decide) holds, counted]
      exact .removed items.length
    | rejected wrong bad holds explains =>
      obtain ⟨exception, thrown⟩ := understands.told_refused readingInterface.dispatch _
        (refuses_takeValue (fun _ bad => bad) _ _) bad holds explains
      refine ⟨.refused, .badTemplate fun other same => ?_, ?_⟩
      · cases parsed.symm.trans same
        rw [← alike.isObject]
        exact wrong.imp_left alike.unfit
      · rw [thrown]
        exact .refused exception

/-- Every call takes effect in one instant. -/
theorem atomic_reading (call : ReadingCall Given)
    (watches : ¬ races → ∀ name, call.Watches env name → watched client name) (turns : Nat)
    (library : Library Client) :
    (conduct env .base connectData (call.program env batchSize turns)).Atomic
      (Library.Responds env policy connectData belongs aql expires client) Library.store
      (Library.Bears expires watched client) (Library.Spares expires watched client)
      (call.Does env aql batchSize races) (ReadingAnswer.Agrees expires) library := by
  cases call with
  | selectQuery name query sendable setfnc given =>
    exact atomic_bind_done (atomic_selectQuery understands name query sendable
      (fun alone leaves name => watches alone name leaves) turns setfnc given library)
  | selectAll name queryFields sendable setfnc given =>
    exact atomic_bind_done
      (atomic_selectAll understands name queryFields sendable turns setfnc given library)
  | lookupByKeys name keys setfnc given =>
    exact atomic_bind_done (atomic_lookupByKeys understands name keys setfnc given library)
  | removeByTemplate name jsontempl =>
    exact atomic_bind_done (atomic_removeByTemplate understands name jsontempl library)

end

end ArangoCpp
