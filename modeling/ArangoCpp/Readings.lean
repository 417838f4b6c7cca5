/-
This file describes the operations that read many documents, and a server that serves them.

A query is answered with a first batch of documents. The rest waits at the server, under the
identifier of a cursor, until the client asks for the next batch. Meanwhile other clients change
the documents, and open and read cursors of their own. A server may give up a cursor that is not
read in time; the reading ends then without an exception, with the documents that have come. What
the operations do is said of one instant, in which a query is answered: they list the documents that
there are then.
-/

import ArangoCpp.Store

namespace ArangoCpp

open Dialogue

/-! ### Cursors -/

/-- What a server knows of the identifier of a cursor: it has not been given yet, or it stands for
what a client has left to read, or for nothing any more. -/
inductive Lease (Client : Type) : Type where
  | unused
  | opened (client : Client) (rest : List JsonValue)
  | closed

/-- The collections and documents of a server, and its cursors. -/
@[ext] structure Library (Client : Type) where
  store : Store
  lease : Bytes → Lease Client

/-- Cursors that are open may be given up, when they may expire. -/
structure Library.Fades {Client : Type} (expires : Prop) (library after : Library Client) :
    Prop where
  store : after.store = library.store
  lease : ∀ id, after.lease id = library.lease id ∨
    expires ∧ (∃ client rest, library.lease id = .opened client rest) ∧ after.lease id = .closed

/-! ### Requests -/

/-- What is asked for: the documents of a collection, those that have the attributes of a template,
or what an AQL query says. -/
inductive Selection : Type where
  | all (name : CollectionName)
  | byExample (name : CollectionName) (template : Slice)
  | query (value : Slice)

/-- The collection that a selection is from. -/
def Selection.name : Selection → Option CollectionName
  | all name | byExample name _ => some name
  | query _ => none

/-- The requests for many documents. -/
inductive ReadingRequest : Type where
  | select (selection : Selection)
  | next (id : Bytes)
  | lookup (name : CollectionName) (keys : List DocumentKey)
  | remove (name : CollectionName) (template : Slice)

/-- How the requests are sent. -/
def readingInterface : Interface ReadingRequest where
  dispatch := .base
  verb
    | .select (.query _) => .post
    | _ => .put
  path
    | .select (.all _) => "/_api/simple/all"
    | .select (.byExample _ _) => "/_api/simple/by-example"
    | .select (.query _) => "/_api/cursor"
    | .next id => "/_api/cursor/" ++ id
    | .lookup _ _ => "/_api/simple/lookup-by-keys"
    | .remove _ _ => "/_api/simple/remove-by-example"
  body
    | .select (.all name) => some fun value => value.get "collection" = .ok (.string name.bytes)
    | .select (.byExample name template) | .remove name template => some fun value =>
      value.get "collection" = .ok (.string name.bytes) ∧ value.get "example" = .ok template
    | .select (.query query) => some fun value => value = query
    | .next _ => none
    | .lookup name keys => some fun value => value.get "collection" = .ok (.string name.bytes) ∧
      value.get "keys" = .ok (.array (keys.map fun key => .string key.bytes))

/-- A name that a value has as a member is known. -/
theorem string_member_inj {value : Slice} {field : Bytes} {name other : CollectionName}
    (named : value.get field = .ok (.string name.bytes))
    (namedToo : value.get field = .ok (.string other.bytes)) : name = other := by
  have same := Except.ok.inj (named.symm.trans namedToo)
  injection same with same
  exact CollectionName.ext same

/-- The path of a cursor is no other path. -/
theorem path_next_ne (id : Bytes) {request : ReadingRequest}
    (other : ∀ id, request ≠ .next id) (put : readingInterface.verb request = .put) :
    readingInterface.path (.next id) ≠ readingInterface.path request := by
  intro same
  have families := congrArg family same
  have cursors : family (readingInterface.path (.next id)) = text "cu" :=
    family_append _ (by decide)
  have simple : family (readingInterface.path request) = text "si" := by
    rcases request with (_ | _ | _) | id | _ | _ <;> first
      | rfl
      | exact absurd rfl (other id)
      | cases put
  rw [cursors, simple] at families
  revert families
  decide

/-- The server reads one request off what is sent. -/
theorem distinct_readingInterface : readingInterface.Distinct := by
  intro first second verbs paths bodies
  rcases first with (name | ⟨name, template⟩ | value) | id | ⟨name, keys⟩ | ⟨name, template⟩ <;>
    rcases second with (other | ⟨other, another⟩ | further) | next | ⟨other, another⟩ |
      ⟨other, another⟩ <;> first
    | exact absurd verbs (by simp only [readingInterface]; decide)
    | exact absurd paths (by simp only [readingInterface]; decide)
    | exact congrArg ReadingRequest.next (List.append_cancel_left paths)
    | exact absurd paths (path_next_ne id (by rintro _ ⟨⟩) rfl)
    | exact absurd paths.symm (path_next_ne next (by rintro _ ⟨⟩) rfl)
    | skip
  · obtain ⟨value, named, namedToo⟩ := bodies _ _ rfl rfl
    rw [string_member_inj named namedToo]
  · obtain ⟨value, ⟨named, shown⟩, namedToo, shownToo⟩ := bodies _ _ rfl rfl
    rw [string_member_inj named namedToo, Except.ok.inj (shown.symm.trans shownToo)]
  · obtain ⟨_, rfl, rfl⟩ := bodies _ _ rfl rfl
    rfl
  · obtain ⟨value, ⟨named, shown⟩, namedToo, shownToo⟩ := bodies _ _ rfl rfl
    have lists := Except.ok.inj (shown.symm.trans shownToo)
    injection lists with lists
    rw [string_member_inj named namedToo, keys_injective.list_map lists]
  · obtain ⟨value, ⟨named, shown⟩, namedToo, shownToo⟩ := bodies _ _ rfl rfl
    rw [string_member_inj named namedToo, Except.ok.inj (shown.symm.trans shownToo)]

/-! ### What is selected -/

/-- The documents of a collection that are selected, each once, in any order, as they are read. -/
def Documents.Lists (documents : Documents) (name : CollectionName)
    (selects : DocumentKey → JsonValue → Prop) (items : List JsonValue) : Prop :=
  (documents name).isSome = true ∧ ∃ keys : List DocumentKey, keys.Nodup ∧
    (∀ key, key ∈ keys ↔
      ∃ document, documents.find name key = some document ∧ selects key document) ∧
    List.Forall₂ (fun key item => ∃ document, documents.find name key = some document ∧
      document.1.Alike item.1) keys items

/-- What AQL queries say: what a query lists, if it is not refused, and what it makes of the
documents. No query creates or drops a collection. -/
structure Aql.Meaning where
  answers : Slice → Documents → Option (List JsonValue) → Documents → Prop
  keeps : ∀ value documents items after, answers value documents items after →
    ∀ name, (after name).isSome = (documents name).isSome

/-- What is listed for a selection, if it is not refused, and the documents that there are then. -/
inductive Selection.Lists (aql : Aql.Meaning) (documents : Documents) :
    Selection → Option (List JsonValue) → Documents → Prop where
  | all {name : CollectionName} {items : List JsonValue}
      (lists : documents.Lists name (fun _ _ => True) items) :
      Lists aql documents (.all name) (some items) documents
  | byExample {name : CollectionName} {template : Slice} {items : List JsonValue}
      (lists : documents.Lists name (fun _ document => Matches template document.1) items) :
      Lists aql documents (.byExample name template) (some items) documents
  | query {value : Slice} {items : Option (List JsonValue)} {after : Documents}
      (answers : aql.answers value documents items after) :
      Lists aql documents (.query value) items after
  | missing {selection : Selection} {name : CollectionName} (about : selection.name = some name)
      (missing : documents name = none) : Lists aql documents selection none documents
  | malformed {name : CollectionName} {template : Slice}
      (malformed : template.Unfit ∨ template.isObject = false) :
      Lists aql documents (.byExample name template) none documents

theorem Selection.Lists.isSome {aql : Aql.Meaning} {documents after : Documents}
    {selection : Selection} {items : Option (List JsonValue)}
    (lists : selection.Lists aql documents items after) (name : CollectionName) :
    (after name).isSome = (documents name).isSome := by
  cases lists <;> first
    | rfl
    | exact aql.keeps _ _ _ _ ‹_› name

/-! ### Replies -/

/-- A reply brings documents, and the identifier under which there are more if there are. -/
structure Transfer.Brings (env : Env) (reply : Transfer) (value : JsonValue)
    (items : List JsonValue) (next : Option Bytes) : Prop where
  status : reply.responseCode = 200 ∨ reply.responseCode = 201
  holds : reply.Holds env value
  hasMore : value.1.get "hasMore" = .ok (.bool next.isSome)
  result : value.1.get "result" = .ok (.array (items.map Subtype.val))
  identified : ∀ id ∈ next, value.1.get "id" = .ok (.string id)

/-- How a server answers a request of a client, and what it has then. -/
inductive Library.Serves {Client : Type} (env : Env) (aql : Aql.Meaning) (client : Client)
    (library : Library Client) : ReadingRequest → Transfer → Library Client → Prop where
  | answered {selection : Selection} {items : List JsonValue} {documents : Documents}
      {value : JsonValue} {reply : Transfer}
      (lists : selection.Lists aql library.store.documents (some items) documents)
      (brings : reply.Brings env value items none) :
      Serves env aql client library (.select selection) reply
        ⟨⟨documents, library.store.kind⟩, library.lease⟩
  | opened {selection : Selection} {items rest : List JsonValue} {documents : Documents}
      {id : Bytes} {value : JsonValue} {reply : Transfer}
      (lists : selection.Lists aql library.store.documents (some (items ++ rest)) documents)
      (fresh : library.lease id = .unused) (brings : reply.Brings env value items (some id)) :
      Serves env aql client library (.select selection) reply
        ⟨⟨documents, library.store.kind⟩,
          Function.update library.lease id (.opened client rest)⟩
  | refused {selection : Selection} {documents : Documents} {reply : Transfer}
      (lists : selection.Lists aql library.store.documents none documents)
      (bad : badRequest reply.responseCode = true) (plain : reply.Plain env) :
      Serves env aql client library (.select selection) reply
        ⟨⟨documents, library.store.kind⟩, library.lease⟩
  | last {id : Bytes} {owner : Client} {items : List JsonValue} {value : JsonValue}
      {reply : Transfer} (opened : library.lease id = .opened owner items)
      (brings : reply.Brings env value items none) :
      Serves env aql client library (.next id) reply
        ⟨library.store, Function.update library.lease id .closed⟩
  | more {id another : Bytes} {owner : Client} {items rest : List JsonValue} {value : JsonValue}
      {reply : Transfer} (opened : library.lease id = .opened owner (items ++ rest))
      (fresh : another = id ∨ library.lease another = .unused)
      (brings : reply.Brings env value items (some another)) :
      Serves env aql client library (.next id) reply
        ⟨library.store, Function.update (Function.update library.lease id .closed) another
          (.opened owner rest)⟩
  | lost {id : Bytes} {reply : Transfer}
      (gone : ∀ owner rest, library.lease id ≠ .opened owner rest)
      (bad : badRequest reply.responseCode = true) (plain : reply.Plain env) :
      Serves env aql client library (.next id) reply library
  | found {name : CollectionName} {keys : List DocumentKey} {items : List JsonValue}
      {value : JsonValue} {reply : Transfer}
      (lists : library.store.documents.Lists name (fun key _ => key ∈ keys) items)
      (status : reply.responseCode = 200) (holds : reply.Holds env value)
      (documents : value.1.get "documents" = .ok (.array (items.map Subtype.val))) :
      Serves env aql client library (.lookup name keys) reply library
  | unknown {name : CollectionName} {keys : List DocumentKey} {reply : Transfer}
      (missing : library.store.documents name = none)
      (bad : badRequest reply.responseCode = true) (plain : reply.Plain env) :
      Serves env aql client library (.lookup name keys) reply library
  | removed {name : CollectionName} {template : Slice} {items : List JsonValue}
      {documents : Documents} {value : JsonValue} {reply : Transfer}
      (lists : library.store.documents.Lists name
        (fun _ document => Matches template document.1) items)
      (loses : library.store.documents.Loses
        (fun other document => other = name ∧ Matches template document.1) documents)
      (status : reply.responseCode = 200) (holds : reply.Holds env value)
      (counted : (value.1.get "deleted" >>= Slice.getInt) = .ok (items.length : Int)) :
      Serves env aql client library (.remove name template) reply
        ⟨⟨documents, library.store.kind⟩, library.lease⟩
  | rejected {name : CollectionName} {template : Slice} {value : JsonValue} {reply : Transfer}
      (wrong : template.Unfit ∨ library.store.documents name = none ∨ template.isObject = false)
      (bad : badRequest reply.responseCode = true) (holds : reply.Holds env value)
      (explains : value.1.Explains) :
      Serves env aql client library (.remove name template) reply library

/-- The requests that a server knows. -/
inductive LibraryRequest : Type where
  | store (request : StoreRequest)
  | reading (request : ReadingRequest)

/-- The server reads a request off what is sent. -/
def Policy.SeesLibrary (policy : Policy) (connectData : ArangoDBConnection) (sent : Transmission) :
    LibraryRequest → Prop
  | .store request => policy.SeesStore connectData sent request
  | .reading request => readingInterface.Sees policy.read connectData sent request

/-- How a server answers a request of a client, and what it has then. -/
inductive Library.Grants {Client : Type} (env : Env) (policy : Policy)
    (belongs : RecordPlace → Prop) (aql : Aql.Meaning) (client : Client)
    (library : Library Client) : LibraryRequest → Transfer → Library Client → Prop where
  | store {request : StoreRequest} {reply : Transfer} {after : Library Client}
      (grants : library.store.Grants env policy belongs request reply after.store)
      (kept : after.lease = library.lease) :
      Grants env policy belongs aql client library (.store request) reply after
  | reading {request : ReadingRequest} {reply : Transfer} {after : Library Client}
      (serves : library.Serves env aql client request reply after) :
      Grants env policy belongs aql client library (.reading request) reply after

/-- A server answers what it reads as a request of a client, and may give up cursors then. -/
def Library.Responds {Client : Type} (env : Env) (policy : Policy)
    (connectData : ArangoDBConnection) (belongs : RecordPlace → Prop) (aql : Aql.Meaning)
    (expires : Prop) (client : Client) (library : Library Client) (sent : Transmission)
    (reply : Transfer) (after : Library Client) : Prop :=
  ∀ request, policy.SeesLibrary connectData sent request →
    ∃ between, library.Grants env policy belongs aql client request reply between ∧
      between.Fades expires after

/-- How a request for many documents is answered. -/
theorem Library.Responds.serves {Client : Type} {env : Env} {policy : Policy}
    {connectData : ArangoDBConnection} {belongs : RecordPlace → Prop} {aql : Aql.Meaning}
    {expires : Prop} {client : Client} {library after : Library Client} {sent : Transmission}
    {reply : Transfer}
    (responds : library.Responds env policy connectData belongs aql expires client sent reply after)
    {request : ReadingRequest}
    (sees : readingInterface.Sees policy.read connectData sent request) :
    ∃ between, library.Serves env aql client request reply between ∧
      between.Fades expires after := by
  obtain ⟨between, grants, fades⟩ := responds (.reading request) sees
  cases grants with
  | reading serves => exact ⟨between, serves, fades⟩

/-! ### Calls and what they are answered -/

/-- The text of an AQL query can be dumped. -/
def ArangoDBQuery.Sendable (query : ArangoDBQuery) : Prop :=
  query.queryType = .aql → Complete (ArangoDBCollectionAPI.aqlQuery query)

theorem sendable_all : (ArangoDBQuery.ofType .all).Sendable := by
  intro aql
  cases aql

/-- The calls of the operations that read many documents, and of the one that removes by a template.
The texts of the documents are handed to a function, one after the other. -/
inductive ReadingCall (Given : Type) : Type where
  | selectQuery (name : CollectionName) (query : ArangoDBQuery)
      (sendable : query.Sendable) (setfnc : Given → Bytes → Given) (given : Given)
  | selectAll (name : CollectionName) (queryFields : QueryFields)
      (sendable : (selectAllQuery name.bytes queryFields).Sendable)
      (setfnc : Given → Bytes → Bytes → Given) (given : Given)
  | lookupByKeys (name : CollectionName) (keys : List DocumentKey)
      (setfnc : Given → Bytes → Given) (given : Given)
  | removeByTemplate (name : CollectionName) (jsontempl : Bytes)

/-- A query is for the edges in collections that are not named. -/
def ArangoDBQuery.LeavesEdges (env : Env) (query : ArangoDBQuery) : Prop :=
  (directionKeyword query.queryType).isSome = true ∧
    ∃ startVertex, ArangoDBCollectionAPI.edgeQuery env query = .ok (startVertex, [])

/-- What the operations return. -/
inductive ReadingReturned (Given : Type) : Type where
  | given (given : Given)
  | count (deleted : Int)

section

variable {Given : Type}

/-- A call goes by the collections that there are. -/
def ReadingCall.Watches (env : Env) : ReadingCall Given → CollectionName → Prop
  | selectQuery _ query _ _ _, _ => query.LeavesEdges env
  | _, _ => False

/-- The program of a call. -/
def ReadingCall.program (env : Env) (batchSize : Int32) (turns : Nat) :
    ReadingCall Given → Api (ReadingReturned Given)
  | selectQuery name query _ setfnc given =>
    (ArangoDBCollectionAPI.selectQuery env batchSize turns name.bytes query setfnc given).bind
      fun given => .done (.given given)
  | selectAll name queryFields _ setfnc given =>
    (ArangoDBCollectionAPI.selectAll env batchSize turns name.bytes queryFields setfnc given).bind
      fun given => .done (.given given)
  | lookupByKeys name keys setfnc given =>
    (ArangoDBCollectionAPI.lookupByKeys env name.bytes (keys.map DocumentKey.bytes) setfnc
      given).bind fun given => .done (.given given)
  | removeByTemplate name jsontempl =>
    (ArangoDBCollectionAPI.removeByTemplate env name.bytes jsontempl).bind fun deleted =>
      .done (.count deleted)

/-- The text of a document is handed on. -/
def giveText (env : Env) (setfnc : Given → Bytes → Given) (given : Given) (item : Slice) :
    Except VpackException Given := do
  let jsondata ← env.vpack.toJson dumpOptions item
  return setfnc given jsondata

/-- The text of a document is handed on with its identifier. -/
def giveTextId (env : Env) (setfnc : Given → Bytes → Bytes → Given) (given : Given) (item : Slice) :
    Except VpackException Given := do
  let id ← item.get "_id" >>= Slice.copyString
  let jsondata ← env.vpack.toJson dumpOptions item
  return setfnc given jsondata id

/-- What a call is answered: a list of documents of which something is made, or how many documents
have been removed. -/
inductive ReadingAnswer (Given : Type) : Type where
  | read (take : Given → Slice → Except VpackException Given) (given : Given)
      (items : List JsonValue)
  | removed (deleted : Nat)
  | refused

/-- What a call returns or throws when it is answered so. When cursors may expire, what is made of
the first documents may be returned as if they were all. -/
inductive ReadingAnswer.Agrees (expires : Prop) :
    ReadingAnswer Given → Except Fault (ReadingReturned Given) → Prop where
  | read {take : Given → Slice → Except VpackException Given} {given : Given}
      {items shown : List JsonValue} (first : shown <+: items)
      (complete : ¬ expires → shown = items) :
      Agrees expires (.read take given items)
        ((ofVpack ((shown.map Subtype.val).foldlM take given)).map .given)
  | removed (deleted : Nat) : Agrees expires (.removed deleted) (.ok (.count deleted))
  | refused (exception : ArangoException) : Agrees expires .refused (.error (.arango exception))

/-- The value that is sent for an AQL query. -/
def queryValue (query : ArangoDBQuery) (bindVars options : List (Bytes × Slice)) : Slice :=
  .object (("query", .string (ArangoDBCollectionAPI.aqlQuery query)) :: ("count", .bool true) ::
    (bindVars ++ options))

/-- The value that is sent for a query for the edges of a vertex. -/
def edgeValue (batchSize : Int32) (keyword startVertex edgeCollections : Bytes) : Slice :=
  queryValue (.new (edgeQuerySource keyword startVertex edgeCollections) .aql)
    [("batchSize", .int batchSize.toInt)] []

/-- The edge collections that a query should name, as the collections are. -/
def Store.NamesEdges (env : Env) (store : Store) (names : List Bytes) : Prop :=
  ∃ entries, ListsAll store.kind store.documents entries ∧ ArangoCpp.NamesEdges env entries names

/-- What a query selects, as it is read, if it is sent. When collections may be created and dropped
meanwhile, the edge collections of a query that names none may be others than there are. -/
inductive ArangoDBQuery.Selects (env : Env) (batchSize : Int32) (races : Prop) (store : Store)
    (name : CollectionName) (query : ArangoDBQuery) : Option Selection → Prop where
  | all (type : query.queryType = .all) : Selects env batchSize races store name query
      (some (.all name))
  | template {data read : Slice} (type : query.queryType = .template)
      (parsed : env.vpack.fromJson parseOptions query.findCondition = .ok data)
      (alike : data.Alike read) :
      Selects env batchSize races store name query (some (.byExample name read))
  | badTemplate {exception : VpackException} (type : query.queryType = .template)
      (failed : env.vpack.fromJson parseOptions query.findCondition = .error exception) :
      Selects env batchSize races store name query none
  | aql {bindVars options : List (Bytes × Slice)} {read : Slice} (type : query.queryType = .aql)
      (bound : ArangoDBCollectionAPI.bindVarsData env batchSize query = .ok bindVars)
      (opted : ArangoDBCollectionAPI.optionsData env query = .ok options)
      (alike : (queryValue query bindVars options).Alike read) :
      Selects env batchSize races store name query (some (.query read))
  | badAql {exception : VpackException} (type : query.queryType = .aql)
      (failed : ArangoDBCollectionAPI.bindVarsData env batchSize query = .error exception ∨
        ArangoDBCollectionAPI.optionsData env query = .error exception) :
      Selects env batchSize races store name query none
  | edges {keyword startVertex edgeCollections : Bytes} {read : Slice}
      (edge : directionKeyword query.queryType = some keyword)
      (parsed : ArangoDBCollectionAPI.edgeQuery env query = .ok (startVertex, edgeCollections))
      (named : edgeCollections ≠ [])
      (alike : (edgeValue batchSize keyword startVertex edgeCollections).Alike read) :
      Selects env batchSize races store name query (some (.query read))
  | allEdges {keyword startVertex : Bytes} {names : List Bytes} {read : Slice}
      (edge : directionKeyword query.queryType = some keyword)
      (parsed : ArangoDBCollectionAPI.edgeQuery env query = .ok (startVertex, []))
      (exact : ¬ races → store.NamesEdges env names)
      (alike : (edgeValue batchSize keyword startVertex
        (names.foldl ArangoDBCollectionAPI.addEdges [])).Alike read) :
      Selects env batchSize races store name query (some (.query read))
  | badEdges {keyword : Bytes} {fault : Fault}
      (edge : directionKeyword query.queryType = some keyword)
      (failed : ArangoDBCollectionAPI.edgeQuery env query = .error fault) :
      Selects env batchSize races store name query none
  | undef (type : query.queryType = .undef) :
      Selects env batchSize races store name query none

/-- What a call does to the documents, and what it is answered. A selection that is refused is
answered like an empty one. -/
inductive ReadingCall.Does (env : Env) (aql : Aql.Meaning) (batchSize : Int32) (races : Prop) :
    ReadingCall Given → Store → ReadingAnswer Given → Store → Prop where
  | selectQuery {name : CollectionName} {query : ArangoDBQuery} {sendable : query.Sendable}
      {setfnc : Given → Bytes → Given} {given : Given} {store : Store} {selection : Selection}
      {items : Option (List JsonValue)} {documents : Documents}
      (selects : query.Selects env batchSize races store name (some selection))
      (lists : selection.Lists aql store.documents items documents) :
      Does env aql batchSize races (.selectQuery name query sendable setfnc given) store
        (.read (giveText env setfnc) given (items.getD [])) ⟨documents, store.kind⟩
  | badQuery {name : CollectionName} {query : ArangoDBQuery} {sendable : query.Sendable}
      {setfnc : Given → Bytes → Given} {given : Given} {store : Store}
      (selects : query.Selects env batchSize races store name none) :
      Does env aql batchSize races (.selectQuery name query sendable setfnc given) store .refused
        store
  | selectAll {name : CollectionName} {queryFields : QueryFields}
      {sendable : (selectAllQuery name.bytes queryFields).Sendable}
      {setfnc : Given → Bytes → Bytes → Given} {given : Given} {store : Store}
      {items : Option (List JsonValue)} {documents : Documents} (plain : queryFields.isEmpty = true)
      (lists : (Selection.all name).Lists aql store.documents items documents) :
      Does env aql batchSize races (.selectAll name queryFields sendable setfnc given) store
        (.read (giveTextId env setfnc) given (items.getD [])) ⟨documents, store.kind⟩
  | selectFields {name : CollectionName} {queryFields : QueryFields}
      {sendable : (selectAllQuery name.bytes queryFields).Sendable}
      {setfnc : Given → Bytes → Bytes → Given} {given : Given} {store : Store}
      {items : Option (List JsonValue)} {documents : Documents} {read : Slice}
      (fields : ¬ queryFields.isEmpty = true)
      (alike : (queryValue (selectAllQuery name.bytes queryFields)
        [("batchSize", .int batchSize.toInt)] []).Alike read)
      (lists : (Selection.query read).Lists aql store.documents items documents) :
      Does env aql batchSize races (.selectAll name queryFields sendable setfnc given) store
        (.read (giveTextId env setfnc) given (items.getD [])) ⟨documents, store.kind⟩
  | lookupByKeys {name : CollectionName} {keys : List DocumentKey}
      {setfnc : Given → Bytes → Given} {given : Given} {store : Store} {items : List JsonValue}
      (lists : store.documents.Lists name (fun key _ => key ∈ keys) items ∨
        store.documents name = none ∧ items = []) :
      Does env aql batchSize races (.lookupByKeys name keys setfnc given) store
        (.read (giveText env setfnc) given items) store
  | removeByTemplate {name : CollectionName} {jsontempl : Bytes} {template read : Slice}
      {store : Store} {items : List JsonValue} {documents : Documents}
      (parsed : env.vpack.fromJson parseOptions jsontempl = .ok template)
      (alike : template.Alike read)
      (lists : store.documents.Lists name (fun _ document => Matches read document.1) items)
      (loses : store.documents.Loses
        (fun other document => other = name ∧ Matches read document.1) documents) :
      Does env aql batchSize races (.removeByTemplate name jsontempl) store
        (.removed items.length) ⟨documents, store.kind⟩
  | badTemplate {name : CollectionName} {jsontempl : Bytes} {store : Store}
      (wrong : ∀ template, env.vpack.fromJson parseOptions jsontempl = .ok template →
        template.Unfit ∨ store.documents name = none ∨ template.isObject = false) :
      Does env aql batchSize races (.removeByTemplate name jsontempl) store .refused store

end

/-! ### What the clients leave alone -/

/-- What a client relies on: its cursors are read by nobody else, and identifiers are not given
again. The collections that it watches are not created and dropped by others. -/
structure Library.Bears {Client : Type} (expires : Prop)
    (watched : Client → CollectionName → Prop) (client : Client)
    (library after : Library Client) : Prop where
  opened : ∀ id rest, library.lease id = .opened client rest →
    after.lease id = .opened client rest ∨ expires ∧ after.lease id = .closed
  closed : ∀ id, library.lease id = .closed → after.lease id = .closed
  own : ∀ id rest, after.lease id = .opened client rest → library.lease id = .opened client rest
  steady : ∀ name, watched client name → (after.store.Has name ↔ library.store.Has name) ∧
    after.store.kind name = library.store.kind name

namespace Library

variable {Client : Type} {expires : Prop} {watched : Client → CollectionName → Prop}
  {client : Client} {library between after : Library Client}

theorem bears_refl (expires : Prop) (watched : Client → CollectionName → Prop) (client : Client)
    (library : Library Client) :
    library.Bears expires watched client library where
  opened _ _ opened := Or.inl opened
  closed _ closed := closed
  own _ _ opened := opened
  steady _ _ := ⟨Iff.rfl, rfl⟩

/-- Nobody notices what leaves the cursors and the watched collections alone. -/
theorem bears_of_lease (kept : after.lease = library.lease)
    (steady : ∀ name, watched client name → (after.store.Has name ↔ library.store.Has name) ∧
      after.store.kind name = library.store.kind name) :
    library.Bears expires watched client after where
  opened _ _ opened := Or.inl (kept ▸ opened)
  closed _ closed := kept ▸ closed
  own _ _ opened := kept ▸ opened
  steady := steady

theorem Bears.trans (first : library.Bears expires watched client between)
    (second : between.Bears expires watched client after) :
    library.Bears expires watched client after where
  opened id rest opened := by
    rcases first.opened id rest opened with still | ⟨may, gone⟩
    · exact second.opened id rest still
    · exact Or.inr ⟨may, second.closed id gone⟩
  closed id closed := second.closed id (first.closed id closed)
  own id rest opened := first.own id rest (second.own id rest opened)
  steady name watches :=
    ⟨((second.steady name watches).1).trans (first.steady name watches).1,
      (second.steady name watches).2.trans (first.steady name watches).2⟩

/-- Whoever owns a cursor bears that it is given up. -/
theorem Fades.bears (fades : library.Fades expires after)
    (watched : Client → CollectionName → Prop) (client : Client) :
    library.Bears expires watched client after where
  opened id rest opened := by
    rcases fades.lease id with same | ⟨may, _, closed⟩
    · exact Or.inl (same.trans opened)
    · exact Or.inr ⟨may, closed⟩
  closed id closed := by
    rcases fades.lease id with same | ⟨_, ⟨_, _, opened⟩, _⟩
    · exact same.trans closed
    · cases closed.symm.trans opened
  own id rest opened := by
    rcases fades.lease id with same | ⟨_, _, closed⟩
    · exact same.symm.trans opened
    · cases closed.symm.trans opened
  steady _ _ := by
    rw [Store.Has, Store.Has, fades.store]
    exact ⟨Iff.rfl, rfl⟩

/-- A cursor may still be read, or has been given up. -/
def Holds (expires : Prop) (client : Client) (library : Library Client) (id : Bytes)
    (rest : List JsonValue) : Prop :=
  library.lease id = .opened client rest ∨ expires ∧ library.lease id = .closed

theorem Bears.holds (bears : library.Bears expires watched client after) {id : Bytes}
    {rest : List JsonValue} (holds : library.Holds expires client id rest) :
    after.Holds expires client id rest := by
  rcases holds with opened | ⟨may, closed⟩
  · exact bears.opened id rest opened
  · exact Or.inr ⟨may, bears.closed id closed⟩

theorem Fades.holds (fades : library.Fades expires after) {id : Bytes} {rest : List JsonValue}
    (holds : library.Holds expires client id rest) : after.Holds expires client id rest :=
  (fades.bears (fun _ _ => True) client).holds holds

/-- Reading a cursor leaves the documents alone. -/
theorem Serves.next_store {env : Env} {aql : Aql.Meaning} {id : Bytes} {reply : Transfer}
    (serves : library.Serves env aql client (.next id) reply after) :
    after.store = library.store := by
  cases serves <;> rfl

/-- A cursor that one client may read is no other client's. -/
theorem Holds.ne_opened {id : Bytes} {rest : List JsonValue}
    (holds : library.Holds expires client id rest) {other : Client} (apart : other ≠ client)
    (left : List JsonValue) : library.lease id ≠ .opened other left := by
  intro opened
  rcases holds with mine | ⟨_, closed⟩
  · cases mine.symm.trans opened
    exact apart rfl
  · cases closed.symm.trans opened

/-- Whoever does not own a cursor, before and after, bears that it changes, unless it has been
closed for good. -/
theorem bears_update {id : Bytes} {lease : Lease Client} {documents : Documents}
    (before : ∀ rest, library.lease id ≠ .opened client rest)
    (now : ∀ rest, lease ≠ .opened client rest)
    (final : library.lease id ≠ .closed ∨ lease = .closed)
    (same : ∀ name, (documents name).isSome = (library.store.documents name).isSome) :
    library.Bears expires watched client
      ⟨⟨documents, library.store.kind⟩, Function.update library.lease id lease⟩ where
  opened another rest opened := by
    have differ : another ≠ id := by
      rintro rfl
      exact before rest opened
    exact Or.inl ((Function.update_of_ne differ _ _).trans opened)
  closed another closed := by
    by_cases hit : another = id
    · subst hit
      exact (Function.update_self _ _ _).trans (final.resolve_left fun still => still closed)
    · exact (Function.update_of_ne hit _ _).trans closed
  own another rest opened := by
    by_cases hit : another = id
    · subst hit
      exact absurd ((Function.update_self _ _ _).symm.trans opened) (now rest)
    · exact (Function.update_of_ne hit _ _).symm.trans opened
  steady name _ := ⟨by rw [Store.Has, Store.Has, same], rfl⟩

/-- No other client notices what a client does with its cursors. -/
theorem Serves.bears {env : Env} {aql : Aql.Meaning} {request : ReadingRequest} {reply : Transfer}
    (serves : library.Serves env aql client request reply after)
    (own : ∀ id, request = .next id → ∃ rest, library.Holds expires client id rest)
    {other : Client} (apart : other ≠ client) : library.Bears expires watched other after := by
  have unchanged {documents : Documents}
      (same : ∀ name, (documents name).isSome = (library.store.documents name).isSome) :
      library.Bears expires watched other ⟨⟨documents, library.store.kind⟩, library.lease⟩ :=
    ⟨fun _ _ opened => Or.inl opened, fun _ closed => closed, fun _ _ opened => opened,
      fun name _ => ⟨by rw [Store.Has, Store.Has, same], rfl⟩⟩
  have clientsOwn (rest left : List JsonValue) :
      (Lease.opened client rest : Lease Client) ≠ .opened other left := by
    intro same
    cases same
    exact apart rfl
  cases serves with
  | answered lists brings => exact unchanged lists.isSome
  | refused lists bad plain => exact unchanged lists.isSome
  | lost gone bad plain => exact bears_refl _ _ _ _
  | found lists status holds documents => exact bears_refl _ _ _ _
  | unknown missing bad plain => exact bears_refl _ _ _ _
  | rejected wrong bad holds explains => exact bears_refl _ _ _ _
  | removed lists loses status holds counted => exact unchanged loses.collections
  | opened lists fresh brings =>
    refine bears_update (fun left opened => ?_) (clientsOwn _) (Or.inl fun closed => ?_)
      lists.isSome
    · cases fresh.symm.trans opened
    · cases fresh.symm.trans closed
  | @last id owner items value reply opened brings =>
    obtain ⟨rest, holds⟩ := own id rfl
    exact bears_update (holds.ne_opened apart) (fun _ same => by cases same) (Or.inr rfl)
      fun _ => rfl
  | @more id next owner items rest value reply opened fresh brings =>
    obtain ⟨left, holds⟩ := own id rfl
    have mine : owner = client := by
      rcases holds with held | ⟨_, closed⟩
      · cases held.symm.trans opened
        rfl
      · cases closed.symm.trans opened
    subst mine
    have still : library.lease id ≠ .closed := by
      intro closed
      cases opened.symm.trans closed
    rcases fresh with rfl | unused
    · rw [Function.update_idem]
      exact bears_update (holds.ne_opened apart) (clientsOwn _) (Or.inl still) fun _ => rfl
    · have differ : next ≠ id := by
        rintro rfl
        cases opened.symm.trans unused
      have kept : Function.update library.lease id .closed next = .unused :=
        (Function.update_of_ne differ _ _).trans unused
      have closes : library.Bears expires watched other
          ⟨library.store, Function.update library.lease id .closed⟩ :=
        bears_update (holds.ne_opened apart) (fun _ same => by cases same) (Or.inr rfl)
          fun _ => rfl
      refine closes.trans (bears_update (fun rest opened => ?_) (clientsOwn _)
        (Or.inl fun closed => ?_) fun _ => rfl)
      · cases kept.symm.trans opened
      · cases kept.symm.trans closed

end Library

end ArangoCpp
