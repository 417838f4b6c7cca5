/-
This file says what the operations on graphs do to the graphs and collections of a server.

A graph has vertex collections and edge collections. Creating a graph creates those of its
collections that are not there yet, and so does adding a collection to it; removing a graph may drop
those of its collections that belong to no other graph. The definitions of the edges are JSON texts
that the client parses and hands on. Creating and removing ask first whether the graph exists, and
are refused when another client has been there in between.
-/

import ArangoCpp.Store

namespace ArangoCpp

open Dialogue

/-! ### Graphs -/

/-- A graph is known by the collections that belong to it. -/
structure Graph where
  belongs : RecordKind → CollectionName → Prop

namespace Graph

/-- The collection belongs to the graph. -/
def Has (graph : Graph) (name : CollectionName) : Prop := ∃ kind, graph.belongs kind name

/-- The graph with another vertex collection. -/
def addVertex (name : CollectionName) (graph : Graph) : Graph :=
  ⟨fun kind other => graph.belongs kind other ∨ kind = .vertex ∧ other = name⟩

end Graph

/-- What a server makes of the definitions of edges: of those of a new graph, and of one that is
added to a graph, and whether they clash with those of another graph. -/
structure GraphRules where
  makes : Slice → Graph → Prop
  adds : Slice → Graph → Graph → Prop
  clashes : Slice → Graph → Prop

/-- The collections of a server, and its graphs. The names of graphs are made of the bytes that the
names of collections are made of. -/
@[ext] structure Gallery where
  store : Store
  graphs : CollectionName → Option Graph

/-- A record is where a graph has it. -/
def Gallery.Belongs (graphs : CollectionName → Option Graph) (place : RecordPlace) : Prop :=
  ∃ graph, graphs place.graph = some graph ∧ graph.belongs place.kind place.name

/-- The collections of a graph are there: those that were not are new and empty, and those that were
have been left alone. -/
structure Store.Furnishes (store : Store) (graph : Graph) (after : Store) : Prop where
  has : ∀ name, after.Has name ↔ store.Has name ∨ graph.Has name
  kept : ∀ name, store.Has name →
    after.documents name = store.documents name ∧ after.kind name = store.kind name
  empty : ∀ name, graph.Has name → ¬ store.Has name →
    after.documents name = some (fun _ => none) ∧ (after.kind name).isSystem = false

/-- The collections that go with a graph: they belong to it and to no other one. -/
def Gallery.Only (graphs : CollectionName → Option Graph) (name : CollectionName) (graph : Graph)
    (collection : CollectionName) : Prop :=
  graph.Has collection ∧
    ∀ other, other ≠ name → ∀ another, graphs other = some another → ¬ another.Has collection

/-- Some collections are dropped. -/
structure Store.Sheds (store : Store) (gone : CollectionName → Prop) (after : Store) : Prop where
  dropped : ∀ name, gone name → after.documents name = none
  kept : ∀ name, ¬ gone name → after.documents name = store.documents name
  kind : after.kind = store.kind

/-! ### Requests -/

/-- The requests for graphs. -/
inductive GraphRequest : Type where
  | get (name : CollectionName)
  | list
  | create (name : CollectionName) (data : Slice)
  | drop (name : CollectionName) (collections : Bool)
  | collections (name : CollectionName) (kind : RecordKind)
  | addVertex (name collection : CollectionName)
  | addEdge (name : CollectionName) (data : Slice)

/-- How the requests for graphs are sent. -/
def graphInterface : Interface GraphRequest where
  dispatch := .base
  verb
    | .get _ | .list | .collections _ _ => .get
    | .create _ _ | .addVertex _ _ | .addEdge _ _ => .post
    | .drop _ _ => .delete
  path
    | .get name => "/_api/gharial/" ++ name.bytes
    | .list | .create _ _ => "/_api/gharial"
    | .drop name collections =>
      "/_api/gharial/" ++ name.bytes ++ if collections then text "?dropCollections=true" else []
    | .collections name kind => "/_api/gharial/" ++ name.bytes ++ "/" ++ kind.bytes
    | .addVertex name _ => "/_api/gharial/" ++ name.bytes ++ "/vertex"
    | .addEdge name _ => "/_api/gharial/" ++ name.bytes ++ "/edge"
  body
    | .create name data => some fun value =>
      value.get "name" = .ok (.string name.bytes) ∧ value.get "edgeDefinitions" = .ok data
    | .addVertex _ collection => some fun value =>
      value.get "collection" = .ok (.string collection.bytes)
    | .addEdge _ data => some fun value => value = data
    | _ => none

/-- How many slashes the path of a request has. -/
def GraphRequest.depth : GraphRequest → Nat
  | list | create _ _ => 2
  | get _ | drop _ _ => 3
  | collections _ _ | addVertex _ _ | addEdge _ _ => 4

theorem CollectionName.count_slash (name : CollectionName) : name.bytes.count slash = 0 :=
  List.count_eq_zero.mpr name.slash_notMem

theorem count_graph (request : GraphRequest) :
    (graphInterface.path request).count slash = request.depth := by
  have front : (text "/_api/gharial/").count slash = 3 := by decide
  cases request with
  | list => decide
  | create name data =>
    show (text "/_api/gharial").count slash = 2
    decide
  | get name =>
    show (text "/_api/gharial/" ++ name.bytes).count slash = 3
    rw [List.count_append, front, name.count_slash]
  | drop name collections =>
    show (text "/_api/gharial/" ++ name.bytes ++ _).count slash = 3
    rw [List.count_append, List.count_append, front, name.count_slash]
    cases collections <;> decide
  | collections name kind =>
    show (text "/_api/gharial/" ++ name.bytes ++ text "/" ++ kind.bytes).count slash = 4
    rw [List.count_append, List.count_append, List.count_append, front, name.count_slash]
    cases kind <;> decide
  | addVertex name collection =>
    show (text "/_api/gharial/" ++ name.bytes ++ text "/vertex").count slash = 4
    rw [List.count_append, List.count_append, front, name.count_slash]
    decide
  | addEdge name data =>
    show (text "/_api/gharial/" ++ name.bytes ++ text "/edge").count slash = 4
    rw [List.count_append, List.count_append, front, name.count_slash]
    decide

theorem CollectionName.mark_notMem (name : CollectionName) : 0x3F ∉ name.bytes := by
  intro member
  exact absurd (name.legal _ member) (by decide)

/-- A graph that is dropped is known from the path, and so is whether its collections are. -/
theorem path_drop_injective {first second : CollectionName} {collections others : Bool}
    (same : graphInterface.path (.drop first collections) =
      graphInterface.path (.drop second others)) : first = second ∧ collections = others := by
  have names : first.bytes ++ (if collections then text "?dropCollections=true" else []) =
      second.bytes ++ if others then text "?dropCollections=true" else [] := by
    have whole : text "/_api/gharial/" ++ first.bytes ++ _ =
        text "/_api/gharial/" ++ second.bytes ++ _ := same
    rw [List.append_assoc, List.append_assoc] at whole
    exact List.append_cancel_left whole
  have marked (name : CollectionName) {rest : Bytes} (rest_ : name.bytes = rest ++
      text "?dropCollections=true") : False :=
    name.mark_notMem (rest_ ▸ List.mem_append_right _ (by decide))
  cases collections <;> cases others
  · simp only [Bool.false_eq_true, if_false, List.append_nil] at names
    exact ⟨CollectionName.ext names, rfl⟩
  · simp only [Bool.false_eq_true, if_false, if_true, List.append_nil] at names
    exact (marked first names).elim
  · simp only [Bool.false_eq_true, if_false, if_true, List.append_nil] at names
    exact (marked second names.symm).elim
  · simp only [if_true] at names
    exact ⟨CollectionName.ext (List.append_cancel_right names), rfl⟩

/-- What stands behind the name of a graph. -/
theorem path_graph_injective {first second : CollectionName} {rest more : Bytes}
    (same : text "/_api/gharial/" ++ first.bytes ++ slash :: rest =
      text "/_api/gharial/" ++ second.bytes ++ slash :: more) : first = second ∧ rest = more := by
  rw [List.append_assoc, List.append_assoc] at same
  obtain ⟨names, rests⟩ := cut_slash first.slash_notMem second.slash_notMem
    (List.append_cancel_left same)
  exact ⟨CollectionName.ext names, rests⟩

theorem path_collections (name : CollectionName) (kind : RecordKind) :
    graphInterface.path (.collections name kind) =
      text "/_api/gharial/" ++ name.bytes ++ slash :: kind.bytes :=
  List.append_assoc _ _ _

/-- The server reads one request for a graph off what is sent. -/
theorem distinct_graphInterface : graphInterface.Distinct := by
  intro first second verbs paths bodies
  have depths : first.depth = second.depth := by
    rw [← count_graph, ← count_graph, paths]
  cases first <;> cases second <;> first
    | rfl
    | exact absurd verbs (by simp only [graphInterface]; decide)
    | exact absurd depths (by simp only [GraphRequest.depth]; decide)
    | skip
  case get.get name other => rw [CollectionName.ext (List.append_cancel_left paths)]
  case drop.drop name collections other others =>
    obtain ⟨rfl, rfl⟩ := path_drop_injective paths
    rfl
  case collections.collections name kind other another =>
    rw [path_collections, path_collections] at paths
    obtain ⟨rfl, kinds⟩ := path_graph_injective paths
    rw [RecordKind.bytes_injective kinds]
  case create.create name data other another =>
    obtain ⟨value, ⟨named, defined⟩, namedToo, definedToo⟩ := bodies _ _ rfl rfl
    have names := Except.ok.inj (named.symm.trans namedToo)
    injection names with names
    rw [CollectionName.ext names, Except.ok.inj (defined.symm.trans definedToo)]
  case addVertex.addVertex name collection other another =>
    obtain ⟨value, named, namedToo⟩ := bodies _ _ rfl rfl
    have names := Except.ok.inj (named.symm.trans namedToo)
    injection names with names
    rw [(path_graph_injective paths).1, CollectionName.ext names]
  case addEdge.addEdge name data other another =>
    obtain ⟨value, same, sameToo⟩ := bodies _ _ rfl rfl
    rw [(path_graph_injective paths).1, same.symm.trans sameToo]
  case addVertex.addEdge name collection other data =>
    exact absurd (path_graph_injective paths).2 (by decide)
  case addEdge.addVertex name data other collection =>
    exact absurd (path_graph_injective paths).2 (by decide)

/-! ### What a server does -/

/-- How a server answers the requests that change nothing. The lists have the names. -/
inductive Gallery.Tells (env : Env) (gallery : Gallery) : GraphRequest → Transfer → Prop where
  | present {name : CollectionName} {graph : Graph} {reply : Transfer}
      (found : gallery.graphs name = some graph) (received : reply.responseCode ≠ 0)
      (status : reply.responseCode ≠ 404) (plain : reply.Plain env) :
      Tells env gallery (.get name) reply
  | absent {name : CollectionName} {reply : Transfer} (missing : gallery.graphs name = none)
      (status : reply.responseCode = 404) (plain : reply.Plain env) :
      Tells env gallery (.get name) reply
  | listed {value : JsonValue} {reply : Transfer} {names : List Bytes} {items : List Slice}
      (status : reply.responseCode = 200) (holds : reply.Holds env value)
      (graphs : value.1.get "graphs" = .ok (.array items))
      (shown : List.Forall₂ (fun name item => item.get "_key" = .ok (.string name)) names items)
      (all : ∀ bytes, bytes ∈ names ↔
        ∃ name, name.bytes = bytes ∧ (gallery.graphs name).isSome = true) :
      Tells env gallery .list reply
  | collections {name : CollectionName} {kind : RecordKind} {graph : Graph} {value : JsonValue}
      {reply : Transfer} {names : List Bytes} (found : gallery.graphs name = some graph)
      (status : reply.responseCode = 200) (holds : reply.Holds env value)
      (result : value.1.get "collections" = .ok (.array (names.map .string)))
      (all : ∀ bytes, bytes ∈ names ↔
        ∃ collection, collection.bytes = bytes ∧ graph.belongs kind collection) :
      Tells env gallery (.collections name kind) reply
  | noCollections {name : CollectionName} {kind : RecordKind} {reply : Transfer}
      (missing : gallery.graphs name = none) (received : reply.responseCode ≠ 0)
      (status : reply.responseCode ≠ 200) (plain : reply.Plain env) :
      Tells env gallery (.collections name kind) reply

/-- A status of a request that is carried out, at once or later. -/
def Accepting (status : StatusCode) : Prop := status = 200 ∨ status = 201 ∨ status = 202

/-- What a request makes of the graphs and collections, and the status that says so. -/
inductive Gallery.Changes (rules : GraphRules) (gallery : Gallery) :
    GraphRequest → StatusCode → Gallery → Prop where
  | create {name : CollectionName} {data : Slice} {graph : Graph} {store : Store}
      {status : StatusCode} (missing : gallery.graphs name = none) (makes : rules.makes data graph)
      (furnishes : gallery.store.Furnishes graph store) (accepting : Accepting status) :
      Changes rules gallery (.create name data) status
        ⟨store, Function.update gallery.graphs name (some graph)⟩
  | drop {name : CollectionName} {graph : Graph} {status : StatusCode}
      (found : gallery.graphs name = some graph) (accepting : Accepting status) :
      Changes rules gallery (.drop name false) status
        ⟨gallery.store, Function.update gallery.graphs name none⟩
  | dropAll {name : CollectionName} {graph : Graph} {store : Store} {status : StatusCode}
      (found : gallery.graphs name = some graph)
      (sheds : gallery.store.Sheds (Gallery.Only gallery.graphs name graph) store)
      (accepting : Accepting status) :
      Changes rules gallery (.drop name true) status
        ⟨store, Function.update gallery.graphs name none⟩
  | addVertex {name collection : CollectionName} {graph : Graph} {store : Store}
      {status : StatusCode} (found : gallery.graphs name = some graph)
      (furnishes : gallery.store.Furnishes (graph.addVertex collection) store)
      (accepting : Accepting status) :
      Changes rules gallery (.addVertex name collection) status
        ⟨store, Function.update gallery.graphs name (some (graph.addVertex collection))⟩
  | addEdge {name : CollectionName} {data : Slice} {graph revised : Graph} {store : Store}
      {status : StatusCode} (found : gallery.graphs name = some graph)
      (adds : rules.adds data graph revised) (furnishes : gallery.store.Furnishes revised store)
      (accepting : Accepting status) :
      Changes rules gallery (.addEdge name data) status
        ⟨store, Function.update gallery.graphs name (some revised)⟩

/-- The requests that are refused: for graphs that are there already or are not there, with
definitions that are unfit, say nothing or clash with those of a graph, and with a collection that
the graph has or that is for edges. -/
inductive Gallery.Refuses (rules : GraphRules) (gallery : Gallery) : GraphRequest → Prop where
  | create {name : CollectionName} {data : Slice}
      (wrong : data.Unfit ∨ (gallery.graphs name).isSome = true ∨
        (∀ graph, ¬ rules.makes data graph) ∨
        ∃ other another, gallery.graphs other = some another ∧ rules.clashes data another) :
      Refuses rules gallery (.create name data)
  | drop {name : CollectionName} {collections : Bool} (missing : gallery.graphs name = none) :
      Refuses rules gallery (.drop name collections)
  | addVertex {name collection : CollectionName}
      (wrong : ∀ graph, gallery.graphs name = some graph → graph.Has collection ∨
        (gallery.store.kind collection).isEdge = true) :
      Refuses rules gallery (.addVertex name collection)
  | addEdge {name : CollectionName} {data : Slice}
      (wrong : data.Unfit ∨ (∀ graph, gallery.graphs name = some graph →
          ∀ revised, ¬ rules.adds data graph revised) ∨
        ∃ other another, gallery.graphs other = some another ∧ rules.clashes data another) :
      Refuses rules gallery (.addEdge name data)

/-- What a server does with the requests for graphs. -/
def graphRules (env : Env) (rules : GraphRules) : Rules GraphRequest Gallery where
  tells gallery := gallery.Tells env
  changes gallery := gallery.Changes rules
  refuses gallery := gallery.Refuses rules

/-- A server answers what it reads as a request for graphs out of its graphs and collections. -/
abbrev Gallery.Answers (env : Env) (policy : Policy) (connectData : ArangoDBConnection)
    (rules : GraphRules) : Gallery → Transmission → Transfer → Gallery → Prop :=
  (graphRules env rules).Answers graphInterface env policy connectData

/-! ### Calls and what the graphs say about them -/

/-- The calls of the operations on graphs. -/
inductive GraphCall : Type where
  | existGraph (name : CollectionName)
  | graphNames
  | createGraph (name : CollectionName) (edgeDefinitions : Bytes)
  | removeGraph (name : CollectionName) (dropCollections : Bool)
  | graphCollectionNames (name : CollectionName) (kind : RecordKind)
  | addVertexGraph (name collection : CollectionName)
  | addEdgeGraph (name : CollectionName) (edgeDefinition : Bytes)

/-- The program of a call. What is returned has the shapes that the operations on collections
return. -/
def GraphCall.program (env : Env) : GraphCall → Api CollectionReturned
  | existGraph name =>
    (ArangoDBGraphAPI.existGraph env name.bytes).bind fun exist => .done (.flag exist)
  | graphNames => (ArangoDBGraphAPI.graphNames env).bind fun names => .done (.names names)
  | createGraph name edgeDefinitions =>
    (ArangoDBGraphAPI.createGraph env name.bytes edgeDefinitions).bind fun _ => .done .nothing
  | removeGraph name dropCollections =>
    (ArangoDBGraphAPI.removeGraph env name.bytes dropCollections).bind fun _ => .done .nothing
  | graphCollectionNames name kind =>
    (ArangoDBGraphAPI.graphCollectionNames env name.bytes kind.bytes).bind
      fun names => .done (.names names)
  | addVertexGraph name collection =>
    (ArangoDBGraphAPI.addVertexGraph env name.bytes collection.bytes).bind
      fun _ => .done .nothing
  | addEdgeGraph name edgeDefinition =>
    (ArangoDBGraphAPI.addEdgeGraph env name.bytes edgeDefinition).bind fun _ => .done .nothing

/-- What a request does that is carried out or refused. -/
abbrev GraphRequest.Does (env : Env) (rules : GraphRules) (request : GraphRequest)
    (gallery : Gallery) (answer : CollectionAnswer) (after : Gallery) : Prop :=
  (graphRules env rules).Does .done .refused request gallery answer after

/-- What a call does to the graphs and collections, and what it is answered. A call that finds its
work done may be refused when clients can get in between. Malformed definitions are refused, and
others are followed as they are read. -/
def GraphCall.Does (env : Env) (rules : GraphRules) (races : Prop) :
    GraphCall → Gallery → CollectionAnswer → Gallery → Prop
  | existGraph name, gallery, answer, after =>
    answer = .flag (gallery.graphs name).isSome ∧ after = gallery
  | graphNames, gallery, answer, after =>
    answer = .names (fun name => (gallery.graphs name).isSome = true) ∧ after = gallery
  | createGraph name edgeDefinitions, gallery, answer, after =>
    if (gallery.graphs name).isSome = true then
      (answer = .done ∨ races ∧ answer = .refused) ∧ after = gallery
    else match env.vpack.fromJson parseOptions edgeDefinitions with
      | .ok data => ∃ read, data.Alike read ∧
        (GraphRequest.create name read).Does env rules gallery answer after
      | .error _ => answer = .refused ∧ after = gallery
  | removeGraph name dropCollections, gallery, answer, after =>
    if (gallery.graphs name).isSome = true then
      (GraphRequest.drop name dropCollections).Does env rules gallery answer after
    else (answer = .done ∨ races ∧ answer = .refused) ∧ after = gallery
  | graphCollectionNames name kind, gallery, answer, after =>
    answer = .names (fun collection => Gallery.Belongs gallery.graphs ⟨name, kind, collection⟩) ∧
      after = gallery
  | addVertexGraph name collection, gallery, answer, after =>
    (GraphRequest.addVertex name collection).Does env rules gallery answer after
  | addEdgeGraph name edgeDefinition, gallery, answer, after =>
    match env.vpack.fromJson parseOptions edgeDefinition with
      | .ok data => ∃ read, data.Alike read ∧
        (GraphRequest.addEdge name read).Does env rules gallery answer after
      | .error _ => answer = .refused ∧ after = gallery

/-- The graph that a call may create or remove. -/
def GraphCall.changes : GraphCall → Option CollectionName
  | createGraph name _ | removeGraph name _ => some name
  | _ => none

/-- The graph that a request may create or remove. -/
def GraphRequest.changes : GraphRequest → Option CollectionName
  | create name _ | drop name _ => some name
  | _ => none

/-- A request creates and removes no other graph than the one that it is about. -/
theorem Gallery.Changes.keeps {rules : GraphRules} {gallery after : Gallery}
    {request : GraphRequest} {status : StatusCode}
    (changes : gallery.Changes rules request status after) {name : CollectionName}
    (apart : request.changes ≠ some name) :
    (after.graphs name).isSome = (gallery.graphs name).isSome := by
  have other {here : CollectionName} (differ : name ≠ here) (graph : Option Graph) :
      (Function.update gallery.graphs here graph name).isSome = (gallery.graphs name).isSome := by
    rw [Function.update_of_ne differ]
  have same {here : CollectionName} {graph : Graph} (found : gallery.graphs here = some graph)
      (revised : Graph) :
      (Function.update gallery.graphs here (some revised) name).isSome =
        (gallery.graphs name).isSome := by
    by_cases there : name = here
    · rw [there, Function.update_self, found]
      rfl
    · exact other there _
  cases changes with
  | create missing makes furnishes accepting =>
    exact other (fun there => apart (by rw [there]; rfl)) _
  | drop found accepting => exact other (fun there => apart (by rw [there]; rfl)) _
  | dropAll found sheds accepting => exact other (fun there => apart (by rw [there]; rfl)) _
  | addVertex found furnishes accepting => exact same found _
  | addEdge found adds furnishes accepting => exact same found _

theorem graphRules_keeps {env : Env} {rules : GraphRules} {gallery after : Gallery}
    {request : GraphRequest} {reply : Transfer}
    (serves : (graphRules env rules).Serves env gallery request reply after)
    {name : CollectionName} (apart : request.changes ≠ some name) :
    (after.graphs name).isSome = (gallery.graphs name).isSome := by
  cases serves with
  | told tells => rfl
  | changed changes plain => exact Gallery.Changes.keeps changes apart
  | refused refuses bad holds explains => rfl

/-! ### The messages -/

section

variable {env : Env} {policy : Policy} (understands : policy.Understands env)

/-- The messages for the requests without a body. -/
theorem carried_plain {request : GraphRequest}
    (kind : graphInterface.verb request = .get ∨ graphInterface.verb request = .delete)
    (plain : graphInterface.body request = none) :
    graphInterface.Carried env policy request
      (createREQUEST env (graphInterface.verb request) (graphInterface.path request)) :=
  .bare (by tauto) plain

include understands

theorem carried_createGraph (name : CollectionName) {data : Slice} (json : data.Json) :
    ∃ read, data.Alike read ∧ graphInterface.Carried env policy (.create name read)
      (createREQUESTWith env .post "/_api/gharial"
        (.object [(text "name", .string name.bytes), (text "edgeDefinitions", data)])) := by
  have whole : (Slice.object
      [(text "name", .string name.bytes), (text "edgeDefinitions", data)]).Json := by
    simp +decide [name.complete, json]
  have distinct : [text "name", text "edgeDefinitions"].Nodup := by decide
  have alike := understands.alike ⟨_, whole⟩
  obtain ⟨value, read, stated, found, same⟩ := alike.get distinct "edgeDefinitions"
  cases stated
  refine ⟨read, same, @Interface.carried_createREQUESTWith _ graphInterface env policy
    understands.lawful (.create name read) _ (Or.inl rfl) whole fun fits stated => ?_⟩
  cases stated
  exact ⟨alike.get_eq distinct "name" (Slice.rigid_string name.bytes) rfl, found⟩

theorem carried_addVertex (name collection : CollectionName) :
    graphInterface.Carried env policy (.addVertex name collection)
      (createREQUESTWith env .post ("/_api/gharial/" ++ name.bytes ++ "/vertex")
        (.object [(text "collection", .string collection.bytes)])) := by
  have json : (Slice.object [(text "collection", .string collection.bytes)]).Json := by
    simp +decide [collection.complete]
  have distinct : [text "collection"].Nodup := by decide
  refine @Interface.carried_createREQUESTWith _ graphInterface env policy understands.lawful
    (.addVertex name collection) _ (Or.inl rfl) json fun fits stated => ?_
  cases stated
  exact (understands.alike ⟨_, json⟩).get_eq distinct "collection"
    (Slice.rigid_string collection.bytes) rfl

theorem carried_addEdge (name : CollectionName) {data : Slice} (json : data.Json) :
    ∃ read, data.Alike read ∧ graphInterface.Carried env policy (.addEdge name read)
      (createREQUESTWith env .post ("/_api/gharial/" ++ name.bytes ++ "/edge") data) := by
  refine ⟨policy.seen env data, understands.alike ⟨data, json⟩,
    @Interface.carried_createREQUESTWith _ graphInterface env policy understands.lawful
      (.addEdge name (policy.seen env data)) _ (Or.inl rfl) json fun fits stated => ?_⟩
  cases stated
  rfl

end

/-! ### Each call takes effect in one instant -/

section

variable {env : Env} {policy : Policy} {connectData : ArangoDBConnection} {rules : GraphRules}
  {races : Prop} {rely guarantee : Gallery → Gallery → Prop} {gallery : Gallery}

/-- What agrees with an answer needs no translation. -/
theorem CollectionAnswer.Agrees.translate {Value : Type} {wrap : Value → CollectionReturned}
    {answer : CollectionAnswer} {result : Except Fault Value}
    (agrees : answer.Agrees (result.map wrap)) (title : Bytes) (id : Int) :
    answer.Agrees ((result.tryCatch (ArangoCpp.translate env title id)).map wrap) := by
  cases result with
  | ok value => exact agrees
  | error fault =>
    cases fault with
    | arango exception => exact agrees
    | _ => cases agrees

variable (understands : policy.Understands env)

include understands

/-- The status says whether a graph exists. -/
theorem told_existGraph {name : CollectionName} {gallery : Gallery} {reply : Transfer}
    (tells : gallery.Tells env (.get name) reply) (rq : HttpMessage) :
    told env .base connectData rq
      (fun result => pure (result.statusCode != statusNotFound)) reply =
        .ok (gallery.graphs name).isSome := by
  cases tells with
  | present found received status plain =>
    rw [understands.told_status .base rq (· != statusNotFound) received plain, found]
    exact congrArg Except.ok (bne_iff_ne.mpr status)
  | absent missing status plain =>
    rw [understands.told_status .base rq (· != statusNotFound) (by rw [status]; decide) plain,
      missing, status]
    rfl

/-- A program that goes on after asking whether a graph exists. -/
theorem atomic_existGraph_bind (name : CollectionName) {Result : Type}
    {continuation : Bool → Api Result} {does : Gallery → CollectionAnswer → Gallery → Prop}
    {agrees : CollectionAnswer → Except Fault Result → Prop}
    (guarantees : ∀ now, guarantee now now)
    (each : ∀ now : Gallery,
      (∃ answer, does now answer now ∧
        (conduct env .base connectData (continuation (now.graphs name).isSome)).Settled
          (Gallery.Answers env policy connectData rules) id rely guarantee (agrees answer) now) ∨
      (conduct env .base connectData (continuation (now.graphs name).isSome)).Atomic
        (Gallery.Answers env policy connectData rules) id rely guarantee does agrees now)
    (gallery : Gallery) :
    (conduct env .base connectData
      (.bind (ArangoDBGraphAPI.existGraph env name.bytes) continuation)).Atomic
        (Gallery.Answers env policy connectData rules) id rely guarantee does agrees gallery := by
  have reads : (graphRules env rules).Reads (.get name) :=
    ⟨by rintro _ _ _ ⟨⟩, by rintro _ ⟨⟩⟩
  exact reads.atomic_bind understands (@carried_plain env policy (.get name) (Or.inl rfl) rfl)
    (fun now reply tells => told_existGraph understands tells _) guarantees each gallery

/-- A request that changes something is carried out, or an exception says that it is refused. -/
theorem atomic_demanded {request : GraphRequest} {rq : HttpMessage}
    (carried : graphInterface.Carried env policy request rq)
    (writes : (graphRules env rules).Writes request) {refuses : StatusCode → Bool}
    (accepts : ∀ status, Accepting status → refuses status = false ∧ status ≠ 0)
    (accepting : ∀ gallery status after, Gallery.Changes rules gallery request status after →
      Accepting status)
    (bad : ∀ status, badRequest status = true → refuses status = true) (text : Bytes)
    {does : Gallery → CollectionAnswer → Gallery → Prop}
    (each : ∀ now answer after, rely gallery now → request.Does env rules now answer after →
      does now answer after)
    (guarantees : ∀ now reply after, (graphRules env rules).Serves env now request reply after →
      guarantee now after) :
    (conduct env .base connectData (.exchange rq (demand env refuses text))).Atomic
      (Gallery.Answers env policy connectData rules) id rely guarantee does
      (fun answer result => answer.Agrees (result.map fun _ => .nothing)) gallery :=
  Rules.Writes.atomic_demand understands carried writes
    (fun gallery status after changes => accepts status (accepting gallery status after changes))
    bad text CollectionAnswer.Agrees.done CollectionAnswer.Agrees.refused each guarantees

theorem atomic_existGraph (name : CollectionName) (guarantees : ∀ now, guarantee now now) :
    (conduct env .base connectData (ArangoDBGraphAPI.existGraph env name.bytes)).Atomic
      (Gallery.Answers env policy connectData rules) id rely guarantee
      ((GraphCall.existGraph name).Does env rules races)
      (fun answer result => answer.Agrees (result.map .flag)) gallery := by
  have carried : graphInterface.Carried env policy (.get name)
      (createREQUEST env .get (ArangoDBGraphAPI.graphPath name.bytes)) :=
    carried_plain (Or.inl rfl) rfl
  have reads : (graphRules env rules).Reads (.get name) :=
    ⟨by rintro _ _ _ ⟨⟩, by rintro _ ⟨⟩⟩
  exact reads.atomic understands carried
    (fun gallery reply tells => ⟨_, told_existGraph understands tells _, .flag _⟩) guarantees
    gallery

theorem atomic_graphNames (guarantees : ∀ now, guarantee now now) :
    (conduct env .base connectData (ArangoDBGraphAPI.graphNames env)).Atomic
      (Gallery.Answers env policy connectData rules) id rely guarantee
      (GraphCall.graphNames.Does env rules races)
      (fun answer result => answer.Agrees (result.map .names)) gallery := by
  have carried : graphInterface.Carried env policy .list
      (createREQUEST env .get "/_api/gharial") :=
    carried_plain (Or.inl rfl) rfl
  have reads : (graphRules env rules).Reads .list := ⟨by rintro _ _ _ ⟨⟩, by rintro _ ⟨⟩⟩
  refine reads.atomic understands carried (fun gallery reply tells => ?_) guarantees gallery
  cases tells with
  | @listed value _ names items status holds graphs shown all =>
    obtain ⟨found, read, member⟩ := @insertNames_array
      (fun graph => graph.get "_key" >>= Slice.copyString) names items
      (shown.imp fun name item there => by rw [there, ok_bind, Slice.copyString])
    refine ⟨found, ?_, .names fun bytes => (member bytes).trans (all bytes)⟩
    refine (understands.told_listValue .base _ status holds ∅ _).trans ?_
    rw [graphs, ok_bind, read, ofVpack_ok]

theorem atomic_graphCollectionNames (name : CollectionName) (kind : RecordKind)
    (guarantees : ∀ now, guarantee now now) :
    (conduct env .base connectData
      (ArangoDBGraphAPI.graphCollectionNames env name.bytes kind.bytes)).Atomic
      (Gallery.Answers env policy connectData rules) id rely guarantee
      ((GraphCall.graphCollectionNames name kind).Does env rules races)
      (fun answer result => answer.Agrees (result.map .names)) gallery := by
  have carried : graphInterface.Carried env policy (.collections name kind)
      (createREQUEST env .get (ArangoDBGraphAPI.graphPath name.bytes ++ "/" ++ kind.bytes)) :=
    carried_plain (Or.inl rfl) rfl
  have reads : (graphRules env rules).Reads (.collections name kind) :=
    ⟨by rintro _ _ _ ⟨⟩, by rintro _ ⟨⟩⟩
  refine reads.atomic understands carried (fun gallery reply tells => ?_) guarantees gallery
  cases tells with
  | @collections _ _ graph value _ names there status holds result all =>
    obtain ⟨found, read, member⟩ := @insertNames_array Slice.copyString names
      (names.map .string) (List.forall₂_map_right_iff.mpr (List.forall₂_same.mpr fun _ _ => rfl))
    refine ⟨found, ?_, .names fun bytes => ((member bytes).trans (all bytes)).trans ?_⟩
    · refine (understands.told_listValue .base _ status holds ∅ _).trans ?_
      rw [result, ok_bind, read, ofVpack_ok]
    · refine exists_congr fun collection => and_congr_right fun _ => ⟨fun belongs => ?_, ?_⟩
      · exact ⟨graph, there, belongs⟩
      · rintro ⟨other, same, belongs⟩
        cases there.symm.trans same
        exact belongs
  | noCollections missing received status plain =>
    obtain ⟨response, same, takes⟩ := understands.told_plain .base (createREQUEST env .get
      (ArangoDBGraphAPI.graphPath name.bytes ++ "/" ++ kind.bytes)) (listValue env ∅ fun slice =>
        slice.get "collections" >>= insertNames Slice.copyString) plain received
    have elsewhere : ¬ response.statusCode = statusOK := same ▸ status
    refine ⟨∅, takes.trans (if_neg elsewhere), .names fun bytes => ?_⟩
    refine iff_of_false Std.TreeSet.not_mem_emptyc ?_
    rintro ⟨collection, _, graph, found, _⟩
    cases missing.symm.trans found

theorem atomic_addVertexGraph (name collection : CollectionName)
    (guarantees : ∀ now reply after,
      (graphRules env rules).Serves env now (.addVertex name collection) reply after →
        guarantee now after) :
    (conduct env .base connectData
      (ArangoDBGraphAPI.addVertexGraph env name.bytes collection.bytes)).Atomic
      (Gallery.Answers env policy connectData rules) id rely guarantee
      ((GraphCall.addVertexGraph name collection).Does env rules races)
      (fun answer result => answer.Agrees (result.map fun _ => .nothing)) gallery := by
  unfold ArangoDBGraphAPI.addVertexGraph
  rw [exchangeQuery_eq]
  refine atomic_demanded understands (carried_addVertex understands name collection)
    (by rintro _ _ ⟨⟩) ?_ ?_ (fun _ bad => bad) _ (fun now answer after _ does => does) guarantees
  · rintro status (rfl | rfl | rfl) <;> decide
  · rintro gallery status after ⟨⟩
    assumption

theorem atomic_addEdgeGraph (name : CollectionName) (edgeDefinition : Bytes)
    (guarantees : ∀ data now reply after,
      (graphRules env rules).Serves env now (.addEdge name data) reply after →
        guarantee now after) :
    (conduct env .base connectData
      (ArangoDBGraphAPI.addEdgeGraph env name.bytes edgeDefinition)).Atomic
      (Gallery.Answers env policy connectData rules) id rely guarantee
      ((GraphCall.addEdgeGraph name edgeDefinition).Does env rules races)
      (fun answer result => answer.Agrees (result.map fun _ => .nothing)) gallery := by
  unfold ArangoDBGraphAPI.addEdgeGraph
  refine atomic_parsed understands.lawful (fun data made => ?_)
    (fun exception made now _ => ?_) CollectionAnswer.Agrees.refused
    (fun answer result agrees => agrees.translate _ _) fun data made => ?_
  · rw [exchangeQuery_eq]
    obtain ⟨read, _, carried⟩ := carried_addEdge understands name (understands.parses _ _ made)
    exact asks_exchange carried.issued _
  · rw [GraphCall.Does, made]
    exact ⟨rfl, rfl⟩
  · rw [exchangeQuery_eq]
    obtain ⟨read, alike, carried⟩ := carried_addEdge understands name (understands.parses _ _ made)
    refine atomic_demanded understands carried (by rintro _ _ ⟨⟩) ?_ ?_
      (fun _ bad => bad) _ (fun now answer after _ does => ?_) (guarantees read)
    · rintro status (rfl | rfl | rfl) <;> decide
    · rintro gallery status after ⟨⟩
      assumption
    · rw [GraphCall.Does, made]
      exact ⟨read, alike, does⟩

omit understands in
theorem notAccepted_of_badRequest (status : StatusCode) (bad : badRequest status = true) :
    ArangoDBGraphAPI.notAccepted status = true := by
  unfold badRequest at bad
  unfold ArangoDBGraphAPI.notAccepted
  have large := of_decide_eq_true bad
  exact decide_eq_true (lt_of_lt_of_le (by decide) large)

/-- A graph is not created or removed by others, when that matters. -/
theorem atomic_removeGraph (name : CollectionName) (dropCollections : Bool)
    (keeps : ¬ races → ∀ now later, rely now later →
      (later.graphs name).isSome = (now.graphs name).isSome)
    (reads : ∀ now, guarantee now now)
    (guarantees : ∀ now reply after,
      (graphRules env rules).Serves env now (.drop name dropCollections) reply after →
        guarantee now after) :
    (conduct env .base connectData
      (ArangoDBGraphAPI.removeGraph env name.bytes dropCollections)).Atomic
      (Gallery.Answers env policy connectData rules) id rely guarantee
      ((GraphCall.removeGraph name dropCollections).Does env rules races)
      (fun answer result => answer.Agrees (result.map fun _ => .nothing)) gallery := by
  refine atomic_existGraph_bind understands name reads (fun now => ?_) gallery
  cases has : (now.graphs name).isSome with
  | false =>
    refine Or.inl ⟨.done, ?_, .done⟩
    rw [GraphCall.Does, has, if_neg Bool.false_ne_true]
    exact ⟨Or.inl rfl, rfl⟩
  | true =>
    have carried : graphInterface.Carried env policy (.drop name dropCollections)
        (createREQUEST env .delete (ArangoDBGraphAPI.graphPath name.bytes ++
          if dropCollections then text "?dropCollections=true" else [])) :=
      carried_plain (Or.inr rfl) rfl
    refine Or.inr (atomic_demanded understands carried (by rintro _ _ ⟨⟩) ?_ ?_
      notAccepted_of_badRequest _ (fun later answer after borne does => ?_) guarantees)
    · rintro status (rfl | rfl | rfl) <;> decide
    · rintro gallery status after ⟨⟩ <;> assumption
    · rw [GraphCall.Does]
      by_cases there : (later.graphs name).isSome = true
      · rw [if_pos there]
        exact does
      · rw [if_neg there]
        have raced : races := by
          by_contra alone
          exact there ((keeps alone _ _ borne).trans has)
        rcases does with ⟨_, _, changes⟩ | ⟨refused, _, same⟩
        · cases changes with
          | drop found accepting => exact absurd (Option.isSome_of_mem found) there
          | dropAll found sheds accepting => exact absurd (Option.isSome_of_mem found) there
        · exact ⟨Or.inr ⟨raced, refused⟩, same⟩

theorem atomic_createGraph (name : CollectionName) (edgeDefinitions : Bytes)
    (keeps : ¬ races → ∀ now later, rely now later →
      (later.graphs name).isSome = (now.graphs name).isSome)
    (reads : ∀ now, guarantee now now)
    (guarantees : ∀ data now reply after,
      (graphRules env rules).Serves env now (.create name data) reply after →
        guarantee now after) :
    (conduct env .base connectData
      (ArangoDBGraphAPI.createGraph env name.bytes edgeDefinitions)).Atomic
      (Gallery.Answers env policy connectData rules) id rely guarantee
      ((GraphCall.createGraph name edgeDefinitions).Does env rules races)
      (fun answer result => answer.Agrees (result.map fun _ => .nothing)) gallery := by
  unfold ArangoDBGraphAPI.createGraph
  refine atomic_existGraph_bind understands name reads (fun now => ?_) gallery
  cases has : (now.graphs name).isSome with
  | true =>
    refine Or.inl ⟨.done, ?_, .done⟩
    rw [GraphCall.Does, has, if_pos rfl]
    exact ⟨Or.inl rfl, rfl⟩
  | false =>
    have raced : ∀ later, rely now later → (later.graphs name).isSome = true → races := by
      intro later borne there
      by_contra alone
      rw [keeps alone _ _ borne, has] at there
      exact Bool.false_ne_true there
    refine Or.inr (atomic_parsed understands.lawful (fun data made => ?_)
      (fun exception made later borne => ?_) CollectionAnswer.Agrees.refused
      (fun answer result agrees => agrees.translate _ _) fun data made => ?_)
    · rw [exchangeQuery_eq]
      obtain ⟨read, _, carried⟩ :=
        carried_createGraph understands name (understands.parses _ _ made)
      exact asks_exchange carried.issued _
    · rw [id, GraphCall.Does]
      by_cases there : (later.graphs name).isSome = true
      · rw [if_pos there]
        exact ⟨Or.inr ⟨raced later borne there, rfl⟩, rfl⟩
      · rw [if_neg there, made]
        exact ⟨rfl, rfl⟩
    · rw [exchangeQuery_eq]
      obtain ⟨read, alike, carried⟩ :=
        carried_createGraph understands name (understands.parses _ _ made)
      have writes : (graphRules env rules).Writes (.create name read) := by rintro _ _ ⟨⟩
      refine writes.atomic understands carried ?_ ?_
        (fun later answer after borne
          (does : (GraphRequest.create name read).Does env rules later answer after) => ?_)
        (guarantees read)
      · intro now reply after changes plain
        have accepting : ArangoDBGraphAPI.notAccepted reply.responseCode = false ∧
            reply.responseCode ≠ 0 := by
          cases changes with
          | create missing makes furnishes accepting =>
            rcases accepting with status | status | status <;> rw [status] <;> decide
        obtain ⟨response, same, takes⟩ := understands.told_plain graphInterface.dispatch
          (createREQUESTWith env .post "/_api/gharial" (.object
            [(text "name", .string name.bytes), (text "edgeDefinitions", data)]))
          (fun result => if ArangoDBGraphAPI.notAccepted result.statusCode then
            arangoThrow ArangoDBGraphAPI.title 32 ArangoDBGraphAPI.refusedGraph else .ok ())
          plain accepting.2
        rw [takes, same, accepting.1]
        exact .done
      · intro reply value bad holds explains
        obtain ⟨response, _, same, takes⟩ := understands.told_holds graphInterface.dispatch
          (createREQUESTWith env .post "/_api/gharial" (.object
            [(text "name", .string name.bytes), (text "edgeDefinitions", data)]))
          (fun result => if ArangoDBGraphAPI.notAccepted result.statusCode then
            arangoThrow ArangoDBGraphAPI.title 32 ArangoDBGraphAPI.refusedGraph else .ok ())
          holds (received_of_badRequest bad)
        rw [takes, same, notAccepted_of_badRequest _ bad]
        exact .refused _
      · rw [GraphCall.Does]
        by_cases there : (later.graphs name).isSome = true
        · rw [if_pos there]
          rcases does with ⟨_, _, changes⟩ | ⟨refused, _, same⟩
          · cases changes with
            | create missing makes furnishes accepting =>
              rw [missing] at there
              cases there
          · exact ⟨Or.inr ⟨raced later borne there, refused⟩, same⟩
        · rw [if_neg there, made]
          exact ⟨read, alike, does⟩

/-- Every message of a call is one for a graph. -/
theorem carries_graphCall (call : GraphCall) :
    (call.program env).Asks fun rq => ∃ request, graphInterface.Carried env policy request rq := by
  have exists_ (name : CollectionName) :=
    (@carried_plain env policy (.get name) (Or.inl rfl) rfl).asks
      (fun result => pure (result.statusCode != statusNotFound))
  cases call with
  | existGraph name => exact (exists_ name).bind fun _ => trivial
  | graphNames =>
    exact ((@carried_plain env policy .list (Or.inl rfl) rfl).asks _).bind fun _ => trivial
  | createGraph name edgeDefinitions =>
    refine ((exists_ name).bind fun exist => ?_).bind fun _ => trivial
    cases exist with
    | true => trivial
    | false =>
      refine asks_catchVelocypack ?_ _ _
      cases parsed : env.vpack.fromJson parseOptions edgeDefinitions with
      | error exception => exact asks_raise _
      | ok data =>
        rw [ofVpack_ok, ofExcept_ok, Dialogue.bind_eq, done_bind, exchangeQuery_eq]
        obtain ⟨read, _, carried⟩ :=
          carried_createGraph understands name (understands.parses _ _ parsed)
        exact carried.asks _
  | removeGraph name dropCollections =>
    refine ((exists_ name).bind fun exist => ?_).bind fun _ => trivial
    cases exist with
    | true => exact (@carried_plain env policy (.drop name dropCollections) (Or.inr rfl) rfl).asks _
    | false => trivial
  | graphCollectionNames name kind =>
    exact ((@carried_plain env policy (.collections name kind) (Or.inl rfl) rfl).asks _).bind
      fun _ => trivial
  | addVertexGraph name collection =>
    refine Asks.bind ?_ fun _ => trivial
    rw [ArangoDBGraphAPI.addVertexGraph, exchangeQuery_eq]
    exact (carried_addVertex understands name collection).asks _
  | addEdgeGraph name edgeDefinition =>
    refine Asks.bind ?_ fun _ => trivial
    refine asks_catchVelocypack ?_ _ _
    cases parsed : env.vpack.fromJson parseOptions edgeDefinition with
    | error exception => exact asks_raise _
    | ok data =>
      rw [ofVpack_ok, ofExcept_ok, Dialogue.bind_eq, done_bind, exchangeQuery_eq]
      obtain ⟨read, _, carried⟩ :=
        carried_addEdge understands name (understands.parses _ _ parsed)
      exact carried.asks _

/-- Everything that a call sends is read by the server as a request for a graph. -/
theorem asks_graphCall (call : GraphCall) :
    (conduct env .base connectData (call.program env)).Asks fun sent =>
      ∃ request, graphInterface.Sees policy.read connectData sent request :=
  graphInterface.asks_conduct understands connectData (carries_graphCall understands call)

/-- Every call takes effect in one instant. It is not refused for what others have done when it can
rely on nobody else creating or removing its graph. -/
theorem atomic_graphCall (call : GraphCall)
    (keeps : ¬ races → ∀ name, call.changes = some name → ∀ now later, rely now later →
      (later.graphs name).isSome = (now.graphs name).isSome)
    (guarantees : ∀ now after,
      (∀ name, call.changes ≠ some name →
        (after.graphs name).isSome = (now.graphs name).isSome) → guarantee now after) :
    (conduct env .base connectData (call.program env)).Atomic
      (Gallery.Answers env policy connectData rules) id rely guarantee (call.Does env rules races)
      CollectionAnswer.Agrees gallery := by
  have reads : ∀ now, guarantee now now := fun now => guarantees now now fun _ _ => rfl
  have serves : ∀ request : GraphRequest, request.changes = call.changes → ∀ now reply after,
      (graphRules env rules).Serves env now request reply after → guarantee now after := by
    intro request about now reply after serves
    exact guarantees now after fun name apart => graphRules_keeps serves (about ▸ apart)
  cases call with
  | existGraph name => exact atomic_bind_done (atomic_existGraph understands name reads)
  | graphNames => exact atomic_bind_done (atomic_graphNames understands reads)
  | createGraph name edgeDefinitions =>
    exact atomic_bind_done (atomic_createGraph understands name edgeDefinitions
      (fun alone => keeps alone name rfl) reads fun data => serves _ rfl)
  | removeGraph name dropCollections =>
    exact atomic_bind_done (atomic_removeGraph understands name dropCollections
      (fun alone => keeps alone name rfl) reads (serves _ rfl))
  | graphCollectionNames name kind =>
    exact atomic_bind_done (atomic_graphCollectionNames understands name kind reads)
  | addVertexGraph name collection =>
    exact atomic_bind_done (atomic_addVertexGraph understands name collection (serves _ rfl))
  | addEdgeGraph name edgeDefinition =>
    exact atomic_bind_done (atomic_addEdgeGraph understands name edgeDefinition
      fun data => serves _ rfl)

end

end ArangoCpp
