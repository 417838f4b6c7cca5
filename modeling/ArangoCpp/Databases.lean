/-
This file lets any number of clients use a whole database at the same time: its collections and
documents, the cursors over them, and its graphs.

The graphs say which collections have records, so that a record is found only as long as its graph
is there, and the operations on graphs create and drop collections that the others work on. The
requests for graphs and those for their records begin alike, and are told apart by their length.
Every operation takes effect in one instant; the operations on records look at the graphs that there
are then.
-/

import ArangoCpp.Graphs
import ArangoCpp.Library

namespace ArangoCpp

open Dialogue

variable {Given : Type}

/-! ### The server -/

/-- The collections and documents of a database with its cursors, and its graphs. -/
@[ext] structure Database (Client : Type) where
  library : Library Client
  graphs : CollectionName → Option Graph

/-- What a database is without its cursors. -/
def Database.gallery {Client : Type} (database : Database Client) : Gallery :=
  ⟨database.library.store, database.graphs⟩

/-- The requests that a database knows. -/
inductive DatabaseRequest : Type where
  | library (request : LibraryRequest)
  | graph (request : GraphRequest)

/-- The server reads a request off what is sent. -/
def Policy.SeesDatabase (policy : Policy) (connectData : ArangoDBConnection)
    (sent : Transmission) : DatabaseRequest → Prop
  | .library request => policy.SeesLibrary connectData sent request
  | .graph request => graphInterface.Sees policy.read connectData sent request

/-- How a server answers a request of a client, and what it has then. A collection has records when
it belongs to a graph that there is. -/
inductive Database.Grants {Client : Type} (env : Env) (policy : Policy) (aql : Aql.Meaning)
    (rules : GraphRules) (client : Client) (database : Database Client) :
    DatabaseRequest → Transfer → Database Client → Prop where
  | library {request : LibraryRequest} {reply : Transfer} {after : Database Client}
      (grants : database.library.Grants env policy (Gallery.Belongs database.graphs) aql client
        request reply after.library)
      (kept : after.graphs = database.graphs) :
      Grants env policy aql rules client database (.library request) reply after
  | graph {request : GraphRequest} {reply : Transfer} {after : Database Client}
      (serves : (graphRules env rules).Serves env database.gallery request reply after.gallery)
      (kept : after.library.lease = database.library.lease) :
      Grants env policy aql rules client database (.graph request) reply after

/-- A server answers what it reads as a request of a client, and may give up cursors then. -/
def Database.Responds {Client : Type} (env : Env) (policy : Policy)
    (connectData : ArangoDBConnection) (aql : Aql.Meaning) (rules : GraphRules) (expires : Prop)
    (client : Client) (database : Database Client) (sent : Transmission) (reply : Transfer)
    (after : Database Client) : Prop :=
  ∀ request, policy.SeesDatabase connectData sent request →
    ∃ between, database.Grants env policy aql rules client request reply between ∧
      between.library.Fades expires after.library ∧ after.graphs = between.graphs

/-! ### Calls -/

/-- The calls of all operations on a database. -/
inductive DatabaseCall (Given : Type) : Type where
  | library (call : LibraryCall Given)
  | graph (call : GraphCall)

/-- What the calls return. -/
inductive DatabaseReturned (Given : Type) : Type where
  | library (returned : LibraryReturned Given)
  | graph (returned : CollectionReturned)

/-- The program of a call. -/
def DatabaseCall.program (env : Env) (batchSize : Int32) (turns : Nat) :
    DatabaseCall Given → Api (DatabaseReturned Given)
  | library call => (call.program env batchSize turns).bind fun returned =>
    .done (.library returned)
  | graph call => (call.program env).bind fun returned => .done (.graph returned)

/-- What the calls are answered. -/
inductive DatabaseAnswer (Given : Type) : Type where
  | library (answer : LibraryAnswer Given)
  | graph (answer : CollectionAnswer)

/-- What a call does to the collections, documents and graphs, and what it is answered. -/
inductive DatabaseCall.Does (env : Env) (policy : Policy) (aql : Aql.Meaning) (rules : GraphRules)
    (batchSize : Int32) (races : Prop) :
    DatabaseCall Given → Gallery → DatabaseAnswer Given → Gallery → Prop where
  | library {call : LibraryCall Given} {before after : Gallery} {answer : LibraryAnswer Given}
      (does : call.Does env policy (Gallery.Belongs before.graphs) aql batchSize True before.store
        answer after.store)
      (kept : after.graphs = before.graphs) :
      Does env policy aql rules batchSize races (.library call) before (.library answer) after
  | graph {call : GraphCall} {before after : Gallery} {answer : CollectionAnswer}
      (does : call.Does env rules races before answer after) :
      Does env policy aql rules batchSize races (.graph call) before (.graph answer) after

/-- What a call returns or throws when it is answered so. -/
inductive DatabaseAnswer.Agrees (env : Env) (expires : Prop) :
    DatabaseAnswer Given → Except Fault (DatabaseReturned Given) → Prop where
  | library {answer : LibraryAnswer Given} {result : Except Fault (LibraryReturned Given)}
      (agrees : answer.Agrees env expires result) :
      Agrees env expires (.library answer) (result.map .library)
  | graph {answer : CollectionAnswer} {result : Except Fault CollectionReturned}
      (agrees : answer.Agrees result) : Agrees env expires (.graph answer) (result.map .graph)

/-- The graph that a call may create or remove. -/
def DatabaseCall.changes : DatabaseCall Given → Option CollectionName
  | library _ => none
  | graph call => call.changes

/-- A client may create or remove a graph. -/
def Curates {Client : Type} (may : Client → DatabaseCall Given → Prop) (client : Client)
    (name : CollectionName) : Prop :=
  ∃ call, may client call ∧ call.changes = some name

/-! ### Requests are read as what they are -/

section

variable {env : Env} {policy : Policy} {connectData : ArangoDBConnection}

theorem family_graph (request : GraphRequest) :
    family (graphInterface.path request) = text "gh" := by
  have front (rest : Bytes) : family (text "/_api/gharial/" ++ rest) = text "gh" :=
    family_append _ (by decide)
  cases request with
  | list => rfl
  | create name data => rfl
  | get name => exact front _
  | drop name collections => exact (congrArg family (List.append_assoc _ _ _)).trans (front _)
  | collections name kind => rw [path_collections, List.append_assoc, front]
  | addVertex name collection =>
    exact (congrArg family (List.append_assoc _ _ _)).trans (front _)
  | addEdge name data => exact (congrArg family (List.append_assoc _ _ _)).trans (front _)

/-- The path of a record has more slashes than that of a graph. -/
theorem count_record (request : RecordRequest) :
    5 ≤ (recordInterface.path request).count slash := by
  have front : (text "/_api/gharial/").count slash = 3 := by decide
  have deep (place : RecordPlace) (rest : Bytes) : 5 ≤ (place.path ++ rest).count slash := by
    rw [RecordPlace.path_append, List.count_append, List.count_append, List.count_cons_self,
      List.count_append, List.count_cons_self, front]
    omega
  cases request with
  | post place data =>
    have whole := deep place []
    rw [List.append_nil] at whole
    exact whole
  | _ => exact deep _ _

theorem depth_le (request : GraphRequest) : request.depth ≤ 4 := by
  cases request <;> simp only [GraphRequest.depth] <;> omega

/-- No request for a graph is one of the other requests. -/
theorem path_graph_ne (graph : GraphRequest) (request : LibraryRequest) :
    graphInterface.path graph ≠ request.path := by
  intro same
  have families := (family_graph graph).symm.trans (congrArg family same)
  cases request with
  | reading reading =>
    rcases family_reading reading with other | other <;>
      exact absurd (families.trans other) (by decide)
  | store request =>
    cases request with
    | document request =>
      rcases family_document request with other | other <;>
        exact absurd (families.trans other) (by decide)
    | collection request =>
      exact absurd (families.trans (family_collection request)) (by decide)
    | record request =>
      have slashes : (graphInterface.path graph).count slash =
        (recordInterface.path request).count slash := congrArg (List.count slash) same
      rw [count_graph] at slashes
      have few := depth_le graph
      have many := count_record request
      omega

/-- Whatever is sent, the server reads at most one request off it. -/
theorem seesDatabase_unique {sent : Transmission} {first second : DatabaseRequest}
    (sees : policy.SeesDatabase connectData sent first)
    (other : policy.SeesDatabase connectData sent second) : first = second := by
  have apart {graph : GraphRequest} {request : LibraryRequest}
      (seen : graphInterface.Sees policy.read connectData sent graph)
      (seenToo : policy.SeesLibrary connectData sent request) : False :=
    path_graph_ne graph request (List.append_cancel_left (seen.url.symm.trans seenToo.url))
  cases first <;> cases second
  case library.library first second => rw [seesLibrary_unique sees other]
  case graph.graph first second => rw [Interface.Sees.unique distinct_graphInterface sees other]
  case library.graph first second => exact (apart other sees).elim
  case graph.library first second => exact (apart sees other).elim

/-- What a call that is not on records does is the same with any graphs. -/
theorem LibraryCall.Does.with_belongs {belongs belongsToo : RecordPlace → Prop}
    {aql : Aql.Meaning} {batchSize : Int32} {races : Prop} {call : LibraryCall Given}
    (other : ¬ call.IsRecord) {before after : Store} {answer : LibraryAnswer Given}
    (does : call.Does env policy belongs aql batchSize races before answer after) :
    call.Does env policy belongsToo aql batchSize races before answer after := by
  cases does with
  | reading does => exact .reading does
  | store does =>
    cases does with
    | document does kept => exact .store (.document does kept)
    | record does kept => exact absurd trivial other
    | collection does => exact .store (.collection does)

/-- What is answered to a request that is not for a record is the same with any graphs. -/
theorem Library.Grants.with_belongs {Client : Type} {belongs belongsToo : RecordPlace → Prop}
    {aql : Aql.Meaning} {client : Client} {library after : Library Client}
    {request : LibraryRequest} (other : ¬ request.IsRecord) {reply : Transfer}
    (grants : library.Grants env policy belongs aql client request reply after) :
    library.Grants env policy belongsToo aql client request reply after := by
  cases grants with
  | reading serves => exact .reading serves
  | store grants kept =>
    cases grants with
    | document serves same => exact .store (.document serves same) kept
    | record serves same => exact absurd trivial other
    | collection serves => exact .store (.collection serves) kept

/-! ### Records in the instant in which they are asked for -/

theorem atMost_recordCall (call : RecordCall) : (call.program env).AtMost 1 := by
  cases call with
  | createRecord place jsonrec => exact AtMost.bind_done (atMost_writeDocument _ _ _ _ _ _ _) _
  | readRecord place handle => exact AtMost.bind_done (atMost_exchange _ _) _
  | updateRecord place handle jsonrec =>
    exact AtMost.bind_done (atMost_writeDocument _ _ _ _ _ _ _) _
  | deleteRecord place handle =>
    exact AtMost.bind_done (AtMost.bind_done (atMost_exchange _ _) fun _ => true) _

theorem complete_writeDocument (title : Bytes) (id : Int) (verb : RestVerb)
    (path jsonrec errorText : Bytes) (identifier : Slice → Except VpackException Bytes) :
    (writeDocument env title id verb path jsonrec errorText identifier).Complete := by
  rw [writeDocument_eq]
  refine Complete.rescue ?_ fun fault => ?_
  · exact (complete_ofExcept _).bind fun _ => complete_exchange _ _
  · cases fault <;> trivial

theorem complete_recordCall (call : RecordCall) : (call.program env).Complete := by
  cases call with
  | createRecord place jsonrec => exact (complete_writeDocument _ _ _ _ _ _ _).bind_done _
  | readRecord place handle => exact (complete_exchange _ _).bind_done _
  | updateRecord place handle jsonrec => exact (complete_writeDocument _ _ _ _ _ _ _).bind_done _
  | deleteRecord place handle =>
    exact ((complete_exchange _ _).bind_done fun _ => true).bind_done _

variable {Client : Type} {aql : Aql.Meaning} {rules : GraphRules} {expires : Prop}
  {client : Client} (understands : policy.Understands env)

include understands

/-- What a call on records does, and how its requests are answered, goes by the graphs that there
are when its request is answered. -/
theorem atomic_recordCall_database (call : RecordCall)
    {rely guarantee : Database Client → Database Client → Prop}
    (guarantees : ∀ now after : Database Client,
      now.library.Spares expires (fun _ _ => False) client after.library →
        after.graphs = now.graphs → guarantee now after) (database : Database Client) :
    (conduct env .base connectData (call.program env)).Atomic
      (Database.Responds env policy connectData aql rules expires client) Database.gallery rely
      guarantee
      (fun before answer after => call.Does env policy (Gallery.Belongs before.graphs)
        before.store.documents answer after.store.documents ∧
          after.store.kind = before.store.kind ∧ after.graphs = before.graphs)
      (Answer.Agrees env) database := by
  have issued : (call.program env).Asks (HttpMessage.Issued env) := by
    refine (carries_recordCall understands call).mono ?_
    rintro rq ⟨request, carried⟩
    exact carried.issued
  have few : (conduct env .base connectData (call.program env)).AtMost 1 := by
    rw [Operation.conduct_eq_through understands.lawful issued]
    exact (atMost_recordCall call).through
  refine atomic_of_plays few (complete_conduct env (complete_recordCall call) .base connectData)
    fun now result after plays => ?_
  have does {final : Documents}
      (played : Plays (policy.AnswersRecords env connectData (Gallery.Belongs now.graphs))
        (conduct env .base connectData (call.program env)) now.library.store.documents result
        final) :
      ∃ answer : Answer, call.Does env policy (Gallery.Belongs now.graphs)
        now.library.store.documents answer final ∧ answer.Agrees env result :=
    (@atomic_recordCall env policy connectData (Gallery.Belongs now.graphs) (fun _ _ => True)
      understands call now.library.store.documents).exists_of_plays (fun _ => trivial) played
  rcases few.plays_cases (asks_recordCall understands call) plays with
    ⟨rfl, silent⟩ | ⟨sent, reply, next, asks, ⟨request, sees⟩, answered, ends⟩
  · obtain ⟨answer, done, agreed⟩ := does (by
      rw [silent]
      exact plays_ofExcept_iff.mpr ⟨rfl, rfl⟩)
    exact ⟨guarantees after after (fun other _ => Library.bears_refl _ _ _ _) rfl, answer,
      ⟨done, rfl, rfl⟩, agreed⟩
  · obtain ⟨between, grants, fades, same⟩ := answered (.library (.store (.record request))) sees
    cases grants with
    | library grants kept =>
      cases grants with
      | store grants leased =>
        cases grants with
        | record serves kind =>
          have answers : policy.AnswersRecords env connectData (Gallery.Belongs now.graphs)
              now.library.store.documents sent reply after.library.store.documents := by
            intro other seen
            rw [Interface.Sees.unique distinct_recordInterface seen sees, fades.store]
            exact serves
          obtain ⟨answer, done, agreed⟩ := does (by
            rw [asks]
            exact .ask answers (by rw [ends]; exact plays_ofExcept_iff.mpr ⟨rfl, rfl⟩))
          refine ⟨guarantees now after (fun other apart => ?_) (same.trans kept), answer,
            ⟨done, ?_, same.trans kept⟩, agreed⟩
          · exact (Library.bears_of_lease leased fun _ never => never.elim).trans
              (fades.bears _ other)
          · show after.library.store.kind = now.library.store.kind
            rw [fades.store]
            exact kind

end

/-! ### Each call takes effect in one instant -/

section

variable {Client : Type}

/-- A client bears that the others read cursors of their own and change what is there. When that
matters, they create and remove no graph that it may create or remove. -/
structure Database.Bears (expires : Prop) (may : Client → DatabaseCall Given → Prop) (races : Prop)
    (client : Client) (now later : Database Client) : Prop where
  library : now.library.Bears expires (fun _ _ => False) client later.library
  graphs : ¬ races → ∀ name, Curates may client name →
    (later.graphs name).isSome = (now.graphs name).isSome

/-- A client leaves the cursors of the others alone, and creates and removes only graphs that it
may. -/
structure Database.Spares (expires : Prop) (may : Client → DatabaseCall Given → Prop)
    (client : Client) (now later : Database Client) : Prop where
  library : now.library.Spares expires (fun _ _ => False) client later.library
  graphs : ∀ name, ¬ Curates may client name →
    (later.graphs name).isSome = (now.graphs name).isSome

variable {env : Env} {policy : Policy} {connectData : ArangoDBConnection} {aql : Aql.Meaning}
  {rules : GraphRules} {expires races : Prop} {client : Client} {batchSize : Int32}
  {may : Client → DatabaseCall Given → Prop}

/-- A database answers requests for graphs out of its graphs and collections. -/
theorem embeds_graphs {call : GraphCall} (allowed : may client (.graph call)) :
    Embeds (Gallery.Answers env policy connectData rules) id
      (fun now later => ¬ races → ∀ name, Curates may client name →
        (later.graphs name).isSome = (now.graphs name).isSome)
      (fun now after => ∀ name, call.changes ≠ some name →
        (after.graphs name).isSome = (now.graphs name).isSome)
      (call.Does env rules races) Database.gallery
      (fun sent => ∃ request, graphInterface.Sees policy.read connectData sent request)
      (Database.Responds env policy connectData aql rules expires client) Database.gallery
      (Database.Bears expires may races client) (Database.Spares expires may client)
      (call.Does env rules races) where
  answers now sent reply after _ responds request sees := by
    obtain ⟨between, grants, fades, kept⟩ := responds (.graph request) sees
    have same : after.gallery = between.gallery := Gallery.ext fades.store kept
    cases grants with
    | graph serves leased =>
      rw [same]
      exact serves
  relies now later bears := bears.graphs
  guarantees := by
    rintro now sent reply after ⟨request, sees⟩ responds spared
    obtain ⟨between, grants, fades, kept⟩ := responds (.graph request) sees
    cases grants with
    | graph serves leased =>
      refine ⟨fun other apart => ?_, fun name others =>
        spared name fun changes => others ⟨.graph call, allowed, changes⟩⟩
      exact (Library.bears_of_lease leased fun _ never => never.elim).trans (fades.bears _ other)
  views _ _ _ _ _ _ same := same
  serves _ _ _ _ _ _ _ does := does
  stays _ _ does := does

/-- A database answers the other requests that are not for records out of its library. -/
theorem embeds_library {call : LibraryCall Given} (other : ¬ call.IsRecord)
    {belongs : RecordPlace → Prop} :
    Embeds (Library.Responds env policy connectData belongs aql expires client) Library.store
      (Library.Bears expires (fun _ _ => False) client)
      (Library.Spares expires (fun _ _ => False) client)
      (call.Does env policy belongs aql batchSize True) Database.library
      (fun sent => ∃ request, policy.SeesLibrary connectData sent request ∧
        (request.IsRecord → call.IsRecord))
      (Database.Responds env policy connectData aql rules expires client) Database.gallery
      (Database.Bears expires may races client) (Database.Spares expires may client)
      (fun before answer after => call.Does env policy (Gallery.Belongs before.graphs) aql batchSize
        True before.store answer after.store ∧ after.graphs = before.graphs) where
  answers := by
    rintro now sent reply after ⟨request, sees, plain⟩ responds another seen
    rw [seesLibrary_unique seen sees]
    obtain ⟨between, grants, fades, _⟩ := responds (.library request) sees
    cases grants with
    | library grants _ =>
      exact ⟨between.library, grants.with_belongs fun record => other (plain record), fades⟩
  relies now later bears := bears.library
  guarantees := by
    rintro now sent reply after ⟨request, sees, _⟩ responds spared
    obtain ⟨between, grants, _, same⟩ := responds (.library request) sees
    cases grants with
    | library _ kept => exact ⟨spared, fun name _ => by rw [same, kept]⟩
  views := by
    rintro now sent reply after ⟨request, sees, _⟩ responds stored
    obtain ⟨between, grants, _, same⟩ := responds (.library request) sees
    cases grants with
    | library _ kept => exact Gallery.ext stored (same.trans kept)
  serves := by
    rintro now sent reply after answer ⟨request, sees, _⟩ responds does
    obtain ⟨between, grants, _, same⟩ := responds (.library request) sees
    cases grants with
    | library _ kept => exact ⟨does.with_belongs other, same.trans kept⟩
  stays _ _ does := ⟨does.with_belongs other, rfl⟩

variable (understands : policy.Understands env)

include understands

/-- Every call takes effect in one instant. -/
theorem atomic_databaseCall (call : DatabaseCall Given) (allowed : may client call) (turns : Nat)
    (database : Database Client) :
    (conduct env .base connectData (call.program env batchSize turns)).Atomic
      (Database.Responds env policy connectData aql rules expires client) Database.gallery
      (Database.Bears expires may races client) (Database.Spares expires may client)
      (call.Does env policy aql rules batchSize races) (DatabaseAnswer.Agrees env expires)
      database := by
  cases call with
  | graph call =>
    refine atomic_bind_done (Atomic.mono (fun before answer after does => ?_)
      ((embeds_graphs allowed).atomic (asks_graphCall understands call)
        (atomic_graphCall understands call
          (fun alone name changes now later borne => borne alone name ⟨_, allowed, changes⟩)
          fun now after kept => kept)))
    exact ⟨.graph answer, .graph does, fun result agreed => .graph agreed⟩
  | library call =>
    refine atomic_bind_done ?_
    by_cases record : call.IsRecord
    · rcases call with (call | call | call) | call
      · exact record.elim
      · refine atomic_bind_done (atomic_bind_done (Atomic.mono
          (fun before answer after does => ?_) (atomic_recordCall_database understands call
            (fun now after spares kept => ⟨spares, fun name _ => by rw [kept]⟩) database)))
        exact ⟨.library (.store (.document answer)),
          .library (.store (.record does.1 does.2.1)) does.2.2,
          fun result agreed => .library (.store (.document agreed))⟩
      · exact record.elim
      · exact record.elim
    · have atomic := @atomic_libraryCall Given Client env policy connectData (fun _ => False) aql
        expires True (fun _ _ => False) client batchSize understands call
        (fun alone => absurd trivial alone) (fun _ _ _ _ => id) turns database.library
      refine Atomic.mono (fun before answer after does => ?_)
        ((embeds_library record).atomic (asks_libraryCall understands batchSize turns call) atomic)
      exact ⟨.library answer, .library does.1 does.2, fun result agreed => .library agreed⟩

end

/-! ### Clients that share a database -/

/-- The clients of a server, each of which makes one call after the other. -/
abbrev DatabaseSharing (env : Env) (policy : Policy) (connectData : ArangoDBConnection)
    (aql : Aql.Meaning) (rules : GraphRules) (batchSize : Int32) (turns : Nat) (expires : Prop)
    {Client : Type} [DecidableEq Client] (may : Client → DatabaseCall Given → Prop) :
    Crowd Client Transmission Transfer Fault (DatabaseReturned Given) (Database Client)
        (DatabaseCall Given) →
      List (Event Client Fault (DatabaseReturned Given) (DatabaseCall Given)) →
      Crowd Client Transmission Transfer Fault (DatabaseReturned Given) (Database Client)
        (DatabaseCall Given) → Prop :=
  Crowd.Step may (fun call => conduct env .base connectData (call.program env batchSize turns))
    (Database.Responds env policy connectData aql rules expires)

/-- The collections, documents and graphs, when every call is served in one instant. -/
abbrev SharedDatabase (Given : Type) (env : Env) (policy : Policy) (aql : Aql.Meaning)
    (rules : GraphRules) (batchSize : Int32) (expires races : Prop) (Client : Type)
    [DecidableEq Client] :
    Object Client Gallery (DatabaseCall Given) (DatabaseAnswer Given) →
      List (Event Client Fault (DatabaseReturned Given) (DatabaseCall Given)) →
      Object Client Gallery (DatabaseCall Given) (DatabaseAnswer Given) → Prop :=
  Object.Step (DatabaseCall.Does env policy aql rules batchSize races)
    (DatabaseAnswer.Agrees env expires)

section

variable {Client : Type} {env : Env} {policy : Policy} {connectData : ArangoDBConnection}
  {aql : Aql.Meaning} {rules : GraphRules} {batchSize : Int32} {turns : Nat} {expires races : Prop}
  {may : Client → DatabaseCall Given → Prop} (understands : policy.Understands env)

include understands

/-- Every message of a call is an issued one. -/
theorem issued_databaseCall (batchSize : Int32) (turns : Nat) (call : DatabaseCall Given) :
    (call.program env batchSize turns).Asks (HttpMessage.Issued env) := by
  cases call with
  | graph call =>
    exact (Interface.issued_of_carries (carries_graphCall understands call)).bind fun _ => trivial
  | library call =>
    refine Asks.bind ?_ fun _ => trivial
    cases call with
    | reading call =>
      refine ((asks_reading_program understands .default batchSize turns call).mono ?_).bind
        fun _ => trivial
      rintro rq (carried | ⟨request, voiced⟩)
      · exact carried.issued
      · exact voiced.issued
    | store call =>
      refine Asks.bind ?_ fun _ => trivial
      cases call with
      | document call => exact (asks_call understands.lawful call).bind fun _ => trivial
      | record call =>
        exact (Interface.issued_of_carries (carries_recordCall understands call)).bind
          fun _ => trivial
      | collection call =>
        exact (Interface.issued_of_carries (carries_collectionCall understands call)).bind
          fun _ => trivial

/-- Clients do not disturb each other, when no two of them create or remove the same graph. -/
theorem accord_databases
    (apart : races ∨ ∀ client other name, Curates may client name → Curates may other name →
      client = other) :
    Accord may (fun call => conduct env .base connectData (call.program env batchSize turns))
      (Database.Responds env policy connectData aql rules expires) Database.gallery
      (DatabaseCall.Does env policy aql rules batchSize races) (DatabaseAnswer.Agrees env expires)
      (Database.Bears expires may races) (Database.Spares expires may) where
  refl _ _ := ⟨Library.bears_refl _ _ _ _, fun _ _ _ => rfl⟩
  trans _ _ _ _ early late :=
    ⟨early.library.trans late.library, fun alone name own =>
      (late.graphs alone name own).trans (early.graphs alone name own)⟩
  bears client other differ _ _ spares :=
    ⟨spares.library client differ, fun alone name own => spares.graphs name fun others =>
      differ (apart.resolve_left alone client other name own others)⟩
  atomic _ call allowed database := atomic_databaseCall understands call allowed turns database

variable [DecidableEq Client]
  {history : List (Event Client Fault (DatabaseReturned Given) (DatabaseCall Given))}
  {database : Database Client}
  {crowd : Crowd Client Transmission Transfer Fault (DatabaseReturned Given) (Database Client)
    (DatabaseCall Given)}

/-- What any number of clients see of a database, its collections, documents and graphs, they could
see if each call were served in one instant between its start and its end. No call that creates or
removes a graph notices what others have done while it was under way, unless two clients may create
or remove the same graph. -/
theorem databases_linearizable
    (apart : races ∨ ∀ client other name, Curates may client name → Curates may other name →
      client = other)
    (run : Unfolds (DatabaseSharing env policy connectData aql rules batchSize turns expires may)
      (.start database) history crowd) :
    ∃ object, Unfolds (SharedDatabase Given env policy aql rules batchSize expires races Client)
        (.start database.gallery) history object ∧
      DoesAll (DatabaseCall.Does env policy aql rules batchSize races)
        ((object.log.map Prod.snd).map Prod.fst) database.gallery
        ((object.log.map Prod.snd).map Prod.snd) crowd.state.gallery ∧
      ∀ client, crowd.activity client = .idle →
        callsOf client history = (servedTo client object.log).map Prod.fst ∧
        List.Forall₂ (DatabaseAnswer.Agrees env expires)
          ((servedTo client object.log).map Prod.snd) (resultsOf client history) :=
  (accord_databases understands apart).tallies run

end

/-! ### Two clients -/

section

variable {Client : Type} {env : Env} {policy : Policy} {connectData : ArangoDBConnection}
  {aql : Aql.Meaning} {rules : GraphRules} {expires : Prop} {client : Client}
  {database : Database Client}

/-- What is sent for a request for a graph is answered as the request is. -/
theorem Database.responds_of_serves {sent : Transmission} {request : GraphRequest}
    {reply : Transfer} {graphs : CollectionName → Option Graph}
    (sees : graphInterface.Sees policy.read connectData sent request)
    (serves : (graphRules env rules).Serves env database.gallery request reply
      ⟨database.library.store, graphs⟩) :
    database.Responds env policy connectData aql rules expires client sent reply
      ⟨database.library, graphs⟩ := by
  intro other seen
  rw [@seesDatabase_unique policy connectData sent other (.graph request) seen sees]
  exact ⟨⟨database.library, graphs⟩, .graph serves rfl, ⟨rfl, fun id => Or.inl rfl⟩, rfl⟩

variable (understands : policy.Understands env)

include understands

theorem plays_existGraph {name : CollectionName} {graph : Graph}
    (found : database.graphs name = some graph) :
    Plays (Database.Responds env policy connectData aql rules expires client)
      (conduct env .base connectData (ArangoDBGraphAPI.existGraph env name.bytes)) database
      (.ok true) database := by
  have tells : database.gallery.Tells env (.get name) ⟨0, 200, [], []⟩ :=
    .present found (by decide) (by decide) (Or.inl rfl)
  have heard := @told_existGraph env policy connectData understands name database.gallery _ tells
    (createREQUEST env .get (ArangoDBGraphAPI.graphPath name.bytes))
  rw [show database.gallery.graphs name = some graph from found, Option.isSome_some] at heard
  rw [← heard]
  exact (@carried_plain env policy (.get name) (Or.inl rfl) rfl).plays understands _
    fun sent sees =>
    Database.responds_of_serves sees (.told tells)

/-- A graph that is there is removed, without its collections. -/
theorem plays_removeGraph {name : CollectionName} {graph : Graph}
    (found : database.graphs name = some graph) (batchSize : Int32) (turns : Nat) :
    Plays (Database.Responds env policy connectData aql rules expires client)
      (conduct env .base connectData ((DatabaseCall.graph (.removeGraph name false) :
        DatabaseCall Given).program env batchSize turns)) database (.ok (.graph .nothing))
      ⟨database.library, Function.update database.graphs name none⟩ := by
  have carried : graphInterface.Carried env policy (.drop name false)
      (createREQUEST env .delete (ArangoDBGraphAPI.graphPath name.bytes ++ [])) :=
    carried_plain (Or.inr rfl) rfl
  have told := @Policy.Understands.told_demand env policy connectData understands
    graphInterface.dispatch
    (createREQUEST env .delete (ArangoDBGraphAPI.graphPath name.bytes ++ []))
    ⟨0, 200, [], []⟩ ArangoDBGraphAPI.notAccepted rfl (by decide) (Or.inl rfl)
    "Error when drop graph: "
  have changes : database.gallery.Changes rules (.drop name false) 200
      ⟨database.library.store, Function.update database.graphs name none⟩ :=
    .drop found (Or.inl rfl)
  have dropped : Plays (Database.Responds env policy connectData aql rules expires client)
      (conduct env .base connectData (.exchange
        (createREQUEST env .delete (ArangoDBGraphAPI.graphPath name.bytes ++ []))
        (demand env ArangoDBGraphAPI.notAccepted "Error when drop graph: "))) database (.ok ())
      ⟨database.library, Function.update database.graphs name none⟩ := by
    rw [← told]
    exact carried.plays understands _ fun sent sees => Database.responds_of_serves sees
      (@Rules.Serves.changed _ _ (graphRules env rules) env _ _ ⟨0, 200, [], []⟩ _ changes
        (Or.inl rfl))
  have shape : ArangoDBGraphAPI.removeGraph env name.bytes false =
      (ArangoDBGraphAPI.existGraph env name.bytes).bind fun exist =>
        if !exist then .done () else
          .exchange (createREQUEST env .delete (ArangoDBGraphAPI.graphPath name.bytes ++ []))
            (demand env ArangoDBGraphAPI.notAccepted "Error when drop graph: ") := rfl
  rw [DatabaseCall.program, conduct_bind, GraphCall.program, conduct_bind, shape, conduct_bind]
  exact plays_bind_iff.mpr (Or.inl ⟨_, _, plays_bind_iff.mpr (Or.inl ⟨_, _, plays_bind_iff.mpr
    (Or.inl ⟨true, database, plays_existGraph understands found, dropped⟩),
    plays_done_iff.mpr ⟨rfl, rfl⟩⟩), plays_done_iff.mpr ⟨rfl, rfl⟩⟩)

end

end ArangoCpp
