/-
This file lets any number of clients use all that a server keeps at the same time.

They create and drop collections, they read and write documents one by one, as records of graphs,
or many at once, and they query. The requests of all operations can be told apart. Whatever is in
flight between the clients and the server, every operation takes effect in one instant: the clients
see the collections and documents as they would if the operations were carried out one after the
other. When no client creates or drops a collection that another one watches, no operation notices
that there are others.
-/

import ArangoCpp.Sharing
import ArangoCpp.Snapshots

namespace ArangoCpp

open Dialogue

variable {Given : Type}

/-! ### Calls -/

/-- The calls of all operations on collections, documents, records and queries. -/
inductive LibraryCall (Given : Type) : Type where
  | store (call : StoreCall)
  | reading (call : ReadingCall Given)

/-- What the calls return. -/
inductive LibraryReturned (Given : Type) : Type where
  | store (returned : StoreReturned)
  | reading (returned : ReadingReturned Given)

/-- The program of a call. -/
def LibraryCall.program (env : Env) (batchSize : Int32) (turns : Nat) :
    LibraryCall Given → Api (LibraryReturned Given)
  | store call => (call.program env).bind fun returned => .done (.store returned)
  | reading call => (call.program env batchSize turns).bind fun returned =>
    .done (.reading returned)

/-- What the calls are answered. -/
inductive LibraryAnswer (Given : Type) : Type where
  | store (answer : StoreAnswer)
  | reading (answer : ReadingAnswer Given)

/-- What a call does to the collections and documents, and what it is answered. -/
inductive LibraryCall.Does (env : Env) (policy : Policy) (belongs : RecordPlace → Prop)
    (aql : Aql.Meaning) (batchSize : Int32) (races : Prop) :
    LibraryCall Given → Store → LibraryAnswer Given → Store → Prop where
  | store {call : StoreCall} {before after : Store} {answer : StoreAnswer}
      (does : call.Does env policy belongs races before answer after) :
      Does env policy belongs aql batchSize races (.store call) before (.store answer) after
  | reading {call : ReadingCall Given} {before after : Store} {answer : ReadingAnswer Given}
      (does : call.Does env aql batchSize races before answer after) :
      Does env policy belongs aql batchSize races (.reading call) before (.reading answer) after

/-- What a call returns or throws when it is answered so. -/
inductive LibraryAnswer.Agrees (env : Env) (expires : Prop) :
    LibraryAnswer Given → Except Fault (LibraryReturned Given) → Prop where
  | store {answer : StoreAnswer} {result : Except Fault StoreReturned}
      (agrees : answer.Agrees env result) :
      Agrees env expires (.store answer) (result.map .store)
  | reading {answer : ReadingAnswer Given} {result : Except Fault (ReadingReturned Given)}
      (agrees : answer.Agrees expires result) :
      Agrees env expires (.reading answer) (result.map .reading)

/-- The collection that a call may create or drop. -/
def LibraryCall.changes : LibraryCall Given → Option CollectionName
  | store call => call.changes
  | reading _ => none

/-- A call goes by whether a collection is there when it goes on: it creates or drops it, or it is a
query for edges in all collections. -/
def LibraryCall.Watches (env : Env) (name : CollectionName) : LibraryCall Given → Prop
  | store call => call.changes = some name
  | reading call => call.Watches env name

/-- A call on the records of graphs. -/
def LibraryCall.IsRecord : LibraryCall Given → Prop
  | store (.record _) => True
  | _ => False

/-- A request for a record of a graph. -/
def LibraryRequest.IsRecord : LibraryRequest → Prop
  | store (.record _) => True
  | _ => False

/-! ### Requests are read as what they are -/

section

variable {env : Env} {policy : Policy} {connectData : ArangoDBConnection}

theorem family_reading (reading : ReadingRequest) :
    family (readingInterface.path reading) = text "cu" ∨
      family (readingInterface.path reading) = text "si" := by
  rcases reading with (_ | _ | _) | id | _ | _
  · exact Or.inr rfl
  · exact Or.inr rfl
  · exact Or.inl rfl
  · exact Or.inl (family_append _ (by decide))
  · exact Or.inr rfl
  · exact Or.inr rfl

/-- No request for many documents is one of the other requests. -/
theorem path_reading_ne (reading : ReadingRequest) (request : StoreRequest) :
    readingInterface.path reading ≠ request.path := by
  intro same
  have families := congrArg family same
  have front := family_reading reading
  have other (apart : family request.path ≠ text "cu" ∧ family request.path ≠ text "si") :
      False := by
    rcases front with cursors | simple
    · exact apart.1 (families.symm.trans cursors)
    · exact apart.2 (families.symm.trans simple)
  cases request with
  | record request =>
    refine other ?_
    rw [StoreRequest.path, family_record]
    decide
  | collection request =>
    refine other ?_
    rw [StoreRequest.path, family_collection]
    decide
  | document request =>
    by_cases keys : ∃ name keys, request = .removeByKeys name keys
    · obtain ⟨name, keys, rfl⟩ := keys
      rcases reading with (_ | _ | _) | id | _ | _ <;> first
        | exact absurd same (by
            simp only [readingInterface, StoreRequest.path, DocumentRequest.path]
            decide)
        | skip
      have cursors : family (readingInterface.path (.next id)) = text "cu" :=
        family_append _ (by decide)
      have keyed : family (StoreRequest.path (.document (.removeByKeys name keys))) = text "si" :=
        rfl
      exact absurd (cursors.symm.trans (families.trans keyed)) (by decide)
    · have documents : family request.path = text "do" := by
        cases request with
        | removeByKeys name list => exact absurd ⟨name, list, rfl⟩ keys
        | _ => exact family_append _ (by decide)
      refine other ?_
      rw [StoreRequest.path, documents]
      decide

/-- The path of a request. -/
def LibraryRequest.path : LibraryRequest → Bytes
  | store request => request.path
  | reading request => readingInterface.path request

theorem Policy.SeesLibrary.url {sent : Transmission} {request : LibraryRequest}
    (sees : policy.SeesLibrary connectData sent request) :
    sent.url = connectData.fullURL request.path := by
  cases request with
  | store request => exact Policy.SeesStore.url sees
  | reading request => exact Interface.Sees.url sees

/-- Whatever is sent, the server reads at most one request off it. -/
theorem seesLibrary_unique {sent : Transmission} {first second : LibraryRequest}
    (sees : policy.SeesLibrary connectData sent first)
    (other : policy.SeesLibrary connectData sent second) : first = second := by
  have paths : first.path = second.path :=
    List.append_cancel_left (sees.url.symm.trans other.url)
  cases first <;> cases second
  case store.store first second => rw [seesStore_unique sees other]
  case reading.reading first second =>
    rw [Interface.Sees.unique distinct_readingInterface sees other]
  case store.reading first second => exact absurd paths.symm (path_reading_ne second first)
  case reading.store first second => exact absurd paths (path_reading_ne first second)

variable (understands : policy.Understands env)

include understands

/-- A query is read as a query, whatever its text is. -/
theorem voiced_query {value : Slice} (represented : value.Represented) :
    readingInterface.Voiced env policy connectData (.select (.query (policy.seen env value)))
      (createREQUESTWith env .post "/_api/cursor" value) := by
  have issued : (createREQUESTWith env .post "/_api/cursor" value).Issued env :=
    issued_createREQUESTWith understands.lawful _ represented (Or.inl rfl)
  refine ⟨issued, fun sent encoded => ?_⟩
  obtain ⟨_, _, encoded⟩ := bind_eq_ok_iff.mp ((encode_holds understands.lawful .base connectData
    issued (holds_createREQUESTWith _ _ represented)).symm.trans encoded)
  obtain ⟨body, formed, same⟩ := bind_eq_ok_iff.mp encoded
  cases same
  refine ⟨rfl, rfl, fun fits stated => ?_⟩
  cases stated
  refine ⟨body, if_neg (valueBody_ne_nil understands.lawful represented formed), ?_⟩
  rw [Policy.seen, formed]

/-- The request of a query is one that the server reads. -/
theorem returns_selectRequest_voiced (connectData : ArangoDBConnection) (batchSize : Int32)
    (name : CollectionName) {query : ArangoDBQuery} (sendable : query.Sendable) :
    (ArangoDBCollectionAPI.selectRequest env batchSize name.bytes query).Returns fun rq =>
      ∃ selection, readingInterface.Voiced env policy connectData (.select selection) rq := by
  have edges {keyword : Bytes} (edge : directionKeyword query.queryType = some keyword) :
      (ArangoDBCollectionAPI.selectRequest env batchSize name.bytes query).Returns fun rq =>
        ∃ selection, readingInterface.Voiced env policy connectData (.select selection) rq := by
    cases parsed : ArangoDBCollectionAPI.edgeQuery env query with
    | error fault =>
      unfold ArangoDBCollectionAPI.selectRequest ArangoDBCollectionAPI.createEdgeRequest
      rw [parsed]
      split <;> first
        | trivial
        | rename_i type
          rw [type] at edge
          cases edge
    | ok named =>
      obtain ⟨startVertex, edgeCollections⟩ := named
      rw [selectRequest_edges edge parsed]
      refine Returns.bind (fun _ => True) (returns_of_forall (fun _ => trivial) _) fun names _ => ?_
      exact ⟨_, voiced_query understands
        (represented_edgeValue batchSize keyword startVertex names)⟩
  cases type : query.queryType with
  | edgesFrom => exact edges (congrArg directionKeyword type)
  | edgesTo => exact edges (congrArg directionKeyword type)
  | edgesAll => exact edges (congrArg directionKeyword type)
  | undef =>
    unfold ArangoDBCollectionAPI.selectRequest
    rw [type]
    trivial
  | all =>
    unfold ArangoDBCollectionAPI.selectRequest
    rw [type, createSimpleAllRequest_eq]
    exact ⟨_, (carried_all batchSize understands name).voiced understands connectData⟩
  | template =>
    unfold ArangoDBCollectionAPI.selectRequest
    rw [type, createByExampleRequest_eq]
    cases parsed : env.vpack.fromJson parseOptions query.findCondition with
    | error exception => trivial
    | ok data =>
      obtain ⟨read, _, carried⟩ :=
        carried_byExample batchSize understands name (understands.parses _ _ parsed)
      exact ⟨_, carried.voiced understands connectData⟩
  | aql =>
    unfold ArangoDBCollectionAPI.selectRequest
    rw [type]
    cases bound : ArangoDBCollectionAPI.bindVarsData env batchSize query with
    | error exception =>
      obtain ⟨thrown, throws⟩ := createAQLRequest_of_error batchSize (Or.inl bound)
      rw [throws]
      trivial
    | ok bindVars =>
      cases opted : ArangoDBCollectionAPI.optionsData env query with
      | error exception =>
        obtain ⟨thrown, throws⟩ := createAQLRequest_of_error batchSize (Or.inr opted)
        rw [throws]
        trivial
      | ok options =>
        rw [createAQLRequest_eq batchSize bound opted]
        obtain ⟨read, _, carried⟩ := carried_query understands (json_queryValue (sendable type)
          (json_bindVars batchSize understands.parses bound)
          (json_options understands.parses opted))
        exact ⟨_, carried.voiced understands connectData⟩

/-- The messages of a reading: the list of collections is asked for, or many documents. -/
def ReadingRequest.Sent (env : Env) (policy : Policy) (connectData : ArangoDBConnection)
    (rq : HttpMessage) : Prop :=
  collectionInterface.Carried env policy .list rq ∨
    ∃ request, readingInterface.Voiced env policy connectData request rq

theorem asks_readCursor (turns : Nat) {extract : Given → Slice → Except VpackException Given}
    (given : Given) {request : HttpMessage}
    (voiced : ∃ selection,
      readingInterface.Voiced env policy connectData (.select selection) request) :
    (ArangoDBCollectionAPI.readCursor env turns extract given request).Asks
      (ReadingRequest.Sent env policy connectData) := by
  obtain ⟨selection, voiced⟩ := voiced
  have sent : ReadingRequest.Sent env policy connectData request := Or.inr ⟨_, voiced⟩
  refine Asks.bind (asks_exchange sent _) fun batch => ?_
  cases batch with
  | inr given => exact asks_done given
  | inl cursor =>
    refine Asks.iterate (fun cursor => ?_) turns cursor
    unfold ArangoDBCollectionAPI.cursorLoop
    split
    · refine Asks.bind (asks_ofExcept _) fun id => ?_
      have next : ReadingRequest.Sent env policy connectData
          (createREQUEST env .put ("/_api/cursor/" ++ id)) :=
        Or.inr ⟨.next id, (carried_next env policy id).voiced understands connectData⟩
      exact asks_exchange next _
    · exact asks_done _

theorem asks_lookupByKeys {property : HttpMessage → Prop} (name : CollectionName)
    (keys : List DocumentKey) (setfnc : Given → Bytes → Given) (given : Given)
    (asked : ∀ rq, readingInterface.Carried env policy (.lookup name keys) rq → property rq) :
    (ArangoDBCollectionAPI.lookupByKeys env name.bytes (keys.map DocumentKey.bytes) setfnc
      given).Asks property := by
  rw [ArangoDBCollectionAPI.lookupByKeys, exchangeQuery_eq]
  exact asks_exchange (asked _ (carried_lookup understands name keys)) _

theorem asks_removeByTemplate {property : HttpMessage → Prop} (name : CollectionName)
    (jsontempl : Bytes)
    (asked : ∀ template rq, readingInterface.Carried env policy (.remove name template) rq →
      property rq) :
    (ArangoDBCollectionAPI.removeByTemplate env name.bytes jsontempl).Asks property := by
  refine asks_catchVelocypack ?_ _ _
  cases parsed : env.vpack.fromJson parseOptions jsontempl with
  | error exception => trivial
  | ok template =>
    simp only [ofVpack_ok, ofExcept_ok, Dialogue.bind_eq, done_bind, exchangeQuery_eq]
    obtain ⟨read, _, carried⟩ := carried_remove understands name (understands.parses _ _ parsed)
    exact asks_exchange (asked read _ carried) _

/-- The messages of the calls. -/
theorem asks_reading_program (connectData : ArangoDBConnection) (batchSize : Int32) (turns : Nat)
    (call : ReadingCall Given) :
    (call.program env batchSize turns).Asks (ReadingRequest.Sent env policy connectData) := by
  cases call with
  | selectQuery name query sendable setfnc given =>
    refine Asks.bind ?_ fun given => asks_done _
    refine Asks.bind_of_returns
      ((ArangoDBCollectionAPI.asks_selectRequest batchSize name.bytes query).mono ?_)
      (returns_selectRequest_voiced understands connectData batchSize name sendable)
      fun request voiced => asks_readCursor understands turns given voiced
    rintro rq rfl
    exact Or.inl (carried_list env policy)
  | selectAll name queryFields sendable setfnc given =>
    refine Asks.bind ?_ fun given => asks_done _
    unfold ArangoDBCollectionAPI.selectAll ArangoDBCollectionAPI.selectAllRequest
    split
    · rw [createSimpleAllRequest_eq]
      exact asks_readCursor understands turns given
        ⟨_, (carried_all batchSize understands name).voiced understands connectData⟩
    · have made := @createAQLRequest_plain env batchSize ("FOR u IN " ++ name.bytes) queryFields
      rw [made]
      obtain ⟨read, _, carried⟩ := carried_query understands
        (json_queryValue (sendable rfl) (json_batchSize batchSize) json_noMember)
      exact asks_readCursor understands turns given
        ⟨_, carried.voiced understands connectData⟩
  | lookupByKeys name keys setfnc given =>
    exact (asks_lookupByKeys understands name keys setfnc given fun rq carried =>
      Or.inr ⟨_, carried.voiced understands connectData⟩).bind fun given => asks_done _
  | removeByTemplate name jsontempl =>
    exact (asks_removeByTemplate understands name jsontempl fun template rq carried =>
      Or.inr ⟨_, carried.voiced understands connectData⟩).bind fun deleted => asks_done _

/-- Everything that a call sends is read by the server. Requests for records are sent only by the
calls on records. -/
theorem asks_libraryCall (batchSize : Int32) (turns : Nat) (call : LibraryCall Given) :
    (conduct env .base connectData (call.program env batchSize turns)).Asks fun sent =>
      ∃ request, policy.SeesLibrary connectData sent request ∧
        (request.IsRecord → call.IsRecord) := by
  cases call with
  | store call =>
    rw [LibraryCall.program, conduct_bind]
    refine Asks.bind ?_ fun _ => trivial
    cases call with
    | document call =>
      rw [StoreCall.program, conduct_bind]
      refine Asks.bind ((asks_documentCall understands call).mono ?_) fun _ => trivial
      rintro sent ⟨request, sees⟩
      exact ⟨.store (.document request), sees, id⟩
    | record call =>
      refine (asks_storeCall understands (.record call)).mono ?_
      rintro sent ⟨request, sees⟩
      exact ⟨.store request, sees, fun _ => trivial⟩
    | collection call =>
      rw [StoreCall.program, conduct_bind]
      refine Asks.bind ((asks_collectionCall understands call).mono ?_) fun _ => trivial
      rintro sent ⟨request, sees⟩
      exact ⟨.store (.collection request), sees, id⟩
  | reading call =>
    rw [LibraryCall.program, conduct_bind]
    refine Asks.bind ?_ fun _ => trivial
    refine asks_conduct understands.lawful .base connectData
      (asks_reading_program understands connectData batchSize turns call) ?_ ?_
    · rintro rq (carried | ⟨request, voiced⟩)
      · exact carried.issued
      · exact voiced.issued
    · rintro rq sent (carried | ⟨request, voiced⟩) encoded
      · exact ⟨.store (.collection .list),
          (carried.voiced understands connectData).sees sent encoded, id⟩
      · exact ⟨.reading request, voiced.sees sent encoded, id⟩

/-- Everything that a call sends is read by the server as one request. -/
theorem libraryCall_read_once (batchSize : Int32) (turns : Nat) (call : LibraryCall Given) :
    (conduct env .base connectData (call.program env batchSize turns)).Asks fun sent =>
      ∃! request, policy.SeesLibrary connectData sent request := by
  refine (asks_libraryCall understands batchSize turns call).mono ?_
  rintro sent ⟨request, sees, _⟩
  exact ⟨request, sees, fun other seen => seesLibrary_unique seen sees⟩

omit understands in
theorem libraryCall_read_once_create :
    let name : CollectionName := ⟨"c", by decide, List.all_eq_true.mp rfl⟩
    let env : Env := ⟨.printing [], true, true, [], false⟩
    let policy : Policy := ⟨fun body => some ((Velocypack.printing []).sliceAt body),
      fun _ _ _ _ => True⟩
    (conduct env .base .default ((LibraryCall.store (.collection (.createCollection name "edge")) :
      LibraryCall (List Bytes)).program env 500 10)).Asks fun sent =>
        ∃! request, policy.SeesLibrary .default sent request := by
  intro name env policy
  have understands : policy.Understands env :=
    understands_printing fun entry listed => absurd listed List.not_mem_nil
  exact libraryCall_read_once understands 500 10 _

end

/-! ### Each call takes effect in one instant -/

section

variable {Client : Type} {env : Env} {policy : Policy} {connectData : ArangoDBConnection}
  {belongs : RecordPlace → Prop} {aql : Aql.Meaning} {expires races : Prop}
  {watched : Client → CollectionName → Prop} {client : Client} {batchSize : Int32}

/-- A server that serves queries too serves requests for single documents, records and collections
out of the store, and leaves the cursors to those who read them. -/
theorem embeds_store {does : Store → StoreAnswer → Store → Prop}
    {rely guarantee : Store → Store → Prop}
    (relies : ∀ now after : Library Client, now.Bears expires watched client after →
      rely now.store after.store)
    (guarantees : ∀ now after : Store, guarantee now after → ∀ other, other ≠ client →
      ∀ name, watched other name → (after.Has name ↔ now.Has name) ∧
        after.kind name = now.kind name) :
    Embeds (Store.Responds env policy connectData belongs) id rely guarantee does Library.store
      (fun sent => ∃ request, policy.SeesStore connectData sent request)
      (Library.Responds env policy connectData belongs aql expires client) Library.store
      (Library.Bears expires watched client) (Library.Spares expires watched client) does where
  answers now sent reply after _ responds request sees := by
    obtain ⟨between, grants, fades⟩ := responds (.store request) sees
    cases grants with
    | store grants kept =>
      rw [fades.store]
      exact grants
  relies := relies
  guarantees := by
    rintro now sent reply after ⟨request, sees⟩ responds guaranteed other apart
    obtain ⟨between, grants, fades⟩ := responds (.store request) sees
    cases grants with
    | store grants kept =>
      rw [fades.store] at guaranteed
      exact (Library.bears_of_lease kept (guarantees _ _ guaranteed other apart)).trans
        (fades.bears watched other)
  views _ _ _ _ _ _ same := same
  serves _ _ _ _ _ _ _ does := does
  stays _ _ does := does

variable (understands : policy.Understands env)

include understands

/-- Every call takes effect in one instant, when others watch no collection that it creates or
drops. -/
theorem atomic_libraryCall (call : LibraryCall Given)
    (watches : ¬ races → ∀ name, call.Watches env name → watched client name)
    (apart : ∀ name, call.changes = some name → ∀ other, other ≠ client → ¬ watched other name)
    (turns : Nat) (library : Library Client) :
    (conduct env .base connectData (call.program env batchSize turns)).Atomic
      (Library.Responds env policy connectData belongs aql expires client) Library.store
      (Library.Bears expires watched client) (Library.Spares expires watched client)
      (call.Does env policy belongs aql batchSize races) (LibraryAnswer.Agrees env expires)
      library := by
  cases call with
  | reading call =>
    refine atomic_bind_done (Atomic.mono (fun before answer after does => ?_)
      (atomic_reading understands call watches turns library))
    exact ⟨.reading answer, .reading does, fun result agreed => .reading agreed⟩
  | store call =>
    have embeds := @embeds_store Client env policy connectData belongs aql expires watched client
      (call.Does env policy belongs races)
      (fun now later => ∀ name, watched client name → (later.Has name ↔ now.Has name))
      (fun now after => ∀ name, call.changes ≠ some name →
        (after.Has name ↔ now.Has name) ∧ after.kind name = now.kind name)
      (fun now after bears name watches => (bears.steady name watches).1)
      (fun now after kept other differ name watches =>
        kept name fun changes => apart name changes other differ watches)
    have atomic := @atomic_storeCall env policy connectData belongs races
      (fun now later => ∀ name, watched client name → (later.Has name ↔ now.Has name))
      (fun now after => ∀ name, call.changes ≠ some name →
        (after.Has name ↔ now.Has name) ∧ after.kind name = now.kind name)
      understands call
      (fun alone name changes now later kept => kept name (watches alone name changes))
      (fun now after kept => kept) library.store
    refine atomic_bind_done (Atomic.mono (fun before answer after does => ?_)
      (embeds.atomic (asks_storeCall understands call) atomic))
    exact ⟨.store answer, .store does, fun result agreed => .store agreed⟩

end

/-! ### Clients that share a library -/

/-- The clients of a server, each of which makes one call after the other. -/
abbrev LibrarySharing (env : Env) (policy : Policy) (connectData : ArangoDBConnection)
    (belongs : RecordPlace → Prop) (aql : Aql.Meaning) (batchSize : Int32) (turns : Nat)
    (expires : Prop) {Client : Type} [DecidableEq Client]
    (may : Client → LibraryCall Given → Prop) :
    Crowd Client Transmission Transfer Fault (LibraryReturned Given) (Library Client)
        (LibraryCall Given) →
      List (Event Client Fault (LibraryReturned Given) (LibraryCall Given)) →
      Crowd Client Transmission Transfer Fault (LibraryReturned Given) (Library Client)
        (LibraryCall Given) → Prop :=
  Crowd.Step may (fun call => conduct env .base connectData (call.program env batchSize turns))
    (Library.Responds env policy connectData belongs aql expires)

/-- The collections and documents, when every call is served in one instant. -/
abbrev SharedLibrary (Given : Type) (env : Env) (policy : Policy) (belongs : RecordPlace → Prop)
    (aql : Aql.Meaning) (batchSize : Int32) (expires races : Prop) (Client : Type)
    [DecidableEq Client] :
    Object Client Store (LibraryCall Given) (LibraryAnswer Given) →
      List (Event Client Fault (LibraryReturned Given) (LibraryCall Given)) →
      Object Client Store (LibraryCall Given) (LibraryAnswer Given) → Prop :=
  Object.Step (LibraryCall.Does env policy belongs aql batchSize races)
    (LibraryAnswer.Agrees env expires)

section

variable {Client : Type} [DecidableEq Client] {env : Env} {policy : Policy}
  {connectData : ArangoDBConnection} {belongs : RecordPlace → Prop} {aql : Aql.Meaning}
  {batchSize : Int32} {turns : Nat} {expires races : Prop}
  {may : Client → LibraryCall Given → Prop} {watched : Client → CollectionName → Prop}
  (understands : policy.Understands env)

include understands

omit [DecidableEq Client] in
/-- Clients that may create and drop only what no other client watches do not disturb each other. -/
theorem accord_library
    (watches : ¬ races → ∀ client call, may client call →
      ∀ name, call.Watches env name → watched client name)
    (apart : ∀ client call, may client call → ∀ name, call.changes = some name →
      ∀ other, other ≠ client → ¬ watched other name) :
    Accord may (fun call => conduct env .base connectData (call.program env batchSize turns))
      (Library.Responds env policy connectData belongs aql expires) Library.store
      (LibraryCall.Does env policy belongs aql batchSize races) (LibraryAnswer.Agrees env expires)
      (Library.Bears expires watched) (Library.Spares expires watched) where
  refl client library := library.bears_refl expires watched client
  trans _ _ _ _ first second := first.trans second
  bears _ _ differ _ _ spares := spares _ differ
  atomic client call allowed library := atomic_libraryCall understands call
    (fun alone => watches alone client call allowed) (apart client call allowed) turns library

variable {history : List (Event Client Fault (LibraryReturned Given) (LibraryCall Given))}
  {library : Library Client}
  {crowd : Crowd Client Transmission Transfer Fault (LibraryReturned Given) (Library Client)
    (LibraryCall Given)}

/-- What any number of clients see of the collections and documents, they could see if each call
were served in one instant between its start and its end. -/
theorem library_linearizable
    (run : Unfolds (LibrarySharing env policy connectData belongs aql batchSize turns expires may)
      (.start library) history crowd) :
    ∃ object, Unfolds (SharedLibrary Given env policy belongs aql batchSize expires True Client)
        (.start library.store) history object ∧
      DoesAll (LibraryCall.Does env policy belongs aql batchSize True)
        ((object.log.map Prod.snd).map Prod.fst) library.store
        ((object.log.map Prod.snd).map Prod.snd) crowd.state.store ∧
      ∀ client, crowd.activity client = .idle →
        callsOf client history = (servedTo client object.log).map Prod.fst ∧
        List.Forall₂ (LibraryAnswer.Agrees env expires)
          ((servedTo client object.log).map Prod.snd) (resultsOf client history) := by
  have accord := @accord_library Given Client env policy connectData belongs aql batchSize turns
    expires True may (fun _ _ => False) understands (fun alone => absurd trivial alone)
    fun _ _ _ _ _ _ _ => id
  exact accord.tallies run

/-- When nobody creates or drops a collection that another client watches, no call notices what
others have done while it was under way. -/
theorem library_exclusive
    (watches : ∀ client call, may client call →
      ∀ name, call.Watches env name → watched client name)
    (apart : ∀ client call, may client call → ∀ name, call.changes = some name →
      ∀ other, other ≠ client → ¬ watched other name)
    (run : Unfolds (LibrarySharing env policy connectData belongs aql batchSize turns expires may)
      (.start library) history crowd) :
    ∃ object, Unfolds (SharedLibrary Given env policy belongs aql batchSize expires False Client)
        (.start library.store) history object ∧
      DoesAll (LibraryCall.Does env policy belongs aql batchSize False)
        ((object.log.map Prod.snd).map Prod.fst) library.store
        ((object.log.map Prod.snd).map Prod.snd) crowd.state.store ∧
      ∀ client, crowd.activity client = .idle →
        callsOf client history = (servedTo client object.log).map Prod.fst ∧
        List.Forall₂ (LibraryAnswer.Agrees env expires)
          ((servedTo client object.log).map Prod.snd) (resultsOf client history) := by
  have accord := @accord_library Given Client env policy connectData belongs aql batchSize turns
    expires False may watched understands (fun _ => watches) apart
  exact accord.tallies run

end

/-! ### Two clients -/

section

variable {Client : Type} {env : Env} {policy : Policy} {connectData : ArangoDBConnection}
  {belongs : RecordPlace → Prop} {aql : Aql.Meaning} {batchSize : Int32} {expires : Prop}
  {client : Client} {library : Library Client} {name : CollectionName}

/-- What is sent for a request is answered as the request is. -/
theorem Library.responds_of_grants {sent : Transmission} {request : LibraryRequest}
    {reply : Transfer} {after : Library Client} (sees : policy.SeesLibrary connectData sent request)
    (grants : library.Grants env policy belongs aql client request reply after) :
    library.Responds env policy connectData belongs aql expires client sent reply after := by
  intro other seen
  rw [seesLibrary_unique seen sees]
  exact ⟨after, grants, rfl, fun id => Or.inl rfl⟩

variable (understands : policy.Understands env) (missing : ¬ library.store.Has name)

include understands missing

/-- A collection that is not there is created. -/
theorem plays_createCollection (batchSize : Int32) (turns : Nat) :
    Plays (Library.Responds env policy connectData belongs aql expires client)
      (conduct env .base connectData ((LibraryCall.store (.collection (.createCollection name [])) :
        LibraryCall Given).program env batchSize turns)) library
      (.ok (.store (.collection .nothing))) ⟨library.store.create name false, library.lease⟩ := by
  obtain ⟨read, asks, reads⟩ := existCollection_eq understands connectData name
  have absent : library.store.Serves env (.get name) ⟨0, 404, [], []⟩ library.store :=
    .absent missing rfl (Or.inl rfl)
  have heard := (reads library.store _ library.store absent).2
  rw [decide_eq_false missing] at heard
  have exist : Plays (Library.Responds env policy connectData belongs aql expires client)
      (conduct env .base connectData (ArangoDBCollectionAPI.existCollection env name.bytes)) library
      (.ok false) library := by
    rw [asks, ← heard]
    exact (carried_get env policy name).plays understands read fun sent sees =>
      @Library.responds_of_grants Client env policy connectData belongs aql expires client library
        sent (.store (.collection (.get name))) _ _ sees (.store (.collection absent) rfl)
  have created : library.store.Serves env (.create name false) ⟨0, 200, [], []⟩
      (library.store.create name false) := .created missing rfl (Or.inl rfl)
  have told := @Policy.Understands.told_demand env policy connectData understands
    collectionInterface.dispatch (createREQUESTWith env .post "/_api/collection"
      (.object [("name", .string name.bytes)])) ⟨0, 200, [], []⟩ notOK rfl (by decide) (Or.inl rfl)
    "Error when create collection: "
  have creation : Plays (Library.Responds env policy connectData belongs aql expires client)
      (conduct env .base connectData (exchangeQuery env .post "/_api/collection"
        (.object [("name", .string name.bytes)])
        (demand env notOK "Error when create collection: "))) library (.ok ())
      ⟨library.store.create name false, library.lease⟩ := by
    rw [exchangeQuery_eq, ← told]
    exact (carried_create understands name false).plays understands _ fun sent sees =>
      @Library.responds_of_grants Client env policy connectData belongs aql expires client library
        sent (.store (.collection (.create name false))) _
        ⟨library.store.create name false, library.lease⟩ sees (.store (.collection created) rfl)
  have shape : ArangoDBCollectionAPI.createCollection env name.bytes [] =
      (ArangoDBCollectionAPI.existCollection env name.bytes).bind fun exist =>
        if exist = true then .done () else
          exchangeQuery env .post "/_api/collection" (.object [("name", .string name.bytes)])
            (demand env notOK "Error when create collection: ") := rfl
  have whole : Plays (Library.Responds env policy connectData belongs aql expires client)
      (conduct env .base connectData (ArangoDBCollectionAPI.createCollection env name.bytes []))
      library (.ok ()) ⟨library.store.create name false, library.lease⟩ := by
    rw [shape, conduct_bind]
    exact plays_bind_iff.mpr (Or.inl ⟨false, library, exist, creation⟩)
  rw [LibraryCall.program, conduct_bind, StoreCall.program, conduct_bind, CollectionCall.program,
    conduct_bind]
  exact plays_bind_iff.mpr (Or.inl ⟨_, _, plays_bind_iff.mpr (Or.inl ⟨_, _, plays_bind_iff.mpr
    (Or.inl ⟨_, _, whole, plays_done_iff.mpr ⟨rfl, rfl⟩⟩), plays_done_iff.mpr ⟨rfl, rfl⟩⟩),
    plays_done_iff.mpr ⟨rfl, rfl⟩⟩)

/-- Nothing is read of a collection that is not there. -/
theorem plays_selectQuery (batchSize : Int32) (turns : Nat) (setfnc : Given → Bytes → Given)
    (given : Given) :
    Plays (Library.Responds env policy connectData belongs aql expires client)
      (conduct env .base connectData ((LibraryCall.reading
        (.selectQuery name (.ofType .all) sendable_all setfnc given)).program env batchSize turns))
      library
      (.ok (.reading (.given given))) library := by
  have refused : library.Serves env aql client (.select (.all name)) ⟨0, 404, [], []⟩ library :=
    @Library.Serves.refused Client env aql client library (.all name) library.store.documents
      ⟨0, 404, [], []⟩
      (.missing rfl (Option.not_isSome_iff_eq_none.mp missing)) rfl (Or.inl rfl)
  have heard := @told_nextBatch_bad env policy Given (ArangoDBCollectionAPI.extractData env setfnc)
    understands connectData
    (createREQUESTWith env .put "/_api/simple/all" (allValue batchSize name))
    ⟨0, 404, [], []⟩ rfl (Or.inl rfl) given
  have batch : Plays (Library.Responds env policy connectData belongs aql expires client)
      (conduct env .base connectData (.exchange
        (createREQUESTWith env .put "/_api/simple/all" (allValue batchSize name))
        (ArangoDBCollectionAPI.nextBatch env (ArangoDBCollectionAPI.extractData env setfnc) given)))
      library (.ok (.inr given)) library := by
    rw [← heard]
    exact (carried_all batchSize understands name).plays understands _ fun sent sees =>
      @Library.responds_of_grants Client env policy connectData belongs aql expires client library
        sent (.reading (.select (.all name))) _ _ sees (.reading refused)
  have shape : ArangoDBCollectionAPI.selectQuery env batchSize turns name.bytes (.ofType .all)
      setfnc given = (Dialogue.exchange
        (createREQUESTWith env .put "/_api/simple/all" (allValue batchSize name))
        (ArangoDBCollectionAPI.nextBatch env (ArangoDBCollectionAPI.extractData env setfnc)
          given)).bind (Sum.elim
            (Dialogue.iterate (ArangoDBCollectionAPI.cursorLoop env
              (ArangoDBCollectionAPI.extractData env setfnc)) turns)
            Dialogue.done) := by
    unfold ArangoDBCollectionAPI.selectQuery ArangoDBCollectionAPI.selectRequest
    dsimp only [ArangoDBQuery.ofType]
    rw [createSimpleAllRequest_eq]
    show ArangoDBCollectionAPI.readCursor env turns _ given _ = _
    unfold ArangoDBCollectionAPI.readCursor
    show Dialogue.bind _ _ = Dialogue.bind _ _
    refine congrArg (Dialogue.bind _) (funext fun ended => ?_)
    cases ended <;> rfl
  rw [LibraryCall.program, conduct_bind, ReadingCall.program, conduct_bind, shape, conduct_bind]
  exact plays_bind_iff.mpr (Or.inl ⟨_, _, plays_bind_iff.mpr (Or.inl ⟨_, _, plays_bind_iff.mpr
    (Or.inl ⟨_, _, batch, plays_done_iff.mpr ⟨rfl, rfl⟩⟩), plays_done_iff.mpr ⟨rfl, rfl⟩⟩),
    plays_done_iff.mpr ⟨rfl, rfl⟩⟩)

end

/-- A server without collections and cursors. -/
def Library.empty (Client : Type) : Library Client :=
  ⟨⟨fun _ => none, fun _ => ⟨false, false⟩⟩, fun _ => .unused⟩

/-- All AQL queries are refused. -/
def Aql.Meaning.refusing : Aql.Meaning where
  answers _ documents items after := items = none ∧ after = documents
  keeps _ _ _ _ answers name := by rw [answers.2]

/-- A client creates a collection, while another one asks for all of its documents. -/
def selectedWhileCreated (name : CollectionName) (setfnc : Given → Bytes → Given) (given : Given) :
    List (Event Bool Fault (LibraryReturned Given) (LibraryCall Given)) :=
  [.called true (.store (.collection (.createCollection name []))),
    .called false (.reading (.selectQuery name (.ofType .all) sendable_all setfnc given)),
    .returned false (.ok (.reading (.given given))),
    .returned true (.ok (.store (.collection .nothing)))]

theorem exists_selectedWhileCreated {env : Env} {policy : Policy}
    {connectData : ArangoDBConnection} {belongs : RecordPlace → Prop} {aql : Aql.Meaning}
    {batchSize : Int32} {turns : Nat} {expires : Prop} {library : Library Bool}
    {name : CollectionName} (understands : policy.Understands env)
    (missing : ¬ library.store.Has name) {may : Bool → LibraryCall Given → Prop}
    (setfnc : Given → Bytes → Given) (given : Given)
    (allowed : may true (.store (.collection (.createCollection name []))))
    (allowedToo : may false
      (.reading (.selectQuery name (.ofType .all) sendable_all setfnc given))) :
    ∃ crowd, Unfolds
        (LibrarySharing env policy connectData belongs aql batchSize turns expires may)
        (.start library) (selectedWhileCreated name setfnc given) crowd ∧
      crowd.state = ⟨library.store.create name false, library.lease⟩ ∧
      ∀ client, crowd.activity client = .idle :=
  Crowd.exists_overlapping may
    (fun call => conduct env .base connectData (call.program env batchSize turns))
    (Library.Responds env policy connectData belongs aql expires) (Bool.noConfusion : true ≠ false)
    allowed allowedToo (plays_selectQuery understands missing batchSize turns setfnc given)
    (plays_createCollection understands missing batchSize turns)

theorem library_linearizable_two :
    let name : CollectionName := ⟨"c", by decide, List.all_eq_true.mp rfl⟩
    let env : Env := ⟨.printing [], true, true, [], false⟩
    let policy : Policy := ⟨fun body => some ((Velocypack.printing []).sliceAt body),
      fun _ _ _ _ => True⟩
    let history : List (Event Bool Fault (LibraryReturned (List Bytes))
      (LibraryCall (List Bytes))) :=
        selectedWhileCreated name (fun texts text => texts ++ [text]) []
    ∃ crowd object,
      Unfolds (LibrarySharing env policy .default (fun _ => True) .refusing 500 10 True
        fun _ _ => True) (.start (.empty Bool)) history crowd ∧
      Unfolds (SharedLibrary (List Bytes) env policy (fun _ => True) .refusing 500 True True Bool)
        (.start (Library.empty Bool).store) history object ∧
      DoesAll (LibraryCall.Does env policy (fun _ => True) .refusing 500 True)
        ((object.log.map Prod.snd).map Prod.fst) (Library.empty Bool).store
        ((object.log.map Prod.snd).map Prod.snd) crowd.state.store := by
  intro name env policy history
  have understands : policy.Understands env :=
    understands_printing fun entry listed => absurd listed List.not_mem_nil
  obtain ⟨crowd, run, _, _⟩ := @exists_selectedWhileCreated (List Bytes) env policy .default
    (fun _ => True) .refusing 500 10 True (.empty Bool) name understands Bool.false_ne_true
    (fun _ _ => True) (fun texts text => texts ++ [text]) [] trivial trivial
  obtain ⟨object, served, done, _⟩ := library_linearizable understands run
  exact ⟨crowd, object, run, served, done⟩

theorem library_exclusive_two :
    let name : CollectionName := ⟨"c", by decide, List.all_eq_true.mp rfl⟩
    let env : Env := ⟨.printing [], true, true, [], false⟩
    let policy : Policy := ⟨fun body => some ((Velocypack.printing []).sliceAt body),
      fun _ _ _ _ => True⟩
    let history : List (Event Bool Fault (LibraryReturned (List Bytes))
      (LibraryCall (List Bytes))) :=
        selectedWhileCreated name (fun texts text => texts ++ [text]) []
    let may : Bool → LibraryCall (List Bytes) → Prop := fun client call =>
      (∀ name, call.Watches env name → client = true) ∧
        ∀ name, call.changes = some name → client = true
    ∃ crowd object,
      Unfolds (LibrarySharing env policy .default (fun _ => True) .refusing 500 10 True may)
        (.start (.empty Bool)) history crowd ∧
      Unfolds (SharedLibrary (List Bytes) env policy (fun _ => True) .refusing 500 True False Bool)
        (.start (Library.empty Bool).store) history object ∧
      DoesAll (LibraryCall.Does env policy (fun _ => True) .refusing 500 False)
        ((object.log.map Prod.snd).map Prod.fst) (Library.empty Bool).store
        ((object.log.map Prod.snd).map Prod.snd) crowd.state.store := by
  intro name env policy history may
  have understands : policy.Understands env :=
    understands_printing fun entry listed => absurd listed List.not_mem_nil
  have allowedToo : may false (.reading (.selectQuery name (.ofType .all) sendable_all
      (fun texts text => texts ++ [text]) [])) := by
    refine ⟨fun other watches => ?_, fun other changes => nomatch changes⟩
    obtain ⟨edges, _⟩ := watches
    cases edges
  obtain ⟨crowd, run, _, _⟩ := @exists_selectedWhileCreated (List Bytes) env policy .default
    (fun _ => True) .refusing 500 10 True (.empty Bool) name understands Bool.false_ne_true may
    (fun texts text => texts ++ [text]) [] ⟨fun _ _ => rfl, fun _ _ => rfl⟩ allowedToo
  obtain ⟨object, served, done, _⟩ := @library_exclusive (List Bytes) Bool _ env policy .default
    (fun _ => True) .refusing 500 10 True may (fun client _ => client = true) understands
    history (.empty Bool) crowd (fun client call allowed name watches => allowed.1 name watches)
    (fun client call allowed name changes other differ watches =>
      differ (watches.trans (allowed.2 name changes).symm)) run
  exact ⟨crowd, object, run, served, done⟩

end ArangoCpp
