/-
This file puts the operations on collections, on documents and on the records of graphs together.

All of them work on the same collections: a document that is created as a record is read as a
document, and a collection that is dropped takes its documents with it. The requests of the three
families cannot be mistaken for each other. Every operation takes effect in one instant, and none
but those that ask first can be refused for what another client has done in between, nor they as
long as nobody else creates or drops their collection.
-/

import ArangoCpp.Collections
import ArangoCpp.Records
import ArangoCpp.Sharing

namespace ArangoCpp

open Dialogue

/-! ### The server -/

/-- The requests of the three families. -/
inductive StoreRequest : Type where
  | document (request : DocumentRequest)
  | record (request : RecordRequest)
  | collection (request : CollectionRequest)

/-- The server reads a request off what is sent. -/
def Policy.SeesStore (policy : Policy) (connectData : ArangoDBConnection) (sent : Transmission) :
    StoreRequest → Prop
  | .document request => policy.Sees connectData sent request
  | .record request => recordInterface.Sees policy.read connectData sent request
  | .collection request => collectionInterface.Sees policy.read connectData sent request

/-- How a server answers a request, and what it has then. -/
inductive Store.Grants (env : Env) (policy : Policy) (belongs : RecordPlace → Prop)
    (store : Store) : StoreRequest → Transfer → Store → Prop where
  | document {request : DocumentRequest} {reply : Transfer} {after : Store}
      (serves : policy.Serves env store.documents request reply after.documents)
      (kept : after.kind = store.kind) :
      Grants env policy belongs store (.document request) reply after
  | record {request : RecordRequest} {reply : Transfer} {after : Store}
      (serves : policy.ServesRecord env belongs store.documents request reply after.documents)
      (kept : after.kind = store.kind) :
      Grants env policy belongs store (.record request) reply after
  | collection {request : CollectionRequest} {reply : Transfer} {after : Store}
      (serves : store.Serves env request reply after) :
      Grants env policy belongs store (.collection request) reply after

/-- A server answers what it reads as a request out of its collections and documents. -/
def Store.Responds (env : Env) (policy : Policy) (connectData : ArangoDBConnection)
    (belongs : RecordPlace → Prop) (store : Store) (sent : Transmission) (reply : Transfer)
    (after : Store) : Prop :=
  ∀ request, policy.SeesStore connectData sent request →
    store.Grants env policy belongs request reply after

/-! ### Calls -/

/-- The calls of the three families. -/
inductive StoreCall : Type where
  | document (call : Call)
  | record (call : RecordCall)
  | collection (call : CollectionCall)

/-- What the calls return. -/
inductive StoreReturned : Type where
  | document (returned : Returned)
  | collection (returned : CollectionReturned)

/-- The program of a call. -/
def StoreCall.program (env : Env) : StoreCall → Api StoreReturned
  | document call => (call.program env).bind fun returned => .done (.document returned)
  | record call => (call.program env).bind fun returned => .done (.document returned)
  | collection call => (call.program env).bind fun returned => .done (.collection returned)

/-- What the calls are answered. -/
inductive StoreAnswer : Type where
  | document (answer : Answer)
  | collection (answer : CollectionAnswer)

/-- What a call does to the collections and documents, and what it is answered. -/
inductive StoreCall.Does (env : Env) (policy : Policy) (belongs : RecordPlace → Prop)
    (races : Prop) : StoreCall → Store → StoreAnswer → Store → Prop where
  | document {call : Call} {store after : Store} {answer : Answer}
      (does : call.Does env policy store.documents answer after.documents)
      (kept : after.kind = store.kind) :
      Does env policy belongs races (.document call) store (.document answer) after
  | record {call : RecordCall} {store after : Store} {answer : Answer}
      (does : call.Does env policy belongs store.documents answer after.documents)
      (kept : after.kind = store.kind) :
      Does env policy belongs races (.record call) store (.document answer) after
  | collection {call : CollectionCall} {store after : Store} {answer : CollectionAnswer}
      (does : call.Does races store answer after) :
      Does env policy belongs races (.collection call) store (.collection answer) after

/-- What a call returns or throws when it is answered so. -/
inductive StoreAnswer.Agrees (env : Env) : StoreAnswer → Except Fault StoreReturned → Prop where
  | document {answer : Answer} {result : Except Fault Returned}
      (agrees : answer.Agrees env result) :
      Agrees env (.document answer) (result.map .document)
  | collection {answer : CollectionAnswer} {result : Except Fault CollectionReturned}
      (agrees : answer.Agrees result) : Agrees env (.collection answer) (result.map .collection)

/-- The collection that a call may create or drop. -/
def StoreCall.changes : StoreCall → Option CollectionName
  | collection call => call.changes
  | _ => none

/-! ### Requests are read as what they are -/

section

variable {env : Env} {policy : Policy} {connectData : ArangoDBConnection}

/-- The bytes of a path that tell the families apart. -/
def family (path : Bytes) : Bytes := (path.drop 6).take 2

theorem family_append {front : Bytes} (rest : Bytes) (long : 8 ≤ front.length) :
    family (front ++ rest) = family front := by
  rw [family, family, List.drop_append_of_le_length (by omega),
    List.take_append_of_le_length (by rw [List.length_drop]; omega)]

/-- The path of a request. -/
def StoreRequest.path : StoreRequest → Bytes
  | document request => request.path
  | record request => recordInterface.path request
  | collection request => collectionInterface.path request

theorem Policy.SeesStore.url {sent : Transmission} {request : StoreRequest}
    (sees : policy.SeesStore connectData sent request) :
    sent.url = connectData.fullURL request.path := by
  cases request with
  | document request => exact Policy.Sees.url sees
  | record request => exact Interface.Sees.url sees
  | collection request => exact Interface.Sees.url sees

theorem family_document (request : DocumentRequest) :
    family request.path = text "do" ∨ family request.path = text "si" := by
  cases request with
  | removeByKeys name keys => exact Or.inr rfl
  | _ => exact Or.inl (family_append _ (by decide))

theorem family_record (request : RecordRequest) :
    family (recordInterface.path request) = text "gh" := by
  have place (place : RecordPlace) (rest : Bytes) : family (place.path ++ rest) = text "gh" := by
    rw [RecordPlace.path_append]
    exact family_append _ (by decide)
  cases request with
  | post there data => exact (congrArg family (List.append_nil _)).symm.trans (place there [])
  | _ => exact place _ _

theorem family_collection (request : CollectionRequest) :
    family (collectionInterface.path request) = text "co" := by
  cases request with
  | create name isEdge => rfl
  | list => rfl
  | _ => exact family_append _ (by decide)

/-- Whatever is sent, the server reads at most one request off it, of one family. -/
theorem seesStore_unique {sent : Transmission} {first second : StoreRequest}
    (sees : policy.SeesStore connectData sent first)
    (other : policy.SeesStore connectData sent second) : first = second := by
  have paths : family first.path = family second.path :=
    congrArg family (List.append_cancel_left (sees.url.symm.trans other.url))
  cases first <;> cases second
  case document.document first second => rw [Policy.Sees.unique sees other]
  case record.record first second => rw [Interface.Sees.unique distinct_recordInterface sees other]
  case collection.collection first second =>
    rw [Interface.Sees.unique distinct_collectionInterface sees other]
  case document.record first second =>
    rcases family_document first with same | same <;>
      exact absurd (same.symm.trans (paths.trans (family_record second))) (by decide)
  case document.collection first second =>
    rcases family_document first with same | same <;>
      exact absurd (same.symm.trans (paths.trans (family_collection second))) (by decide)
  case record.document first second =>
    rcases family_document second with same | same <;>
      exact absurd (same.symm.trans (paths.symm.trans (family_record first))) (by decide)
  case record.collection first second =>
    exact absurd ((family_record first).symm.trans (paths.trans (family_collection second)))
      (by decide)
  case collection.document first second =>
    rcases family_document second with same | same <;>
      exact absurd (same.symm.trans (paths.symm.trans (family_collection first))) (by decide)
  case collection.record first second =>
    exact absurd ((family_record second).symm.trans (paths.symm.trans (family_collection first)))
      (by decide)

/-- The keys of the handles of a collection. -/
theorem map_getKey (name : CollectionName) (handles : List Handle) :
    ((handles.map (Handle.bytes name)).map fun id => Slice.string (getKey name.bytes id)) =
      (handles.map Handle.key).map fun key => Slice.string key.bytes := by
  simp only [List.map_map]
  refine congrArg (List.map · handles) (funext fun handle => ?_)
  exact congrArg Slice.string (getKey_handle name handle)

variable (understands : policy.Understands env)

include understands

/-- Everything that a call on documents sends is read by the server. -/
theorem asks_documentCall (call : Call) :
    (conduct env .base connectData (call.program env)).Asks fun sent =>
      ∃ request, policy.Sees connectData sent request := by
  let carries (rq : HttpMessage) : Prop :=
    ∃ request : DocumentRequest, request.Carried env policy rq
  have exchange {request : DocumentRequest} {rq : HttpMessage}
      (carried : request.Carried env policy rq) {Value : Type}
      (take : HttpMessage → Except Fault Value) :
      (Dialogue.exchange rq take : Api Value).Asks carries := by
    have held : carries rq := ⟨request, carried⟩
    exact asks_exchange held take
  have bare {name : CollectionName} (handle : Handle) (request : DocumentRequest)
      (kind : request.verb = .get ∨ request.verb = .head ∨ request.verb = .delete)
      (path : request.path = "/_api/document/" ++ identifier name handle.key) :
      request.Carried env policy (createREQUEST env request.verb
        ("/_api/document/" ++ getId name.bytes (handle.bytes name))) := by
    rw [getId_handle, ← path]
    exact .bare kind
  have carried : (call.program env).Asks carries := by
    cases call with
    | createDocument name jsonrec =>
      exact (asks_writeDocument _ _ _ _ _ _ _ fun data parsed => ⟨_,
        DocumentRequest.carried_post understands.lawful name
          (understands.parses jsonrec data parsed)⟩).bind fun _ => trivial
    | readDocument name handle =>
      exact (exchange (bare handle (.get name handle.key) (Or.inl rfl) rfl) _).bind
        fun _ => trivial
    | updateDocument name handle jsonrec =>
      exact (asks_writeDocument _ _ _ _ _ _ _ fun data parsed => ⟨_,
        DocumentRequest.carried_put understands.lawful name handle
          (understands.parses jsonrec data parsed)⟩).bind fun _ => trivial
    | deleteDocument name handle =>
      exact ((exchange (bare handle (.delete name handle.key) (Or.inr (Or.inr rfl)) rfl) _).bind
        fun _ => asks_done true).bind fun _ => trivial
    | existsDocument name handle =>
      exact (exchange (bare handle (.head name handle.key) (Or.inr (Or.inl rfl)) rfl) _).bind
        fun _ => trivial
    | removeByKeys name handles =>
      rw [Call.program, ArangoDBCollectionAPI.removeByKeys, map_getKey, exchangeQuery_eq]
      exact (exchange (DocumentRequest.carried_removeByKeys understands name
        (handles.map Handle.key)) _).bind fun _ => trivial
  refine asks_conduct understands.lawful .base connectData carried ?_ ?_
  · rintro rq ⟨request, carried⟩
    exact carried.issued
  · rintro rq sent ⟨request, carried⟩ encoded
    obtain ⟨sends, same, sees⟩ := understands.sees connectData carried
    cases encoded.symm.trans same
    exact ⟨request, sees⟩

/-- Everything that a call sends is read by the server. -/
theorem asks_storeCall (call : StoreCall) :
    (conduct env .base connectData (call.program env)).Asks fun sent =>
      ∃ request, policy.SeesStore connectData sent request := by
  cases call with
  | document call =>
    rw [StoreCall.program, conduct_bind]
    refine Asks.bind ((asks_documentCall understands call).mono ?_) fun _ => trivial
    rintro sent ⟨request, sees⟩
    exact ⟨.document request, sees⟩
  | record call =>
    rw [StoreCall.program, conduct_bind]
    refine Asks.bind ((asks_recordCall understands call).mono ?_) fun _ => trivial
    rintro sent ⟨request, sees⟩
    exact ⟨.record request, sees⟩
  | collection call =>
    rw [StoreCall.program, conduct_bind]
    refine Asks.bind ((asks_collectionCall understands call).mono ?_) fun _ => trivial
    rintro sent ⟨request, sees⟩
    exact ⟨.collection request, sees⟩

end

/-! ### Each call takes effect in one instant -/

theorem isSome_change {name : CollectionName} (other : CollectionName)
    (revised : (DocumentKey → Option JsonValue) → DocumentKey → Option JsonValue)
    (documents : Documents) :
    (documents.change name revised other).isSome = (documents other).isSome := by
  by_cases same : other = name
  · subst same
    rw [Catalogue.change, Function.update_self, Option.isSome_map]
  · rw [change_other same]

section

variable {env : Env} {policy : Policy} {documents after : Documents} {reply : Transfer}

/-- No request for a document creates or drops a collection. -/
theorem Policy.Serves.isSome {request : DocumentRequest}
    (serves : policy.Serves env documents request reply after) (name : CollectionName) :
    (after name).isSome = (documents name).isSome := by
  cases serves <;> first
    | rfl
    | exact isSome_change name _ _
    | skip
  case removed collection removed ignored status holds erases =>
    rw [Catalogue.eraseEach_eq] at erases
    cases erases
    exact isSome_change name _ _

theorem Policy.ServesRecord.isSome {belongs : RecordPlace → Prop} {request : RecordRequest}
    (serves : policy.ServesRecord env belongs documents request reply after)
    (name : CollectionName) : (after name).isSome = (documents name).isSome := by
  cases serves <;> first
    | rfl
    | exact isSome_change name _ _

end

section

variable {env : Env} {policy : Policy} {connectData : ArangoDBConnection}
  {belongs : RecordPlace → Prop} {races : Prop} {rely guarantee : Store → Store → Prop}

/-- Requests that are answered out of the documents leave the rest of the store alone. -/
theorem embeds_documents {does : Documents → Answer → Documents → Prop}
    {peer : Documents → Transmission → Transfer → Documents → Prop} {asked : Transmission → Prop}
    (each : ∀ store sent reply after, asked sent →
      Store.Responds env policy connectData belongs store sent reply after →
        peer store.documents sent reply after.documents ∧ after.kind = store.kind ∧
          ∀ name, after.Has name ↔ store.Has name)
    (guarantees : ∀ now after, (∀ name, (after.Has name ↔ now.Has name) ∧
      after.kind name = now.kind name) → guarantee now after) :
    Embeds peer id (fun _ _ => True) (fun _ _ => True) does Store.documents asked
      (Store.Responds env policy connectData belongs) id rely guarantee
      fun store answer after =>
        does store.documents answer after.documents ∧ after.kind = store.kind where
  answers now sent reply after asked answered := (each now sent reply after asked answered).1
  relies _ _ _ := trivial
  guarantees now sent reply after asked answered _ := by
    obtain ⟨_, kept, same⟩ := each now sent reply after asked answered
    exact guarantees now after fun name => ⟨same name, by rw [kept]⟩
  views now sent reply after asked answered same := by
    obtain ⟨_, kept, _⟩ := each now sent reply after asked answered
    exact Store.ext same kept
  serves now sent reply after answer asked answered does :=
    ⟨does, (each now sent reply after asked answered).2.1⟩
  stays _ _ does := ⟨does, rfl⟩

variable (understands : policy.Understands env)

include understands

/-- Every call takes effect in one instant. It is not refused for what others have done when it can
rely on nobody else creating or dropping its collection. -/
theorem atomic_storeCall (call : StoreCall)
    (keeps : ¬ races → ∀ name, call.changes = some name →
      ∀ now later, rely now later → (later.Has name ↔ now.Has name))
    (guarantees : ∀ now after,
      (∀ name, call.changes ≠ some name →
        (after.Has name ↔ now.Has name) ∧ after.kind name = now.kind name) → guarantee now after)
    (store : Store) :
    (conduct env .base connectData (call.program env)).Atomic
      (Store.Responds env policy connectData belongs) id rely guarantee
      (call.Does env policy belongs races) (StoreAnswer.Agrees env) store := by
  cases call with
  | document call =>
    refine atomic_bind_done ?_
    have embeds := @embeds_documents env policy connectData belongs rely guarantee
      (call.Does env policy) (policy.Responds env connectData)
      (fun sent => ∃ request, policy.Sees connectData sent request)
      (by
        rintro store sent reply after ⟨request, sees⟩ responds
        cases responds (.document request) sees with
        | document serves kept =>
          exact ⟨.served sees serves, kept, fun name => by
            rw [Store.Has, Store.Has, serves.isSome]⟩)
      (fun now after same => guarantees now after fun name _ => same name)
    refine Atomic.mono (fun before answer after does => ?_) (embeds.atomic
      (asks_documentCall understands call) (atomic_call understands call store.documents))
    exact ⟨.document answer, .document does.1 does.2, fun result agreed => .document agreed⟩
  | record call =>
    refine atomic_bind_done ?_
    have embeds := @embeds_documents env policy connectData belongs rely guarantee
      (call.Does env policy belongs) (policy.AnswersRecords env connectData belongs)
      (fun sent => ∃ request, recordInterface.Sees policy.read connectData sent request)
      (by
        rintro store sent reply after ⟨request, sees⟩ responds
        cases responds (.record request) sees with
        | record serves kept =>
          refine ⟨fun other seen => ?_, kept, fun name => by
            rw [Store.Has, Store.Has, serves.isSome]⟩
          rw [Interface.Sees.unique distinct_recordInterface seen sees]
          exact serves)
      (fun now after same => guarantees now after fun name _ => same name)
    refine Atomic.mono (fun before answer after does => ?_) (embeds.atomic
      (asks_recordCall understands call) (atomic_recordCall understands call store.documents))
    exact ⟨.document answer, .record does.1 does.2, fun result agreed => .document agreed⟩
  | collection call =>
    refine atomic_bind_done ?_
    have embeds : Embeds (Store.Answers env policy connectData) id rely guarantee (call.Does races)
        id (fun _ => True) (Store.Responds env policy connectData belongs) id rely guarantee
        (call.Does races) := {
      answers := fun now sent reply after _ responds request sees => by
        cases responds (.collection request) sees with
        | collection serves => exact serves
      relies := fun _ _ borne => borne
      guarantees := fun _ _ _ _ _ _ guaranteed => guaranteed
      views := fun _ _ _ _ _ _ same => same
      serves := fun _ _ _ _ _ _ _ does => does
      stays := fun _ _ does => does }
    have asks := (@asks_collectionCall env policy connectData understands call).mono
      fun _ _ => trivial
    refine Atomic.mono (fun before answer after does => ?_) (embeds.atomic asks
      (atomic_collectionCall understands call keeps (fun request sends now reply after serves =>
        guarantees now after fun name apart => serves.keeps sends apart) store))
    exact ⟨.collection answer, .collection does, fun result agreed => .collection agreed⟩

end

end ArangoCpp
