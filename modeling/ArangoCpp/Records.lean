/-
This file says what the operations on the records of graphs do.

A record is a document of a collection that belongs to a graph, as one of its vertex or of its edge
collections. The requests for it name the graph, and the replies hold the record in a member with
the name of the kind. Apart from that the four operations are those on documents: when the
collection belongs to the graph they do to the documents what `createDocument`, `readDocument`,
`updateDocument` and `deleteDocument` do, and otherwise they are refused.
-/

import ArangoCpp.Interface

namespace ArangoCpp

open Dialogue

/-! ### Graphs and their collections -/

/-- The two kinds of collections of a graph. -/
inductive RecordKind : Type where
  | vertex
  | edge
  deriving DecidableEq

/-- How a kind is written in paths and in replies. -/
def RecordKind.bytes : RecordKind → Bytes
  | vertex => "vertex"
  | edge => "edge"

theorem RecordKind.slash_notMem (kind : RecordKind) : slash ∉ kind.bytes := by
  cases kind <;> decide

theorem RecordKind.bytes_injective : Function.Injective RecordKind.bytes := by
  intro first second same
  cases first <;> cases second <;> first
    | rfl
    | exact absurd same (by decide)

/-- Where a record is: the graph, the kind and the collection. The names of graphs are made of the
bytes that the names of collections are made of. -/
@[ext] structure RecordPlace where
  graph : CollectionName
  kind : RecordKind
  name : CollectionName
  deriving DecidableEq

/-- The path of the records of a collection. -/
def RecordPlace.path (place : RecordPlace) : Bytes :=
  ArangoDBGraphAPI.recordPath place.graph.bytes place.kind.bytes place.name.bytes

/-! ### Requests -/

/-- The requests for records. -/
inductive RecordRequest : Type where
  | get (place : RecordPlace) (key : DocumentKey)
  | post (place : RecordPlace) (data : Slice)
  | put (place : RecordPlace) (key : DocumentKey) (data : Slice)
  | delete (place : RecordPlace) (key : DocumentKey)

/-- How the requests for records are sent. -/
def recordInterface : Interface RecordRequest where
  dispatch := .base
  verb
    | .get _ _ => .get
    | .post _ _ => .post
    | .put _ _ _ => .put
    | .delete _ _ => .delete
  path
    | .get place key | .put place key _ | .delete place key => place.path ++ slash :: key.bytes
    | .post place _ => place.path
  body
    | .post _ data | .put _ _ data => some fun value => value = data
    | _ => none

/-- What stands in front of the first slash, and what stands behind it. -/
theorem cut_slash {first second rest more : Bytes} (free : slash ∉ first)
    (freeToo : slash ∉ second) (same : first ++ slash :: rest = second ++ slash :: more) :
    first = second ∧ rest = more := by
  induction first generalizing second with
  | nil =>
    cases second with
    | nil => exact ⟨rfl, (List.cons.inj same).2⟩
    | cons head tail => exact absurd ((List.cons.inj same).1 ▸ List.mem_cons_self) freeToo
  | cons byte bytes inductionHypothesis =>
    cases second with
    | nil => exact absurd ((List.cons.inj same).1 ▸ List.mem_cons_self) free
    | cons head tail =>
      obtain ⟨heads, tails⟩ := List.cons.inj same
      obtain ⟨fronts, backs⟩ := inductionHypothesis (List.not_mem_of_not_mem_cons free)
        (List.not_mem_of_not_mem_cons freeToo) tails
      exact ⟨by rw [heads, fronts], backs⟩

/-- The path is cut at its slashes. -/
theorem RecordPlace.path_append (place : RecordPlace) (rest : Bytes) :
    place.path ++ rest = text "/_api/gharial/" ++ (place.graph.bytes ++ slash ::
      (place.kind.bytes ++ slash :: (place.name.bytes ++ rest))) := by
  have slashes : text "/" = [slash] := by decide
  simp [RecordPlace.path, ArangoDBGraphAPI.recordPath, ArangoDBGraphAPI.graphPath, slashes]

theorem RecordPlace.eq_of_path {first second : RecordPlace} {rest more : Bytes}
    (names : first.name.bytes ++ rest = second.name.bytes ++ more → first.name = second.name)
    (same : first.path ++ rest = second.path ++ more) : first = second := by
  rw [RecordPlace.path_append, RecordPlace.path_append] at same
  obtain ⟨graphs, later⟩ := cut_slash first.graph.slash_notMem second.graph.slash_notMem
    (List.append_cancel_left same)
  obtain ⟨kinds, last⟩ := cut_slash first.kind.slash_notMem second.kind.slash_notMem later
  exact RecordPlace.ext (CollectionName.ext graphs) (RecordKind.bytes_injective kinds) (names last)

theorem RecordPlace.path_injective : Function.Injective RecordPlace.path := by
  intro first second same
  refine RecordPlace.eq_of_path (fun names => CollectionName.ext (List.append_cancel_right names))
    (congrArg (· ++ ([] : Bytes)) same)

/-- A record is found by the path of its collection and its key. -/
theorem RecordPlace.path_key_injective {first second : RecordPlace} {key another : DocumentKey}
    (same : first.path ++ slash :: key.bytes = second.path ++ slash :: another.bytes) :
    first = second ∧ key = another := by
  have places : first = second :=
    RecordPlace.eq_of_path (fun names => (identifier_inj names).1) same
  subst places
  exact ⟨rfl, DocumentKey.ext (List.cons.inj (List.append_cancel_left same)).2⟩

/-- The server reads one request for a record off what is sent. -/
theorem distinct_recordInterface : recordInterface.Distinct := by
  intro first second verbs paths bodies
  cases first <;> cases second <;> first
    | exact absurd verbs (by simp only [recordInterface]; decide)
    | skip
  case get.get place key other another =>
    obtain ⟨rfl, rfl⟩ := RecordPlace.path_key_injective paths
    rfl
  case post.post place data other another =>
    obtain rfl := RecordPlace.path_injective paths
    obtain ⟨value, rfl, rfl⟩ := bodies _ _ rfl rfl
    rfl
  case put.put place key data other another further =>
    obtain ⟨rfl, rfl⟩ := RecordPlace.path_key_injective paths
    obtain ⟨value, rfl, rfl⟩ := bodies _ _ rfl rfl
    rfl
  case delete.delete place key other another =>
    obtain ⟨rfl, rfl⟩ := RecordPlace.path_key_injective paths
    rfl

/-- The request for the document that a record is. -/
def RecordRequest.document : RecordRequest → DocumentRequest
  | get place key => .get place.name key
  | post place data => .post place.name data
  | put place key data => .put place.name key data
  | delete place key => .delete place.name key

def RecordRequest.place : RecordRequest → RecordPlace
  | get place _ | post place _ | put place _ _ | delete place _ => place

/-- How a server answers a request for a record, and the documents that it has then. -/
inductive Policy.ServesRecord (env : Env) (policy : Policy) (belongs : RecordPlace → Prop)
    (documents : Documents) : RecordRequest → Transfer → Documents → Prop where
  | found {place : RecordPlace} {key : DocumentKey} {document shown value : JsonValue}
      {reply : Transfer} (belonging : belongs place)
      (stored : documents.find place.name key = some document) (alike : document.1.Alike shown)
      (status : reply.responseCode = 200) (holds : reply.Holds env value)
      (record : value.1.get place.kind.bytes = .ok shown.1) :
      ServesRecord env policy belongs documents (.get place key) reply documents
  | created {place : RecordPlace} {data record : Slice} {key : DocumentKey}
      {document value : JsonValue} {reply : Transfer} (belonging : belongs place)
      (admits : documents.Admits place.name data key)
      (keeps : policy.keeps place.name key data document)
      (status : reply.responseCode = 201 ∨ reply.responseCode = 202)
      (holds : reply.Holds env value) (nested : value.1.get place.kind.bytes = .ok record)
      (called : record.get "_id" = .ok (.string (identifier place.name key))) :
      ServesRecord env policy belongs documents (.post place data) reply
        (documents.put place.name key document)
  | replaced {place : RecordPlace} {key : DocumentKey} {data record : Slice}
      {document value : JsonValue} {reply : Transfer} (belonging : belongs place)
      (stored : (documents.find place.name key).isSome = true) (object : data.isObject = true)
      (keeps : policy.keeps place.name key data document)
      (status : reply.responseCode = 200 ∨ reply.responseCode = 202)
      (holds : reply.Holds env value) (nested : value.1.get place.kind.bytes = .ok record)
      (called : record.get "_id" = .ok (.string (identifier place.name key))) :
      ServesRecord env policy belongs documents (.put place key data) reply
        (documents.put place.name key document)
  | deleted {place : RecordPlace} {key : DocumentKey} {reply : Transfer} (belonging : belongs place)
      (stored : (documents.find place.name key).isSome = true)
      (status : reply.responseCode = 200 ∨ reply.responseCode = 202) (plain : reply.Plain env) :
      ServesRecord env policy belongs documents (.delete place key) reply
        (documents.erase place.name key)
  | refused {request : RecordRequest} {value : JsonValue} {reply : Transfer}
      (belonging : belongs request.place)
      (refuses : documents.Refuses request.document reply.responseCode)
      (holds : reply.Holds env value) (explains : value.1.Explains) :
      ServesRecord env policy belongs documents request reply documents
  | foreign {request : RecordRequest} {value : JsonValue} {reply : Transfer}
      (elsewhere : ¬ belongs request.place) (bad : badRequest reply.responseCode = true)
      (holds : reply.Holds env value) (explains : value.1.Explains) :
      ServesRecord env policy belongs documents request reply documents

/-- A server answers what it reads as a request for a record out of its documents. -/
def Policy.AnswersRecords (env : Env) (policy : Policy) (connectData : ArangoDBConnection)
    (belongs : RecordPlace → Prop) (documents : Documents) (sent : Transmission) (reply : Transfer)
    (after : Documents) : Prop :=
  ∀ request, recordInterface.Sees policy.read connectData sent request →
    policy.ServesRecord env belongs documents request reply after

/-! ### Calls and what the map says about them -/

/-- The calls of the operations on records. -/
inductive RecordCall : Type where
  | createRecord (place : RecordPlace) (jsonrec : Bytes)
  | readRecord (place : RecordPlace) (handle : Handle)
  | updateRecord (place : RecordPlace) (handle : Handle) (jsonrec : Bytes)
  | deleteRecord (place : RecordPlace) (handle : Handle)

namespace RecordCall

def place : RecordCall → RecordPlace
  | createRecord place _ | readRecord place _ | updateRecord place _ _ | deleteRecord place _ =>
    place

/-- The call for the document that the record is. -/
def document : RecordCall → Call
  | createRecord place jsonrec => .createDocument place.name jsonrec
  | readRecord place handle => .readDocument place.name handle
  | updateRecord place handle jsonrec => .updateDocument place.name handle jsonrec
  | deleteRecord place handle => .deleteDocument place.name handle

/-- The program of a call. -/
def program (env : Env) : RecordCall → Api Returned
  | createRecord place jsonrec =>
    (ArangoDBGraphAPI.createRecord env place.graph.bytes place.kind.bytes place.name.bytes
      jsonrec).bind fun id => .done (.id id)
  | readRecord place handle =>
    (ArangoDBGraphAPI.readRecord env place.graph.bytes place.kind.bytes place.name.bytes
      (handle.bytes place.name)).bind fun jsonrec => .done (.json jsonrec)
  | updateRecord place handle jsonrec =>
    (ArangoDBGraphAPI.updateRecord env place.graph.bytes place.kind.bytes place.name.bytes
      (handle.bytes place.name) jsonrec).bind fun id => .done (.id id)
  | deleteRecord place handle =>
    (ArangoDBGraphAPI.deleteRecord env place.graph.bytes place.kind.bytes place.name.bytes
      (handle.bytes place.name)).bind fun value => .done (.flag value)

/-- A call does to the map what the call for the document does, when the collection belongs to the
graph; otherwise it is refused. -/
def Does (env : Env) (policy : Policy) (belongs : RecordPlace → Prop) (call : RecordCall)
    (documents : Documents) (answer : Answer) (after : Documents) : Prop :=
  (belongs call.place ∧ call.document.Does env policy documents answer after) ∨
    (¬ belongs call.place ∧ answer = .refused ∧ after = documents)

end RecordCall

/-! ### Each call takes effect in one instant -/

section

variable {env : Env} {policy : Policy} {connectData : ArangoDBConnection}
  {belongs : RecordPlace → Prop}

/-- The path of a record, from either spelling of its handle. -/
theorem recordPath_handle (place : RecordPlace) (handle : Handle) :
    ArangoDBGraphAPI.recordPath place.graph.bytes place.kind.bytes
        (getId place.name.bytes (handle.bytes place.name)) =
      place.path ++ slash :: handle.key.bytes := by
  rw [getId_handle, RecordPlace.path, ArangoDBGraphAPI.recordPath, ArangoDBGraphAPI.recordPath,
    identifier, ← List.append_assoc]

theorem carried_getRecord (env : Env) (policy : Policy) (place : RecordPlace) (handle : Handle) :
    recordInterface.Carried env policy (.get place handle.key) (createREQUEST env .get
      (ArangoDBGraphAPI.recordPath place.graph.bytes place.kind.bytes
        (getId place.name.bytes (handle.bytes place.name)))) := by
  rw [recordPath_handle]
  exact @Interface.Carried.bare _ recordInterface env policy (.get place handle.key) (Or.inl rfl)
    rfl

theorem carried_deleteRecord (env : Env) (policy : Policy) (place : RecordPlace) (handle : Handle) :
    recordInterface.Carried env policy (.delete place handle.key) (createREQUEST env .delete
      (ArangoDBGraphAPI.recordPath place.graph.bytes place.kind.bytes
        (getId place.name.bytes (handle.bytes place.name)))) := by
  rw [recordPath_handle]
  exact @Interface.Carried.bare _ recordInterface env policy (.delete place handle.key)
    (Or.inr (Or.inr (Or.inl rfl))) rfl

theorem carried_postRecord (lawful : env.vpack.Lawful) (place : RecordPlace) {data : Slice}
    (json : data.Json) :
    recordInterface.Carried env policy (.post place (policy.seen env data))
      (createREQUESTWith env .post place.path data).eraseAccept :=
  .loaded (issued_createREQUESTWith lawful _ json.represented (Or.inl rfl)).eraseAccept
    (holds_createREQUESTWith _ _ json.represented).eraseAccept json rfl rfl fun fits stated => by
      cases stated
      rfl

theorem carried_putRecord (lawful : env.vpack.Lawful) (place : RecordPlace) (handle : Handle)
    {data : Slice} (json : data.Json) :
    recordInterface.Carried env policy (.put place handle.key (policy.seen env data))
      (createREQUESTWith env .put (ArangoDBGraphAPI.recordPath place.graph.bytes place.kind.bytes
        (getId place.name.bytes (handle.bytes place.name))) data).eraseAccept := by
  rw [recordPath_handle]
  exact .loaded (issued_createREQUESTWith lawful _ json.represented
    (Or.inr (Or.inl rfl))).eraseAccept (holds_createREQUESTWith _ _ json.represented).eraseAccept
      json rfl rfl fun fits stated => by
        cases stated
        rfl

variable {rely : Documents → Documents → Prop} (understands : policy.Understands env)

include understands

theorem atomic_readRecord (place : RecordPlace) (handle : Handle) (documents : Documents) :
    (conduct env .base connectData (ArangoDBGraphAPI.readRecord env place.graph.bytes
      place.kind.bytes place.name.bytes (handle.bytes place.name))).Atomic
      (policy.AnswersRecords env connectData belongs) id rely (fun _ _ => True)
      ((RecordCall.readRecord place handle).Does env policy belongs)
      (fun answer result => answer.Agrees env (result.map .json)) documents := by
  refine (carried_getRecord env policy place handle).atomic understands
    (fun now sent reply after sees answers => answers _ sees)
    fun now reply after _ serves => ⟨trivial, ?_⟩
  cases serves with
  | @found _ _ document shown value _ belonging stored alike status holds record =>
    obtain ⟨json, dumped⟩ := understands.dumps shown
    refine ⟨.document document, Or.inl ⟨belonging, ?_, rfl⟩, ?_⟩
    · show _ = (Catalogue.find place.name handle.key (id now)).elim _ _
      rw [id, stored]
      rfl
    · rw [understands.told_takeValue recordInterface.dispatch _ (by rw [status]; rfl)
        (by rw [status]; decide) holds, record, ok_bind, dumped]
      exact .document alike dumped
  | refused belonging refuses holds explains =>
    obtain ⟨exception, thrown⟩ := understands.told_refused recordInterface.dispatch _
      (refuses_takeValue notOK_of_badRequest _ _) refuses.badRequest holds explains
    refine ⟨.refused, Or.inl ⟨belonging, ?_, rfl⟩, ?_⟩
    · show _ = (Catalogue.find place.name handle.key (id now)).elim _ _
      rw [id, refuses_get refuses]
      rfl
    · rw [thrown]
      exact .refused exception
  | foreign elsewhere bad holds explains =>
    obtain ⟨exception, thrown⟩ := understands.told_refused recordInterface.dispatch _
      (refuses_takeValue notOK_of_badRequest _ _) bad holds explains
    refine ⟨.refused, Or.inr ⟨elsewhere, rfl, rfl⟩, ?_⟩
    rw [thrown]
    exact .refused exception

theorem atomic_deleteRecord (place : RecordPlace) (handle : Handle) (documents : Documents) :
    (conduct env .base connectData (ArangoDBGraphAPI.deleteRecord env place.graph.bytes
      place.kind.bytes place.name.bytes (handle.bytes place.name))).Atomic
      (policy.AnswersRecords env connectData belongs) id rely (fun _ _ => True)
      ((RecordCall.deleteRecord place handle).Does env policy belongs)
      (fun answer result => answer.Agrees env (result.map .flag)) documents := by
  refine @atomic_bind_done _ _ _ _ _ _ _ _ _ _ _ _ _ _ _ (fun _ => true) _ ?_
  refine (carried_deleteRecord env policy place handle).atomic understands
    (fun now sent reply after sees answers => answers _ sees)
    fun now reply after _ serves => ⟨trivial, ?_⟩
  cases serves with
  | deleted belonging stored status plain =>
    have accepts : badRequest reply.responseCode = false := by
      rcases status with same | same <;> rw [same] <;> rfl
    refine ⟨.flag true, Or.inl ⟨belonging, ?_⟩, ?_⟩
    · simp only [RecordCall.document, Call.Does, id, if_pos stored, and_self]
    · rw [understands.told_demand recordInterface.dispatch _ accepts
        (by rcases status with same | same <;> rw [same] <;> decide) plain]
      exact .flag true
  | refused belonging refuses holds explains =>
    have missing : ¬ (now.find place.name handle.key).isSome = true := by
      rw [refuses_delete refuses]
      exact Bool.false_ne_true
    obtain ⟨exception, thrown⟩ := understands.told_refused recordInterface.dispatch _
      (refuses_demand (fun _ bad => bad) _) refuses.badRequest holds explains
    refine ⟨.refused, Or.inl ⟨belonging, ?_⟩, ?_⟩
    · simp only [RecordCall.document, Call.Does, id, if_neg missing, and_self]
    · rw [thrown]
      exact .refused exception
  | foreign elsewhere bad holds explains =>
    obtain ⟨exception, thrown⟩ := understands.told_refused recordInterface.dispatch _
      (refuses_demand (fun _ bad => bad) _) bad holds explains
    refine ⟨.refused, Or.inr ⟨elsewhere, rfl, rfl⟩, ?_⟩
    rw [thrown]
    exact .refused exception

/-- The identifier is read out of the record in the reply. -/
theorem told_written (place : RecordPlace) (rq : HttpMessage) {reply : Transfer}
    {value : JsonValue} {record : Slice} {id : Bytes}
    (status : reply.responseCode = 200 ∨ reply.responseCode = 201 ∨ reply.responseCode = 202)
    (holds : reply.Holds env value) (nested : value.1.get place.kind.bytes = .ok record)
    (called : record.get "_id" = .ok (.string id)) (text : Bytes) :
    told env recordInterface.dispatch connectData rq
        (takeValue env badRequest text fun slice => do
          let record ← slice.get place.kind.bytes
          record.get "_id" >>= Slice.copyString) reply = .ok id := by
  have received : reply.responseCode ≠ 0 := by
    rcases status with same | same | same <;> rw [same] <;> decide
  have accepts : badRequest reply.responseCode = false := by
    rcases status with same | same | same <;> rw [same] <;> rfl
  rw [understands.told_takeValue recordInterface.dispatch rq accepts received holds, nested,
    ok_bind, called]
  rfl

theorem atomic_createRecord (place : RecordPlace) (jsonrec : Bytes) (documents : Documents) :
    (conduct env .base connectData (ArangoDBGraphAPI.createRecord env place.graph.bytes
      place.kind.bytes place.name.bytes jsonrec)).Atomic
      (policy.AnswersRecords env connectData belongs) id rely (fun _ _ => True)
      ((RecordCall.createRecord place jsonrec).Does env policy belongs)
      (fun answer result => answer.Agrees env (result.map .id)) documents := by
  refine @atomic_writeDocument env policy connectData _ _ _ _ _ _ _ _ _ understands _
    recordInterface (fun data => .post place (policy.seen env data)) _ _ _ _ _ _ _
      (fun data now reply after =>
        policy.ServesRecord env belongs now (.post place (policy.seen env data)) reply after) _ ?_
      ?_
      (fun data now sent reply after sees answers => answers _ sees) ?_
  · intro exception failed now thrown _
    by_cases belonging : belongs place
    · refine ⟨.refused, Or.inl ⟨belonging, Or.inr ⟨fun data parsed => ?_, rfl, rfl⟩⟩,
        .refused thrown⟩
      cases failed.symm.trans parsed
    · exact ⟨.refused, Or.inr ⟨belonging, rfl, rfl⟩, .refused thrown⟩
  · intro data parsed
    exact carried_postRecord understands.lawful place (understands.parses jsonrec data parsed)
  · intro data parsed now reply after _ serves
    have alike := understands.alike ⟨data, understands.parses jsonrec data parsed⟩
    refine ⟨trivial, ?_⟩
    cases serves with
    | @created _ _ record key document value _ belonging admits keeps status holds nested called =>
      refine ⟨.written place.name key, Or.inl ⟨belonging,
        Or.inl ⟨data, key, document, parsed, Documents.Admits.of_alike alike admits, keeps, rfl,
          rfl⟩⟩, ?_⟩
      rw [told_written understands place _ (Or.inr status) holds nested called]
      exact .written _ _
    | refused belonging refuses holds explains =>
      obtain ⟨exception, thrown⟩ := understands.told_refused recordInterface.dispatch _
        (refuses_takeValue (fun _ bad => bad) _ _) refuses.badRequest holds explains
      refine ⟨.refused, Or.inl ⟨belonging, Or.inr ⟨fun other same => ?_, rfl, rfl⟩⟩, ?_⟩
      · cases parsed.symm.trans same
        exact not_admits_of_alike alike (refuses_post refuses)
      · rw [thrown]
        exact .refused exception
    | foreign elsewhere bad holds explains =>
      obtain ⟨exception, thrown⟩ := understands.told_refused recordInterface.dispatch _
        (refuses_takeValue (fun _ bad => bad) _ _) bad holds explains
      refine ⟨.refused, Or.inr ⟨elsewhere, rfl, rfl⟩, ?_⟩
      rw [thrown]
      exact .refused exception

theorem atomic_updateRecord (place : RecordPlace) (handle : Handle) (jsonrec : Bytes)
    (documents : Documents) :
    (conduct env .base connectData (ArangoDBGraphAPI.updateRecord env place.graph.bytes
      place.kind.bytes place.name.bytes (handle.bytes place.name) jsonrec)).Atomic
      (policy.AnswersRecords env connectData belongs) id rely (fun _ _ => True)
      ((RecordCall.updateRecord place handle jsonrec).Does env policy belongs)
      (fun answer result => answer.Agrees env (result.map .id)) documents := by
  refine @atomic_writeDocument env policy connectData _ _ _ _ _ _ _ _ _ understands _
    recordInterface (fun data => .put place handle.key (policy.seen env data)) _ _ _ _ _ _ _
      (fun data now reply after => policy.ServesRecord env belongs now
        (.put place handle.key (policy.seen env data)) reply after) _ ?_ ?_
      (fun data now sent reply after sees answers => answers _ sees) ?_
  · intro exception failed now thrown _
    by_cases belonging : belongs place
    · refine ⟨.refused, Or.inl ⟨belonging, Or.inr ⟨fun data parsed => ?_, rfl, rfl⟩⟩,
        .refused thrown⟩
      cases failed.symm.trans parsed
    · exact ⟨.refused, Or.inr ⟨belonging, rfl, rfl⟩, .refused thrown⟩
  · intro data parsed
    exact carried_putRecord understands.lawful place handle
      (understands.parses jsonrec data parsed)
  · intro data parsed now reply after _ serves
    have alike := understands.alike ⟨data, understands.parses jsonrec data parsed⟩
    refine ⟨trivial, ?_⟩
    cases serves with
    | @replaced _ _ _ record document value _ belonging stored object keeps status holds nested
        called =>
      refine ⟨.written place.name handle.key, Or.inl ⟨belonging,
        Or.inl ⟨data, document, parsed, alike.isObject.symm.trans object, stored, keeps, rfl,
          rfl⟩⟩, ?_⟩
      rw [told_written understands place _ (status.imp id Or.inr) holds nested called]
      exact .written _ _
    | refused belonging refuses holds explains =>
      obtain ⟨exception, thrown⟩ := understands.told_refused recordInterface.dispatch _
        (refuses_takeValue (fun _ bad => bad) _ _) refuses.badRequest holds explains
      refine ⟨.refused, Or.inl ⟨belonging, Or.inr ⟨fun other same => ?_, rfl, rfl⟩⟩, ?_⟩
      · cases parsed.symm.trans same
        rw [← alike.isObject]
        exact (refuses_put refuses).imp_left alike.unfit
      · rw [thrown]
        exact .refused exception
    | foreign elsewhere bad holds explains =>
      obtain ⟨exception, thrown⟩ := understands.told_refused recordInterface.dispatch _
        (refuses_takeValue (fun _ bad => bad) _ _) bad holds explains
      refine ⟨.refused, Or.inr ⟨elsewhere, rfl, rfl⟩, ?_⟩
      rw [thrown]
      exact .refused exception

/-- Every message of a call is one for a record. -/
theorem carries_recordCall (call : RecordCall) :
    (call.program env).Asks fun rq => ∃ request, recordInterface.Carried env policy request rq := by
  cases call with
  | createRecord place jsonrec =>
    exact (asks_writeDocument _ _ _ _ _ _ _ fun data parsed => ⟨_, carried_postRecord
      understands.lawful place (understands.parses jsonrec data parsed)⟩).bind fun _ => trivial
  | readRecord place handle =>
    exact ((carried_getRecord env policy place handle).asks _).bind fun _ => trivial
  | updateRecord place handle jsonrec =>
    exact (asks_writeDocument _ _ _ _ _ _ _ fun data parsed => ⟨_, carried_putRecord
      understands.lawful place handle (understands.parses jsonrec data parsed)⟩).bind fun _ =>
        trivial
  | deleteRecord place handle =>
    exact (((carried_deleteRecord env policy place handle).asks _).bind fun _ =>
      asks_done true).bind fun _ => trivial

/-- Everything that a call sends is read by the server. -/
theorem asks_recordCall (call : RecordCall) :
    (conduct env .base connectData (call.program env)).Asks fun sent =>
      ∃ request, recordInterface.Sees policy.read connectData sent request :=
  recordInterface.asks_conduct understands connectData (carries_recordCall understands call)

/-- Every call takes effect in one instant, whatever the other clients do. -/
theorem atomic_recordCall (call : RecordCall) (documents : Documents) :
    (conduct env .base connectData (call.program env)).Atomic
      (policy.AnswersRecords env connectData belongs) id rely (fun _ _ => True)
      (call.Does env policy belongs) (Answer.Agrees env) documents := by
  cases call with
  | createRecord place jsonrec =>
    exact atomic_bind_done (atomic_createRecord understands place jsonrec documents)
  | readRecord place handle =>
    exact atomic_bind_done (atomic_readRecord understands place handle documents)
  | updateRecord place handle jsonrec =>
    exact atomic_bind_done (atomic_updateRecord understands place handle jsonrec documents)
  | deleteRecord place handle =>
    exact atomic_bind_done (atomic_deleteRecord understands place handle documents)

end

end ArangoCpp
