/-
This file compares the operations on documents with the map that the documents are.

The operations are called one after the other, with the documents named by either spelling of
their handles, and a server answers every request out of its documents. Whatever the server does
where it is free, every call returns or throws what the map says, and the documents are changed
as the map says. The map is given by one description for each call, which knows nothing of
requests, verbs, paths and statuses.
-/

import ArangoCpp.Server

namespace ArangoCpp

variable {env : Env} {policy : Policy} {connectData : ArangoDBConnection}
  {documents after : Documents}

/-! ### Calls and what the map says about them -/

/-- The calls of the operations on documents. -/
inductive Call : Type where
  | createDocument (name : CollectionName) (jsonrec : Bytes)
  | readDocument (name : CollectionName) (handle : Handle)
  | updateDocument (name : CollectionName) (handle : Handle) (jsonrec : Bytes)
  | deleteDocument (name : CollectionName) (handle : Handle)
  | existsDocument (name : CollectionName) (handle : Handle)
  | removeByKeys (name : CollectionName) (handles : List Handle)

/-- What the operations return: an identifier, a text, whether it is so, or two numbers. -/
inductive Returned : Type where
  | id (id : Bytes)
  | json (jsonrec : Bytes)
  | flag (value : Bool)
  | counts (removed ignored : Int)

/-- The program of a call. -/
def Call.program (env : Env) : Call → Api Returned
  | createDocument name jsonrec =>
    (ArangoDBCollectionAPI.createDocument env name.bytes jsonrec).bind fun id => .done (.id id)
  | readDocument name handle =>
    (ArangoDBCollectionAPI.readDocument env name.bytes (handle.bytes name)).bind fun jsonrec =>
      .done (.json jsonrec)
  | updateDocument name handle jsonrec =>
    (ArangoDBCollectionAPI.updateDocument env name.bytes (handle.bytes name) jsonrec).bind fun id =>
      .done (.id id)
  | deleteDocument name handle =>
    (ArangoDBCollectionAPI.deleteDocument env name.bytes (handle.bytes name)).bind fun value =>
      .done (.flag value)
  | existsDocument name handle =>
    (ArangoDBCollectionAPI.existsDocument env name.bytes (handle.bytes name)).bind fun value =>
      .done (.flag value)
  | removeByKeys name handles =>
    (ArangoDBCollectionAPI.removeByKeys env name.bytes (handles.map (Handle.bytes name))).bind
      fun counts => .done (.counts counts.1 counts.2)

/-- What the map answers. -/
inductive Answer : Type where
  | refused
  | written (name : CollectionName) (key : DocumentKey)
  | document (document : JsonValue)
  | flag (value : Bool)
  | counts (removed ignored : Nat)

/-- What the server reads when the client sends a value. -/
def Policy.seen (policy : Policy) (env : Env) (value : Slice) : Slice :=
  match valueBody env value with
  | .ok body => (policy.read body).getD .none
  | .error _ => .none

/-- What a call does to the map, and what it is answered. A document that is created goes under the
key that it asks for, or under any key that is not taken. -/
def Call.Does (env : Env) (policy : Policy) :
    Call → Documents → Answer → Documents → Prop
  | createDocument name jsonrec, documents, answer, after =>
    (∃ data key document, env.vpack.fromJson parseOptions jsonrec = .ok data ∧
      documents.Admits name data key ∧ policy.keeps name key (policy.seen env data) document ∧
      answer = .written name key ∧ after = documents.put name key document) ∨
    ((∀ data, env.vpack.fromJson parseOptions jsonrec = .ok data →
      data.Unfit ∨ ∀ key, ¬ documents.Admits name data key) ∧
      answer = .refused ∧ after = documents)
  | readDocument name handle, documents, answer, after =>
    answer = (documents.find name handle.key).elim .refused .document ∧ after = documents
  | updateDocument name handle jsonrec, documents, answer, after =>
    (∃ data document, env.vpack.fromJson parseOptions jsonrec = .ok data ∧
      data.isObject = true ∧ (documents.find name handle.key).isSome = true ∧
      policy.keeps name handle.key (policy.seen env data) document ∧
      answer = .written name handle.key ∧ after = documents.put name handle.key document) ∨
    ((∀ data, env.vpack.fromJson parseOptions jsonrec = .ok data →
      data.Unfit ∨ data.isObject = false ∨ documents.find name handle.key = none) ∧
      answer = .refused ∧ after = documents)
  | deleteDocument name handle, documents, answer, after =>
    if (documents.find name handle.key).isSome then
      answer = .flag true ∧ after = documents.erase name handle.key
    else answer = .refused ∧ after = documents
  | existsDocument name handle, documents, answer, after =>
    answer = .flag (documents.find name handle.key).isSome ∧ after = documents
  | removeByKeys name handles, documents, answer, after =>
    let keys := handles.map Handle.key
    if (documents name).isSome then
      answer = .counts (documents.held name keys) (keys.length - documents.held name keys) ∧
        after = documents.eraseAll name keys
    else answer = .refused ∧ after = documents

/-- What a call returns or throws when it is answered so. -/
inductive Answer.Agrees (env : Env) : Answer → Except Fault Returned → Prop where
  | refused (exception : ArangoException) : Agrees env .refused (.error (.arango exception))
  | written (name : CollectionName) (key : DocumentKey) :
      Agrees env (.written name key) (.ok (.id (identifier name key)))
  | document {document shown : JsonValue} {jsonrec : Bytes} (alike : document.1.Alike shown)
      (dumped : env.vpack.toJson dumpOptions shown = .ok jsonrec) :
      Agrees env (.document document) (.ok (.json jsonrec))
  | flag (value : Bool) : Agrees env (.flag value) (.ok (.flag value))
  | counts (removed ignored : Nat) :
      Agrees env (.counts removed ignored) (.ok (.counts removed ignored))

/-! ### Requests that reach the server -/

/-- What the client and the server agree on: the library dumps the values that a text has, what it
parses is such a value, and the server reads such a value off the body that the client sends for
it. -/
structure Policy.Understands (policy : Policy) (env : Env) : Prop where
  lawful : env.vpack.Lawful
  dumps : ∀ value : JsonValue, ∃ json, env.vpack.toJson dumpOptions value = .ok json
  parses : ∀ jsonrec data, env.vpack.fromJson parseOptions jsonrec = .ok data → data.Json
  reads : ∀ (value : JsonValue) body, valueBody env value = .ok body →
    ∃ seen, policy.read body = some seen ∧ value.1.Alike seen

/-- A message that the client makes for a request. -/
inductive DocumentRequest.Carried (env : Env) (policy : Policy) (request : DocumentRequest) :
    HttpMessage → Prop where
  | bare (kind : request.verb = .get ∨ request.verb = .head ∨ request.verb = .delete) :
      Carried env policy request (createREQUEST env request.verb request.path)
  | loaded {rq : HttpMessage} {value : Slice} (issued : rq.Issued env) (holds : rq.Holds env value)
      (json : value.Json) (verb : rq.header.restVerb = request.verb)
      (path : rq.header.path = request.path) (stated : request.Says (policy.seen env value)) :
      Carried env policy request rq

theorem DocumentRequest.Carried.issued {request : DocumentRequest} {rq : HttpMessage}
    (carried : request.Carried env policy rq) : rq.Issued env := by
  cases carried with
  | bare kind => exact issued_createREQUEST _ (by tauto)
  | loaded issued => exact issued

/-- A body that holds a value is not empty. -/
theorem valueBody_ne_nil (lawful : env.vpack.Lawful) {value : Slice}
    (represented : value.Represented) {body : Bytes} (formed : valueBody env value = .ok body) :
    body ≠ [] := by
  unfold valueBody at formed
  split at formed
  · cases formed
    exact lawful.build_ne_nil value represented
  · exact lawful.toJson_ne_nil _ _ _ (ofVpack_eq_ok_iff.mp formed)

/-- A value that a text has is sent as a body. -/
theorem Policy.Understands.valueBody (understands : policy.Understands env) (value : JsonValue) :
    ∃ body, ArangoCpp.valueBody env value = .ok body ∧ body ≠ [] := by
  obtain ⟨json, dumped⟩ := understands.dumps value
  unfold ArangoCpp.valueBody
  by_cases binary : env.useVelocypackPut = true
  · rw [if_pos binary]
    exact ⟨_, rfl, understands.lawful.build_ne_nil value value.2.represented⟩
  · rw [if_neg binary, dumped]
    exact ⟨json, rfl, understands.lawful.toJson_ne_nil _ _ _ dumped⟩

theorem Policy.Understands.read_body (understands : policy.Understands env) (value : JsonValue)
    {body : Bytes} (formed : ArangoCpp.valueBody env value = .ok body) :
    policy.read body = some (policy.seen env value) := by
  obtain ⟨seen, read, _⟩ := understands.reads value body formed
  rw [Policy.seen, formed]
  dsimp only
  rw [read, Option.getD_some]

/-- What the server reads is like what the client sends. -/
theorem Policy.Understands.alike (understands : policy.Understands env) (value : JsonValue) :
    value.1.Alike (policy.seen env value) := by
  obtain ⟨body, formed, _⟩ := understands.valueBody value
  obtain ⟨seen, read, alike⟩ := understands.reads value body formed
  cases (understands.read_body value formed).symm.trans read
  exact alike

/-- A message that holds a value is sent with a body that the server reads. -/
theorem Policy.Understands.encodes (understands : policy.Understands env) (dispatch : Dispatch)
    (connectData : ArangoDBConnection) {rq : HttpMessage} (issued : rq.Issued env)
    {value : JsonValue} (holds : rq.Holds env value) :
    ∃ body, (dispatch.channel env connectData).encode rq =
        .ok (rq.transmission env dispatch connectData body) ∧
      body ≠ [] ∧ policy.read body = some (policy.seen env value) := by
  obtain ⟨body, formed, nonempty⟩ := understands.valueBody value
  obtain ⟨line, dumped⟩ := understands.dumps value
  have shown : ∃ line, valueLine env value = .ok line := by
    unfold valueLine
    by_cases debug : env.debug = true
    · exact ⟨line, by rw [if_pos debug, dumped, ofVpack_ok]⟩
    · exact ⟨[], if_neg debug⟩
  obtain ⟨shownLine, shown⟩ := shown
  refine ⟨body, ?_, nonempty, understands.read_body value formed⟩
  rw [encode_holds understands.lawful dispatch connectData issued holds, shown, ok_bind, formed]
  rfl

/-- A message for a request is sent, and the server reads the request off what is sent. -/
theorem Policy.Understands.sees (understands : policy.Understands env)
    (connectData : ArangoDBConnection) {request : DocumentRequest} {rq : HttpMessage}
    (carried : request.Carried env policy rq) :
    ∃ sent, (Dispatch.base.channel env connectData).encode rq = .ok sent ∧
      policy.Sees connectData sent request := by
  cases carried with
  | bare kind =>
    refine ⟨_, encode_createREQUEST understands.lawful .base connectData (by tauto) request.path,
      rfl, rfl, fun loaded => ?_⟩
    rcases kind with same | same | same <;> rw [same] at loaded <;> simp at loaded
  | loaded issued holds json verb path stated =>
    rename_i value
    obtain ⟨body, encoded, nonempty, read⟩ :=
      @Policy.Understands.encodes _ _ understands .base connectData _ issued ⟨value, json⟩ holds
    exact ⟨_, encoded, congrArg RestVerb.method verb, congrArg connectData.fullURL path,
      fun _ => ⟨body, policy.seen env value, if_neg nonempty, read, stated⟩⟩

/-- A message for a request is answered as the server answers the request. -/
theorem Policy.Understands.plays_exchange_iff (understands : policy.Understands env)
    {request : DocumentRequest} {rq : HttpMessage} (carried : request.Carried env policy rq)
    {Value : Type} {read : HttpMessage → Except Fault Value} {result : Except Fault Value} :
    Dialogue.Plays (policy.Responds env connectData)
        (conduct env .base connectData (.exchange rq read)) documents result after ↔
      ∃ reply, policy.Serves env documents request reply after ∧
        result = ((Dispatch.base.channel env connectData).decode rq reply >>= read) := by
  obtain ⟨sent, encoded, sees⟩ := understands.sees connectData carried
  rw [Operation.conduct_eq_through understands.lawful
    (Dialogue.asks_exchange carried.issued read), Dialogue.plays_through_exchange_iff encoded]
  simp only [sees.responds_iff]

/-! ### Replies that are read -/

/-- A reply that holds a value is accepted, and read as the value. -/
theorem Policy.Understands.decode_holds (understands : policy.Understands env) (rq : HttpMessage)
    {reply : Transfer} {value : JsonValue} (holds : reply.Holds env value)
    (received : reply.responseCode ≠ 0) :
    ∃ response, (Dispatch.base.channel env connectData).decode rq reply = .ok response ∧
      response.Reads env value ∧ response.statusCode = reply.responseCode := by
  obtain ⟨response, accepted, reads⟩ := holds.accepted understands.lawful received fun _ =>
    understands.dumps value
  exact ⟨response, (decode_eq_ok_iff understands.lawful .base connectData rq).mpr accepted, reads,
    accepted.status⟩

/-- A reply without a body is accepted. -/
theorem decode_empty (lawful : env.vpack.Lawful) (rq : HttpMessage) {reply : Transfer}
    (empty : reply.body.flatten = []) (received : reply.responseCode ≠ 0) :
    ∃ response, (Dispatch.base.channel env connectData).decode rq reply = .ok response ∧
      response.statusCode = reply.responseCode := by
  obtain ⟨response, accepted, _⟩ := @accepted_of_empty env reply empty received
  exact ⟨response, (decode_eq_ok_iff lawful .base connectData rq).mpr accepted, accepted.status⟩

/-- Of a reply without a body the status is read. -/
theorem probed (lawful : env.vpack.Lawful) (rq : HttpMessage) {reply : Transfer}
    (empty : reply.body.flatten = []) (received : reply.responseCode ≠ 0) :
    ((Dispatch.base.channel env connectData).decode rq reply >>= fun result =>
      pure (result.statusCode == statusOK)) = .ok (reply.responseCode == statusOK) := by
  obtain ⟨response, decoded, same⟩ := @decode_empty env connectData lawful rq reply empty received
  rw [decoded, ok_bind, same]
  rfl

/-- Of a reply to a document that is deleted only the status matters. -/
theorem Policy.Understands.demanded (understands : policy.Understands env) (rq : HttpMessage)
    {reply : Transfer} (status : reply.responseCode = 200 ∨ reply.responseCode = 202)
    (holds : reply.body.flatten = [] ∨ ∃ value : JsonValue, reply.Holds env value) (text : Bytes) :
    ((Dispatch.base.channel env connectData).decode rq reply >>= demand env badRequest text) =
      .ok () := by
  have received : reply.responseCode ≠ 0 := by
    rcases status with same | same <;> rw [same] <;> decide
  have accepts : badRequest reply.responseCode = false := by
    rcases status with same | same <;> rw [same] <;> rfl
  have decodes : ∃ response, (Dispatch.base.channel env connectData).decode rq reply =
      .ok response ∧ response.statusCode = reply.responseCode := by
    rcases holds with empty | ⟨value, holds⟩
    · exact decode_empty understands.lawful rq empty received
    · obtain ⟨response, decoded, _, same⟩ := understands.decode_holds rq holds received
      exact ⟨response, decoded, same⟩
  obtain ⟨response, decoded, same⟩ := decodes
  rw [decoded, ok_bind, demand_eq_ok_iff.mpr (same ▸ accepts)]

/-- What a refused request throws is an exception of the client. -/
theorem Policy.Understands.refused (understands : policy.Understands env) (rq : HttpMessage)
    {Value : Type} {read : HttpMessage → Except Fault Value} (refuses : Refuses env read)
    {reply : Transfer} {value : JsonValue} (bad : badRequest reply.responseCode = true)
    (holds : reply.Holds env value) (explains : value.1.Explains) :
    ∃ exception, ((Dispatch.base.channel env connectData).decode rq reply >>= read) =
      .error (.arango exception) := by
  obtain ⟨response, decoded, reads, status⟩ := understands.decode_holds rq holds
    (received_of_badRequest bad)
  obtain ⟨text, reports⟩ := refuses response (status ▸ bad) value reads
  rw [decoded, ok_bind, reports]
  exact (errorThrow_arango_iff reads text).mpr explains.reportable

/-- A value whose status is not refused is read. -/
theorem Policy.Understands.taken (understands : policy.Understands env) (rq : HttpMessage)
    {Value : Type} {refused : StatusCode → Bool} {reply : Transfer} {value : JsonValue}
    (accepts : refused reply.responseCode = false) (received : reply.responseCode ≠ 0)
    (holds : reply.Holds env value) (text : Bytes) (read : Slice → Except VpackException Value) :
    ((Dispatch.base.channel env connectData).decode rq reply >>= takeValue env refused text read) =
      ofVpack (read value) := by
  obtain ⟨response, decoded, reads, status⟩ := understands.decode_holds rq holds received
  have accepted : ¬ refused response.statusCode = true := by
    rw [status, accepts]
    exact Bool.false_ne_true
  rw [decoded, ok_bind, takeValue, reads.front, ok_bind, if_neg accepted]

/-! ### Programs around an exchange -/

section

variable {Value Result State : Type} {peer : State → Transmission → Transfer → State → Prop}
  {state final : State} {program : Api Value}

/-- What is returned may be put into another shape. -/
theorem plays_bind_done_iff (lawful : env.vpack.Lawful)
    (asks : program.Asks (HttpMessage.Issued env)) (wrap : Value → Result)
    {result : Except Fault Result} :
    Dialogue.Plays peer (conduct env .base connectData
        (program.bind fun value => .done (wrap value))) state result final ↔
      ∃ first, Dialogue.Plays peer (conduct env .base connectData program) state first final ∧
        result = first.map wrap := by
  have wraps : ∀ first : Except Fault Value, (first >>= fun value => .ok (wrap value)) =
      first.map wrap := by
    intro first
    cases first <;> rfl
  rw [Operation.conduct_eq_through lawful asks,
    Operation.conduct_eq_through lawful (asks.bind fun _ => Dialogue.asks_done _),
    Dialogue.through_bind]
  show Dialogue.Plays peer (Dialogue.bind _ fun value => .ofExcept (.ok (wrap value))) _ _ _ ↔ _
  rw [Dialogue.plays_bind_ofExcept_iff]
  simp only [wraps]

/-- A handler of the exceptions of the library. -/
theorem plays_catchVelocypack_iff (lawful : env.vpack.Lawful)
    (asks : program.Asks (HttpMessage.Issued env)) {result : Except Fault Value} :
    Dialogue.Plays peer (conduct env .base connectData
        (catchVelocypack env ArangoDBCollectionAPI.title 11 program)) state result final ↔
      ∃ first, Dialogue.Plays peer (conduct env .base connectData program) state first final ∧
        result = ArangoDBCollectionAPI.throwVelocypack env first := by
  let handle : Fault → Except Fault Value := fun fault =>
    ArangoDBCollectionAPI.throwVelocypack env (.error fault)
  have handler : catchVelocypack env ArangoDBCollectionAPI.title 11 program =
      program.rescue fun fault => .ofExcept (handle fault) := by
    refine congrArg (Dialogue.rescue · program) (funext fun fault => ?_)
    cases fault <;> rfl
  have handles : ∀ first : Except Fault Value, first.tryCatch handle =
      ArangoDBCollectionAPI.throwVelocypack env first := by
    intro first
    cases first <;> rfl
  rw [Operation.conduct_eq_through lawful asks,
    Operation.conduct_eq_through lawful (asks_catchVelocypack asks _ _), handler,
    Dialogue.through_rescue]
  simp only [Dialogue.through_ofExcept, Dialogue.plays_rescue_ofExcept_iff, handles]

end

/-- What is sent for a list of keys. -/
theorem DocumentRequest.carried_removeByKeys (understands : policy.Understands env)
    (name : CollectionName) (keys : List DocumentKey) :
    (DocumentRequest.removeByKeys name keys).Carried env policy (createREQUESTWith env .put
      "/_api/simple/remove-by-keys" (.object [("collection", .string name.bytes),
        ("keys", .array (keys.map fun key => .string key.bytes))])) := by
  let members : List (Bytes × Slice) := [("collection", .string name.bytes),
    ("keys", .array (keys.map fun key => .string key.bytes))]
  have json : (Slice.object members).Json := by
    simp +decide [members, name.complete, DocumentKey.complete]
  have distinct : [text "collection", text "keys"].Nodup := by decide
  have alike := understands.alike ⟨.object members, json⟩
  have apart : text "collection" ≠ text "keys" := by decide
  have named := alike.get_eq distinct "collection" (Slice.rigid_string name.bytes) rfl
  have strings : (Slice.array (keys.map fun key => .string key.bytes)).Rigid := by
    refine Slice.rigid_array fun item listed => ?_
    obtain ⟨key, _, rfl⟩ := List.mem_map.mp listed
    exact Slice.rigid_string key.bytes
  have found := alike.get_eq distinct "keys" strings (by simp [members, Slice.get, apart])
  exact .loaded (issued_createREQUESTWith understands.lawful _ json.represented
    (Or.inr (Or.inl rfl))) (holds_createREQUESTWith _ _ json.represented) json rfl rfl
      ⟨named, found⟩

/-! ### Writing a document -/

/-- What is sent for a posted document. -/
theorem DocumentRequest.carried_post (lawful : env.vpack.Lawful) (name : CollectionName)
    {data : Slice} (json : data.Json) :
    (DocumentRequest.post name (policy.seen env data)).Carried env policy
      (createREQUESTWith env .post ("/_api/document/" ++ name.bytes) data).eraseAccept :=
  .loaded (issued_createREQUESTWith lawful _ json.represented (Or.inl rfl)).eraseAccept
    (holds_createREQUESTWith _ _ json.represented).eraseAccept json rfl rfl rfl

/-- What is sent for a document that replaces another. -/
theorem DocumentRequest.carried_put (lawful : env.vpack.Lawful) (name : CollectionName)
    (handle : Handle) {data : Slice} (json : data.Json) :
    (DocumentRequest.put name handle.key (policy.seen env data)).Carried env policy
      (createREQUESTWith env .put ("/_api/document/" ++ getId name.bytes (handle.bytes name))
        data).eraseAccept := by
  rw [getId_handle]
  exact .loaded (issued_createREQUESTWith lawful _ json.represented
    (Or.inr (Or.inl rfl))).eraseAccept (holds_createREQUESTWith _ _ json.represented).eraseAccept
      json rfl rfl rfl

/-- The identifier is read out of the reply to a document that is written. -/
theorem Policy.Understands.written (understands : policy.Understands env) (rq : HttpMessage)
    {reply : Transfer} {value : JsonValue} {id : Bytes}
    (status : reply.responseCode = 201 ∨ reply.responseCode = 202) (holds : reply.Holds env value)
    (called : value.1.get "_id" = .ok (.string id)) (text : Bytes) :
    ((Dispatch.base.channel env connectData).decode rq reply >>=
        takeValue env badRequest text fun slice => slice.get "_id" >>= Slice.copyString) =
      .ok id := by
  have received : reply.responseCode ≠ 0 := by
    rcases status with same | same <;> rw [same] <;> decide
  have accepts : badRequest reply.responseCode = false := by
    rcases status with same | same <;> rw [same] <;> rfl
  rw [understands.taken rq accepts received holds, called]
  rfl

section

variable {verb : RestVerb} {path jsonrec errorText : Bytes}
  {identifier : Slice → Except VpackException Bytes} {result : Except Fault Returned}

/-- A text that is not parsed is not sent. -/
theorem malformed_writeDocument {exception : VpackException}
    (malformed : env.vpack.fromJson parseOptions jsonrec = .error exception)
    (plays : Dialogue.Plays (policy.Responds env connectData) (conduct env .base connectData
      ((writeDocument env ArangoDBCollectionAPI.title 11 verb path jsonrec errorText
        identifier).bind fun id => .done (.id id))) documents result after) :
    (∃ exception, result = .error (.arango exception)) ∧ after = documents := by
  rw [writeDocument_eq, malformed] at plays
  obtain ⟨rfl, rfl⟩ := Dialogue.plays_raise_iff.mp plays
  exact ⟨⟨_, rfl⟩, rfl⟩

/-- A text that is parsed is sent as its document. -/
theorem Policy.Understands.plays_writeDocument_iff (understands : policy.Understands env)
    {data : Slice} (parsed : env.vpack.fromJson parseOptions jsonrec = .ok data)
    {request : DocumentRequest}
    (carried : request.Carried env policy (createREQUESTWith env verb path data).eraseAccept) :
    Dialogue.Plays (policy.Responds env connectData) (conduct env .base connectData
        ((writeDocument env ArangoDBCollectionAPI.title 11 verb path jsonrec errorText
          identifier).bind fun id => .done (.id id))) documents result after ↔
      ∃ reply, policy.Serves env documents request reply after ∧
        result = (ArangoDBCollectionAPI.throwVelocypack env
          ((Dispatch.base.channel env connectData).decode
              (createREQUESTWith env verb path data).eraseAccept reply >>=
            takeValue env badRequest errorText identifier)).map .id := by
  have asks := Dialogue.asks_exchange carried.issued (takeValue env badRequest errorText identifier)
  rw [writeDocument_eq, parsed, ofVpack_ok, Dialogue.ofExcept_ok, Dialogue.done_bind,
    plays_bind_done_iff understands.lawful (asks_catchVelocypack asks _ _) Returned.id]
  simp only [plays_catchVelocypack_iff understands.lawful asks,
    understands.plays_exchange_iff carried]
  constructor
  · rintro ⟨_, ⟨_, ⟨reply, serves, rfl⟩, rfl⟩, rfl⟩
    exact ⟨reply, serves, rfl⟩
  · rintro ⟨reply, serves, rfl⟩
    exact ⟨_, ⟨_, ⟨reply, serves, rfl⟩, rfl⟩, rfl⟩

end

/-! ### Each call does what the map says -/

/-- The call ends as the map says, when it is made with these documents. -/
def Call.Agrees (env : Env) (policy : Policy) (connectData : ArangoDBConnection) (call : Call) :
    Prop :=
  ∀ documents result after,
    Dialogue.Plays (policy.Responds env connectData)
      (conduct env .base connectData (call.program env)) documents result after →
    ∃ answer, call.Does env policy documents answer after ∧ answer.Agrees env result

variable (understands : policy.Understands env) (name : CollectionName) (handle : Handle)

include understands

theorem agrees_readDocument :
    (Call.readDocument name handle).Agrees env policy connectData := by
  intro documents result after plays
  have carried : (DocumentRequest.get name handle.key).Carried env policy
      (createREQUEST env .get ("/_api/document/" ++ getId name.bytes (handle.bytes name))) := by
    rw [getId_handle]
    exact .bare (Or.inl rfl)
  obtain ⟨first, played, rfl⟩ := (plays_bind_done_iff understands.lawful
    (Dialogue.asks_exchange carried.issued _) Returned.json).mp plays
  obtain ⟨reply, serves, rfl⟩ := (understands.plays_exchange_iff carried).mp played
  cases serves with
  | @found _ _ document shown _ stored alike status holds =>
    obtain ⟨json, dumped⟩ := understands.dumps shown
    rw [understands.taken _ (by rw [status]; rfl) (by rw [status]; decide) holds, dumped]
    exact ⟨.document document, ⟨by rw [stored]; rfl, rfl⟩, .document alike dumped⟩
  | refused refuses holds explains =>
    obtain ⟨exception, thrown⟩ := understands.refused _
      (refuses_takeValue notOK_of_badRequest _ _) refuses.badRequest holds explains
    rw [thrown]
    exact ⟨.refused, ⟨by rw [refuses_get refuses]; rfl, rfl⟩, .refused exception⟩

/-- The status of the reply says whether the document exists. -/
theorem plays_existsDocument_iff {result : Except Fault Returned} :
    Dialogue.Plays (policy.Responds env connectData) (conduct env .base connectData
        ((Call.existsDocument name handle).program env)) documents result after ↔
      ∃ reply, policy.Serves env documents (.head name handle.key) reply after ∧
        result = .ok (.flag (reply.responseCode == statusOK)) := by
  have carried : (DocumentRequest.head name handle.key).Carried env policy
      (createREQUEST env .head ("/_api/document/" ++ getId name.bytes (handle.bytes name))) := by
    rw [getId_handle]
    exact .bare (Or.inr (Or.inl rfl))
  have reads : ∀ {reply : Transfer},
      policy.Serves env documents (.head name handle.key) reply after →
      ((Dispatch.base.channel env connectData).decode (createREQUEST env .head
        ("/_api/document/" ++ getId name.bytes (handle.bytes name))) reply >>= fun result =>
          pure (result.statusCode == statusOK)) = .ok (reply.responseCode == statusOK) := by
    intro reply serves
    cases serves with
    | present _ status empty =>
      exact probed understands.lawful _ empty (by rw [status]; decide)
    | absent _ status empty =>
      exact probed understands.lawful _ empty (by rw [status]; decide)
    | refused refuses => exact absurd refuses not_refuses_head
  rw [Call.program, ArangoDBCollectionAPI.existsDocument, plays_bind_done_iff understands.lawful
    (Dialogue.asks_exchange carried.issued _) Returned.flag]
  simp only [understands.plays_exchange_iff carried]
  constructor
  · rintro ⟨_, ⟨reply, serves, rfl⟩, rfl⟩
    exact ⟨reply, serves, by rw [reads serves]; rfl⟩
  · rintro ⟨reply, serves, rfl⟩
    exact ⟨_, ⟨reply, serves, rfl⟩, by rw [reads serves]; rfl⟩

theorem agrees_existsDocument :
    (Call.existsDocument name handle).Agrees env policy connectData := by
  intro documents result after plays
  obtain ⟨reply, serves, rfl⟩ := (plays_existsDocument_iff understands name handle).mp plays
  cases serves with
  | present stored status =>
    rw [status]
    exact ⟨.flag true, ⟨by rw [stored], rfl⟩, .flag true⟩
  | absent missing status =>
    rw [status]
    exact ⟨.flag false, ⟨by rw [missing]; rfl, rfl⟩, .flag false⟩
  | refused refuses => exact absurd refuses not_refuses_head

/-- A reply that is not refused says that the document has been deleted. -/
theorem plays_deleteDocument_iff {result : Except Fault Returned} :
    Dialogue.Plays (policy.Responds env connectData) (conduct env .base connectData
        ((Call.deleteDocument name handle).program env)) documents result after ↔
      ∃ reply, policy.Serves env documents (.delete name handle.key) reply after ∧
        result = ((Dispatch.base.channel env connectData).decode (createREQUEST env .delete
          ("/_api/document/" ++ getId name.bytes (handle.bytes name))) reply >>=
            demand env badRequest "Error when try remove record: ").map fun _ => .flag true := by
  have carried : (DocumentRequest.delete name handle.key).Carried env policy
      (createREQUEST env .delete ("/_api/document/" ++ getId name.bytes (handle.bytes name))) := by
    rw [getId_handle]
    exact .bare (Or.inr (Or.inr rfl))
  have demands := Dialogue.asks_exchange carried.issued
    (demand env badRequest "Error when try remove record: ")
  have shape : (Call.deleteDocument name handle).program env = (Dialogue.exchange _ _).bind
      fun _ => .done (.flag true) := Dialogue.bind_assoc _ _ _
  rw [shape, plays_bind_done_iff understands.lawful demands fun _ => Returned.flag true]
  simp only [understands.plays_exchange_iff carried]
  constructor
  · rintro ⟨_, ⟨reply, serves, rfl⟩, rfl⟩
    exact ⟨reply, serves, rfl⟩
  · rintro ⟨reply, serves, rfl⟩
    exact ⟨_, ⟨reply, serves, rfl⟩, rfl⟩

theorem agrees_deleteDocument :
    (Call.deleteDocument name handle).Agrees env policy connectData := by
  intro documents result after plays
  obtain ⟨reply, serves, rfl⟩ := (plays_deleteDocument_iff understands name handle).mp plays
  cases serves with
  | deleted stored status holds =>
    rw [understands.demanded _ status holds]
    refine ⟨.flag true, ?_, .flag true⟩
    rw [Call.Does, if_pos stored]
    exact ⟨rfl, rfl⟩
  | refused refuses holds explains =>
    have missing : ¬ (documents.find name handle.key).isSome = true := by
      rw [refuses_delete refuses]
      exact Bool.false_ne_true
    obtain ⟨exception, thrown⟩ := understands.refused _
      (refuses_demand (fun _ bad => bad) _) refuses.badRequest holds explains
    rw [thrown]
    refine ⟨.refused, ?_, .refused exception⟩
    rw [Call.Does, if_neg missing]
    exact ⟨rfl, rfl⟩

/-- A document is posted as the server reads it. -/
theorem plays_createDocument_iff {jsonrec : Bytes} {data : Slice}
    (parsed : env.vpack.fromJson parseOptions jsonrec = .ok data)
    {result : Except Fault Returned} :
    Dialogue.Plays (policy.Responds env connectData) (conduct env .base connectData
        ((Call.createDocument name jsonrec).program env)) documents result after ↔
      ∃ reply, policy.Serves env documents (.post name (policy.seen env data)) reply after ∧
        result = (ArangoDBCollectionAPI.throwVelocypack env
          ((Dispatch.base.channel env connectData).decode (createREQUESTWith env .post
              ("/_api/document/" ++ name.bytes) data).eraseAccept reply >>=
            takeValue env badRequest "Error when try create record: " fun slice =>
              slice.get "_id" >>= Slice.copyString)).map .id :=
  understands.plays_writeDocument_iff parsed
    (DocumentRequest.carried_post understands.lawful name (understands.parses jsonrec data parsed))

theorem agrees_createDocument (jsonrec : Bytes) :
    (Call.createDocument name jsonrec).Agrees env policy connectData := by
  intro documents result after plays
  cases parsed : env.vpack.fromJson parseOptions jsonrec with
  | error exception =>
    obtain ⟨⟨thrown, rfl⟩, rfl⟩ := malformed_writeDocument parsed plays
    refine ⟨.refused, Or.inr ⟨fun data same => ?_, rfl, rfl⟩, .refused thrown⟩
    cases parsed.symm.trans same
  | ok data =>
    have alike := understands.alike ⟨data, understands.parses jsonrec data parsed⟩
    obtain ⟨reply, serves, rfl⟩ := (plays_createDocument_iff understands name parsed).mp plays
    cases serves with
    | @created _ _ key document _ _ admits keeps status holds called =>
      rw [understands.written _ status holds called]
      exact ⟨.written name key, Or.inl ⟨data, key, document, parsed,
        Documents.Admits.of_alike alike admits, keeps, rfl, rfl⟩, .written name key⟩
    | refused refuses holds explains =>
      obtain ⟨exception, thrown⟩ := understands.refused _
        (refuses_takeValue (fun _ bad => bad) _ _) refuses.badRequest holds explains
      rw [thrown]
      refine ⟨.refused, Or.inr ⟨fun other same => ?_, rfl, rfl⟩, .refused exception⟩
      cases parsed.symm.trans same
      exact not_admits_of_alike alike (refuses_post refuses)

theorem agrees_updateDocument (jsonrec : Bytes) :
    (Call.updateDocument name handle jsonrec).Agrees env policy connectData := by
  intro documents result after plays
  cases parsed : env.vpack.fromJson parseOptions jsonrec with
  | error exception =>
    obtain ⟨⟨thrown, rfl⟩, rfl⟩ := malformed_writeDocument parsed plays
    refine ⟨.refused, Or.inr ⟨fun data same => ?_, rfl, rfl⟩, .refused thrown⟩
    cases parsed.symm.trans same
  | ok data =>
    have json := understands.parses jsonrec data parsed
    have alike := understands.alike ⟨data, json⟩
    obtain ⟨reply, serves, rfl⟩ := (understands.plays_writeDocument_iff parsed
      (DocumentRequest.carried_put understands.lawful name handle json)).mp plays
    cases serves with
    | @replaced _ _ _ document _ _ stored object keeps status holds called =>
      rw [understands.written _ status holds called]
      exact ⟨.written name handle.key,
        Or.inl ⟨data, document, parsed, alike.isObject.symm.trans object, stored, keeps, rfl, rfl⟩,
        .written name handle.key⟩
    | refused refuses holds explains =>
      obtain ⟨exception, thrown⟩ := understands.refused _
        (refuses_takeValue (fun _ bad => bad) _ _) refuses.badRequest holds explains
      rw [thrown]
      refine ⟨.refused, Or.inr ⟨fun other same => ?_, rfl, rfl⟩, .refused exception⟩
      cases parsed.symm.trans same
      rw [← alike.isObject]
      exact (refuses_put refuses).imp_left alike.unfit

theorem agrees_removeByKeys (handles : List Handle) :
    (Call.removeByKeys name handles).Agrees env policy connectData := by
  intro documents result after plays
  have keys : ((handles.map (Handle.bytes name)).map fun id =>
        Slice.string (getKey name.bytes id)) =
      (handles.map Handle.key).map fun key => Slice.string key.bytes := by
    simp only [List.map_map]
    refine congrArg (List.map · handles) ?_
    funext handle
    exact congrArg Slice.string (getKey_handle name handle)
  have carried := DocumentRequest.carried_removeByKeys understands name (handles.map Handle.key)
  rw [Call.program, ArangoDBCollectionAPI.removeByKeys, keys, exchangeQuery_eq] at plays
  obtain ⟨taken, exchanged, rfl⟩ := (plays_bind_done_iff understands.lawful
    (Dialogue.asks_exchange carried.issued _) _).mp plays
  obtain ⟨reply, serves, rfl⟩ := (understands.plays_exchange_iff carried).mp exchanged
  cases serves with
  | removed collection erases status holds removed ignored =>
    rw [Catalogue.eraseEach_eq] at erases
    cases erases
    rw [understands.taken _ (by rw [status]; rfl) (by rw [status]; decide) holds, removed, ok_bind,
      ignored]
    refine ⟨.counts _ _, ?_, .counts _ _⟩
    simp only [Call.Does, if_pos collection, and_self]
  | refused refuses holds explains =>
    have missing : ¬ (documents name).isSome = true := by
      rw [refuses_removeByKeys refuses]
      exact Bool.false_ne_true
    obtain ⟨exception, thrown⟩ := understands.refused _
      (refuses_takeValue (fun _ bad => bad) _ _) refuses.badRequest holds explains
    rw [thrown]
    refine ⟨.refused, ?_, .refused exception⟩
    simp only [Call.Does, if_neg missing, and_self]

/-- Every call ends as the map says. -/
theorem agrees_call (call : Call) : call.Agrees env policy connectData := by
  cases call with
  | createDocument name jsonrec => exact agrees_createDocument understands name jsonrec
  | readDocument name handle => exact agrees_readDocument understands name handle
  | updateDocument name handle jsonrec =>
    exact agrees_updateDocument understands name handle jsonrec
  | deleteDocument name handle => exact agrees_deleteDocument understands name handle
  | existsDocument name handle => exact agrees_existsDocument understands name handle
  | removeByKeys name handles => exact agrees_removeByKeys understands name handles

omit understands in
/-- Every call ends, whatever it is replied. -/
theorem complete_call (call : Call) :
    (conduct env .base connectData (call.program env)).Complete := by
  have writes : ∀ verb path jsonrec errorText identifier, (writeDocument env
      ArangoDBCollectionAPI.title 11 verb path jsonrec errorText identifier).Complete := by
    intro verb path jsonrec errorText identifier
    rw [writeDocument_eq]
    refine Dialogue.Complete.rescue ?_ fun fault => ?_
    · exact (Dialogue.complete_ofExcept _).bind fun _ => Dialogue.complete_exchange _ _
    · cases fault <;> trivial
  refine complete_conduct env ?_ .base connectData
  cases call with
  | createDocument name jsonrec => exact (writes _ _ _ _ _).bind_done _
  | readDocument name handle => exact (Dialogue.complete_exchange _ _).bind_done _
  | updateDocument name handle jsonrec => exact (writes _ _ _ _ _).bind_done _
  | deleteDocument name handle =>
    exact ((Dialogue.complete_exchange _ _).bind_done fun _ => true).bind_done _
  | existsDocument name handle => exact (Dialogue.complete_exchange _ _).bind_done _
  | removeByKeys name handles =>
    rw [Call.program, ArangoDBCollectionAPI.removeByKeys, exchangeQuery_eq]
    exact (Dialogue.complete_exchange _ _).bind_done _

/-- Calls that are made one after the other, of a server with any documents, end when they are
answered. They end as the map says, and leave the documents that the map says. -/
theorem documents_refine (documents : Documents) (calls : List Call) :
    let programs := calls.map fun call => conduct env .base connectData (call.program env)
    (∀ peer : Documents → Transmission → Transfer → Documents → Prop,
      (∀ documents sent, ∃ reply after, peer documents sent reply after) →
      ∃ results final, Dialogue.PlaysAll peer programs documents results final) ∧
    ∀ results final,
      Dialogue.PlaysAll (policy.Responds env connectData) programs documents results final →
      ∃ answers, Dialogue.DoesAll (Call.Does env policy) calls documents answers final ∧
        List.Forall₂ (Answer.Agrees env) answers results := by
  intro programs
  refine ⟨fun peer responsive => Dialogue.exists_playsAll (fun program member => ?_) responsive
    documents, fun results final plays => plays.refines fun call => agrees_call understands call⟩
  obtain ⟨call, _, rfl⟩ := List.mem_map.mp member
  exact complete_call call

section

variable {vpack : Velocypack} {keeps : CollectionName → DocumentKey → Slice → JsonValue → Prop}

omit understands

/-- A server that reads bodies with the library of the client reads the values that are sent. -/
theorem Policy.seen_sliceAt (lawful : vpack.Lawful) {value : Slice}
    (represented : value.Represented) :
    Policy.seen ⟨fun body => some (vpack.sliceAt body), keeps⟩ ⟨vpack, true, true, [], false⟩
      value = value := by
  have read := lawful.sliceAt_build value represented []
  rw [List.append_nil] at read
  exact read

theorem Policy.understands_sliceAt (lawful : vpack.Lawful)
    (dumps : ∀ value : JsonValue, ∃ json, vpack.toJson dumpOptions value = .ok json)
    (parses : ∀ jsonrec data, vpack.fromJson parseOptions jsonrec = .ok data → data.Json) :
    Policy.Understands ⟨fun body => some (vpack.sliceAt body), keeps⟩
      ⟨vpack, true, true, [], false⟩ where
  lawful := lawful
  dumps := dumps
  parses := parses
  reads value body formed := by
    cases formed
    have read := lawful.sliceAt_build value value.2.represented []
    rw [List.append_nil] at read
    exact ⟨value, congrArg some read, value.2.alike⟩

/-- A server that reads what the printing library builds understands a client that sends it. -/
theorem understands_printing {texts : List (Bytes × Slice)}
    (json : ∀ entry ∈ texts, entry.2.Json) :
    Policy.Understands ⟨fun body => some ((Velocypack.printing texts).sliceAt body), keeps⟩
      ⟨.printing texts, true, true, [], false⟩ := by
  refine Policy.understands_sliceAt
    (Velocypack.printing_lawful texts fun entry listed => (json entry listed).represented)
    (fun value => ⟨_, rfl⟩) fun jsonrec data parsed => ?_
  simp only [Velocypack.printing, Velocypack.simple] at parsed
  split at parsed
  · rename_i entry found
    cases parsed
    exact json entry (List.mem_of_find?_eq_some found)
  · cases parsed

end

omit understands in
/-- In an empty collection a document with a fraction is created, it is there, it is deleted, and it
is not there any more. -/
theorem documents_refine_created :
    let name : CollectionName := ⟨"c", by decide, List.all_eq_true.mp rfl⟩
    let key : DocumentKey := ⟨"k", by decide, List.all_eq_true.mp rfl, by decide, by decide⟩
    let jsonrec : Bytes := "\x7b\"_key\": \"k\", \"size\": 1.5\x7d"
    let data : Slice := .object [("_key", .string "k"), ("size", .double 0x3ff8000000000000)]
    let policy : Policy := ⟨fun body => some ((Velocypack.printing [(jsonrec, data)]).sliceAt body),
      fun _ _ data document => document = data⟩
    let env : Env := ⟨.printing [(jsonrec, data)], true, true, [], false⟩
    let documents : Documents := fun other => if other = name then some fun _ => none else none
    let calls : List Call := [.createDocument name jsonrec, .existsDocument name (.full key),
      .deleteDocument name (.bare key), .existsDocument name (.bare key)]
    let results : List (Except Fault Returned) :=
      [.ok (.id "c/k"), .ok (.flag true), .ok (.flag true), .ok (.flag false)]
    ∃ final answers,
      Dialogue.PlaysAll (policy.Responds env .default)
        (calls.map fun call => conduct env .base .default (call.program env)) documents results
        final ∧
      Dialogue.DoesAll (Call.Does env policy) calls documents answers final ∧
      List.Forall₂ (Answer.Agrees env) answers results := by
  intro name key jsonrec data policy env documents calls results
  have json : data.Json := by simp +decide [data]
  have understands : policy.Understands env := understands_printing (fun entry listed => by
    rcases List.mem_singleton.mp listed with rfl
    exact json)
  have parsed : env.vpack.fromJson parseOptions jsonrec = .ok data :=
    Velocypack.printing_fromJson parseOptions jsonrec data []
  let stored := documents.put name key ⟨data, json⟩
  let answer : JsonValue := ⟨.object [("_id", .string "c/k")], by simp +decide⟩
  have collection : (documents name).isSome = true := by
    show Option.isSome (if name = name then _ else _) = true
    rw [if_pos rfl]
    rfl
  have there : stored.find name key = some ⟨data, json⟩ :=
    Catalogue.find_put name key _ collection
  have created : Dialogue.Plays (policy.Responds env .default) (conduct env .base .default
      ((Call.createDocument name jsonrec).program env)) documents (.ok (.id "c/k")) stored := by
    have seen : policy.seen env data = data :=
      Policy.seen_sliceAt understands.lawful json.represented
    have keeps : policy.keeps name key (policy.seen env data) ⟨data, json⟩ := seen.symm
    have admits : documents.Admits name (policy.seen env data) key := by
      rw [seen]
      refine ⟨collection, ⟨_, rfl, Or.inl List.mem_cons_self⟩, ?_⟩
      show Option.bind (if name = name then _ else _) _ = none
      rw [if_pos rfl]
      rfl
    have holds : Transfer.Holds env ⟨0, 201, [], [env.vpack.build answer]⟩ answer :=
      holds_build understands.lawful 0 201 answer.2.represented
    have serves : policy.Serves env documents (.post name (policy.seen env data))
        ⟨0, 201, [], [env.vpack.build answer]⟩ stored :=
      .created admits keeps (Or.inl rfl) holds rfl
    refine (plays_createDocument_iff understands name parsed).mpr ⟨_, serves, ?_⟩
    rw [understands.written _ (Or.inl rfl) holds rfl]
    rfl
  have here : Dialogue.Plays (policy.Responds env .default) (conduct env .base .default
      ((Call.existsDocument name (.full key)).program env)) stored (.ok (.flag true)) stored :=
    (plays_existsDocument_iff understands name (.full key)).mpr
      ⟨⟨0, 200, [], []⟩, .present (by rw [Handle.key, there]; rfl) rfl rfl, rfl⟩
  have deleted : Dialogue.Plays (policy.Responds env .default) (conduct env .base .default
      ((Call.deleteDocument name (.bare key)).program env)) stored (.ok (.flag true))
      (stored.erase name key) := by
    refine (plays_deleteDocument_iff understands name (.bare key)).mpr
      ⟨⟨0, 200, [], []⟩, .deleted (by rw [Handle.key, there]; rfl) (Or.inl rfl) (Or.inl rfl), ?_⟩
    rw [understands.demanded _ (Or.inl rfl) (Or.inl rfl)]
    rfl
  have gone : Dialogue.Plays (policy.Responds env .default) (conduct env .base .default
      ((Call.existsDocument name (.bare key)).program env)) (stored.erase name key)
      (.ok (.flag false)) (stored.erase name key) :=
    (plays_existsDocument_iff understands name (.bare key)).mpr
      ⟨⟨0, 404, [], []⟩,
        .absent (by rw [Handle.key, Catalogue.find_erase, if_pos rfl]) rfl rfl, rfl⟩
  obtain ⟨answers, does, agrees⟩ := (documents_refine understands documents calls).2 results _
    (.cons created (.cons here (.cons deleted (.cons gone (.nil _)))))
  exact ⟨_, answers, .cons created (.cons here (.cons deleted (.cons gone (.nil _)))), does, agrees⟩

end ArangoCpp
