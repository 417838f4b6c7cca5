/-
This file says what the channel of `sendREQUEST` sends and what it accepts.

What is sent for an issued message is a function of the message, the connection and the
settings: the method is that of the verb, the body is there exactly when the message
carries a value, and nothing else of the request object shows. Conversely a transfer is
accepted when it has a status, when a response can be made of it, and when the debug log can
show the response; the text of the request makes no difference. The check of the content
type refuses nothing, since an empty response is marked as VelocyPack and any other has a
payload.
-/

import ArangoCpp.Base

namespace ArangoCpp

variable {env : Env}

/-! ### What is sent -/

/-- The method of a request. -/
def RestVerb.method : RestVerb → Bytes
  | post => "POST"
  | put => "PUT"
  | delete => "DELETE"
  | head => "HEAD"
  | patch => "PATCH"
  | options => "OPTIONS"
  | get | illegal => "GET"

/-- What is sent for an issued message whose body is formed. -/
def HttpMessage.transmission (env : Env) (dispatch : Dispatch) (connectData : ArangoDBConnection)
    (rq : HttpMessage) (body : Bytes) : Transmission where
  method := rq.header.restVerb.method
  url := dispatch.url connectData rq.header.path
  headers := RequestCurlObject.headerLines env rq
  username := connectData.user.name
  password := connectData.user.password
  body := if body = [] then none else some (some body)
  readsBody := rq.header.restVerb != .head

/-- A body that is set goes out, and POST is selected for it. -/
theorem transmission_setBody {body : Bytes} (nonempty : body ≠ []) (options : CurlOptions) :
    (RequestCurlObject.setBody body options).transmission =
      { { options with post := true }.transmission with body := some (some body) } := by
  have positive : body.length > 0 := List.length_pos_iff.mpr nonempty
  simp [RequestCurlObject.setBody, positive, CurlOptions.transmission,
    CurlOptions.setCopyPostFields, CurlOptions.setPostFieldSize, CurlOptions.sized]

theorem transmission_setBody_nil {options : CurlOptions} (unselected : options.post = false) :
    (RequestCurlObject.setBody [] options).transmission =
      { options.transmission with body := none } := by
  simp [RequestCurlObject.setBody, CurlOptions.transmission, unselected]

/-- An issued message is shown in the debug log, its body is formed, and it is sent. -/
theorem encode_issued (lawful : env.vpack.Lawful) (dispatch : Dispatch)
    (connectData : ArangoDBConnection) {rq : HttpMessage} (issued : rq.Issued env) :
    (dispatch.channel env connectData).encode rq = do
      let _ ← logged env rq
      let body ← RequestCurlObject.requestBody env rq
      return rq.transmission env dispatch connectData body := by
  have verb := issued.verb
  show (logged env rq >>= fun _ => (RequestCurlObject.sendRequest env _ rq ⟨0, 0, [], []⟩ _).2) = _
  refine congrArg (logged env rq >>= ·) (funext fun _ => ?_)
  rw [RequestCurlObject.sendRequest_snd]
  unfold RequestCurlObject.prepare
  cases formed : RequestCurlObject.requestBody env rq with
  | error fault =>
    cases chosen : rq.header.restVerb <;> rw [chosen] at verb <;>
      first | exact verb.elim | rfl
  | ok body =>
    have absent := RequestCurlObject.requestBody_eq_nil_iff lawful issued.toIssuable formed
    by_cases empty : body = []
    · cases chosen : rq.header.restVerb <;> rw [chosen] at verb
      case illegal => exact verb.elim
      case options => exact verb.elim
      case post => exact absurd (absent.mp empty) verb
      all_goals
        subst empty
        refine congrArg Except.ok ((transmission_setBody_nil rfl).trans ?_)
        simp only [HttpMessage.transmission, chosen]
        rfl
    · cases chosen : rq.header.restVerb <;> rw [chosen] at verb
      case illegal => exact verb.elim
      case options => exact verb.elim
      case get => exact absurd (absent.mpr verb) empty
      case head => exact absurd (absent.mpr verb) empty
      case delete => exact absurd (absent.mpr verb) empty
      all_goals
        refine congrArg Except.ok ((transmission_setBody empty _).trans ?_)
        simp only [HttpMessage.transmission, chosen, if_neg empty]
        rfl

/-- A request without a payload is sent as it is. -/
theorem encode_createREQUEST (lawful : env.vpack.Lawful) (dispatch : Dispatch)
    (connectData : ArangoDBConnection) {verb : RestVerb}
    (bare : verb = .get ∨ verb = .head ∨ verb = .delete ∨ verb = .put) (path : Bytes) :
    (dispatch.channel env connectData).encode (createREQUEST env verb path) =
      .ok ((createREQUEST env verb path).transmission env dispatch connectData []) := by
  have printed : (createREQUEST env verb path).payloadAsString env = .ok [] := by
    simp [HttpMessage.payloadAsString, HttpMessage.payloadSize]
  have shown : logged env (createREQUEST env verb path) = .ok [] := by
    rw [logged, printed, ite_self]
  have body : RequestCurlObject.requestBody env (createREQUEST env verb path) = .ok [] := by
    rw [RequestCurlObject.requestBody, printed, HttpMessage.payloadSize,
      createREQUEST_payloadLength, List.take_zero, ite_self]
  rw [encode_issued lawful dispatch connectData (issued_createREQUEST path bare), shown, ok_bind,
    body]
  rfl

/-- The text of a message that is read as one value is the value's JSON text. -/
theorem HttpMessage.Reads.payloadAsString {message : HttpMessage} {value : Slice}
    (reads : message.Reads env value) :
    message.payloadAsString env = ofVpack (env.vpack.toJson dumpOptions value) := by
  have length : message.payloadLength ≠ 0 := reads.payloadSize_ne_zero
  have vpack : message.isContentTypeVPack = true := by
    simp [HttpMessage.isContentTypeVPack, length]
  rw [HttpMessage.payloadAsString, if_neg reads.payloadSize_ne_zero, if_pos vpack, reads.front,
    ok_bind]

/-- The body that a value is sent as. -/
def valueBody (env : Env) (value : Slice) : Except Fault Bytes :=
  if env.useVelocypackPut then .ok (env.vpack.build value)
  else ofVpack (env.vpack.toJson dumpOptions value)

/-- What the debug log shows of a value. -/
def valueLine (env : Env) (value : Slice) : Except Fault Bytes :=
  if env.debug then ofVpack (env.vpack.toJson dumpOptions value) else .ok []

/-- A message with a value is sent with the value. -/
theorem encode_holds (lawful : env.vpack.Lawful) (dispatch : Dispatch)
    (connectData : ArangoDBConnection) {rq : HttpMessage} (issued : rq.Issued env) {value : Slice}
    (holds : rq.Holds env value) :
    (dispatch.channel env connectData).encode rq = do
      let _ ← valueLine env value
      let body ← valueBody env value
      return rq.transmission env dispatch connectData body := by
  have printed := (holds.reads lawful).payloadAsString
  have shown : logged env rq = valueLine env value := by rw [logged, printed, valueLine]
  have body : RequestCurlObject.requestBody env rq = valueBody env value := by
    rw [RequestCurlObject.requestBody, printed, valueBody, HttpMessage.payloadData,
      HttpMessage.payloadSize, issued.lengthKept, List.take_length, holds.bytes]
  rw [encode_issued lawful dispatch connectData issued, shown, body]

/-! ### What is accepted -/

/-- Every response is taken for VelocyPack. -/
theorem isContentTypeVPack_of_respond (lawful : env.vpack.Lawful) {transfer : Transfer}
    {response : HttpMessage} (responds : RequestCurlObject.respond env transfer = .ok response) :
    response.isContentTypeVPack = true := by
  have answers := RequestCurlObject.answers_of_respond responds
  by_cases empty : transfer.body.flatten = []
  · obtain ⟨other, same, vpack⟩ := @RequestCurlObject.respond_of_empty env transfer empty
    rw [responds] at same
    cases same
    exact vpack
  · have nonempty : response.payload.bytes ≠ [] := by
      rcases answers.payload with same | ⟨data, parsed, same⟩
      · rw [same]
        exact empty
      · rw [same]
        exact lawful.build_ne_nil data (lawful.represented _ _ data parsed)
    have length : response.payloadLength ≠ 0 := by
      rw [answers.length]
      exact fun none => nonempty (List.eq_nil_of_length_eq_zero none)
    simp [HttpMessage.isContentTypeVPack, length]

/-- The response that `sendREQUEST` returns for a transfer. -/
structure Transfer.Accepted (env : Env) (transfer : Transfer) (response : HttpMessage) :
    Prop where
  responds : RequestCurlObject.respond env transfer = .ok response
  shown : ∃ line, logged env response = .ok line
  received : response.statusCode ≠ 0

/-- A transfer is accepted or refused whatever the request was. -/
theorem decode_eq_ok_iff (lawful : env.vpack.Lawful) (dispatch : Dispatch)
    (connectData : ArangoDBConnection) (rq : HttpMessage) {transfer : Transfer}
    {response : HttpMessage} :
    (dispatch.channel env connectData).decode rq transfer = .ok response ↔
      transfer.Accepted env response := by
  constructor
  · intro decoded
    obtain ⟨result, responds, checked⟩ := bind_eq_ok_iff.mp decoded
    obtain ⟨line, shown, checked⟩ := bind_eq_ok_iff.mp checked
    split at checked
    · cases checked
    · split at checked
      · cases checked
      · rename_i received
        cases checked
        exact ⟨responds, ⟨line, shown⟩, received⟩
  · rintro ⟨responds, ⟨line, shown⟩, received⟩
    show RequestCurlObject.respond env transfer >>= _ = _
    rw [responds, ok_bind, checkResponse, shown, ok_bind,
      isContentTypeVPack_of_respond lawful responds]
    simp only [Bool.not_true, Bool.false_eq_true, if_false, if_neg received]
    rfl

/-- The fault that `sendREQUEST` stops with instead: the body is malformed, the debug log cannot
show the response, or there is no status. -/
inductive Transfer.Refused (env : Env) (transfer : Transfer) : Fault → Prop where
  | malformed {fault : Fault} (responds : RequestCurlObject.respond env transfer = .error fault) :
      Refused env transfer fault
  | unshown {response : HttpMessage} {fault : Fault}
      (responds : RequestCurlObject.respond env transfer = .ok response)
      (shown : logged env response = .error fault) : Refused env transfer fault
  | unreceived {response : HttpMessage} {exception : ArangoException}
      (responds : RequestCurlObject.respond env transfer = .ok response)
      (status : response.statusCode = 0) : Refused env transfer (.arango exception)

theorem refused_of_decode (lawful : env.vpack.Lawful) {dispatch : Dispatch}
    {connectData : ArangoDBConnection} {rq : HttpMessage} {transfer : Transfer} {fault : Fault}
    (fails : (dispatch.channel env connectData).decode rq transfer = .error fault) :
    transfer.Refused env fault := by
  have decoded : (RequestCurlObject.respond env transfer >>= checkResponse env dispatch.title
      (dispatch.url connectData rq.header.path)) = .error fault := fails
  cases responds : RequestCurlObject.respond env transfer with
  | error other =>
    rw [responds] at decoded
    cases decoded
    exact .malformed responds
  | ok response =>
    rw [responds, ok_bind, checkResponse] at decoded
    cases shown : logged env response with
    | error other =>
      rw [shown] at decoded
      cases decoded
      exact .unshown responds shown
    | ok line =>
      rw [shown, ok_bind, isContentTypeVPack_of_respond lawful responds] at decoded
      split at decoded
      · contradiction
      · split at decoded
        · rename_i status
          cases decoded
          exact .unreceived responds status
        · cases decoded

/-- What a program is told of a transfer. -/
inductive Transfer.Tells (env : Env) (transfer : Transfer) : Except Fault HttpMessage → Prop where
  | accepted {response : HttpMessage} (accepted : transfer.Accepted env response) :
      Tells env transfer (.ok response)
  | refused {fault : Fault} (refused : transfer.Refused env fault) :
      Tells env transfer (.error fault)

theorem tells_decode (lawful : env.vpack.Lawful) (dispatch : Dispatch)
    (connectData : ArangoDBConnection) (rq : HttpMessage) (transfer : Transfer) :
    transfer.Tells env ((dispatch.channel env connectData).decode rq transfer) := by
  cases decoded : (dispatch.channel env connectData).decode rq transfer with
  | error fault => exact .refused (refused_of_decode lawful decoded)
  | ok response => exact .accepted ((decode_eq_ok_iff lawful dispatch connectData rq).mp decoded)

theorem Transfer.Accepted.not_refused {transfer : Transfer} {response : HttpMessage}
    (accepted : transfer.Accepted env response) {fault : Fault} :
    ¬ transfer.Refused env fault := by
  intro refused
  cases refused with
  | malformed responds =>
    rw [accepted.responds] at responds
    cases responds
  | unshown responds shown =>
    obtain ⟨line, printed⟩ := accepted.shown
    rw [accepted.responds] at responds
    cases responds
    rw [printed] at shown
    cases shown
  | unreceived responds status =>
    rw [accepted.responds] at responds
    cases responds
    exact accepted.received status

theorem Transfer.Accepted.status {transfer : Transfer} {response : HttpMessage}
    (accepted : transfer.Accepted env response) :
    response.statusCode = transfer.responseCode :=
  (RequestCurlObject.answers_of_respond accepted.responds).status

theorem Transfer.Accepted.unique {transfer : Transfer} {first second : HttpMessage}
    (accepted : transfer.Accepted env first) (other : transfer.Accepted env second) :
    first = second := by
  have same := accepted.responds.symm.trans other.responds
  cases same
  rfl

/-- An accepted transfer tells its response. -/
theorem Transfer.Tells.eq_ok {transfer : Transfer} {told : Except Fault HttpMessage}
    (tells : transfer.Tells env told) {response : HttpMessage}
    (accepted : transfer.Accepted env response) : told = .ok response := by
  cases tells with
  | accepted other => rw [other.unique accepted]
  | refused refused => exact absurd refused accepted.not_refused

/-! ### Transfers that hold one value -/

/-- The response to a transfer before its body is looked at. -/
def Transfer.headed (env : Env) (transfer : Transfer) : HttpMessage :=
  (Detail.split (transfer.headers.flatMap (· ++ text ";")) ";").foldl
    (fun response header => RequestCurlObject.addHeader header response)
    { HttpMessage.createResponse env with
      header := { (HttpMessage.createResponse env).header with
        responseCode := transfer.responseCode } }

/-- What is made of a body: the value of a JSON text, or the bytes as they are. -/
theorem Transfer.respond_eq (transfer : Transfer) (nonempty : transfer.body.flatten ≠ []) :
    RequestCurlObject.respond env transfer =
      if (transfer.headed env).isContentTypeJson then do
        let data ← ofVpack (env.vpack.fromJson ⟨false, false⟩ transfer.body.flatten)
        let response ← (transfer.headed env).addVPack env (env.vpack.build data)
        return { response with
          header := response.header.addMeta fuContentTypeKey fuContentTypeVpack }
      else (transfer.headed env).addVPackBuffer
        ((Buffer.empty env).append env transfer.body.flatten) := by
  have full : transfer.body.flatten.length ≠ 0 := fun none =>
    nonempty (List.eq_nil_of_length_eq_zero none)
  unfold RequestCurlObject.respond RequestCurlObject.getResponse
  simp only [RequestCurlObject.perform_eq, RequestCurlObject.new, List.nil_append, if_pos full]
  rfl

/-- The message that a body goes into holds nothing yet. -/
theorem Transfer.headed_bare (transfer : Transfer) :
    (transfer.headed env).payload = Buffer.empty env ∧
      (transfer.headed env).payloadLength = 0 := by
  obtain ⟨«meta», headed⟩ := @RequestCurlObject.createResponse_headers env transfer.responseCode
    (Detail.split (transfer.headers.flatMap (· ++ text ";")) ";")
  rw [Transfer.headed, headed]
  exact ⟨rfl, rfl⟩

/-- Bytes are not looked at when they come in. -/
theorem Transfer.respond_vpack {transfer : Transfer}
    (type : (transfer.headed env).isContentTypeJson = false)
    (nonempty : transfer.body.flatten ≠ []) :
    ∃ response, RequestCurlObject.respond env transfer = .ok response ∧
      response.payload.bytes = transfer.body.flatten := by
  have room : ((Buffer.empty env).append env transfer.body.flatten).resetTo
      (0 + transfer.body.flatten.length) = _ :=
    HttpMessage.mem_append_resetTo (Buffer.empty env) transfer.body.flatten
  have exact : ((Buffer.empty env).append env transfer.body.flatten).bytes =
      transfer.body.flatten := List.nil_append _
  rw [transfer.respond_eq nonempty, if_neg (by rw [type]; exact Bool.false_ne_true)]
  simp only [HttpMessage.addVPackBuffer, exact, transfer.headed_bare.2, room, ok_bind]
  exact ⟨_, rfl, exact⟩

/-- A JSON text becomes the value that it is parsed as. -/
theorem Transfer.respond_json {transfer : Transfer}
    (type : (transfer.headed env).isContentTypeJson = true)
    (nonempty : transfer.body.flatten ≠ []) {data : Slice}
    (parsed : env.vpack.fromJson ⟨false, false⟩ transfer.body.flatten = .ok data) :
    ∃ response, RequestCurlObject.respond env transfer = .ok response ∧
      response.payload.bytes = env.vpack.build data := by
  have room : ((Buffer.empty env).append env (env.vpack.build data)).resetTo
      (0 + (env.vpack.build data).length) = _ :=
    HttpMessage.mem_append_resetTo (Buffer.empty env) (env.vpack.build data)
  rw [transfer.respond_eq nonempty, if_pos type, parsed]
  simp only [ofVpack_ok, HttpMessage.addVPack, ok_bind, transfer.headed_bare.1,
    transfer.headed_bare.2, room]
  exact ⟨_, rfl, List.nil_append _⟩

/-- The body of a transfer is one value: its JSON text when the headers say so, and its
VelocyPack bytes otherwise. -/
inductive Transfer.Holds (env : Env) (transfer : Transfer) (value : Slice) : Prop where
  | json (type : (transfer.headed env).isContentTypeJson = true)
      (nonempty : transfer.body.flatten ≠ [])
      (parsed : env.vpack.fromJson ⟨false, false⟩ transfer.body.flatten = .ok value)
  | vpack (type : (transfer.headed env).isContentTypeJson = false)
      (nonempty : transfer.body.flatten ≠ [])
      (complete : env.vpack.byteSize transfer.body.flatten = .ok transfer.body.flatten.length)
      (read : env.vpack.sliceAt transfer.body.flatten = value)

/-- The response to a transfer that holds one value is read as that value. -/
theorem Transfer.Holds.respond (lawful : env.vpack.Lawful) {transfer : Transfer} {value : Slice}
    (holds : transfer.Holds env value) :
    ∃ response, RequestCurlObject.respond env transfer = .ok response ∧
      response.Reads env value ∧ response.statusCode = transfer.responseCode := by
  cases holds with
  | json type nonempty parsed =>
    obtain ⟨response, responds, built⟩ := respond_json type nonempty parsed
    have answers := RequestCurlObject.answers_of_respond responds
    have filled : response.Holds env value :=
      ⟨lawful.represented _ _ value parsed, built,
        answers.length.trans (congrArg List.length built), answers.starts⟩
    exact ⟨response, responds, filled.reads lawful, answers.status⟩
  | vpack type nonempty complete read =>
    obtain ⟨response, responds, exact⟩ := respond_vpack type nonempty
    have answers := RequestCurlObject.answers_of_respond responds
    exact ⟨response, responds, ⟨exact ▸ nonempty, exact ▸ complete, exact ▸ read, answers.length,
      answers.starts⟩, answers.status⟩

/-- A transfer that holds one value is accepted when it has a status, unless the debug log is
to show the value and the library refuses to dump it. -/
theorem Transfer.Holds.accepted (lawful : env.vpack.Lawful) {transfer : Transfer} {value : Slice}
    (holds : transfer.Holds env value) (received : transfer.responseCode ≠ 0)
    (dumps : env.debug = true → ∃ json, env.vpack.toJson dumpOptions value = .ok json) :
    ∃ response, transfer.Accepted env response ∧ response.Reads env value := by
  obtain ⟨response, responds, reads, status⟩ := holds.respond lawful
  refine ⟨response, ⟨responds, ?_, status ▸ received⟩, reads⟩
  by_cases debug : env.debug = true
  · obtain ⟨json, dumped⟩ := dumps debug
    refine ⟨json, ?_⟩
    rw [logged, if_pos debug, reads.payloadAsString, dumped]
    rfl
  · exact ⟨[], if_neg debug⟩

/-- The bytes that are built for a value, without any header. -/
theorem holds_build (lawful : env.vpack.Lawful) (curlCode status : Nat) {value : Slice}
    (represented : value.Represented) :
    Transfer.Holds env ⟨curlCode, status, [], [env.vpack.build value]⟩ value := by
  have body : [env.vpack.build value].flatten = env.vpack.build value := by simp
  have size := lawful.byteSize_build value represented []
  have read := lawful.sliceAt_build value represented []
  rw [List.append_nil] at size read
  refine .vpack ?_ ?_ ?_ ?_
  · have unheaded : (Transfer.headed env ⟨curlCode, status, [], [env.vpack.build value]⟩).header =
        { (HttpMessage.createResponse env).header with responseCode := status } := rfl
    rw [HttpMessage.isContentTypeJson, unheaded]
    have different : fuContentTypeVpack ≠ fuContentTypeJson := by decide
    simp only [MessageHeader.contentTypeString, MessageHeader.metaByKey,
      HttpMessage.createResponse_contentType, Option.getD_some, different, decide_false]
  · exact body.symm ▸ lawful.build_ne_nil value represented
  · exact body.symm ▸ size
  · exact body.symm ▸ read

/-- A transfer without a body is accepted when it has a status, and there is nothing in it. -/
theorem accepted_of_empty {transfer : Transfer} (empty : transfer.body.flatten = [])
    (received : transfer.responseCode ≠ 0) :
    ∃ response, transfer.Accepted env response ∧ response.payload.bytes = [] ∧
      response.sliceStarts = [] := by
  obtain ⟨response, responds, _⟩ := @RequestCurlObject.respond_of_empty env transfer empty
  have answers := RequestCurlObject.answers_of_respond responds
  have bare : response.payloadSize = 0 := by
    rw [HttpMessage.payloadSize, answers.length, answers.empty empty, List.length_nil]
  have shown : logged env response = .ok [] := by
    rw [logged, HttpMessage.payloadAsString, if_pos bare, ite_self]
  exact ⟨response, ⟨responds, ⟨[], shown⟩, answers.status.symm ▸ received⟩,
    answers.empty empty, answers.starts⟩

end ArangoCpp
