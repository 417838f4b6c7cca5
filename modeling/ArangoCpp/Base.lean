/-
This file translates `ArangoDBAPIBase`, the common base of the three API classes: how an
object sends a request and checks the response, how it is connected and reset, and how
document handles are formed.

The operations of the classes are programs over the virtual function `sendREQUEST`: they put
a message to it and are told the response or a fault. What the function does, in the base class
and in the class that overrides it, is a dialogue with the server, in which a transmission goes
out and a transfer comes back. `conduct` joins the two.

The pool hands out request objects that have been used before. For the messages that the
operations issue this makes no difference, so that `sendREQUEST` is a channel: it
encodes a message as a transmission and decodes a transfer as a response.
-/

import ArangoCpp.Channel
import ArangoCpp.Connection
import ArangoCpp.Curl

namespace ArangoCpp

/-- A program over `sendREQUEST`. -/
abbrev Api := Dialogue HttpMessage (Except Fault HttpMessage) Fault

/-- A dialogue with the server. -/
abbrev Wire := Dialogue Transmission Transfer Fault

/-- A call of the virtual function `sendREQUEST`. -/
def sendREQUEST (request : HttpMessage) : Api HttpMessage := .send request

variable (env : Env)

/-! ### Requests -/

def createREQUEST (verb : RestVerb) (path : Bytes) : HttpMessage :=
  .createRequest env verb path ∅

/-- The request that `addVPack` makes of a new one, given the slice of a builder. -/
def createREQUESTWith (verb : RestVerb) (path : Bytes) (query : Slice) : HttpMessage :=
  { createREQUEST env verb path with
    payload := (Buffer.empty env).append env (env.vpack.build query)
    payloadLength := (env.vpack.build query).length }

/-- `header.meta.erase("accept")`. -/
def HttpMessage.eraseAccept (message : HttpMessage) : HttpMessage :=
  { message with header := message.header.eraseMeta fuAcceptKey }

/-- `ARANGO_ERROR_THROW` of the slices of a response. -/
def HttpMessage.errorThrow {Value : Type} (message : HttpMessage) (text : Bytes) :
    Except Fault Value := do
  let slices ← (message.slices env).1
  arangoErrorThrow env slices text

variable {env}

@[simp] theorem createREQUEST_payload (verb : RestVerb) (path : Bytes) :
    (createREQUEST env verb path).payload = Buffer.empty env := by
  unfold createREQUEST HttpMessage.createRequest HttpMessage.new HttpMessage.setContentType
  split <;> rfl

@[simp] theorem createREQUEST_payloadLength (verb : RestVerb) (path : Bytes) :
    (createREQUEST env verb path).payloadLength = 0 := by
  unfold createREQUEST HttpMessage.createRequest HttpMessage.new HttpMessage.setContentType
  split <;> rfl

@[simp] theorem createREQUEST_sliceStarts (verb : RestVerb) (path : Bytes) :
    (createREQUEST env verb path).sliceStarts = [] := by
  unfold createREQUEST HttpMessage.createRequest HttpMessage.new HttpMessage.setContentType
  split <;> rfl

@[simp] theorem createREQUEST_restVerb (verb : RestVerb) (path : Bytes) :
    (createREQUEST env verb path).header.restVerb = verb := rfl

/-- Adding a value to a new request does not fail. -/
theorem addVPack_createREQUEST (verb : RestVerb) (path : Bytes) (query : Slice) :
    (createREQUEST env verb path).addVPack env (env.vpack.build query) =
      .ok (createREQUESTWith env verb path query) := by
  have kept : ((Buffer.empty env).append env (env.vpack.build query)).resetTo
      (0 + (env.vpack.build query).length) = _ :=
    HttpMessage.mem_append_resetTo (Buffer.empty env) (env.vpack.build query)
  simp only [HttpMessage.addVPack, createREQUEST_payload, createREQUEST_payloadLength, kept,
    ok_bind]
  simp [createREQUESTWith, pure, Except.pure]

/-- The messages that the operations issue: what their verb asks for, and at most one value. -/
structure HttpMessage.Issued (env : Env) (message : HttpMessage) : Prop extends
    message.Issuable where
  holds : message.payloadSize = 0 ∨ ∃ value, message.Holds env value

theorem issued_createREQUEST {verb : RestVerb} (path : Bytes)
    (bare : verb = .get ∨ verb = .head ∨ verb = .delete ∨ verb = .put) :
    (createREQUEST env verb path).Issued env where
  lengthKept := by simp [Buffer.empty]
  verb := by rcases bare with rfl | rfl | rfl | rfl <;> simp [HttpMessage.payloadSize]
  holds := Or.inl (by simp [HttpMessage.payloadSize])

theorem holds_createREQUESTWith (verb : RestVerb) (path : Bytes) {query : Slice}
    (represented : query.Represented) :
    (createREQUESTWith env verb path query).Holds env query where
  represented := represented
  bytes := by simp [createREQUESTWith, Buffer.append, Buffer.empty]
  length := rfl
  starts := createREQUEST_sliceStarts verb path

theorem issued_createREQUESTWith (lawful : env.vpack.Lawful) {verb : RestVerb} (path : Bytes)
    {query : Slice} (represented : query.Represented)
    (loaded : verb = .post ∨ verb = .put ∨ verb = .patch) :
    (createREQUESTWith env verb path query).Issued env where
  lengthKept := by simp [createREQUESTWith, Buffer.append, Buffer.empty]
  verb := by
    rcases loaded with rfl | rfl | rfl
    · exact fun none => lawful.build_ne_nil query represented (List.eq_nil_of_length_eq_zero none)
    · trivial
    · trivial
  holds := Or.inr ⟨query, holds_createREQUESTWith verb path represented⟩

theorem HttpMessage.Holds.eraseAccept {message : HttpMessage} {value : Slice}
    (holds : message.Holds env value) : message.eraseAccept.Holds env value :=
  ⟨holds.represented, holds.bytes, holds.length, holds.starts⟩

theorem HttpMessage.Issued.eraseAccept {message : HttpMessage} (issued : message.Issued env) :
    message.eraseAccept.Issued env where
  lengthKept := issued.lengthKept
  verb := issued.verb
  holds := by
    rcases issued.holds with bare | ⟨value, holds⟩
    · exact Or.inl bare
    · exact Or.inr ⟨value, holds.eraseAccept⟩

/-- The payload of an issued message becomes text unless the library refuses to dump it. -/
theorem HttpMessage.Issued.payloadAsString (lawful : env.vpack.Lawful) {message : HttpMessage}
    (issued : message.Issued env) {fault : Fault}
    (fails : message.payloadAsString env = .error fault) :
    ∃ exception, fault = .velocypack exception := by
  unfold HttpMessage.payloadAsString at fails
  split at fails
  · cases fails
  · rename_i loaded
    rcases issued.holds with bare | ⟨value, holds⟩
    · exact absurd bare loaded
    · split at fails
      · rw [(holds.reads lawful).front, ok_bind] at fails
        cases dumped : env.vpack.toJson dumpOptions value with
        | error exception =>
          rw [dumped] at fails
          cases fails
          exact ⟨exception, rfl⟩
        | ok json =>
          rw [dumped] at fails
          cases fails
      · cases fails

/-! ### Sending a request -/

variable (env)

/-- What the debug log shows of the body of a message, when there is one. -/
def logged (message : HttpMessage) : Except Fault Bytes :=
  if env.debug then message.payloadAsString env else .ok []

/-- What `sendREQUEST` makes of a response before it returns it. -/
def checkResponse (title url : Bytes) (result : HttpMessage) : Except Fault HttpMessage := do
  let _ ← logged env result
  if !result.isContentTypeVPack then arangoThrow title 3 "Illegal content type"
  else if result.statusCode = 0 then arangoThrow title 2 ("Connections error to " ++ url)
  else return result

/-- What the implementations of `sendREQUEST` have in common, given the title of their exceptions,
the URL of the request, and the object that the pool hands out. -/
def sendREQUESTWith (title url : Bytes) (user : ArangoDBUser) (curlObject : RequestCurlObject)
    (rq : HttpMessage) : Wire HttpMessage := do
  let _ ← .ofExcept (logged env rq)
  let curlObject := curlObject.setConnectData user.name user.password
  let (curlObject, prepared) := curlObject.prepare env url rq
  let _ ← .ofExcept prepared
  let transfer ← .ask curlObject.options.transmission .done
  let result ← .ofExcept ((curlObject.perform transfer).getResponse env)
  .ofExcept (checkResponse env title url result)

/-- `ArangoDBAPIBase::sendREQUEST`. -/
def ArangoDBAPIBase.sendREQUEST (connectData : ArangoDBConnection)
    (curlObject : RequestCurlObject) (rq : HttpMessage) : Wire HttpMessage :=
  sendREQUESTWith env "ArangoDB" (connectData.fullURL rq.header.path) connectData.user
    curlObject rq

/-- `ArangoDBUsersAPI::sendREQUEST`, which leaves the database out of the URL. -/
def ArangoDBUsersAPI.sendREQUEST (connectData : ArangoDBConnection)
    (curlObject : RequestCurlObject) (rq : HttpMessage) : Wire HttpMessage :=
  sendREQUESTWith env "ArangoDBAPIBase" (connectData.serverUrl ++ rq.header.path)
    connectData.user curlObject rq

/-- Which implementation a call of the virtual function reaches. -/
inductive Dispatch : Type where
  | base
  | users
  deriving DecidableEq, Repr

namespace Dispatch

def title : Dispatch → Bytes
  | base => "ArangoDB"
  | users => "ArangoDBAPIBase"

def url (connectData : ArangoDBConnection) (path : Bytes) : Dispatch → Bytes
  | base => connectData.fullURL path
  | users => connectData.serverUrl ++ path

def sendREQUEST (connectData : ArangoDBConnection) (curlObject : RequestCurlObject)
    (rq : HttpMessage) : Dispatch → Wire HttpMessage
  | base => ArangoDBAPIBase.sendREQUEST env connectData curlObject rq
  | users => ArangoDBUsersAPI.sendREQUEST env connectData curlObject rq

end Dispatch

/-- What `sendREQUESTWith` does, as a channel. -/
def sendChannel (title : Bytes) (url : Bytes → Bytes) (user : ArangoDBUser) :
    Dialogue.Channel HttpMessage HttpMessage Transmission Transfer Fault where
  encode rq := do
    let _ ← logged env rq
    ((RequestCurlObject.new.setConnectData user.name user.password).sendRequest env
      (url rq.header.path) rq ⟨0, 0, [], []⟩).2
  decode rq transfer := do
    let result ← RequestCurlObject.respond env transfer
    checkResponse env title (url rq.header.path) result

/-- `sendREQUEST` as a channel. -/
def Dispatch.channel (connectData : ArangoDBConnection) (dispatch : Dispatch) :
    Dialogue.Channel HttpMessage HttpMessage Transmission Transfer Fault :=
  sendChannel env dispatch.title (fun path => dispatch.url connectData path) connectData.user

variable {env}

/-- Whatever the object from the pool has been used for, `sendREQUESTWith` sends what the channel
encodes and returns what the channel decodes. -/
theorem attempt_sendREQUESTWith (lawful : env.vpack.Lawful) (title : Bytes) (url : Bytes → Bytes)
    (user : ArangoDBUser) (curlObject : RequestCurlObject) {rq : HttpMessage}
    (issuable : rq.Issuable) :
    (sendREQUESTWith env title (url rq.header.path) user curlObject rq).attempt =
      (sendChannel env title url user).use rq := by
  let credentials (object : RequestCurlObject) : RequestCurlObject :=
    object.setConnectData user.name user.password
  have alike : ((credentials curlObject).sendRequest env (url rq.header.path) rq
        ⟨0, 0, [], []⟩).2 =
      ((credentials .new).sendRequest env (url rq.header.path) rq ⟨0, 0, [], []⟩).2 :=
    RequestCurlObject.sendRequest_congr lawful issuable _ _ rfl rfl
  have answered := fun transfer => @RequestCurlObject.getResponse_prepare env
    (url rq.header.path) rq transfer (credentials curlObject)
  rw [RequestCurlObject.sendRequest_snd] at alike
  simp only [sendREQUESTWith, Dialogue.Channel.use, sendChannel]
  cases shown : logged env rq with
  | error fault => rfl
  | ok line =>
    simp only [ok_bind]
    rw [← alike]
    simp only [credentials] at answered ⊢
    rcases prepared : RequestCurlObject.prepare env (url rq.header.path) rq
      (curlObject.setConnectData user.name user.password) with ⟨object, _ | ⟨⟨⟩⟩⟩
    · rfl
    · rw [prepared] at answered
      refine congrArg (Dialogue.ask _) (funext fun transfer => ?_)
      show Dialogue.attempt ((Dialogue.ofExcept _).bind fun result =>
        Dialogue.ofExcept (checkResponse env title (url rq.header.path) result)) = _
      rw [Dialogue.ofExcept_bind_ofExcept, Dialogue.attempt_ofExcept, ← answered transfer]

theorem attempt_sendREQUEST (lawful : env.vpack.Lawful) (connectData : ArangoDBConnection)
    (curlObject : RequestCurlObject) {rq : HttpMessage} (issuable : rq.Issuable)
    (dispatch : Dispatch) :
    (dispatch.sendREQUEST env connectData curlObject rq).attempt =
      (dispatch.channel env connectData).use rq := by
  cases dispatch with
  | base => exact attempt_sendREQUESTWith lawful _ _ connectData.user curlObject issuable
  | users => exact attempt_sendREQUESTWith lawful _ _ connectData.user curlObject issuable

/-- What is sent goes to the URL and carries the credentials of the connection. -/
theorem encode_eq_ok {connectData : ArangoDBConnection} {dispatch : Dispatch} {rq : HttpMessage}
    {sent : Transmission} (encoded : (dispatch.channel env connectData).encode rq = .ok sent) :
    sent.url = dispatch.url connectData rq.header.path ∧
      sent.username = connectData.user.name ∧ sent.password = connectData.user.password := by
  obtain ⟨_, _, encoded⟩ := bind_eq_ok_iff.mp encoded
  rw [RequestCurlObject.sendRequest_snd] at encoded
  rcases prepared : RequestCurlObject.prepare env (dispatch.url connectData rq.header.path) rq
    (RequestCurlObject.new.setConnectData connectData.user.name connectData.user.password) with
    ⟨object, _ | ⟨⟨⟩⟩⟩
  · rw [prepared] at encoded
    cases encoded
  · rw [prepared] at encoded
    cases encoded
    exact RequestCurlObject.prepare_ready prepared

/-- Issued messages are sent, unless the library refuses to dump what they carry. -/
theorem encode_eq_error (lawful : env.vpack.Lawful) {connectData : ArangoDBConnection}
    {dispatch : Dispatch} {rq : HttpMessage} (issued : rq.Issued env) {fault : Fault}
    (fails : (dispatch.channel env connectData).encode rq = .error fault) :
    ∃ exception, fault = .velocypack exception := by
  have dumped : rq.payloadAsString env = .error fault →
      ∃ exception, fault = .velocypack exception := issued.payloadAsString lawful
  simp only [Dispatch.channel, sendChannel] at fails
  cases shown : logged env rq with
  | error other =>
    rw [shown] at fails
    cases fails
    unfold logged at shown
    split at shown
    · exact dumped shown
    · cases shown
  | ok line =>
    rw [shown, ok_bind, RequestCurlObject.sendRequest_snd] at fails
    cases prepared : (RequestCurlObject.prepare env (dispatch.url connectData rq.header.path) rq
        (RequestCurlObject.new.setConnectData connectData.user.name
          connectData.user.password)).2 with
    | ok ended =>
      rw [prepared] at fails
      cases fails
    | error other =>
      rw [prepared] at fails
      cases fails
      have body := RequestCurlObject.requestBody_of_prepare issued.toIssuable prepared
      unfold RequestCurlObject.requestBody at body
      split at body
      · cases body
      · exact dumped body

/-- The server cannot be reached. -/
def unconnected : Transfer := ⟨7, 0, [], []⟩

theorem decode_unconnected (connectData : ArangoDBConnection) (dispatch : Dispatch)
    (rq : HttpMessage) :
    (dispatch.channel env connectData).decode rq unconnected =
      arangoThrow dispatch.title 2
        ("Connections error to " ++ dispatch.url connectData rq.header.path) := by
  obtain ⟨response, responds, vpack⟩ := @RequestCurlObject.respond_of_empty env unconnected rfl
  have answers := RequestCurlObject.answers_of_respond responds
  have bare : response.payloadSize = 0 := by
    rw [HttpMessage.payloadSize, answers.length, answers.empty rfl, List.length_nil]
  have shown : logged env response = .ok [] := by
    unfold logged HttpMessage.payloadAsString
    rw [if_pos bare]
    split <;> rfl
  have status : response.statusCode = 0 := answers.status
  show RequestCurlObject.respond env unconnected >>= _ = _
  rw [responds]
  simp [checkResponse, shown, vpack, status]

/-! ### The base class -/

variable (env)

/-- Carry out a program with a connection. The request object is a fresh one; by
`attempt_sendREQUEST` one that has been used would do as well. -/
def conduct {Value : Type} (dispatch : Dispatch) (connectData : ArangoDBConnection)
    (program : Api Value) : Wire Value :=
  program.via fun rq => (dispatch.sendREQUEST env connectData .new rq).attempt

/-- A sequence is carried out part by part. -/
theorem conduct_bind {Value Result : Type} (program : Api Value)
    (continuation : Value → Api Result) (dispatch : Dispatch) (connectData : ArangoDBConnection) :
    conduct env dispatch connectData (program.bind continuation) =
      (conduct env dispatch connectData program).bind fun value =>
        conduct env dispatch connectData (continuation value) :=
  Dialogue.via_bind _ program continuation

/-- A program that ends is carried out to its end. -/
theorem complete_conduct {Value : Type} {program : Api Value} (complete : program.Complete)
    (dispatch : Dispatch) (connectData : ArangoDBConnection) :
    (conduct env dispatch connectData program).Complete := by
  have sends : ∀ title url user curlObject rq,
      (sendREQUESTWith env title url user curlObject rq).Complete := by
    intro title url user curlObject rq
    refine (Dialogue.complete_ofExcept _).bind fun _ => ?_
    refine (Dialogue.complete_ofExcept _).bind fun _ => fun transfer => ?_
    exact (Dialogue.complete_ofExcept _).bind fun _ => Dialogue.complete_ofExcept _
  refine Dialogue.Complete.via (fun rq => Dialogue.Complete.attempt ?_) complete
  cases dispatch with
  | base => exact sends _ _ _ _ _
  | users => exact sends _ _ _ _ _

/-- `testConnection`: whether the server answers, and the error message. -/
def testConnection : Api (Bool × Bytes) :=
  Dialogue.rescue
    (fun
      | .arango exception => .done (false, exception.message)
      | .velocypack exception => .done (false, env.vpack.what exception)
      | fault => .raise fault) do
    let result ← sendREQUEST (createREQUEST env .get "/_api/version")
    .ofExcept do
      if result.statusCode ≠ statusOK then
        result.errorThrow env "An error occurs in ArangoDB server: "
      else
        let slice ← result.front env
        let version ← ofVpack (slice.get "version" >>= Slice.copyString)
        let server ← ofVpack (slice.get "server" >>= Slice.copyString)
        return (true, "The client is connected to the " ++ server ++ " server version " ++ version)

/-- The members of an API object that change. -/
structure ArangoDBAPIBase where
  connectData : ArangoDBConnection
  batchSize : Int32
  connectedMessage : Bytes

namespace ArangoDBAPIBase

/-- The members before the body of a constructor runs. -/
def initial : ArangoDBAPIBase := ⟨.default, 500, []⟩

/-- `resetDBConnection`. -/
def resetDBConnection (dispatch : Dispatch) (connectData : ArangoDBConnection)
    (api : ArangoDBAPIBase) : Wire ArangoDBAPIBase :=
  if !(api.connectData != connectData) then .done api
  else do
    let (_, connectedMessage) ← conduct env dispatch connectData (testConnection env)
    return { api with connectData, connectedMessage }

/-- The constructor. Until it has run, virtual calls reach the base class. -/
def construct (connectData : ArangoDBConnection) : Wire ArangoDBAPIBase :=
  initial.resetDBConnection env .base connectData

end ArangoDBAPIBase

/-- The root client: its connection, and the API object that it makes for it. -/
structure ArangoDBRootClient where
  rootData : ArangoDBConnection
  users : ArangoDBAPIBase

namespace ArangoDBRootClient

/-- `resetDBConnection` makes a new API object; the constructor does nothing else. -/
def resetDBConnection (connectData : ArangoDBConnection) : Wire ArangoDBRootClient := do
  let users ← ArangoDBAPIBase.construct env connectData
  return ⟨connectData, users⟩

end ArangoDBRootClient

/-! ### Document handles -/

/-- `getId`: the handle itself when the name and a slash occur in it. -/
def getId (collname key : Bytes) : Bytes :=
  if (Text.find (collname ++ text "/") key).isNone then collname ++ "/" ++ key else key

/-- `getKey`: when the name and a slash occur in the handle, the handle without as many bytes
at its front. -/
def getKey (collname id : Bytes) : Bytes :=
  let head := collname ++ text "/"
  if (Text.find head id).isSome then id.drop head.length else id

end ArangoCpp
