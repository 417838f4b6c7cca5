/-
This file translates `RequestCurlObject`, the streaming request over one easy handle of
libcurl, and proves that a used object sends what a fresh one sends.

A handle keeps every option until it is set again, and an object is used for many requests.
What a transfer sends is therefore a function of all options as they stand when it is
performed. The options follow libcurl's documentation: `HTTPGET` selects the method GET and
clears `NOBODY`, `POST` selects POST and clears it too, `COPYPOSTFIELDS` copies as many bytes
as `POSTFIELDSIZE` says and selects POST, a body goes out only while POST is selected, and
`CUSTOMREQUEST` replaces the name of the method and nothing else.

`sendRequest` sets every option that the next transfer reads but two: the size and the
copy of the body are left alone when the message has no payload. They matter only while
POST is selected, and POST stays selected only for a message with a payload or for the verb
Post. Hence the result for the messages that the client issues, whose Posts all have one.
-/

import ArangoCpp.Detail
import ArangoCpp.Layout
import ArangoCpp.Message

namespace ArangoCpp

/-! ### The easy handle -/

/-- The options of an easy handle that the client sets for each request. -/
structure CurlOptions where
  /-- Whether POST is selected rather than GET. -/
  post : Bool
  noBody : Bool
  customRequest : Option Bytes
  httpHeader : List Bytes
  url : Bytes
  username : Bytes
  password : Bytes
  /-- `none` while the size is unset and the length of the C string counts. -/
  postFieldSize : Option Nat
  /-- The private copy of the body, `none` while there is none. -/
  copyPostFields : Option Bytes

/-- What a transfer puts on the wire, and whether it reads a body back. -/
structure Transmission where
  method : Bytes
  url : Bytes
  headers : List Bytes
  username : Bytes
  password : Bytes
  /-- The body; `some none` is a body that the read callback would have to supply. -/
  body : Option (Option Bytes)
  readsBody : Bool

namespace CurlOptions

/-- `curl_easy_init`. -/
def init : CurlOptions := ⟨false, false, none, [], [], [], [], none, none⟩

def setHttpGet (options : CurlOptions) : CurlOptions :=
  { options with post := false, noBody := false }

def setPost (options : CurlOptions) : CurlOptions := { options with post := true, noBody := false }

def setCustomRequest (method : Option Bytes) (options : CurlOptions) : CurlOptions :=
  { options with customRequest := method }

def setNoBody (options : CurlOptions) : CurlOptions := { options with noBody := true }

def setAuth (username password : Bytes) (options : CurlOptions) : CurlOptions :=
  { options with username, password }

def setPostFieldSize (size : Nat) (options : CurlOptions) : CurlOptions :=
  { options with postFieldSize := some size }

/-- The bytes of the body: as many as the size says, or up to the end of the C string. -/
def sized (options : CurlOptions) (data : Bytes) : Bytes :=
  match options.postFieldSize with
  | some size => data.take size
  | none => data.takeWhile (· ≠ 0)

def setCopyPostFields (data : Bytes) (options : CurlOptions) : CurlOptions :=
  { options with post := true, copyPostFields := some (options.sized data) }

/-- What `curl_easy_perform` sends under these options. -/
def transmission (options : CurlOptions) : Transmission where
  method := options.customRequest.getD
    (if options.noBody then "HEAD" else if options.post then "POST" else "GET")
  url := options.url
  headers := options.httpHeader
  username := options.username
  password := options.password
  body := if options.post then some (options.copyPostFields.map options.sized) else none
  readsBody := !options.noBody

end CurlOptions

/-- The outcome of a transfer: the result code of libcurl, the status of the last status line
received, zero if none, and the header lines and pieces of body in the order received. -/
structure Transfer where
  curlCode : Nat
  responseCode : Nat
  headers : List Bytes
  body : List Bytes

/-! ### The request object -/

/-- The members of `RequestCurlObject`. Its handle exists whenever the object does, since the
constructor throws otherwise. -/
structure RequestCurlObject where
  url : Bytes
  dbUser : Bytes
  dbPasswd : Bytes
  request : Option HttpMessage
  responseHeaders : Bytes
  responseBody : Bytes
  options : CurlOptions
  /-- What the handle reports as the status of the latest transfer. -/
  responseCode : Nat

namespace RequestCurlObject

variable (env : Env)

/-- The constructor. -/
def new : RequestCurlObject := ⟨[], [], [], none, [], [], .init, 0⟩

/-- `headerCallback`: the line is appended, and a semicolon after it. -/
def headerCallback (data : Bytes) (object : RequestCurlObject) : RequestCurlObject :=
  { object with responseHeaders := object.responseHeaders ++ data ++ ";" }

/-- `bodyCallback`. -/
def bodyCallback (data : Bytes) (object : RequestCurlObject) : RequestCurlObject :=
  { object with responseBody := object.responseBody ++ data }

def setConnectData (theUser thePasswd : Bytes) (object : RequestCurlObject) :
    RequestCurlObject :=
  { object with
    dbUser := theUser, dbPasswd := thePasswd
    options := object.options.setAuth theUser thePasswd }

/-- The header lines of a request. A request that is sent as JSON says nothing of its type. -/
def headerLines (request : HttpMessage) : List Bytes :=
  (request.header.meta.toList.filter fun header =>
    !(header.1 = fuContentTypeKey && !env.useVelocypackPut)).map
      fun header => header.1 ++ ": " ++ header.2

/-- The options that the verb of a request sets, after the last command has been cleared. -/
def selectVerb (verb : RestVerb) (options : CurlOptions) : Except Fault CurlOptions :=
  match verb with
  | .post => .ok (options.setPost.setCustomRequest none)
  | .put => .ok (options.setCustomRequest (some "PUT"))
  | .delete => .ok (options.setCustomRequest (some "DELETE"))
  | .head => .ok (options.setCustomRequest (some "HEAD")).setNoBody
  | .patch => .ok (options.setCustomRequest (some "PATCH"))
  | .options => .ok (options.setCustomRequest (some "OPTIONS"))
  | .get => .ok (options.setCustomRequest none)
  | .illegal => arangoThrow "RequestCurlObject" 3 ("Invalid request type " ++ text "illegal")

/-- The body of a request: its payload, or the payload as JSON text. -/
def requestBody (request : HttpMessage) : Except Fault Bytes :=
  if env.useVelocypackPut then .ok (request.payloadData.take request.payloadSize)
  else request.payloadAsString env

/-- The options that the body of a request sets: none when it is empty. -/
def setBody (body : Bytes) (options : CurlOptions) : CurlOptions :=
  if body.length > 0 then (options.setPostFieldSize body.length).setCopyPostFields body
  else options

/-- `sendRequest` up to the call of `curl_easy_perform`. An exception leaves the object as far
as it has got. -/
def prepare (theURL : Bytes) (request : HttpMessage) (object : RequestCurlObject) :
    RequestCurlObject × Except Fault Unit :=
  let options := { object.options with httpHeader := headerLines env request, url := theURL }
  let object := { object with
    url := theURL, request := some request, responseHeaders := [], responseBody := []
    options := options.setHttpGet }
  match selectVerb request.header.restVerb object.options with
  | .error fault => (object, .error fault)
  | .ok options =>
    let object := { object with options := options.setAuth object.dbUser object.dbPasswd }
    match requestBody env request with
    | .error fault => (object, .error fault)
    | .ok body => ({ object with options := setBody body object.options }, .ok ())

/-- `curl_easy_perform`: the callbacks receive what the transfer delivers. -/
def perform (transfer : Transfer) (object : RequestCurlObject) : RequestCurlObject :=
  let object := transfer.headers.foldl (fun object data => object.headerCallback data) object
  let object := transfer.body.foldl (fun object data => object.bodyCallback data) object
  { object with responseCode := transfer.responseCode }

/-- `sendRequest`: what it transmits, and the object afterwards. The result code of libcurl is
returned to a caller that does not look at it. -/
def sendRequest (theURL : Bytes) (request : HttpMessage) (transfer : Transfer)
    (object : RequestCurlObject) : RequestCurlObject × Except Fault Transmission :=
  match object.prepare env theURL request with
  | (object, .error fault) => (object, .error fault)
  | (object, .ok ()) => (object.perform transfer, .ok object.options.transmission)

/-- The loop of `getResponse` over one token of the header text. -/
def addHeader (header : Bytes) (response : HttpMessage) : HttpMessage :=
  match header.findIdx? (· = UInt8.ofNat ':'.toNat) with
  | none => response
  | some pit =>
    let key := (header.take pit).map Detail.toLower
    if pit + 2 ≥ header.length then response
    else
      let value := Detail.trim (header.drop (pit + 2))
      { response with header := response.header.addMeta key value }

/-- `getResponse`. An empty body is taken for an empty VelocyPack body. -/
def getResponse (object : RequestCurlObject) : Except Fault HttpMessage := do
  let response := HttpMessage.createResponse env
  let response := { response with
    header := { response.header with responseCode := object.responseCode } }
  let headers := Detail.split object.responseHeaders ";"
  let response := headers.foldl (fun response header => addHeader header response) response
  if object.responseBody.length ≠ 0 then
    if response.isContentTypeJson then
      let data ← ofVpack (env.vpack.fromJson ⟨false, false⟩ object.responseBody)
      let response ← response.addVPack env (env.vpack.build data)
      return { response with
        header := response.header.addMeta fuContentTypeKey fuContentTypeVpack }
    else
      response.addVPackBuffer ((Buffer.empty env).append env object.responseBody)
  else
    return { response with
      header := response.header.addMeta fuContentTypeKey fuContentTypeVpack }

end RequestCurlObject

/-! ### A used object sends what a fresh one sends -/

/-- The messages that the operations of the client issue: a Post carries a payload, a Get, a
Head and a Delete carry none, a Put and a Patch may carry one. -/
structure HttpMessage.Issuable (message : HttpMessage) : Prop where
  lengthKept : message.payloadLength = message.payload.bytes.length
  verb : match message.header.restVerb with
    | .post => message.payloadSize ≠ 0
    | .get | .head | .delete => message.payloadSize = 0
    | .put | .patch => True
    | .options | .illegal => False

namespace CurlOptions

/-- The options with the body of an earlier request in place of their own. -/
def withBodyOf (options earlier : CurlOptions) : CurlOptions :=
  { options with
    postFieldSize := earlier.postFieldSize, copyPostFields := earlier.copyPostFields }

/-- An old body is not sent unless POST is selected. -/
theorem transmission_withBodyOf (earlier : CurlOptions) {options : CurlOptions}
    (unselected : options.post = false) :
    (options.withBodyOf earlier).transmission = options.transmission := by
  simp only [transmission, withBodyOf, unselected, Bool.false_eq_true, if_false]

end CurlOptions

namespace RequestCurlObject

variable {env : Env}

/-- The body of an issuable message is empty exactly when the message has no payload. -/
theorem requestBody_eq_nil_iff (lawful : env.vpack.Lawful) {request : HttpMessage}
    (issuable : request.Issuable) {body : Bytes}
    (prepared : requestBody env request = .ok body) :
    body = [] ↔ request.payloadSize = 0 := by
  unfold requestBody at prepared
  split at prepared
  · cases prepared
    rw [HttpMessage.payloadSize, issuable.lengthKept, HttpMessage.payloadData, List.take_length,
      List.length_eq_zero_iff]
  · unfold HttpMessage.payloadAsString at prepared
    split at prepared
    · rename_i absent
      cases prepared
      exact iff_of_true rfl absent
    · rename_i present
      have vpack : request.isContentTypeVPack = true := by
        simp only [HttpMessage.isContentTypeVPack, Bool.or_eq_true, bne_iff_ne, ne_eq]
        exact Or.inr present
      rw [if_pos vpack, bind_eq_ok_iff] at prepared
      obtain ⟨slice, _, dumped⟩ := prepared
      exact iff_of_false (lawful.toJson_ne_nil _ _ _ (ofVpack_eq_ok_iff.mp dumped)) present

/-- After the last command has been cleared and the verb of the next one selected, two handles
with the same header lines and URL differ in their credentials and in an old body only. -/
theorem selectVerb_congr (verb : RestVerb) (user password : Bytes) (first second : CurlOptions)
    (header : first.httpHeader = second.httpHeader) (url : first.url = second.url) :
    (selectVerb verb second.setHttpGet).map (CurlOptions.setAuth user password) =
      (selectVerb verb first.setHttpGet).map fun options =>
        (options.setAuth user password).withBodyOf second := by
  obtain ⟨_, _, _, _, _, _, _, _, _⟩ := first
  obtain ⟨_, _, _, _, _, _, _, _, _⟩ := second
  cases header
  cases url
  cases verb <;> rfl

/-- POST is selected by the verb Post alone. -/
theorem selectVerb_post {verb : RestVerb} {options selected : CurlOptions}
    (result : selectVerb verb options.setHttpGet = .ok selected) :
    selected.post = true ↔ verb = .post := by
  cases verb <;> cases result <;> simp [CurlOptions.setPost, CurlOptions.setCustomRequest,
    CurlOptions.setNoBody, CurlOptions.setHttpGet]

/-- Once the body of the next request is set, an old one makes no difference to what is sent. -/
theorem transmission_setBody_withBodyOf (earlier : CurlOptions) {options : CurlOptions}
    {body : Bytes} (selected : options.post = true → body ≠ []) :
    (setBody body (options.withBodyOf earlier)).transmission =
      (setBody body options).transmission := by
  by_cases empty : body = []
  · have unselected : options.post = false := by
      cases post : options.post with
      | false => rfl
      | true => exact absurd empty (selected post)
    simp only [setBody, empty, List.length_nil, gt_iff_lt, lt_irrefl, if_false]
    exact CurlOptions.transmission_withBodyOf earlier unselected
  · have positive : body.length > 0 := List.length_pos_iff.mpr empty
    simp only [setBody, positive, if_true]
    rfl

/-- Two objects with the same credentials transmit the same for the same request, or stop with
the same fault. -/
theorem sendRequest_congr (lawful : env.vpack.Lawful) {request : HttpMessage}
    (issuable : request.Issuable) (theURL : Bytes) (transfer : Transfer)
    {first second : RequestCurlObject} (user : first.dbUser = second.dbUser)
    (password : first.dbPasswd = second.dbPasswd) :
    (second.sendRequest env theURL request transfer).2 =
      (first.sendRequest env theURL request transfer).2 := by
  have agree := selectVerb_congr request.header.restVerb second.dbUser second.dbPasswd
    { first.options with httpHeader := headerLines env request, url := theURL }
    { second.options with httpHeader := headerLines env request, url := theURL }
    rfl rfl
  simp only [sendRequest, prepare]
  cases selected : selectVerb request.header.restVerb (CurlOptions.setHttpGet
      { first.options with httpHeader := headerLines env request, url := theURL }) <;>
    cases other : selectVerb request.header.restVerb (CurlOptions.setHttpGet
      { second.options with httpHeader := headerLines env request, url := theURL }) <;>
    rw [selected, other] at agree
  case error.error => cases agree; rfl
  case error.ok => cases agree
  case ok.error => cases agree
  case ok.ok options options' =>
    simp only [Except.map, Except.ok.injEq] at agree
    simp only [user, password, agree]
    cases prepared : requestBody env request with
    | error fault => rfl
    | ok body =>
      refine congrArg Except.ok (transmission_setBody_withBodyOf _ fun post empty => ?_)
      have verb : request.header.restVerb = .post := (selectVerb_post selected).mp post
      have payload := issuable.verb
      rw [verb] at payload
      exact payload ((requestBody_eq_nil_iff lawful issuable prepared).mp empty)

/-! ### Histories of one object -/

/-- One use of an object: the credentials and the request, the setting under which the request
is sent, and the outcome of the transfer. -/
structure Use where
  user : Bytes
  password : Bytes
  url : Bytes
  request : HttpMessage
  useVelocypackPut : Bool
  transfer : Transfer

/-- `setConnectData` and `sendRequest`. -/
def Use.apply (env : Env) (use : Use) (object : RequestCurlObject) :
    RequestCurlObject × Except Fault Transmission :=
  (object.setConnectData use.user use.password).sendRequest
    { env with useVelocypackPut := use.useVelocypackPut } use.url use.request use.transfer

/-- An object after a history of uses. -/
def after (env : Env) (history : List Use) : RequestCurlObject :=
  history.foldl (fun object use => (use.apply env object).1) new

/-- After any history of uses an issuable message transmits what it transmits on a fresh object:
the same method, URL, header lines and credentials, and the same body or none. -/
theorem apply_after_history (lawful : env.vpack.Lawful) (history : List Use) (next : Use)
    (issuable : next.request.Issuable) :
    (next.apply env (after env history)).2 = (next.apply env new).2 :=
  have lawful : Velocypack.Lawful { env with useVelocypackPut := next.useVelocypackPut }.vpack :=
    lawful
  sendRequest_congr lawful issuable next.url next.transfer rfl rfl

/-- A Get on an object that was used for a Head, and then for a Post with the body `null`. -/
theorem apply_after_history_get :
    let env : Env := ⟨.simple [], true, true, [], false⟩
    let message (verb : RestVerb) : HttpMessage := .createRequest env verb "/_api/cursor" ∅
    let body : HttpMessage := { message .post with payload := ⟨[0x18], []⟩, payloadLength := 1 }
    let use (request : HttpMessage) : Use :=
      ⟨"root", [], "http://h", request, true, ⟨0, 200, [], []⟩⟩
    ((use (message .get)).apply env (after env [use (message .head), use body])).2 =
      ((use (message .get)).apply env new).2 :=
  apply_after_history (Velocypack.simple_lawful []) _ _ ⟨rfl, rfl⟩

/-! ### The response depends on the transfer alone -/

/-- The response to a transfer that a fresh object receives. -/
def respond (env : Env) (transfer : Transfer) : Except Fault HttpMessage :=
  (new.perform transfer).getResponse env

theorem foldl_headerCallback (lines : List Bytes) (object : RequestCurlObject) :
    lines.foldl (fun object data => object.headerCallback data) object =
      { object with
        responseHeaders := object.responseHeaders ++ lines.flatMap (· ++ text ";") } := by
  induction lines generalizing object with
  | nil => simp
  | cons line lines inductionHypothesis =>
    rw [List.foldl_cons, inductionHypothesis]
    simp [headerCallback]

theorem foldl_bodyCallback (pieces : List Bytes) (object : RequestCurlObject) :
    pieces.foldl (fun object data => object.bodyCallback data) object =
      { object with responseBody := object.responseBody ++ pieces.flatten } := by
  induction pieces generalizing object with
  | nil => simp
  | cons piece pieces inductionHypothesis =>
    rw [List.foldl_cons, inductionHypothesis]
    simp [bodyCallback]

/-- What the callbacks leave in an object. -/
theorem perform_eq (transfer : Transfer) (object : RequestCurlObject) :
    object.perform transfer =
      { object with
        responseHeaders := object.responseHeaders ++ transfer.headers.flatMap (· ++ text ";")
        responseBody := object.responseBody ++ transfer.body.flatten
        responseCode := transfer.responseCode } := by
  rw [perform, foldl_headerCallback, foldl_bodyCallback]

/-- `getResponse` reads the two response texts and the status, nothing else of the object. -/
theorem getResponse_congr {first second : RequestCurlObject}
    (headers : first.responseHeaders = second.responseHeaders)
    (body : first.responseBody = second.responseBody)
    (code : first.responseCode = second.responseCode) :
    first.getResponse env = second.getResponse env := by
  simp only [getResponse, headers, body, code]

/-- A request clears what earlier transfers have left in the object. -/
theorem prepare_cleared (theURL : Bytes) (request : HttpMessage) (object : RequestCurlObject) :
    (object.prepare env theURL request).1.responseHeaders = [] ∧
      (object.prepare env theURL request).1.responseBody = [] := by
  unfold prepare
  dsimp only
  split
  · exact ⟨rfl, rfl⟩
  · split
    · exact ⟨rfl, rfl⟩
    · exact ⟨rfl, rfl⟩

/-- A prepared request goes to its URL with the credentials of the object. -/
theorem prepare_ready {theURL : Bytes} {request : HttpMessage}
    {object prepared : RequestCurlObject}
    (ready : object.prepare env theURL request = (prepared, .ok ())) :
    prepared.options.transmission.url = theURL ∧
      prepared.options.transmission.username = object.dbUser ∧
      prepared.options.transmission.password = object.dbPasswd := by
  unfold prepare at ready
  dsimp only at ready
  split at ready
  · cases ready
  · rename_i options selected
    have url : options.url = theURL := by
      cases verb : request.header.restVerb <;> rw [verb] at selected <;> cases selected <;> rfl
    split at ready
    · cases ready
    · cases ready
      unfold setBody
      split <;> exact ⟨url, rfl, rfl⟩

/-- Preparing an issuable message fails only where its body cannot be formed. -/
theorem requestBody_of_prepare {theURL : Bytes} {request : HttpMessage}
    {object : RequestCurlObject} {fault : Fault} (issuable : request.Issuable)
    (fails : (object.prepare env theURL request).2 = .error fault) :
    requestBody env request = .error fault := by
  have verb := issuable.verb
  unfold prepare at fails
  dsimp only at fails
  split at fails
  · rename_i refused
    cases chosen : request.header.restVerb <;> rw [chosen] at refused verb <;> cases refused
    exact verb.elim
  · split at fails
    · rename_i formed
      cases fails
      exact formed
    · cases fails

/-- An object that holds what a transfer has delivered responds as a fresh one does. -/
theorem respond_of_received {transfer : Transfer} {object : RequestCurlObject}
    (headers : object.responseHeaders = transfer.headers.flatMap (· ++ text ";"))
    (body : object.responseBody = transfer.body.flatten)
    (code : object.responseCode = transfer.responseCode) :
    respond env transfer = object.getResponse env := by
  refine getResponse_congr ?_ ?_ ?_
  · simp only [perform_eq, headers, new, List.nil_append]
  · simp only [perform_eq, body, new, List.nil_append]
  · simp only [perform_eq, code]

/-- The response to a request is the response to its transfer, whatever the object has been
used for before. -/
theorem getResponse_prepare (theURL : Bytes) (request : HttpMessage) (transfer : Transfer)
    (object : RequestCurlObject) :
    ((object.prepare env theURL request).1.perform transfer).getResponse env =
      respond env transfer := by
  obtain ⟨headers, body⟩ := @prepare_cleared env theURL request object
  refine (respond_of_received ?_ ?_ ?_).symm
  · simp only [perform_eq, headers, List.nil_append]
  · simp only [perform_eq, body, List.nil_append]
  · simp only [perform_eq]

/-- What is transmitted is settled when the request is prepared. -/
theorem sendRequest_snd (theURL : Bytes) (request : HttpMessage) (transfer : Transfer)
    (object : RequestCurlObject) :
    (object.sendRequest env theURL request transfer).2 =
      (object.prepare env theURL request).2.map
        fun _ => (object.prepare env theURL request).1.options.transmission := by
  unfold sendRequest
  rcases object.prepare env theURL request with ⟨prepared, _ | _⟩ <;> rfl

/-! ### What a response holds -/

theorem addHeader_eq (header : Bytes) (response : HttpMessage) :
    ∃ «meta», addHeader header response =
      { response with header := { response.header with «meta» } } := by
  unfold addHeader
  split
  · exact ⟨_, rfl⟩
  · dsimp only
    split
    · exact ⟨_, rfl⟩
    · exact ⟨_, rfl⟩

theorem foldl_addHeader (headers : List Bytes) (response : HttpMessage) :
    ∃ «meta», headers.foldl (fun response header => addHeader header response) response =
      { response with header := { response.header with «meta» } } := by
  induction headers generalizing response with
  | nil => exact ⟨_, rfl⟩
  | cons header headers inductionHypothesis =>
    obtain ⟨first, added⟩ := addHeader_eq header response
    obtain ⟨final, folded⟩ := inductionHypothesis (addHeader header response)
    rw [List.foldl_cons, folded, added]
    exact ⟨final, rfl⟩

/-- A response after its headers have been read: nothing but its entries has changed. -/
theorem createResponse_headers (responseCode : StatusCode) (headers : List Bytes) :
    ∃ «meta», headers.foldl (fun response header => addHeader header response)
        { HttpMessage.createResponse env with
          header := { (HttpMessage.createResponse env).header with responseCode } } =
      ⟨⟨0, .response, responseCode, .delete, [], ∅, «meta»⟩, Buffer.empty env, 0, []⟩ := by
  obtain ⟨«meta», folded⟩ := foldl_addHeader headers { HttpMessage.createResponse env with
    header := { (HttpMessage.createResponse env).header with responseCode } }
  refine ⟨«meta», folded.trans ?_⟩
  unfold HttpMessage.createResponse HttpMessage.new HttpMessage.setContentType
  dsimp only
  split <;> rfl

/-- The response to a transfer has its status. Its payload is the body, or the bytes of the value
that the body is the JSON text of, and no value has been looked for in it yet. -/
structure Answers (env : Env) (transfer : Transfer) (response : HttpMessage) : Prop where
  status : response.statusCode = transfer.responseCode
  starts : response.sliceStarts = []
  length : response.payloadLength = response.payload.bytes.length
  payload : response.payload.bytes = transfer.body.flatten ∨
    ∃ data, env.vpack.fromJson ⟨false, false⟩ transfer.body.flatten = .ok data ∧
      response.payload.bytes = env.vpack.build data
  empty : transfer.body.flatten = [] → response.payload.bytes = []

theorem answers_of_respond {transfer : Transfer} {response : HttpMessage}
    (responds : respond env transfer = .ok response) : Answers env transfer response := by
  have body : (new.perform transfer).responseBody = transfer.body.flatten := by
    simp only [perform_eq, new, List.nil_append]
  have code : (new.perform transfer).responseCode = transfer.responseCode := by
    simp only [perform_eq]
  have room : ∀ bytes, ((Buffer.empty env).append env bytes).resetTo (0 + bytes.length) =
      .ok ((Buffer.empty env).append env bytes) :=
    HttpMessage.mem_append_resetTo (Buffer.empty env)
  obtain ⟨«meta», headed⟩ := @createResponse_headers env transfer.responseCode
    (Detail.split (new.perform transfer).responseHeaders ";")
  unfold respond getResponse at responds
  simp only [body, code] at responds
  rw [headed] at responds
  split at responds
  · rename_i full
    have nonempty : transfer.body.flatten ≠ [] := fun empty => full (by rw [empty]; rfl)
    split at responds
    · obtain ⟨data, parsed, responds⟩ := bind_eq_ok_iff.mp responds
      obtain ⟨filled, added, final⟩ := bind_eq_ok_iff.mp responds
      cases final
      simp only [HttpMessage.addVPack, room, ok_bind] at added
      cases added
      exact ⟨rfl, rfl, by simp [Buffer.append, Buffer.empty],
        Or.inr ⟨data, ofVpack_eq_ok_iff.mp parsed, by simp [Buffer.append, Buffer.empty]⟩,
        fun empty => absurd empty nonempty⟩
    · have exact : ((Buffer.empty env).append env transfer.body.flatten).bytes =
          transfer.body.flatten := List.nil_append _
      simp only [HttpMessage.addVPackBuffer, exact, room, ok_bind] at responds
      cases responds
      exact ⟨rfl, rfl, by simp [exact], Or.inl exact, fun empty => absurd empty nonempty⟩
  · rename_i absent
    have empty : transfer.body.flatten = [] :=
      List.eq_nil_of_length_eq_zero (not_not.mp absent)
    cases responds
    exact ⟨rfl, rfl, rfl, Or.inl empty.symm, fun _ => rfl⟩

/-- An empty body makes an empty response, whatever the headers say of it. -/
theorem respond_of_empty {transfer : Transfer} (empty : transfer.body.flatten = []) :
    ∃ response, respond env transfer = .ok response ∧ response.isContentTypeVPack = true := by
  have body : (new.perform transfer).responseBody = [] := by
    simp only [perform_eq, new, List.nil_append, empty]
  unfold respond getResponse
  simp only [body, List.length_nil, ne_eq, not_true_eq_false, if_false]
  exact ⟨_, rfl, by simp [HttpMessage.isContentTypeVPack, MessageHeader.contentTypeString,
    MessageHeader.metaByKey, MessageHeader.addMeta]⟩

end RequestCurlObject

end ArangoCpp
