/-
This file says when `sendREQUEST` takes what a transfer has brought for a response.

It looks at the status, and at the body as far as the body is decoded: a body that is read as JSON
is parsed, and when the debug log shows the response the walk over its values has to end. It does
not look at the result code of libcurl, so that a transfer that broke behind the status line is
refused only if what has arrived cannot be decoded. Nor does it look at the content type: the
check for it lets every payload pass that is not empty, and an empty one too.
-/

import ArangoCpp.Fronts
import ArangoCpp.Headers

namespace ArangoCpp

variable {env : Env}

/-! ### What `sendREQUEST` makes of a transfer -/

/-- Once the transfer has been performed, `sendREQUEST` ends as the response to it is checked. -/
theorem run_sendREQUESTWith {title url : Bytes} {user : ArangoDBUser}
    {curlObject : RequestCurlObject} {rq : HttpMessage} {transfer : Transfer}
    (performed : ((sendREQUESTWith env title url user curlObject rq).run [transfer]).rest = []) :
    ((sendREQUESTWith env title url user curlObject rq).run [transfer]).outcome =
      .ofExcept (RequestCurlObject.respond env transfer >>= checkResponse env title url) := by
  have answered := @RequestCurlObject.getResponse_prepare env url rq transfer
    (curlObject.setConnectData user.name user.password)
  simp only [sendREQUESTWith, Dialogue.bind_eq] at performed ⊢
  cases shown : logged env rq with
  | error fault => simp [shown] at performed
  | ok line =>
    rcases prepared : RequestCurlObject.prepare env url rq
      (curlObject.setConnectData user.name user.password) with ⟨object, _ | ⟨⟨⟩⟩⟩
    · simp [shown, prepared] at performed
    · rw [prepared] at answered
      simp only [Dialogue.ofExcept_ok, Dialogue.done_bind, Dialogue.ask_bind,
        Dialogue.run_ask_cons, Dialogue.ofExcept_bind_ofExcept, Dialogue.run_ofExcept, answered]

theorem run_sendREQUEST {dispatch : Dispatch} {connectData : ArangoDBConnection}
    {curlObject : RequestCurlObject} {rq : HttpMessage} {transfer : Transfer}
    (performed : ((dispatch.sendREQUEST env connectData curlObject rq).run [transfer]).rest = []) :
    ((dispatch.sendREQUEST env connectData curlObject rq).run [transfer]).outcome =
      .ofExcept ((dispatch.channel env connectData).decode rq transfer) := by
  cases dispatch with
  | base => exact run_sendREQUESTWith performed
  | users => exact run_sendREQUESTWith performed

theorem sendREQUEST_returned_iff (lawful : env.vpack.Lawful) {dispatch : Dispatch}
    {connectData : ArangoDBConnection} {curlObject : RequestCurlObject} {rq : HttpMessage}
    {transfer : Transfer}
    (performed : ((dispatch.sendREQUEST env connectData curlObject rq).run [transfer]).rest = [])
    {response : HttpMessage} :
    ((dispatch.sendREQUEST env connectData curlObject rq).run [transfer]).outcome =
        .returned response ↔ transfer.Accepted env response := by
  rw [run_sendREQUEST performed, Dialogue.Outcome.ofExcept_eq_returned_iff,
    decode_eq_ok_iff lawful]

/-! ### Bodies that can be decoded -/

/-- The walk over the values comes to the end of the bytes. -/
inductive Walks (env : Env) : Bytes → Prop where
  | done : Walks env []
  | step {bytes : Bytes} {size : Nat} (declared : env.vpack.byteSize bytes = .ok size)
      (moves : 0 < size) (fits : size ≤ bytes.length) (walks : Walks env (bytes.drop size)) :
      Walks env bytes

/-- The walk ends well exactly when it comes to the end. -/
theorem Walk.walks_iff {bytes : Bytes} {ended : Except Fault Unit} (walk : Walk env bytes ended) :
    ended = .ok () ↔ Walks env bytes := by
  induction walk with
  | done => exact iff_of_true rfl .done
  | unread nonempty unread =>
    refine iff_of_false (fun same => by cases same) fun walks => ?_
    cases walks with
    | done => exact nonempty rfl
    | step sized _ _ _ => cases unread.symm.trans sized
  | short nonempty declared short =>
    refine iff_of_false (fun same => by cases same) fun walks => ?_
    cases walks with
    | done => exact nonempty rfl
    | step sized _ fits _ =>
      cases declared.symm.trans sized
      exact absurd short (Nat.not_lt.mpr fits)
  | still nonempty still =>
    refine iff_of_false (fun same => by cases same) fun walks => ?_
    cases walks with
    | done => exact nonempty rfl
    | step sized moves _ _ =>
      cases still.symm.trans sized
      exact absurd moves (lt_irrefl 0)
  | step nonempty declared moves fits _ inductionHypothesis =>
    rw [inductionHypothesis]
    constructor
    · exact .step declared moves fits
    · intro walks
      cases walks with
      | done => exact absurd rfl nonempty
      | step sized _ _ later =>
        cases declared.symm.trans sized
        exact later

/-- The debug log can show the value. -/
def Dumps (env : Env) (value : Slice) : Prop :=
  ∃ json, env.vpack.toJson dumpOptions value = .ok json

/-- What has arrived can be decoded: there is no body, or it is read as JSON and is a JSON text, or
it is taken for VelocyPack. If the debug log is on, it can show the value, and all values of a
VelocyPack body are found. -/
inductive Transfer.Legible (env : Env) (transfer : Transfer) : Prop where
  | empty (none : transfer.body.flatten = []) : Legible env transfer
  | json {value : Slice} (type : contentTypeOf transfer.headers = fuContentTypeJson)
      (parsed : env.vpack.fromJson ⟨false, false⟩ transfer.body.flatten = .ok value)
      (shown : env.debug = true → Dumps env value) : Legible env transfer
  | vpack (type : contentTypeOf transfer.headers ≠ fuContentTypeJson)
      (shown : env.debug = true → Walks env transfer.body.flatten ∧
        Dumps env (env.vpack.sliceAt transfer.body.flatten)) : Legible env transfer

/-- Whether a body is read as JSON is settled by the content type that the lines make. -/
theorem isContentTypeJson_headed_iff (transfer : Transfer) :
    (transfer.headed env).isContentTypeJson = true ↔
      contentTypeOf transfer.headers = fuContentTypeJson := by
  rw [HttpMessage.isContentTypeJson, decide_eq_true_iff, MessageHeader.contentTypeString,
    MessageHeader.metaByKey, headed_contentType, Option.getD_some]

/-- The first value of a payload with values that can all be found. -/
theorem front_eq_ok_iff {message : HttpMessage} (starts : message.sliceStarts = [])
    (nonempty : message.payload.bytes ≠ []) (value : Slice) :
    message.front env = .ok value ↔
      Walks env message.payload.bytes ∧ env.vpack.sliceAt message.payload.bytes = value := by
  obtain ⟨rest, found⟩ := @HttpMessage.slicesLoop_first env _ nonempty message.payload.bytes.length
  have walk := @HttpMessage.slicesLoop_walk env _ _
    (Nat.lt_succ_self message.payload.bytes.length) []
  rw [← walk.walks_iff, HttpMessage.front, HttpMessage.slices, if_pos starts]
  dsimp only
  rw [← found]
  cases (HttpMessage.slicesLoop env (message.payload.bytes.length + 1)
    message.payload.bytes []).2 with
  | error fault =>
    refine iff_of_false (fun same => by cases same) ?_
    rintro ⟨same, _⟩
    cases same
  | ok ended =>
    rw [and_iff_right rfl]
    exact ⟨fun same => Except.ok.inj same, fun same => congrArg Except.ok same⟩

/-- When the debug log can show a response. -/
theorem logged_eq_ok_iff (lawful : env.vpack.Lawful) {transfer : Transfer}
    {response : HttpMessage} (responds : RequestCurlObject.respond env transfer = .ok response)
    (nonempty : transfer.body.flatten ≠ []) :
    (∃ line, logged env response = .ok line) ↔ (env.debug = true →
      Walks env response.payload.bytes ∧ Dumps env (env.vpack.sliceAt response.payload.bytes)) := by
  have answers := RequestCurlObject.answers_of_respond responds
  have full : response.payload.bytes ≠ [] := fun none =>
    nonempty ((payload_eq_nil_iff lawful responds).mp none)
  have size : response.payloadSize ≠ 0 := by
    rw [HttpMessage.payloadSize, answers.length]
    exact fun none => full (List.eq_nil_of_length_eq_zero none)
  unfold logged
  by_cases debug : env.debug = true
  · rw [if_pos debug, HttpMessage.payloadAsString, if_neg size,
      if_pos (isContentTypeVPack_of_respond lawful responds)]
    simp only [debug, forall_const, bind_eq_ok_iff, ofVpack_eq_ok_iff,
      front_eq_ok_iff answers.starts full]
    constructor
    · rintro ⟨line, value, ⟨walks, same⟩, dumped⟩
      exact ⟨walks, line, same ▸ dumped⟩
    · rintro ⟨walks, line, dumped⟩
      exact ⟨line, _, ⟨walks, rfl⟩, dumped⟩
  · rw [if_neg debug]
    exact iff_of_true ⟨[], rfl⟩ fun shows => absurd shows debug

/-- The bytes that are built for a value are walked over in one step. -/
theorem walks_build (lawful : env.vpack.Lawful) {value : Slice} (represented : value.Represented) :
    Walks env (env.vpack.build value) ∧ env.vpack.sliceAt (env.vpack.build value) = value := by
  have size := lawful.byteSize_build value represented []
  have read := lawful.sliceAt_build value represented []
  have positive := List.length_pos_iff.mpr (lawful.build_ne_nil value represented)
  rw [List.append_nil] at size read
  refine ⟨.step size positive le_rfl ?_, read⟩
  rw [List.drop_length]
  exact .done

/-- What has arrived can be decoded exactly when a response is made of it that the debug log can
show. -/
theorem legible_iff (lawful : env.vpack.Lawful) (transfer : Transfer) :
    transfer.Legible env ↔ ∃ response, RequestCurlObject.respond env transfer = .ok response ∧
      ∃ line, logged env response = .ok line := by
  by_cases empty : transfer.body.flatten = []
  · obtain ⟨response, responds, _⟩ := @RequestCurlObject.respond_of_empty env transfer empty
    have answers := RequestCurlObject.answers_of_respond responds
    have bare : response.payloadSize = 0 := by
      rw [HttpMessage.payloadSize, answers.length, answers.empty empty, List.length_nil]
    refine iff_of_true (.empty empty) ⟨response, responds, [], ?_⟩
    rw [logged, HttpMessage.payloadAsString, if_pos bare, ite_self]
  · by_cases type : contentTypeOf transfer.headers = fuContentTypeJson
    · have isJson := (@isContentTypeJson_headed_iff env transfer).mpr type
      constructor
      · intro legible
        cases legible with
        | empty none => exact absurd none empty
        | vpack other _ => exact absurd type other
        | @json value _ parsed shown =>
          obtain ⟨response, responds, built⟩ := Transfer.respond_json isJson empty parsed
          obtain ⟨walks, read⟩ := walks_build lawful (lawful.represented _ _ value parsed)
          refine ⟨response, responds, (logged_eq_ok_iff lawful responds empty).mpr fun debug => ?_⟩
          rw [built, read]
          exact ⟨walks, shown debug⟩
      · rintro ⟨response, responds, shown⟩
        cases parsed : env.vpack.fromJson ⟨false, false⟩ transfer.body.flatten with
        | error exception =>
          rw [transfer.respond_eq empty, if_pos isJson, parsed] at responds
          cases responds
        | ok value =>
          obtain ⟨other, same, built⟩ := Transfer.respond_json isJson empty parsed
          cases same.symm.trans responds
          refine .json type parsed fun debug => ?_
          have dumps := ((logged_eq_ok_iff lawful responds empty).mp shown debug).2
          rwa [built, (walks_build lawful (lawful.represented _ _ value parsed)).2] at dumps
    · have notJson : (transfer.headed env).isContentTypeJson = false := by
        rw [← Bool.not_eq_true, isContentTypeJson_headed_iff]
        exact type
      obtain ⟨response, responds, exact⟩ := Transfer.respond_vpack notJson empty
      have shows := logged_eq_ok_iff lawful responds empty
      rw [exact] at shows
      constructor
      · intro legible
        cases legible with
        | empty none => exact absurd none empty
        | json json _ _ => exact absurd json type
        | vpack _ shown => exact ⟨response, responds, shows.mpr shown⟩
      · rintro ⟨other, same, shown⟩
        cases same.symm.trans responds
        exact .vpack type (shows.mp shown)

/-- A transfer is accepted exactly when it has a status and can be decoded. -/
theorem accepted_iff (lawful : env.vpack.Lawful) (transfer : Transfer) :
    (∃ response, transfer.Accepted env response) ↔
      transfer.responseCode ≠ 0 ∧ transfer.Legible env := by
  rw [legible_iff lawful]
  constructor
  · rintro ⟨response, accepted⟩
    exact ⟨accepted.status ▸ accepted.received, response, accepted.responds, accepted.shown⟩
  · rintro ⟨received, response, responds, shown⟩
    have answers := RequestCurlObject.answers_of_respond responds
    exact ⟨response, responds, shown, answers.status.symm ▸ received⟩

/-- `sendREQUEST` stops without an exception exactly when the debug log gets stuck. -/
theorem decode_stuck_iff (lawful : env.vpack.Lawful) (dispatch : Dispatch)
    (connectData : ArangoDBConnection) (rq : HttpMessage) (transfer : Transfer) :
    (∃ fault, (dispatch.channel env connectData).decode rq transfer = .error fault ∧
      ¬ fault.Thrown) ↔ env.debug = true ∧ transfer.Stalls env := by
  constructor
  · rintro ⟨fault, fails, bad⟩
    cases refused_of_decode lawful fails with
    | malformed malformed => exact absurd (malformed_body malformed).2.2 bad
    | unshown responds shown => exact (logged_undefined_iff lawful responds).mp ⟨fault, shown, bad⟩
    | unreceived _ _ => exact absurd trivial bad
  · intro stuck
    obtain ⟨response, responds, _⟩ := Transfer.respond_vpack stuck.2.1 stuck.2.2.nonempty
    obtain ⟨fault, shown, bad⟩ := (logged_undefined_iff lawful responds).mpr stuck
    refine ⟨fault, ?_, bad⟩
    show RequestCurlObject.respond env transfer >>= _ = _
    rw [responds, ok_bind, checkResponse, shown]
    rfl

/-! ### Broken transfers -/

/-- The outcome of `sendREQUEST` is an exception. -/
def ThrowsException {Value : Type} (outcome : Dialogue.Outcome Fault Value) : Prop :=
  ∃ fault, outcome = .raised fault ∧ fault.Thrown

theorem throwsException_raised_iff {Value : Type} {fault : Fault} :
    ThrowsException (.raised fault : Dialogue.Outcome Fault Value) ↔ fault.Thrown := by
  constructor
  · rintro ⟨other, same, thrown⟩
    cases same
    exact thrown
  · exact fun thrown => ⟨fault, rfl, thrown⟩

theorem throwsException_iff (lawful : env.vpack.Lawful) (dispatch : Dispatch)
    (connectData : ArangoDBConnection) (rq : HttpMessage) (transfer : Transfer) :
    ThrowsException (.ofExcept ((dispatch.channel env connectData).decode rq transfer)) ↔
      ¬ (env.debug = true ∧ transfer.Stalls env) ∧
        (transfer.responseCode = 0 ∨ ¬ transfer.Legible env) := by
  have stuck := decode_stuck_iff lawful dispatch connectData rq transfer
  have accepted := accepted_iff lawful transfer
  have refused : transfer.responseCode = 0 ∨ ¬ transfer.Legible env ↔
      ¬ ∃ response, transfer.Accepted env response := by
    rw [accepted]
    tauto
  rw [refused, ← stuck]
  simp only [ThrowsException, Dialogue.Outcome.ofExcept_eq_raised_iff,
    ← decode_eq_ok_iff lawful dispatch connectData rq]
  constructor
  · rintro ⟨fault, decoded, thrown⟩
    constructor
    · rintro ⟨other, same, bad⟩
      cases decoded.symm.trans same
      exact bad thrown
    · rintro ⟨response, same⟩
      cases decoded.symm.trans same
  · intro throws
    cases decoded : (dispatch.channel env connectData).decode rq transfer with
    | ok response => exact absurd ⟨response, decoded⟩ throws.2
    | error fault =>
      refine ⟨fault, rfl, ?_⟩
      by_contra bad
      exact throws.1 ⟨fault, decoded, bad⟩

/-- When libcurl reports that a transfer has failed, `sendREQUEST` throws exactly when no status has
arrived or what has arrived cannot be decoded, unless the debug log gets stuck. -/
theorem sendREQUEST_throws_iff (lawful : env.vpack.Lawful) {dispatch : Dispatch}
    {connectData : ArangoDBConnection} {curlObject : RequestCurlObject} {rq : HttpMessage}
    {transfer : Transfer}
    (performed : ((dispatch.sendREQUEST env connectData curlObject rq).run [transfer]).rest = []) :
    (transfer.curlCode ≠ 0 → ThrowsException
        ((dispatch.sendREQUEST env connectData curlObject rq).run [transfer]).outcome) ↔
      (transfer.curlCode ≠ 0 → ¬ (env.debug = true ∧ transfer.Stalls env) ∧
        (transfer.responseCode = 0 ∨ ¬ transfer.Legible env)) := by
  rw [run_sendREQUEST performed, throwsException_iff lawful]

/-- A request that a fresh object encodes is performed. -/
theorem performed_of_encode {dispatch : Dispatch} {connectData : ArangoDBConnection}
    {rq : HttpMessage} {sent : Transmission}
    (encoded : (dispatch.channel env connectData).encode rq = .ok sent) (transfer : Transfer) :
    ((dispatch.sendREQUEST env connectData .new rq).run [transfer]).rest = [] := by
  obtain ⟨line, shown, encoded⟩ := bind_eq_ok_iff.mp encoded
  rw [RequestCurlObject.sendRequest_snd] at encoded
  have prepared : (RequestCurlObject.prepare env (dispatch.url connectData rq.header.path) rq
      (RequestCurlObject.new.setConnectData connectData.user.name
        connectData.user.password)).2 = .ok () := by
    generalize (RequestCurlObject.prepare env _ rq _).2 = result at encoded
    cases result with
    | error fault => cases encoded
    | ok ended => rfl
  have performs : ∀ title, ((sendREQUESTWith env title (dispatch.url connectData rq.header.path)
      connectData.user .new rq).run [transfer]).rest = [] := by
    intro title
    simp [sendREQUESTWith, shown, prepared, Dialogue.ofExcept_bind_ofExcept]
  cases dispatch with
  | base => exact performs _
  | users => exact performs _

/-- A request without a payload is performed. -/
theorem performed_get (lawful : env.vpack.Lawful) (path : Bytes) (transfer : Transfer) :
    ((Dispatch.base.sendREQUEST env .default .new (createREQUEST env .get path)).run
      [transfer]).rest = [] :=
  performed_of_encode (encode_createREQUEST lawful .base .default (Or.inl rfl) path) transfer

/-- The server could not be reached. -/
theorem sendREQUEST_throws_iff_unreached :
    let env : Env := ⟨.simple [], true, true, [], false⟩
    let transfer : Transfer := ⟨7, 0, [], []⟩
    (transfer.curlCode ≠ 0 → ThrowsException ((Dispatch.base.sendREQUEST env .default .new
        (createREQUEST env .get "/_api/version")).run [transfer]).outcome) ↔
      (transfer.curlCode ≠ 0 → ¬ (env.debug = true ∧ transfer.Stalls env) ∧
        (transfer.responseCode = 0 ∨ ¬ transfer.Legible env)) :=
  sendREQUEST_throws_iff (Velocypack.simple_lawful [])
    (performed_get (Velocypack.simple_lawful []) "/_api/version" ⟨7, 0, [], []⟩)

/-- A body that breaks off is returned as a response. -/
theorem not_throws_partial_file :
    let env : Env := ⟨.simple [], true, true, [], false⟩
    let transfer : Transfer := ⟨18, 200, [], [[0x14]]⟩
    transfer.curlCode ≠ 0 ∧ ∃ response, ((Dispatch.base.sendREQUEST env .default .new
        (createREQUEST env .get "/_api/version")).run [transfer]).outcome =
      .returned response := by
  intro env transfer
  have lawful : env.vpack.Lawful := Velocypack.simple_lawful []
  have legible : transfer.Legible env :=
    .vpack (by decide) fun debug => absurd debug Bool.false_ne_true
  obtain ⟨response, accepted⟩ := (accepted_iff lawful transfer).mpr ⟨by decide, legible⟩
  exact ⟨by decide, response,
    (sendREQUEST_returned_iff lawful (performed_get lawful _ transfer)).mpr accepted⟩

/-! ### Content types -/

/-- The media type that a header line states. -/
def mediaType (line : Bytes) : Bytes :=
  Detail.trim (((line.dropWhile (· ≠ colon)).drop 1).takeWhile (· ≠ semicolon))

/-- The media type that the last Content-Type line of a response states. -/
def Transfer.declaredType (transfer : Transfer) : Option Bytes :=
  (transfer.headers.filter (isLineOf fuContentTypeKey)).getLast?.map mediaType

/-- The payload of the response is the value of the body's JSON text. -/
def ConvertedFrom (env : Env) (transfer : Transfer) (response : HttpMessage) : Prop :=
  (transfer.headed env).isContentTypeJson = true ∧
    ∃ value, env.vpack.fromJson ⟨false, false⟩ transfer.body.flatten = .ok value ∧
      response.payload.bytes = env.vpack.build value

/-- A payload that is returned is empty, declared as VelocyPack, or declared as JSON and converted;
and a body of another type is refused for its type. -/
structure TypeChecked (env : Env) (title : Bytes) (transfer : Transfer)
    (outcome : Dialogue.Outcome Fault HttpMessage) : Prop where
  returned : ∀ response, outcome = .returned response → response.payload.bytes = [] ∨
    transfer.declaredType = some fuContentTypeVpack ∨
    transfer.declaredType = some fuContentTypeJson ∧ ConvertedFrom env transfer response
  refused : transfer.body.flatten ≠ [] → transfer.declaredType ≠ some fuContentTypeVpack →
    transfer.declaredType ≠ some fuContentTypeJson →
      outcome = .raised (.arango ⟨title, 3, "Illegal content type"⟩)

/-- The walk over the values of a payload does not complain about the content type. -/
theorem Walk.ne_illegal {bytes : Bytes} {ended : Except Fault Unit} (walk : Walk env bytes ended)
    (title : Bytes) : ended ≠ .error (.arango ⟨title, 3, "Illegal content type"⟩) := by
  induction walk with
  | step _ _ _ _ _ inductionHypothesis => exact inductionHypothesis
  | _ =>
    intro same
    cases same

theorem front_error {message : HttpMessage} (starts : message.sliceStarts = []) {fault : Fault}
    (fails : message.front env = .error fault) (title : Bytes) :
    fault ≠ .arango ⟨title, 3, "Illegal content type"⟩ := by
  have walk := @HttpMessage.slicesLoop_walk env _ _
    (Nat.lt_succ_self message.payload.bytes.length) []
  rw [HttpMessage.front, HttpMessage.slices, if_pos starts] at fails
  dsimp only at fails
  cases ended : (HttpMessage.slicesLoop env (message.payload.bytes.length + 1)
    message.payload.bytes []).2 with
  | error other =>
    rw [ended] at fails walk
    cases fails
    exact fun same => walk.ne_illegal title (congrArg Except.error same)
  | ok _ =>
    rw [ended] at fails
    simp only [Except.map] at fails
    split at fails
    · contradiction
    · cases fails
      intro same
      cases same
    · cases fails

/-- The debug log does not complain about the content type. -/
theorem logged_error {response : HttpMessage} (starts : response.sliceStarts = []) {fault : Fault}
    (fails : logged env response = .error fault) (title : Bytes) :
    fault ≠ .arango ⟨title, 3, "Illegal content type"⟩ := by
  unfold logged HttpMessage.payloadAsString at fails
  split at fails
  · split at fails
    · cases fails
    · split at fails
      · cases front : response.front env with
        | error other =>
          rw [front] at fails
          cases fails
          exact front_error starts front title
        | ok slice =>
          rw [front, ok_bind] at fails
          cases dumped : env.vpack.toJson dumpOptions slice with
          | error thrown =>
            rw [dumped] at fails
            cases fails
            intro same
            cases same
          | ok json =>
            rw [dumped] at fails
            cases fails
      · cases fails
  · cases fails

/-- Nothing is refused for its content type. -/
theorem decode_ne_illegal (lawful : env.vpack.Lawful) (dispatch : Dispatch)
    (connectData : ArangoDBConnection) (rq : HttpMessage) (transfer : Transfer) (title : Bytes) :
    (dispatch.channel env connectData).decode rq transfer ≠
      .error (.arango ⟨title, 3, "Illegal content type"⟩) := by
  intro refused
  have decoded : (RequestCurlObject.respond env transfer >>= checkResponse env dispatch.title
      (dispatch.url connectData rq.header.path)) = _ := refused
  cases responds : RequestCurlObject.respond env transfer with
  | error fault =>
    obtain ⟨nonempty, type, _⟩ := malformed_body responds
    rw [transfer.respond_eq nonempty, if_pos type] at decoded
    cases parsed : env.vpack.fromJson ⟨false, false⟩ transfer.body.flatten with
    | error exception =>
      rw [parsed] at decoded
      cases decoded
    | ok value =>
      obtain ⟨response, same, _⟩ := Transfer.respond_json type nonempty parsed
      cases responds.symm.trans same
  | ok response =>
    have answers := RequestCurlObject.answers_of_respond responds
    rw [responds, ok_bind, checkResponse] at decoded
    cases shown : logged env response with
    | error fault =>
      rw [shown] at decoded
      cases decoded
      exact logged_error answers.starts shown _ rfl
    | ok line =>
      rw [shown, ok_bind, isContentTypeVPack_of_respond lawful responds] at decoded
      split at decoded
      · contradiction
      · split at decoded
        · cases decoded
        · cases decoded

theorem sendREQUEST_ne_illegal (lawful : env.vpack.Lawful) {dispatch : Dispatch}
    {connectData : ArangoDBConnection} {curlObject : RequestCurlObject} {rq : HttpMessage}
    {transfer : Transfer}
    (performed : ((dispatch.sendREQUEST env connectData curlObject rq).run [transfer]).rest = [])
    (title : Bytes) :
    ((dispatch.sendREQUEST env connectData curlObject rq).run [transfer]).outcome ≠
      .raised (.arango ⟨title, 3, "Illegal content type"⟩) := by
  rw [run_sendREQUEST performed, ne_eq, Dialogue.Outcome.ofExcept_eq_raised_iff]
  exact decode_ne_illegal lawful dispatch connectData rq transfer title

/-- What is accepted and read as JSON has been converted. -/
theorem Transfer.Accepted.converted {transfer : Transfer} {response : HttpMessage}
    (accepted : transfer.Accepted env response) (nonempty : transfer.body.flatten ≠ [])
    (type : (transfer.headed env).isContentTypeJson = true) :
    ConvertedFrom env transfer response := by
  refine ⟨type, ?_⟩
  have responds := accepted.responds
  cases parsed : env.vpack.fromJson ⟨false, false⟩ transfer.body.flatten with
  | error exception =>
    rw [transfer.respond_eq nonempty, if_pos type, parsed] at responds
    cases responds
  | ok value =>
    obtain ⟨other, same, built⟩ := Transfer.respond_json type nonempty parsed
    cases same.symm.trans responds
    exact ⟨value, rfl, built⟩

/-- The type of a response is checked exactly when there is no body, when it is declared as
VelocyPack, or when it is declared as JSON and is read as JSON or is refused anyway. -/
theorem typeChecked_iff (lawful : env.vpack.Lawful) {dispatch : Dispatch}
    {connectData : ArangoDBConnection} {curlObject : RequestCurlObject} {rq : HttpMessage}
    {transfer : Transfer}
    (performed : ((dispatch.sendREQUEST env connectData curlObject rq).run [transfer]).rest = []) :
    TypeChecked env dispatch.title transfer
        ((dispatch.sendREQUEST env connectData curlObject rq).run [transfer]).outcome ↔
      transfer.body.flatten = [] ∨ transfer.declaredType = some fuContentTypeVpack ∨
        transfer.declaredType = some fuContentTypeJson ∧
          (contentTypeOf transfer.headers = fuContentTypeJson ∨ transfer.responseCode = 0 ∨
            ¬ transfer.Legible env) := by
  have returns := @sendREQUEST_returned_iff env lawful _ _ _ _ _ performed
  constructor
  · rintro ⟨returned, refused⟩
    by_cases empty : transfer.body.flatten = []
    · exact Or.inl empty
    by_cases vpack : transfer.declaredType = some fuContentTypeVpack
    · exact Or.inr (Or.inl vpack)
    by_cases json : transfer.declaredType = some fuContentTypeJson
    · refine Or.inr (Or.inr ⟨json, ?_⟩)
      by_cases received : transfer.responseCode = 0
      · exact Or.inr (Or.inl received)
      by_cases legible : transfer.Legible env
      · obtain ⟨response, accepted⟩ := (accepted_iff lawful transfer).mpr ⟨received, legible⟩
        rcases returned response (returns.mpr accepted) with none | declared | converted
        · exact absurd ((payload_eq_nil_iff lawful accepted.responds).mp none) empty
        · exact absurd declared vpack
        · exact Or.inl (isContentTypeJson_headed_iff transfer |>.mp converted.2.1)
      · exact Or.inr (Or.inr legible)
    · have refusal := refused empty vpack json
      exact absurd refusal (sendREQUEST_ne_illegal lawful performed dispatch.title)
  · intro condition
    refine ⟨fun response outcome => ?_, fun nonempty notVpack notJson => ?_⟩
    · have accepted := returns.mp outcome
      rcases condition with empty | vpack | ⟨json, read⟩
      · exact Or.inl ((payload_eq_nil_iff lawful accepted.responds).mpr empty)
      · exact Or.inr (Or.inl vpack)
      · by_cases empty : transfer.body.flatten = []
        · exact Or.inl ((payload_eq_nil_iff lawful accepted.responds).mpr empty)
        rcases read with type | unreceived | illegible
        · exact Or.inr (Or.inr ⟨json, accepted.converted empty
            ((isContentTypeJson_headed_iff transfer).mpr type)⟩)
        · exact absurd unreceived ((accepted_iff lawful transfer).mp ⟨response, accepted⟩).1
        · exact absurd ((accepted_iff lawful transfer).mp ⟨response, accepted⟩).2 illegible
    · rcases condition with empty | vpack | ⟨json, _⟩
      · exact absurd empty nonempty
      · exact absurd vpack notVpack
      · exact absurd json notJson

/-- A JSON body that is declared as such. -/
theorem typeChecked_iff_json :
    let env : Env := ⟨.simple [(text "1", .int 1)], true, true, [], false⟩
    let transfer : Transfer := ⟨0, 200, ["Content-Type: application/json\x0d\n"], ["1"]⟩
    TypeChecked env Dispatch.base.title transfer ((Dispatch.base.sendREQUEST env .default .new
        (createREQUEST env .get "/_api/version")).run [transfer]).outcome ↔
      transfer.body.flatten = [] ∨ transfer.declaredType = some fuContentTypeVpack ∨
        transfer.declaredType = some fuContentTypeJson ∧
          (contentTypeOf transfer.headers = fuContentTypeJson ∨ transfer.responseCode = 0 ∨
            ¬ transfer.Legible env) :=
  have lawful := Velocypack.simple_lawful [(text "1", .int 1)] (by simp [IsWord])
  typeChecked_iff lawful (performed_get lawful "/_api/version" _)

/-- The error page of a proxy is returned. -/
theorem not_typeChecked_html :
    let env : Env := ⟨.simple [], true, true, [], false⟩
    let transfer : Transfer := ⟨0, 502, ["Content-Type: text/html\x0d\n"], ["<html>"]⟩
    ¬ TypeChecked env Dispatch.base.title transfer ((Dispatch.base.sendREQUEST env .default .new
        (createREQUEST env .get "/_api/version")).run [transfer]).outcome := by
  intro env transfer checked
  have lawful : env.vpack.Lawful := Velocypack.simple_lawful []
  have refusal := checked.refused (by decide) (by decide) (by decide)
  exact sendREQUEST_ne_illegal lawful (performed_get lawful _ transfer) _ refusal

end ArangoCpp
