/-
This file says what the families of requests of a server have in common.

A family says for each of its requests the verb, the path, and what the value in the body has to
say, when there is one. A server reads a request off what is sent when all of these fit, and the
client sends every request so that it can be read. What a program does with the reply is a
computation on what it is told, so that what a program does is known from how the server answers
its requests. Here are the rules for that, for a program that is alone with the server and for one
that shares it.
-/

import ArangoCpp.Concurrency
import ArangoCpp.Cursor
import ArangoCpp.Documents

namespace ArangoCpp

open Dialogue

/-- A family of requests: whom they are sent to, and what the value in a body has to be like. -/
structure Interface (Request : Type) where
  dispatch : Dispatch
  verb : Request → RestVerb
  path : Request → Bytes
  body : Request → Option (Slice → Prop)

namespace Interface

variable {Request : Type} (interface : Interface Request)

/-- The server reads a request off what is sent. Nothing is read off a body that it cannot read. -/
structure Sees (read : Bytes → Option Slice) (connectData : ArangoDBConnection)
    (sent : Transmission) (request : Request) : Prop where
  method : sent.method = (interface.verb request).method
  url : sent.url = interface.dispatch.url connectData (interface.path request)
  body : ∀ fits, interface.body request = some fits →
    ∃ body, sent.body = some (some body) ∧ fits ((read body).getD .none)

/-- A request is known by its method, its path, and the value in its body. -/
def Distinct : Prop :=
  ∀ first second : Request, (interface.verb first).method = (interface.verb second).method →
    interface.path first = interface.path second →
    (∀ fits other, interface.body first = some fits → interface.body second = some other →
      ∃ value, fits value ∧ other value) → first = second

variable {interface}

/-- The server reads at most one request of the family off what is sent. -/
theorem Sees.unique (distinct : interface.Distinct) {read : Bytes → Option Slice}
    {connectData : ArangoDBConnection} {sent : Transmission} {first second : Request}
    (sees : interface.Sees read connectData sent first)
    (other : interface.Sees read connectData sent second) : first = second := by
  refine distinct first second (sees.method.symm.trans other.method) ?_ ?_
  · have urls := sees.url.symm.trans other.url
    cases dispatch : interface.dispatch with
    | base =>
      rw [dispatch] at urls
      exact List.append_cancel_left urls
    | users =>
      rw [dispatch] at urls
      exact List.append_cancel_left urls
  · intro fits fits' stated stated'
    obtain ⟨body, carried, said⟩ := sees.body fits stated
    obtain ⟨body', carried', said'⟩ := other.body fits' stated'
    cases carried.symm.trans carried'
    exact ⟨_, said, said'⟩

variable {env : Env} {policy : Policy} {connectData : ArangoDBConnection}

variable (interface) in
/-- A message that the client makes for a request. -/
inductive Carried (env : Env) (policy : Policy) (request : Request) : HttpMessage → Prop where
  | bare (kind : interface.verb request = .get ∨ interface.verb request = .head ∨
        interface.verb request = .delete ∨ interface.verb request = .put)
      (plain : interface.body request = none) :
      Carried env policy request
        (createREQUEST env (interface.verb request) (interface.path request))
  | loaded {rq : HttpMessage} {value : Slice} (issued : rq.Issued env) (holds : rq.Holds env value)
      (json : value.Json) (verb : rq.header.restVerb = interface.verb request)
      (path : rq.header.path = interface.path request)
      (said : ∀ fits, interface.body request = some fits → fits (policy.seen env value)) :
      Carried env policy request rq

theorem Carried.issued {request : Request} {rq : HttpMessage}
    (carried : interface.Carried env policy request rq) : rq.Issued env := by
  cases carried with
  | bare kind => exact issued_createREQUEST _ (by tauto)
  | loaded issued => exact issued

/-- A request with a value in its body. -/
theorem carried_createREQUESTWith (lawful : env.vpack.Lawful) {request : Request} {value : Slice}
    (loaded : interface.verb request = .post ∨ interface.verb request = .put ∨
      interface.verb request = .patch) (json : value.Json)
    (said : ∀ fits, interface.body request = some fits → fits (policy.seen env value)) :
    interface.Carried env policy request
      (createREQUESTWith env (interface.verb request) (interface.path request) value) :=
  .loaded (issued_createREQUESTWith lawful _ json.represented loaded)
    (holds_createREQUESTWith _ _ json.represented) json rfl rfl said

/-- A message for a request is sent, and the server reads the request off what is sent. -/
theorem Carried.sees (understands : policy.Understands env) (connectData : ArangoDBConnection)
    {request : Request} {rq : HttpMessage} (carried : interface.Carried env policy request rq) :
    ∃ sent, (interface.dispatch.channel env connectData).encode rq = .ok sent ∧
      interface.Sees policy.read connectData sent request := by
  cases carried with
  | bare kind plain =>
    refine ⟨_, encode_createREQUEST understands.lawful interface.dispatch connectData kind
      (interface.path request), rfl, rfl, fun fits stated => ?_⟩
    rw [plain] at stated
    cases stated
  | @loaded _ value issued holds json verb path said =>
    obtain ⟨body, encoded, nonempty, read⟩ := @Policy.Understands.encodes _ _ understands
      interface.dispatch connectData _ issued ⟨value, json⟩ holds
    refine ⟨_, encoded, congrArg RestVerb.method verb,
      congrArg (fun path => interface.dispatch.url connectData path) path, fun fits stated => ?_⟩
    refine ⟨body, if_neg nonempty, ?_⟩
    rw [read]
    exact said fits stated

variable (interface) in
/-- A message that the server reads as a request, if it is sent. -/
structure Voiced (env : Env) (policy : Policy) (connectData : ArangoDBConnection)
    (request : Request) (rq : HttpMessage) : Prop where
  issued : rq.Issued env
  sees : ∀ sent, (interface.dispatch.channel env connectData).encode rq = .ok sent →
    interface.Sees policy.read connectData sent request

theorem Carried.voiced (understands : policy.Understands env) (connectData : ArangoDBConnection)
    {request : Request} {rq : HttpMessage} (carried : interface.Carried env policy request rq) :
    interface.Voiced env policy connectData request rq where
  issued := carried.issued
  sees sent encoded := by
    obtain ⟨sends, same, sees⟩ := carried.sees understands connectData
    cases encoded.symm.trans same
    exact sees

end Interface

/-! ### What a program sends -/

section

variable {env : Env} {policy : Policy}

/-- A program sends what its messages become. -/
theorem asks_conduct (lawful : env.vpack.Lawful) (dispatch : Dispatch)
    (connectData : ArangoDBConnection) {Value : Type} {program : Api Value}
    {asked : HttpMessage → Prop} {seen : Transmission → Prop} (asks : program.Asks asked)
    (issued : ∀ rq, asked rq → rq.Issued env)
    (sends : ∀ rq sent, asked rq → (dispatch.channel env connectData).encode rq = .ok sent →
      seen sent) :
    (conduct env dispatch connectData program).Asks seen := by
  rw [Operation.conduct_eq_through lawful (asks.mono issued)]
  exact asks.through fun rq signal held encoded => sends rq signal held encoded

/-- What is carried for a request is an issued message. -/
theorem Interface.issued_of_carries {Request : Type} {interface : Interface Request} {Value : Type}
    {program : Api Value}
    (carries : program.Asks fun rq => ∃ request, interface.Carried env policy request rq) :
    program.Asks (HttpMessage.Issued env) := by
  refine carries.mono ?_
  rintro rq ⟨request, carried⟩
  exact carried.issued

/-- When every message of a program is one for a request, the server reads requests off all that
the program sends. -/
theorem Interface.asks_conduct {Request : Type} (interface : Interface Request)
    (understands : policy.Understands env) (connectData : ArangoDBConnection) {Value : Type}
    {program : Api Value}
    (asks : program.Asks fun rq => ∃ request, interface.Carried env policy request rq) :
    (conduct env interface.dispatch connectData program).Asks fun sent =>
      ∃ request, interface.Sees policy.read connectData sent request := by
  refine ArangoCpp.asks_conduct understands.lawful interface.dispatch connectData asks ?_ ?_
  · rintro rq ⟨request, carried⟩
    exact carried.issued
  · rintro rq sent ⟨request, carried⟩ encoded
    exact ⟨request, (carried.voiced understands connectData).sees sent encoded⟩

/-- A program that sends the message for one request. -/
theorem Interface.Carried.asks {Request : Type} {interface : Interface Request}
    {request : Request} {rq : HttpMessage} (carried : interface.Carried env policy request rq)
    {Value : Type} (take : HttpMessage → Except Fault Value) :
    (Dialogue.exchange rq take : Api Value).Asks fun rq =>
      ∃ request, interface.Carried env policy request rq := by
  let asked (rq : HttpMessage) : Prop := ∃ request, interface.Carried env policy request rq
  have held : asked rq := ⟨request, carried⟩
  exact asks_exchange held take

end

/-! ### What a program is told -/

variable {env : Env} {policy : Policy} {connectData : ArangoDBConnection}

/-- What a program makes of a reply. -/
abbrev told (env : Env) (dispatch : Dispatch) (connectData : ArangoDBConnection) {Value : Type}
    (rq : HttpMessage) (take : HttpMessage → Except Fault Value) (reply : Transfer) :
    Except Fault Value :=
  (dispatch.channel env connectData).decode rq reply >>= take

/-- A reply of which only the status matters: its body is empty or one value. -/
def Transfer.Plain (env : Env) (reply : Transfer) : Prop :=
  reply.body.flatten = [] ∨ ∃ value : JsonValue, reply.Holds env value

section

variable (understands : policy.Understands env) (dispatch : Dispatch) (rq : HttpMessage)
  {Value : Type} {reply : Transfer}

include understands

/-- A program that is sent a value takes a response that is read as the value. -/
theorem Policy.Understands.told_holds (take : HttpMessage → Except Fault Value) {value : JsonValue}
    (holds : reply.Holds env value) (received : reply.responseCode ≠ 0) :
    ∃ response : HttpMessage, response.Reads env value ∧
      response.statusCode = reply.responseCode ∧
      told env dispatch connectData rq take reply = take response := by
  obtain ⟨response, accepted, reads⟩ := holds.accepted understands.lawful received fun _ =>
    understands.dumps value
  refine ⟨response, reads, accepted.status, ?_⟩
  rw [told, (decode_eq_ok_iff understands.lawful dispatch connectData rq).mpr accepted, ok_bind]

theorem Policy.Understands.told_plain (take : HttpMessage → Except Fault Value)
    (plain : reply.Plain env) (received : reply.responseCode ≠ 0) :
    ∃ response : HttpMessage, response.statusCode = reply.responseCode ∧
      told env dispatch connectData rq take reply = take response := by
  rcases plain with empty | ⟨value, holds⟩
  · obtain ⟨response, accepted, _⟩ := @accepted_of_empty env reply empty received
    refine ⟨response, accepted.status, ?_⟩
    rw [told, (decode_eq_ok_iff understands.lawful dispatch connectData rq).mpr accepted, ok_bind]
  · obtain ⟨response, _, status, same⟩ := understands.told_holds dispatch rq take holds received
    exact ⟨response, status, same⟩

/-- A value whose status is not refused is read. -/
theorem Policy.Understands.told_takeValue {refused : StatusCode → Bool} {value : JsonValue}
    (accepts : refused reply.responseCode = false) (received : reply.responseCode ≠ 0)
    (holds : reply.Holds env value) (text : Bytes) (read : Slice → Except VpackException Value) :
    told env dispatch connectData rq (takeValue env refused text read) reply =
      ofVpack (read value) := by
  obtain ⟨response, reads, status, same⟩ := understands.told_holds dispatch rq
    (takeValue env refused text read) holds received
  have accepted : ¬ refused response.statusCode = true := by
    rw [status, accepts]
    exact Bool.false_ne_true
  rw [same, takeValue, reads.front, ok_bind, if_neg accepted]

/-- A list is read when the status says that it is there. -/
theorem Policy.Understands.told_listValue {value : JsonValue} (status : reply.responseCode = 200)
    (holds : reply.Holds env value) (nothing : Value) (read : Slice → Except VpackException Value) :
    told env dispatch connectData rq (listValue env nothing read) reply = ofVpack (read value) := by
  obtain ⟨response, reads, same, takes⟩ := understands.told_holds dispatch rq
    (listValue env nothing read) holds (by rw [status]; decide)
  rw [takes, listValue, if_pos (show response.statusCode = statusOK from same.trans status),
    reads.front, ok_bind]

/-- Of a reply whose status is not refused nothing is read. -/
theorem Policy.Understands.told_demand {refused : StatusCode → Bool}
    (accepts : refused reply.responseCode = false) (received : reply.responseCode ≠ 0)
    (plain : reply.Plain env) (text : Bytes) :
    told env dispatch connectData rq (demand env refused text) reply = .ok () := by
  obtain ⟨response, status, same⟩ := understands.told_plain dispatch rq
    (demand env refused text) plain received
  rw [same, demand_eq_ok_iff, status, accepts]

/-- Of a reply the status may be all that is read. -/
theorem Policy.Understands.told_status (probe : StatusCode → Bool)
    (received : reply.responseCode ≠ 0) (plain : reply.Plain env) :
    told env dispatch connectData rq (fun result => pure (probe result.statusCode)) reply =
      .ok (probe reply.responseCode) := by
  obtain ⟨response, status, same⟩ := understands.told_plain dispatch rq
    (fun result => pure (probe result.statusCode)) plain received
  rw [same, status]
  rfl

/-- What a refused request throws is an exception of the client. -/
theorem Policy.Understands.told_refused {take : HttpMessage → Except Fault Value}
    (refuses : Refuses env take) {value : JsonValue} (bad : badRequest reply.responseCode = true)
    (holds : reply.Holds env value) (explains : value.1.Explains) :
    ∃ exception, told env dispatch connectData rq take reply = .error (.arango exception) := by
  obtain ⟨response, reads, status, same⟩ := understands.told_holds dispatch rq take holds
    (received_of_badRequest bad)
  obtain ⟨text, reports⟩ := refuses response (status ▸ bad) value reads
  rw [same, reports]
  exact (errorThrow_arango_iff reads text).mpr explains.reportable

end

/-! ### Programs and how their requests are answered -/

section

variable {Request : Type} {interface : Interface Request} {request : Request} {rq : HttpMessage}
  {Value Result : Type} {take : HttpMessage → Except Fault Value}
  {continuation : Value → Api Result} {State : Type}
  {peer : State → Transmission → Transfer → State → Prop}
  {serves : State → Transfer → State → Prop}
  (understands : policy.Understands env) (carried : interface.Carried env policy request rq)
  (answers : ∀ now sent reply after, interface.Sees policy.read connectData sent request →
    peer now sent reply after → serves now reply after)

include understands in
/-- A message that is sent is answered by what its program is told. -/
theorem conduct_exchange_of_encode {dispatch : Dispatch} (issued : rq.Issued env)
    {sent : Transmission} (encoded : (dispatch.channel env connectData).encode rq = .ok sent)
    (take : HttpMessage → Except Fault Value) :
    ArangoCpp.conduct env dispatch connectData (.exchange rq take) =
      .ask sent fun reply => .ofExcept (told env dispatch connectData rq take reply) := by
  rw [Operation.conduct_eq_through understands.lawful (asks_exchange issued take)]
  refine (through_ask_of_ok encoded _).trans (congrArg (Dialogue.ask sent) (funext fun reply => ?_))
  rw [ofExcept_bind_ofExcept, through_ofExcept]

include understands carried in
/-- What is sent for a request is what the server reads the request off. -/
theorem Interface.Carried.conduct (take : HttpMessage → Except Fault Value) :
    ∃ sent, interface.Sees policy.read connectData sent request ∧
      ArangoCpp.conduct env interface.dispatch connectData (.exchange rq take) =
        .ask sent fun reply =>
          .ofExcept (told env interface.dispatch connectData rq take reply) := by
  obtain ⟨sent, encoded, sees⟩ := carried.sees understands connectData
  exact ⟨sent, sees, conduct_exchange_of_encode understands carried.issued encoded take⟩

include understands carried in
/-- A request that the peer answers. -/
theorem Interface.Carried.plays {state after : State} {reply : Transfer}
    (take : HttpMessage → Except Fault Value)
    (answered : ∀ sent, interface.Sees policy.read connectData sent request →
      peer state sent reply after) :
    Plays peer (ArangoCpp.conduct env interface.dispatch connectData (.exchange rq take)) state
      (told env interface.dispatch connectData rq take reply) after := by
  obtain ⟨sent, sees, sends⟩ := carried.conduct understands take
  rw [sends]
  exact plays_ask_iff.mpr ⟨reply, after, answered sent sees, plays_ofExcept_iff.mpr ⟨rfl, rfl⟩⟩

include understands carried answers

variable {Abstract Answer : Type} {view : State → Abstract} {rely guarantee : State → State → Prop}
  {does : Abstract → Answer → Abstract → Prop} {agrees : Answer → Except Fault Result → Prop}
  {state : State}

/-- A program whose last request is answered in the instant in which it takes effect. -/
theorem Interface.Carried.atomic {agrees : Answer → Except Fault Value → Prop}
    (each : ∀ now reply after, rely state now → serves now reply after → guarantee now after ∧
      ∃ answer, does (view now) answer (view after) ∧
        agrees answer (told env interface.dispatch connectData rq take reply)) :
    (ArangoCpp.conduct env interface.dispatch connectData (.exchange rq take)).Atomic peer view rely
      guarantee does agrees state := by
  obtain ⟨sent, sees, sends⟩ := carried.conduct understands take
  rw [sends]
  intro now reply after borne answered
  obtain ⟨guaranteed, answer, done, agreed⟩ := each now reply after borne
    (answers _ _ _ _ sees answered)
  exact ⟨guaranteed, Or.inl ⟨answer, done, settled_ofExcept_iff.mpr agreed⟩⟩

omit carried in
/-- A program whose last request is answered so that something holds then, or is not sent. -/
theorem Interface.Voiced.secures (voiced : interface.Voiced env policy connectData request rq)
    {ends : Except Fault Value → State → Prop}
    (fails : ∀ fault, (interface.dispatch.channel env connectData).encode rq = .error fault →
      ∀ later, rely state later → ends (.error fault) later)
    (each : ∀ now reply after, rely state now → serves now reply after → guarantee now after ∧
      ∀ later, rely after later →
        ends (told env interface.dispatch connectData rq take reply) later) :
    (ArangoCpp.conduct env interface.dispatch connectData (.exchange rq take)).Secures peer rely
      guarantee ends state := by
  cases encoded : (interface.dispatch.channel env connectData).encode rq with
  | error fault =>
    have silent : ArangoCpp.conduct env interface.dispatch connectData
        (.exchange rq take : Api Value) = .raise fault := by
      rw [Operation.conduct_eq_through understands.lawful (asks_exchange voiced.issued take)]
      exact through_ask_of_error encoded _
    rw [silent]
    exact fails fault encoded
  | ok sent =>
    rw [conduct_exchange_of_encode understands voiced.issued encoded take]
    intro now reply after borne answered
    obtain ⟨guaranteed, ended⟩ :=
      each now reply after borne (answers _ _ _ _ (voiced.sees sent encoded) answered)
    exact ⟨guaranteed, secures_ofExcept_iff.mpr ended⟩

/-- A program that goes on after a request that changes nothing of what is viewed. -/
theorem Interface.Carried.settled_bind {ends : Except Fault Result → Prop}
    (each : ∀ now reply after, rely state now → serves now reply after → guarantee now after ∧
      view after = view now ∧
      ((∃ value, told env interface.dispatch connectData rq take reply = .ok value ∧
        (ArangoCpp.conduct env interface.dispatch connectData (continuation value)).Settled peer
          view rely guarantee ends after) ∨
      ∃ fault, told env interface.dispatch connectData rq take reply = .error fault ∧
        ends (.error fault))) :
    (ArangoCpp.conduct env interface.dispatch connectData
      (.bind (.exchange rq take) continuation)).Settled peer view rely guarantee ends state := by
  obtain ⟨sent, sees, sends⟩ := carried.conduct understands take
  rw [conduct_bind, sends, ask_bind]
  intro now reply after borne answered
  obtain ⟨guaranteed, same, ⟨value, heard, goesOn⟩ | ⟨fault, heard, ended⟩⟩ :=
    each now reply after borne (answers _ _ _ _ sees answered)
  · dsimp only
    rw [heard]
    exact ⟨guaranteed, same, goesOn⟩
  · dsimp only
    rw [heard]
    exact ⟨guaranteed, same, ended⟩

/-- A program that goes on after its request. -/
theorem Interface.Carried.atomic_bind
    (each : ∀ now reply after, rely state now → serves now reply after → guarantee now after ∧
      ((∃ value, told env interface.dispatch connectData rq take reply = .ok value ∧
        ((∃ answer, does (view now) answer (view after) ∧
          (ArangoCpp.conduct env interface.dispatch connectData (continuation value)).Settled peer
            view rely guarantee (agrees answer) after) ∨
        (view after = view now ∧
          (ArangoCpp.conduct env interface.dispatch connectData (continuation value)).Atomic peer
            view rely guarantee does agrees after))) ∨
      ∃ fault answer, told env interface.dispatch connectData rq take reply = .error fault ∧
        does (view now) answer (view after) ∧ agrees answer (.error fault))) :
    (ArangoCpp.conduct env interface.dispatch connectData
      (.bind (.exchange rq take) continuation)).Atomic peer view rely guarantee does agrees
        state := by
  obtain ⟨sent, sees, sends⟩ := carried.conduct understands take
  rw [conduct_bind, sends, ask_bind]
  intro now reply after borne answered
  obtain ⟨guaranteed, ⟨value, heard, goesOn⟩ | ⟨fault, answer, heard, done, agreed⟩⟩ :=
    each now reply after borne (answers _ _ _ _ sees answered)
  · dsimp only
    rw [heard]
    exact ⟨guaranteed, goesOn⟩
  · dsimp only
    rw [heard]
    exact ⟨guaranteed, Or.inl ⟨answer, done, agreed⟩⟩

end

section

variable {Value Result State Abstract Answer : Type} {dispatch : Dispatch}
  {peer : State → Transmission → Transfer → State → Prop} {view : State → Abstract}
  {rely guarantee : State → State → Prop} {does : Abstract → Answer → Abstract → Prop}
  {state : State} {program : Api Value}

/-- What is returned may be put into another shape. -/
theorem atomic_bind_done {wrap : Value → Result} {agrees : Answer → Except Fault Result → Prop}
    (atomic : (conduct env dispatch connectData program).Atomic peer view rely guarantee does
      (fun answer result => agrees answer (result.map wrap)) state) :
    (conduct env dispatch connectData (program.bind fun value => .done (wrap value))).Atomic peer
      view rely guarantee does agrees state := by
  rw [conduct_bind]
  have wraps : ∀ answer (result : Except Fault Value), agrees answer (result.map wrap) →
      agrees answer (result >>= fun value => .ok (wrap value)) := by
    intro answer result agreed
    cases result <;> exact agreed
  exact atomic.bind_ofExcept wraps

/-- How `catchVelocypack` handles a fault. -/
def translate (env : Env) (title : Bytes) (id : Int) : Fault → Except Fault Value
  | .velocypack exception => arangoThrow title id ("Velocypack error: " ++ env.vpack.what exception)
  | fault => .error fault

theorem catchVelocypack_eq (title : Bytes) (id : Int) (program : Api Value) :
    catchVelocypack env title id program =
      program.rescue fun fault => .ofExcept (translate env title id fault) := by
  refine congrArg (Dialogue.rescue · program) (funext fun fault => ?_)
  cases fault <;> rfl

/-- An exception of the library is thrown as one of the client. -/
theorem translate_velocypack (title : Bytes) (id : Int) (exception : VpackException) :
    ∃ thrown, (translate env title id (.velocypack exception) : Except Fault Value) =
      .error (.arango thrown) := ⟨_, rfl⟩

/-- A program that translates exceptions. -/
theorem atomic_catchVelocypack (lawful : env.vpack.Lawful) {title : Bytes} {id : Int}
    (asks : program.Asks (HttpMessage.Issued env)) {agrees : Answer → Except Fault Value → Prop}
    (atomic : (conduct env dispatch connectData program).Atomic peer view rely guarantee does
      (fun answer result => agrees answer (result.tryCatch (translate env title id))) state) :
    (conduct env dispatch connectData (catchVelocypack env title id program)).Atomic peer view rely
      guarantee does agrees state := by
  rw [Operation.conduct_eq_through lawful asks] at atomic
  rw [Operation.conduct_eq_through lawful (asks_catchVelocypack asks title id), catchVelocypack_eq,
    through_rescue]
  simp only [through_ofExcept]
  exact atomic.rescue_ofExcept fun _ _ agreed => agreed

/-- A program that goes on with what it has parsed, and throws when that is malformed. -/
theorem atomic_parsed (lawful : env.vpack.Lawful) {Parsed : Type}
    {parsed : Except VpackException Parsed} {continuation : Parsed → Api Value}
    {agrees : Answer → Except Fault Value → Prop} {refused : Answer} {title : Bytes} {id : Int}
    (asks : ∀ value, parsed = .ok value → (continuation value).Asks (HttpMessage.Issued env))
    (malformed : ∀ exception, parsed = .error exception →
      ∀ now, rely state now → does (view now) refused (view now))
    (thrown : ∀ exception, agrees refused (.error (.arango exception)))
    (translates : ∀ answer (result : Except Fault Value), agrees answer result →
      agrees answer (result.tryCatch (translate env title id)))
    (each : ∀ value, parsed = .ok value →
      (conduct env dispatch connectData (continuation value)).Atomic peer view rely guarantee does
        agrees state) :
    (conduct env dispatch connectData (catchVelocypack env title id
      (.bind (.ofExcept (ofVpack parsed)) continuation))).Atomic peer view rely guarantee does
        agrees state := by
  cases parsed with
  | error exception =>
    rw [ofVpack_error, ofExcept_error, raise_bind]
    refine atomic_catchVelocypack lawful (asks_raise _) fun now borne => ?_
    obtain ⟨error, translated⟩ := @translate_velocypack env Value title id exception
    refine ⟨refused, malformed exception rfl now borne, ?_⟩
    show agrees refused (translate env title id (.velocypack exception))
    rw [translated]
    exact thrown error
  | ok value =>
    rw [ofVpack_ok, ofExcept_ok, done_bind]
    refine atomic_catchVelocypack lawful (asks value rfl) ?_
    exact (each value rfl).mono fun before answer after done =>
      ⟨answer, done, fun result agreed => translates answer result agreed⟩

/-- What is parsed may be put into another shape first. -/
theorem ofVpack_map_bind {Parsed Described : Type} (parsed : Except VpackException Parsed)
    (describe : Parsed → Described) (continuation : Described → Api Value) :
    (.bind (.ofExcept (ofVpack (parsed.map describe))) continuation : Api Value) =
      .bind (.ofExcept (ofVpack parsed)) fun value => continuation (describe value) := by
  cases parsed <;> rfl

/-- A document that is written, when its text is parsed, and otherwise an exception. -/
theorem atomic_writeDocument (understands : policy.Understands env) {Request : Type}
    {interface : Interface Request} {request : Slice → Request} {title : Bytes} {id : Int}
    {verb : RestVerb} {path jsonrec errorText : Bytes}
    {identifier : Slice → Except VpackException Bytes}
    {serves : Slice → State → Transfer → State → Prop}
    {agrees : Answer → Except Fault Bytes → Prop}
    (malformed : ∀ exception, env.vpack.fromJson parseOptions jsonrec = .error exception →
      ∀ now thrown, rely state now → ∃ answer, does (view now) answer (view now) ∧
        agrees answer (.error (.arango thrown)))
    (carried : ∀ data, env.vpack.fromJson parseOptions jsonrec = .ok data →
      interface.Carried env policy (request data)
        (createREQUESTWith env verb path data).eraseAccept)
    (answers : ∀ data now sent reply after, interface.Sees policy.read connectData sent
      (request data) → peer now sent reply after → serves data now reply after)
    (each : ∀ data, env.vpack.fromJson parseOptions jsonrec = .ok data →
      ∀ now reply after, rely state now → serves data now reply after → guarantee now after ∧
        ∃ answer, does (view now) answer (view after) ∧
          agrees answer ((told env interface.dispatch connectData
            (createREQUESTWith env verb path data).eraseAccept
            (takeValue env badRequest errorText identifier) reply).tryCatch
              (translate env title id))) :
    (conduct env interface.dispatch connectData
      (writeDocument env title id verb path jsonrec errorText identifier)).Atomic peer view rely
        guarantee does agrees state := by
  rw [writeDocument_eq]
  cases parsed : env.vpack.fromJson parseOptions jsonrec with
  | error exception =>
    rw [ofVpack_error, ofExcept_error, raise_bind]
    refine atomic_catchVelocypack understands.lawful (asks_raise _) fun now borne => ?_
    obtain ⟨thrown, translated⟩ := @translate_velocypack env Bytes title id exception
    obtain ⟨answer, done, agreed⟩ := malformed exception parsed now thrown borne
    refine ⟨answer, done, ?_⟩
    rw [← translated] at agreed
    exact agreed
  | ok data =>
    refine atomic_catchVelocypack understands.lawful
      (asks_exchange (carried data parsed).issued _) ?_
    exact (carried data parsed).atomic understands (answers data) (each data parsed)

end

/-! ### Lists of names -/

/-- The names that a list shows are the names that are read. -/
theorem insertNames_array {name : Slice → Except VpackException Bytes} {names : List Bytes}
    {items : List Slice}
    (shown : List.Forall₂ (fun text item => name item = .ok text) names items) :
    ∃ found, insertNames name (.array items) = .ok found ∧ ∀ text, text ∈ found ↔ text ∈ names := by
  have loop := foldlM_itemAt (fun (found : StringSet) item => do
    let text ← name item
    return found.insert text) items ∅
  have added : ∀ found : StringSet, ∃ final,
      items.foldlM (fun (found : StringSet) item => do
        let text ← name item
        return found.insert text) found = (.ok final : Except VpackException StringSet) ∧
      ∀ text, text ∈ final ↔ text ∈ names ∨ text ∈ found := by
    clear loop
    induction shown with
    | nil => exact fun found => ⟨found, rfl, fun text => by simp⟩
    | @cons text item names items first _ inductionHypothesis =>
      intro found
      obtain ⟨final, rest, member⟩ := inductionHypothesis (found.insert text)
      refine ⟨final, ?_, fun other => ?_⟩
      · rw [List.foldlM_cons, first]
        exact rest
      · rw [member, Std.TreeSet.mem_insert, List.mem_cons, Std.LawfulEqCmp.compare_eq_iff_eq]
        tauto
  obtain ⟨final, done, member⟩ := added ∅
  refine ⟨final, loop.trans done, fun text => (member text).trans ?_⟩
  simp

/-! ### Servers that tell, change, and refuse -/

/-- What a server does with requests: what it tells without changing anything, what it changes and
with which status it says so, and what it refuses. -/
structure Rules (Request State : Type) where
  tells : State → Request → Transfer → Prop
  changes : State → Request → StatusCode → State → Prop
  refuses : State → Request → Prop

namespace Rules

variable {Request State : Type} (rules : Rules Request State)

/-- How a server answers a request, and the state that it has then. -/
inductive Serves (env : Env) (state : State) (request : Request) (reply : Transfer) :
    State → Prop where
  | told (tells : rules.tells state request reply) : Serves env state request reply state
  | changed {after : State} (changes : rules.changes state request reply.responseCode after)
      (plain : reply.Plain env) : Serves env state request reply after
  | refused {value : JsonValue} (refuses : rules.refuses state request)
      (bad : badRequest reply.responseCode = true) (holds : reply.Holds env value)
      (explains : value.1.Explains) : Serves env state request reply state

/-- A server answers what it reads as a request. -/
def Answers (interface : Interface Request) (env : Env) (policy : Policy)
    (connectData : ArangoDBConnection) (state : State) (sent : Transmission) (reply : Transfer)
    (after : State) : Prop :=
  ∀ request, interface.Sees policy.read connectData sent request →
    rules.Serves env state request reply after

/-- What a request does that is carried out or refused, and how it is answered. -/
def Does {Answer : Type} (done refused : Answer) (request : Request) (state : State)
    (answer : Answer) (after : State) : Prop :=
  (answer = done ∧ ∃ status, rules.changes state request status after) ∨
    (answer = refused ∧ rules.refuses state request ∧ after = state)

/-- A request that changes nothing and is not refused. -/
structure Reads (request : Request) : Prop where
  changes : ∀ state status after, ¬ rules.changes state request status after
  refuses : ∀ state, ¬ rules.refuses state request

/-- A request that is carried out or refused. -/
def Writes (request : Request) : Prop := ∀ state reply, ¬ rules.tells state request reply

variable {rules} {env : Env}

theorem Serves.reads {request : Request} {state after : State} {reply : Transfer}
    (serves : rules.Serves env state request reply after) (reads : rules.Reads request) :
    after = state ∧ rules.tells state request reply := by
  cases serves with
  | told tells => exact ⟨rfl, tells⟩
  | changed changes plain => exact absurd changes (reads.changes _ _ _)
  | refused refuses bad holds explains => exact absurd refuses (reads.refuses _)

/-- What is sent for a request is answered as the request is. -/
theorem answers_of_serves {interface : Interface Request} (distinct : interface.Distinct)
    {policy : Policy} {connectData : ArangoDBConnection} {sent : Transmission} {request : Request}
    {state after : State} {reply : Transfer}
    (sees : interface.Sees policy.read connectData sent request)
    (serves : rules.Serves env state request reply after) :
    rules.Answers interface env policy connectData state sent reply after := by
  intro other seen
  rw [Interface.Sees.unique distinct seen sees]
  exact serves

variable {policy : Policy} {connectData : ArangoDBConnection} {interface : Interface Request}
  {Answer Value : Type} {rely guarantee : State → State → Prop}
  (understands : policy.Understands env) {request : Request} {rq : HttpMessage}
  (carried : interface.Carried env policy request rq) {take : HttpMessage → Except Fault Value}

include understands carried

/-- A request that changes nothing is answered with what there is at that moment. -/
theorem Reads.atomic (reads : rules.Reads request) {answer : State → Answer}
    {agrees : Answer → Except Fault Value → Prop}
    (each : ∀ state reply, rules.tells state request reply →
      ∃ value, told env interface.dispatch connectData rq take reply = .ok value ∧
        agrees (answer state) (.ok value))
    (guarantees : ∀ now, guarantee now now) (state : State) :
    (conduct env interface.dispatch connectData (.exchange rq take)).Atomic
      (rules.Answers interface env policy connectData) id rely guarantee
      (fun now answered after => answered = answer now ∧ after = now) agrees state := by
  refine carried.atomic understands (fun now sent reply after sees answers => answers _ sees)
    fun now reply after _ serves => ?_
  obtain ⟨rfl, tells⟩ := serves.reads reads
  obtain ⟨value, heard, agreed⟩ := each after reply tells
  exact ⟨guarantees after, answer after, ⟨rfl, rfl⟩, heard ▸ agreed⟩

/-- A program that goes on after such a request. -/
theorem Reads.atomic_bind (reads : rules.Reads request) {Result : Type} {heard : State → Value}
    {continuation : Value → Api Result} {does : State → Answer → State → Prop}
    {agrees : Answer → Except Fault Result → Prop}
    (hears : ∀ state reply, rules.tells state request reply →
      told env interface.dispatch connectData rq take reply = .ok (heard state))
    (guarantees : ∀ now, guarantee now now)
    (each : ∀ now,
      (∃ answer, does now answer now ∧
        (conduct env interface.dispatch connectData (continuation (heard now))).Settled
          (rules.Answers interface env policy connectData) id rely guarantee (agrees answer) now) ∨
      (conduct env interface.dispatch connectData (continuation (heard now))).Atomic
        (rules.Answers interface env policy connectData) id rely guarantee does agrees now)
    (state : State) :
    (conduct env interface.dispatch connectData (.bind (.exchange rq take) continuation)).Atomic
      (rules.Answers interface env policy connectData) id rely guarantee does agrees state := by
  refine carried.atomic_bind understands (fun now sent reply after sees answers => answers _ sees)
    fun now reply after _ serves => ?_
  obtain ⟨rfl, tells⟩ := serves.reads reads
  refine ⟨guarantees after, Or.inl ⟨heard after, hears after reply tells, ?_⟩⟩
  rcases each after with ⟨answer, done, settled⟩ | atomic
  · exact Or.inl ⟨answer, done, settled⟩
  · exact Or.inr ⟨rfl, atomic⟩

/-- Any other request is carried out, or an exception says that it is refused. -/
theorem Writes.atomic (writes : rules.Writes request) {done refused : Answer}
    {agrees : Answer → Except Fault Value → Prop} {does : State → Answer → State → Prop}
    {state : State}
    (accepts : ∀ state reply after, rules.changes state request reply.responseCode after →
      reply.Plain env → agrees done (told env interface.dispatch connectData rq take reply))
    (rejects : ∀ (reply : Transfer) (value : JsonValue), badRequest reply.responseCode = true →
      reply.Holds env value → value.1.Explains →
        agrees refused (told env interface.dispatch connectData rq take reply))
    (each : ∀ now answer after, rely state now →
      rules.Does done refused request now answer after → does now answer after)
    (guarantees : ∀ now reply after, rules.Serves env now request reply after →
      guarantee now after) :
    (conduct env interface.dispatch connectData (.exchange rq take)).Atomic
      (rules.Answers interface env policy connectData) id rely guarantee does agrees state := by
  refine carried.atomic understands (fun now sent reply after sees answers => answers _ sees)
    fun now reply after borne serves => ⟨guarantees now reply after serves, ?_⟩
  cases serves with
  | told tells => exact absurd tells (writes _ _)
  | changed changes plain =>
    exact ⟨done, each _ _ _ borne (Or.inl ⟨rfl, _, changes⟩), accepts _ _ _ changes plain⟩
  | @refused value refuses bad holds explains =>
    exact ⟨refused, each _ _ _ borne (Or.inr ⟨rfl, refuses, rfl⟩),
      rejects reply value bad holds explains⟩

omit carried in
/-- What `demand` makes of the replies. -/
theorem Writes.atomic_demand {request : Request} {rq : HttpMessage}
    (carried : interface.Carried env policy request rq) (writes : rules.Writes request)
    {refuses : StatusCode → Bool}
    (accepts : ∀ state status after, rules.changes state request status after →
      refuses status = false ∧ status ≠ 0)
    (bad : ∀ status, badRequest status = true → refuses status = true) (text : Bytes)
    {done refused : Answer} {agrees : Answer → Except Fault Unit → Prop}
    {does : State → Answer → State → Prop} {state : State} (agreed : agrees done (.ok ()))
    (thrown : ∀ exception, agrees refused (.error (.arango exception)))
    (each : ∀ now answer after, rely state now →
      rules.Does done refused request now answer after → does now answer after)
    (guarantees : ∀ now reply after, rules.Serves env now request reply after →
      guarantee now after) :
    (conduct env interface.dispatch connectData (.exchange rq (demand env refuses text))).Atomic
      (rules.Answers interface env policy connectData) id rely guarantee does agrees state := by
  refine writes.atomic understands carried (fun state reply after changes plain => ?_)
    (fun reply value isBad holds explains => ?_) each guarantees
  · obtain ⟨accepted, received⟩ := accepts _ _ _ changes
    rw [understands.told_demand interface.dispatch _ accepted received plain]
    exact agreed
  · obtain ⟨exception, heard⟩ := understands.told_refused interface.dispatch rq
      (refuses_demand bad text) isBad holds explains
    rw [heard]
    exact thrown exception

end Rules

end ArangoCpp
