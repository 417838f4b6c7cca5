/-
This file proves that the formats in which the client and the server talk make no difference.

Two settings of the process say whether bodies are sent as VelocyPack and whether they are asked for
as VelocyPack, and a third one has the messages written to the log. With other settings the same
operation sends other bodies and other headers, and is sent other bodies. But the values in the
bodies are the same, the methods and the paths too, and the operation returns the same value or
throws the same exception, whatever the server replies.
-/

import ArangoCpp.Accounts
import ArangoCpp.Correspondence
import ArangoCpp.Reception
import ArangoCpp.Snapshots

namespace ArangoCpp

open Dialogue

/-- What is relied on of the library: the values that texts have are dumped, and what is parsed is
such a value. -/
structure Velocypack.Textual (vpack : Velocypack) : Prop extends vpack.Lawful where
  dumps : ∀ value : JsonValue, ∃ json, vpack.toJson dumpOptions value = .ok json
  parses : ∀ jsonrec data, vpack.fromJson parseOptions jsonrec = .ok data → data.Json

/-- The same process with other formats and another log. -/
abbrev Env.speaking (env : Env) (put get debug : Bool) : Env :=
  ⟨env.vpack, put, get, env.fullListOfEdges, debug⟩

theorem Env.vpack_speaking (env : Env) (put get debug : Bool) :
    (env.speaking put get debug).vpack = env.vpack := rfl

/-! ### What corresponds -/

/-- Two messages ask for the same: the same verb and path, and the same value or none. -/
inductive AlikeRequest (env other : Env) : HttpMessage → HttpMessage → Prop where
  | bare {verb : RestVerb} {path : Bytes}
      (kind : verb = .get ∨ verb = .head ∨ verb = .delete ∨ verb = .put) :
      AlikeRequest env other (createREQUEST env verb path) (createREQUEST other verb path)
  | loaded {rq rqToo : HttpMessage} {value : JsonValue} (issued : rq.Issued env)
      (issuedToo : rqToo.Issued other) (holds : rq.Holds env value)
      (holdsToo : rqToo.Holds other value)
      (verb : rqToo.header.restVerb = rq.header.restVerb)
      (path : rqToo.header.path = rq.header.path) : AlikeRequest env other rq rqToo

/-- Two transmissions ask for the same. -/
structure AlikeTransmission (env other : Env) (sent sentToo : Transmission) : Prop where
  method : sentToo.method = sent.method
  url : sentToo.url = sent.url
  username : sentToo.username = sent.username
  password : sentToo.password = sent.password
  readsBody : sentToo.readsBody = sent.readsBody
  body : (sent.body = none ∧ sentToo.body = none) ∨
    ∃ (value : JsonValue) (body bodyToo : Bytes), valueBody env value = .ok body ∧
      valueBody other value = .ok bodyToo ∧ sent.body = some (some body) ∧
        sentToo.body = some (some bodyToo)

/-- Two transfers bring the same: the same status, and the same value or none. -/
structure AlikeTransfer (env other : Env) (transfer transferToo : Transfer) : Prop where
  status : transferToo.responseCode = transfer.responseCode
  content : (transfer.body.flatten = [] ∧ transferToo.body.flatten = []) ∨
    ∃ value : JsonValue, transfer.Holds env value ∧ transferToo.Holds other value

/-- Two responses say the same: the same status, and the same value or none. -/
structure AlikeResponse (env other : Env) (response responseToo : HttpMessage) : Prop where
  status : responseToo.statusCode = response.statusCode
  content : (response.payload.bytes = [] ∧ response.sliceStarts = [] ∧
      responseToo.payload.bytes = [] ∧ responseToo.sliceStarts = []) ∨
    ∃ value : JsonValue, response.Reads env value ∧ responseToo.Reads other value

/-! ### The channel -/

section

variable {env other : Env} (vpack : other.vpack = env.vpack) (textual : env.vpack.Textual)
  (dispatch : Dispatch) (connectData : ArangoDBConnection)

include textual

/-- A value is sent in every format, and shown in the log. -/
theorem Velocypack.Textual.sends (value : JsonValue) :
    (∃ line, valueLine env value = .ok line) ∧
      ∃ body, valueBody env value = .ok body ∧ body ≠ [] := by
  obtain ⟨json, dumped⟩ := textual.dumps value
  constructor
  · unfold valueLine
    split
    · rw [dumped]
      exact ⟨json, rfl⟩
    · exact ⟨[], rfl⟩
  · have formed : ∃ body, valueBody env value = .ok body := by
      unfold valueBody
      split
      · exact ⟨_, rfl⟩
      · rw [dumped]
        exact ⟨json, rfl⟩
    obtain ⟨body, formed⟩ := formed
    exact ⟨body, formed, valueBody_ne_nil textual.toLawful value.2.represented formed⟩

theorem Velocypack.Textual.encode {rq : HttpMessage} (issued : rq.Issued env) {value : JsonValue}
    (holds : rq.Holds env value) :
    ∃ body, valueBody env value = .ok body ∧ body ≠ [] ∧
      (dispatch.channel env connectData).encode rq =
        .ok (rq.transmission env dispatch connectData body) := by
  obtain ⟨⟨line, shown⟩, body, formed, nonempty⟩ := textual.sends value
  refine ⟨body, formed, nonempty, ?_⟩
  rw [encode_holds textual.toLawful dispatch connectData issued holds, shown, formed]
  rfl

include vpack

/-- Messages that ask for the same are sent as transmissions that do. -/
theorem likewise_encode {rq rqToo : HttpMessage} (same : AlikeRequest env other rq rqToo) :
    Likewise (AlikeTransmission env other) ((dispatch.channel env connectData).encode rq)
      ((dispatch.channel other connectData).encode rqToo) := by
  have textualToo : other.vpack.Textual := vpack ▸ textual
  cases same with
  | bare kind =>
    rw [encode_createREQUEST textual.toLawful dispatch connectData kind,
      encode_createREQUEST textualToo.toLawful dispatch connectData kind]
    exact .ok ⟨rfl, rfl, rfl, rfl, rfl, Or.inl ⟨rfl, rfl⟩⟩
  | @loaded _ _ value issued issuedToo holds holdsToo verb path =>
    obtain ⟨body, formed, nonempty, encoded⟩ := textual.encode dispatch connectData issued holds
    obtain ⟨bodyToo, formedToo, nonemptyToo, encodedToo⟩ :=
      textualToo.encode dispatch connectData issuedToo holdsToo
    rw [encoded, encodedToo]
    refine .ok ⟨?_, ?_, rfl, rfl, ?_, Or.inr ⟨value, body, bodyToo, formed, formedToo,
      if_neg nonempty, if_neg nonemptyToo⟩⟩
    · exact congrArg RestVerb.method verb
    · exact congrArg (fun path => dispatch.url connectData path) path
    · exact congrArg (· != RestVerb.head) verb

omit vpack in
/-- A response is made of a transfer, and shown in the log. -/
theorem Velocypack.Textual.respond {transfer : Transfer} {content : Option JsonValue}
    (brings : match content with
      | none => transfer.body.flatten = []
      | some value => transfer.Holds env value) :
    ∃ response line, RequestCurlObject.respond env transfer = .ok response ∧
      logged env response = .ok line ∧ response.isContentTypeVPack = true ∧
      response.statusCode = transfer.responseCode ∧
      match content with
      | none => response.payload.bytes = [] ∧ response.sliceStarts = []
      | some value => response.Reads env value := by
  cases content with
  | none =>
    obtain ⟨response, responds, type⟩ := @RequestCurlObject.respond_of_empty env transfer brings
    have answers := RequestCurlObject.answers_of_respond responds
    have bytes := answers.empty brings
    refine ⟨response, [], responds, ?_, type, answers.status, bytes, answers.starts⟩
    have bare : response.payloadSize = 0 := by
      rw [HttpMessage.payloadSize, answers.length, bytes, List.length_nil]
    unfold logged HttpMessage.payloadAsString
    rw [if_pos bare]
    split <;> rfl
  | some value =>
    obtain ⟨response, responds, reads, status⟩ := brings.respond textual.toLawful
    obtain ⟨json, dumped⟩ := textual.dumps value
    have shown : ∃ line, logged env response = .ok line := by
      unfold logged
      split
      · rw [reads.payloadAsString, dumped]
        exact ⟨json, rfl⟩
      · exact ⟨[], rfl⟩
    obtain ⟨line, shown⟩ := shown
    exact ⟨response, line, responds, shown, isContentTypeVPack_of_respond textual.toLawful responds,
      status, reads⟩

/-- Transfers that bring the same are received as responses that say the same, or not at all. -/
theorem likewise_decode {rq rqToo : HttpMessage} {transfer transferToo : Transfer}
    (asked : AlikeRequest env other rq rqToo)
    (same : AlikeTransfer env other transfer transferToo) :
    Likewise (AlikeResponse env other) ((dispatch.channel env connectData).decode rq transfer)
      ((dispatch.channel other connectData).decode rqToo transferToo) := by
  have textualToo : other.vpack.Textual := vpack ▸ textual
  have paths : rqToo.header.path = rq.header.path := by
    cases asked with
    | bare kind => rfl
    | loaded issued issuedToo holds holdsToo verb path => exact path
  have received {response responseToo : HttpMessage} {line lineToo : Bytes}
      (responds : RequestCurlObject.respond env transfer = .ok response)
      (respondsToo : RequestCurlObject.respond other transferToo = .ok responseToo)
      (shown : logged env response = .ok line) (shownToo : logged other responseToo = .ok lineToo)
      (type : response.isContentTypeVPack = true)
      (typeToo : responseToo.isContentTypeVPack = true)
      (said : AlikeResponse env other response responseToo) :
      Likewise (AlikeResponse env other) ((dispatch.channel env connectData).decode rq transfer)
        ((dispatch.channel other connectData).decode rqToo transferToo) := by
    show Likewise _ (RequestCurlObject.respond env transfer >>= checkResponse env dispatch.title
      (dispatch.url connectData rq.header.path)) (RequestCurlObject.respond other transferToo >>=
        checkResponse other dispatch.title (dispatch.url connectData rqToo.header.path))
    rw [responds, respondsToo, ok_bind, ok_bind, checkResponse, checkResponse, shown, shownToo,
      paths]
    simp only [ok_bind, type, typeToo, said.status, Bool.not_true, Bool.false_eq_true, if_false]
    split
    · exact .error _
    · exact .ok said
  rcases same.content with ⟨empty, emptyToo⟩ | ⟨value, holds, holdsToo⟩
  · obtain ⟨response, line, responds, shown, type, status, bytes, starts⟩ :=
      @Velocypack.Textual.respond env textual transfer none empty
    obtain ⟨responseToo, lineToo, respondsToo, shownToo, typeToo, statusToo, bytesToo, startsToo⟩ :=
      @Velocypack.Textual.respond other textualToo transferToo none emptyToo
    exact received responds respondsToo shown shownToo type typeToo
      ⟨statusToo.trans (same.status.trans status.symm),
        Or.inl ⟨bytes, starts, bytesToo, startsToo⟩⟩
  · obtain ⟨response, line, responds, shown, type, status, reads⟩ :=
      @Velocypack.Textual.respond env textual transfer (some value) holds
    obtain ⟨responseToo, lineToo, respondsToo, shownToo, typeToo, statusToo, readsToo⟩ :=
      @Velocypack.Textual.respond other textualToo transferToo (some value) holdsToo
    exact received responds respondsToo shown shownToo type typeToo
      ⟨statusToo.trans (same.status.trans status.symm), Or.inr ⟨value, reads, readsToo⟩⟩

end

/-! ### What is read of responses -/

section

variable {env other : Env} {response responseToo : HttpMessage} {Value : Type}

/-- Of a response without a value no value is read. -/
theorem slices_of_empty (empty : response.payload.bytes = []) (starts : response.sliceStarts = []) :
    (response.slices env).1 = .ok [] := by
  rw [HttpMessage.slices, if_pos starts, empty]
  rfl

namespace AlikeResponse

theorem front (same : AlikeResponse env other response responseToo) :
    responseToo.front other = response.front env := by
  rcases same.content with ⟨empty, starts, emptyToo, startsToo⟩ | ⟨value, reads, readsToo⟩
  · rw [HttpMessage.front, HttpMessage.front, slices_of_empty empty starts,
      slices_of_empty emptyToo startsToo]
  · rw [reads.front, readsToo.front]

/-- What is read of such a response is a value that a JSON text has. -/
theorem json_front (same : AlikeResponse env other response responseToo) {slice : Slice}
    (front : response.front env = .ok slice) : slice.Json := by
  rcases same.content with ⟨empty, starts, _⟩ | ⟨value, reads, _⟩
  · rw [HttpMessage.front, slices_of_empty empty starts] at front
    cases front
  · cases reads.front.symm.trans front
    exact value.2

theorem errorThrow (same : AlikeResponse env other response responseToo) (text : Bytes) :
    (responseToo.errorThrow other text : Except Fault Value) = response.errorThrow env text := by
  unfold HttpMessage.errorThrow
  rcases same.content with ⟨empty, starts, emptyToo, startsToo⟩ | ⟨value, reads, readsToo⟩
  · rw [slices_of_empty empty starts, slices_of_empty emptyToo startsToo]
    rfl
  · rw [reads.slices, readsToo.slices]
    simp only [ok_bind, arangoErrorThrow, reads.value, readsToo.value]

end AlikeResponse

/-- The same is read of responses that say the same. -/
def AlikeReading (env other : Env) (read readToo : HttpMessage → Except Fault Value) : Prop :=
  ∀ response responseToo, AlikeResponse env other response responseToo →
    readToo responseToo = read response

theorem same_demand (refused : StatusCode → Bool) (text : Bytes) :
    AlikeReading env other (demand env refused text) (demand other refused text) := by
  intro response responseToo same
  rw [demand, demand, same.status, same.errorThrow]

theorem same_takeValue (refused : StatusCode → Bool) (text : Bytes)
    (read : Slice → Except VpackException Value) :
    AlikeReading env other (takeValue env refused text read)
      (takeValue other refused text read) := by
  intro response responseToo same
  rw [takeValue, takeValue, same.front, same.status, same.errorThrow]

theorem same_listValue (nothing : Value) (read : Slice → Except VpackException Value) :
    AlikeReading env other (listValue env nothing read) (listValue other nothing read) := by
  intro response responseToo same
  rw [listValue, listValue, same.status, same.front]

theorem same_status (probe : StatusCode → Except Fault Value) :
    AlikeReading env other (fun result => probe result.statusCode)
      fun result => probe result.statusCode := by
  intro response responseToo same
  exact congrArg probe same.status

end

/-! ### Programs -/

/-- Two programs ask for the same, and read the same of what is said to them. -/
abbrev AlikeProgram (env other : Env) {Value : Type} (program programToo : Api Value) : Prop :=
  Corresponds (AlikeRequest env other) (Likewise (AlikeResponse env other)) Eq program programToo

section

variable {env other : Env} {Value Result : Type} {program programToo : Api Value}
  {read readToo : HttpMessage → Except Fault Value}

theorem same_done (value : Value) :
    AlikeProgram env other (.done value) (.done value) := .done rfl

theorem same_ofExcept (result : Except Fault Value) :
    AlikeProgram env other (.ofExcept result) (.ofExcept result) :=
  corresponds_ofExcept (likewise_refl result)

theorem same_bind {continuation continuationToo : Value → Api Result}
    (first : AlikeProgram env other program programToo)
    (second : ∀ value, AlikeProgram env other (continuation value) (continuationToo value)) :
    AlikeProgram env other (program.bind continuation) (programToo.bind continuationToo) :=
  first.bind fun value _ same => same ▸ second value

theorem same_exchange {rq rqToo : HttpMessage} (asked : AlikeRequest env other rq rqToo)
    (reads : AlikeReading env other read readToo) :
    AlikeProgram env other (.exchange rq read) (.exchange rqToo readToo) :=
  Corresponds.exchange asked fun response responseToo same =>
    reads response responseToo same ▸ likewise_refl (read response)

/-- A loop whose turns are the same. -/
theorem same_iterate {Position : Type} {body bodyToo : Position → Api (Position ⊕ Value)}
    (each : ∀ position, AlikeProgram env other (body position) (bodyToo position)) (turns : Nat)
    (position : Position) :
    AlikeProgram env other (.iterate body turns position) (.iterate bodyToo turns position) := by
  refine Corresponds.iterate (fun here there same => ?_) turns (rfl : position = position)
  subst same
  refine (each here).mono fun value valueToo same => ?_
  subst same
  cases value with
  | inl next => exact .inl rfl
  | inr value => exact .inr rfl

/-- A request without a value. -/
theorem same_get {verb : RestVerb}
    (kind : verb = .get ∨ verb = .head ∨ verb = .delete ∨ verb = .put) (path : Bytes)
    (reads : AlikeReading env other read readToo) :
    AlikeProgram env other (.exchange (createREQUEST env verb path) read)
      (.exchange (createREQUEST other verb path) readToo) :=
  same_exchange (.bare kind) reads

/-- A question to which the status is the answer. -/
theorem same_probe (probe : StatusCode → Bool) (path : Bytes) :
    AlikeProgram env other
      (.exchange (createREQUEST env .get path) fun result => return probe result.statusCode)
      (.exchange (createREQUEST other .get path) fun result => return probe result.statusCode) :=
  same_get (Or.inl rfl) path (same_status fun status => .ok (probe status))

theorem same_delete (refused : StatusCode → Bool) (path text : Bytes) :
    AlikeProgram env other
      (.exchange (createREQUEST env .delete path) (demand env refused text))
      (.exchange (createREQUEST other .delete path) (demand other refused text)) :=
  same_get (by simp) path (same_demand refused text)

/-- A program that goes on one of two ways. -/
theorem same_branch {yes yesToo no noToo : Api Result} {taken : Value → Bool}
    (first : AlikeProgram env other program programToo) (onYes : AlikeProgram env other yes yesToo)
    (onNo : AlikeProgram env other no noToo) :
    AlikeProgram env other (program.bind fun value => if taken value = true then yes else no)
      (programToo.bind fun value => if taken value = true then yesToo else noToo) := by
  refine same_bind first fun value => ?_
  by_cases decided : taken value = true
  · rw [if_pos decided, if_pos decided]
    exact onYes
  · rw [if_neg decided, if_neg decided]
    exact onNo

variable (vpack : other.vpack = env.vpack) (textual : env.vpack.Textual)

include vpack

theorem same_catchVelocypack (title : Bytes) (id : Int)
    (same : AlikeProgram env other program programToo) :
    AlikeProgram env other (catchVelocypack env title id program)
      (catchVelocypack other title id programToo) := by
  refine same.rescue fun fault => ?_
  cases fault with
  | velocypack exception =>
    rw [vpack]
    exact same_ofExcept _
  | _ => exact .raise _

include textual

/-- Messages with a value. -/
theorem same_request {verb : RestVerb} (loaded : verb = .post ∨ verb = .put ∨ verb = .patch)
    (path : Bytes) {query : Slice} (json : query.Json) :
    AlikeRequest env other (createREQUESTWith env verb path query)
      (createREQUESTWith other verb path query) :=
  have textualToo : other.vpack.Textual := vpack ▸ textual
  @AlikeRequest.loaded env other _ _ ⟨query, json⟩
    (issued_createREQUESTWith textual.toLawful path json.represented loaded)
    (issued_createREQUESTWith textualToo.toLawful path json.represented loaded)
    (holds_createREQUESTWith verb path json.represented)
    (holds_createREQUESTWith verb path json.represented) rfl rfl

theorem same_exchangeQuery {verb : RestVerb} (loaded : verb = .post ∨ verb = .put ∨ verb = .patch)
    (path : Bytes) {query : Slice} (json : query.Json)
    (reads : AlikeReading env other read readToo) :
    AlikeProgram env other (exchangeQuery env verb path query read)
      (exchangeQuery other verb path query readToo) := by
  rw [exchangeQuery_eq, exchangeQuery_eq]
  exact same_exchange (same_request vpack textual loaded path json) reads

/-- A text that is parsed, and what is done with its value. -/
theorem same_parsed (jsonrec : Bytes) {continuation continuationToo : Slice → Api Result}
    (each : ∀ data, data.Json → AlikeProgram env other (continuation data) (continuationToo data)) :
    AlikeProgram env other
      (.bind (.ofExcept (ofVpack (env.vpack.fromJson parseOptions jsonrec))) continuation)
      (.bind (.ofExcept (ofVpack (other.vpack.fromJson parseOptions jsonrec)))
        continuationToo) := by
  rw [vpack]
  cases parsed : env.vpack.fromJson parseOptions jsonrec with
  | error exception => exact .raise _
  | ok data => exact each data (textual.parses jsonrec data parsed)

theorem same_writeDocument (title : Bytes) (id : Int) {verb : RestVerb}
    (loaded : verb = .post ∨ verb = .put ∨ verb = .patch) (path jsonrec errorText : Bytes)
    (identifier : Slice → Except VpackException Bytes) :
    AlikeProgram env other (writeDocument env title id verb path jsonrec errorText identifier)
      (writeDocument other title id verb path jsonrec errorText identifier) := by
  rw [writeDocument_eq, writeDocument_eq]
  refine same_catchVelocypack vpack title id (same_parsed vpack textual jsonrec fun data json => ?_)
  have textualToo : other.vpack.Textual := vpack ▸ textual
  have asked : AlikeRequest env other (createREQUESTWith env verb path data).eraseAccept
      (createREQUESTWith other verb path data).eraseAccept :=
    @AlikeRequest.loaded env other _ _ ⟨data, json⟩
      (issued_createREQUESTWith textual.toLawful path json.represented loaded).eraseAccept
      (issued_createREQUESTWith textualToo.toLawful path json.represented loaded).eraseAccept
      (holds_createREQUESTWith verb path json.represented).eraseAccept
      (holds_createREQUESTWith verb path json.represented).eraseAccept rfl rfl
  exact same_exchange asked (same_takeValue badRequest errorText identifier)

end

/-! ### Operations on collections and documents -/

section

variable {env : Env} {put get debug : Bool} (textual : env.vpack.Textual)

namespace ArangoDBCollectionAPI

theorem same_existCollection (collname : Bytes) :
    AlikeProgram env (env.speaking put get debug) (existCollection env collname)
      (existCollection (env.speaking put get debug) collname) := by
  refine same_get (Or.inl rfl) _ fun response responseToo same => ?_
  simp only [same.status, same.front]

theorem same_collectionNames (ctype : CollectionTypes) :
    AlikeProgram env (env.speaking put get debug) (collectionNames env ctype)
      (collectionNames (env.speaking put get debug) ctype) :=
  same_get (Or.inl rfl) _ (same_listValue _ _)

theorem same_createCollection (textual : env.vpack.Textual) {collname : Bytes}
    (complete : Complete collname) (ctype : Bytes) :
    AlikeProgram env (env.speaking put get debug) (createCollection env collname ctype)
      (createCollection (env.speaking put get debug) collname ctype) := by
  refine @same_branch _ _ _ _ _ _ _ _ _ _ id (same_existCollection collname) (same_done ()) ?_
  refine same_exchangeQuery (env.vpack_speaking put get debug) textual (by simp) _ ?_
    (same_demand _ _)
  split <;> simp +decide [complete, IsWord]

theorem same_dropCollection (collname : Bytes) :
    AlikeProgram env (env.speaking put get debug) (dropCollection env collname)
      (dropCollection (env.speaking put get debug) collname) :=
  @same_branch _ _ _ _ _ _ _ _ _ _ (fun exist => !exist) (same_existCollection collname)
    (same_done ()) (same_delete _ _ _)

/-- The names that are added are strings of the reply. -/
theorem complete_addCollection {ctype : CollectionTypes} {collection : Slice}
    (json : collection.Json) {collnames after : StringSet}
    (held : ∀ name ∈ collnames, Complete name)
    (added : addCollection ctype collection collnames = .ok after) :
    ∀ name ∈ after, Complete name := by
  have inserted {final : StringSet} (ends : (do
      let name ← collection.get "name" >>= Slice.copyString
      return collnames.insert name) = Except.ok final) : ∀ name ∈ final, Complete name := by
    obtain ⟨called, named, same⟩ := bind_eq_ok_iff.mp ends
    obtain ⟨read, found, copied⟩ := bind_eq_ok_iff.mp named
    cases same
    intro name member
    rcases Std.TreeSet.mem_insert.mp member with same | member
    · rw [← Std.LawfulEqCmp.compare_eq_iff_eq.mp same]
      exact json.complete_of_get found copied
    · exact held name member
  unfold addCollection at added
  obtain ⟨isSystem, _, added⟩ := bind_eq_ok_iff.mp added
  split at added
  · cases added
    exact held
  · obtain ⟨vertex, _, added⟩ := bind_eq_ok_iff.mp added
    split at added
    · exact inserted added
    · obtain ⟨edge, _, added⟩ := bind_eq_ok_iff.mp added
      split at added
      · exact inserted added
      · cases added
        exact held

/-- The names of the collections are strings of the reply. -/
theorem complete_collectionNames (ctype : CollectionTypes) :
    Corresponds (AlikeRequest env (env.speaking put get debug))
      (Likewise (AlikeResponse env (env.speaking put get debug)))
      (fun names namesToo => namesToo = names ∧ ∀ name ∈ names, Complete name)
      (collectionNames env ctype) (collectionNames (env.speaking put get debug) ctype) := by
  refine Corresponds.exchange (.bare (Or.inl rfl)) fun response responseToo same => ?_
  rw [same_listValue _ _ response responseToo same]
  cases taken : listValue env (∅ : StringSet) _ response with
  | error fault => exact .error fault
  | ok names =>
    refine .ok ⟨rfl, ?_⟩
    unfold listValue at taken
    split at taken
    · obtain ⟨slice, front, read⟩ := bind_eq_ok_iff.mp taken
      obtain ⟨collst, found, read⟩ := bind_eq_ok_iff.mp (ofVpack_eq_ok_iff.mp read)
      obtain ⟨numb, length, read⟩ := bind_eq_ok_iff.mp read
      rcases (same.json_front front).get found with rfl | json
      · cases length
      · let complete (collnames : StringSet) : Prop := ∀ name ∈ collnames, Complete name
        have start : complete ∅ := fun name member => absurd member Std.TreeSet.not_mem_emptyc
        refine @foldlM_keeps _ _ _ _ complete _ (fun collnames ii _ next held stepped => ?_) _ _
          start read
        obtain ⟨collection, item, added⟩ := bind_eq_ok_iff.mp stepped
        exact complete_addCollection (json.itemAt item) held added
    · cases taken
      exact fun name member => absurd member Std.TreeSet.not_mem_emptyc

/-- The edge collections of a query are complete texts. -/
theorem complete_edgeCollectionsOr {edgeCollections : Bytes} (complete : Complete edgeCollections) :
    Corresponds (AlikeRequest env (env.speaking put get debug))
      (Likewise (AlikeResponse env (env.speaking put get debug)))
      (fun collections collectionsToo => collectionsToo = collections ∧ Complete collections)
      (edgeCollectionsOr env edgeCollections)
      (edgeCollectionsOr (env.speaking put get debug) edgeCollections) := by
  unfold edgeCollectionsOr
  split
  · refine Corresponds.bind (complete_collectionNames .edge) fun names _ held => ?_
    obtain ⟨rfl, each⟩ := held
    refine .done ⟨rfl, complete_addEdges fun name listed => each name ?_⟩
    exact mem_of_mem_existingEdges listed
  · exact .done ⟨rfl, complete⟩

theorem same_queryEdgesToFrom (atype : QueryType) (startVertex edgeCollections : Bytes) :
    AlikeProgram env (env.speaking put get debug)
      (queryEdgesToFrom env atype startVertex edgeCollections)
      (queryEdgesToFrom (env.speaking put get debug) atype startVertex edgeCollections) := by
  refine same_bind ?_ fun _ => same_bind (same_ofExcept _) fun _ => same_done _
  unfold edgeCollectionsOr
  split
  · exact same_bind (same_collectionNames .edge) fun _ => same_done _
  · exact same_done _

/-- Two batches of the same values are read to the same end. -/
theorem same_nextBatch {State : Type} (extract : State → Slice → Except VpackException State)
    (state : State) :
    AlikeReading env (env.speaking put get debug) (nextBatch env extract state)
      (nextBatch (env.speaking put get debug) extract state) := by
  intro response responseToo same
  rw [nextBatch, nextBatch, same.status, readBatch, readBatch, same.front]

theorem same_readCursor {State : Type} (turns : Nat)
    (extract : State → Slice → Except VpackException State) (state : State)
    {request requestToo : HttpMessage}
    (asked : AlikeRequest env (env.speaking put get debug) request requestToo) :
    AlikeProgram env (env.speaking put get debug) (readCursor env turns extract state request)
      (readCursor (env.speaking put get debug) turns extract state requestToo) := by
  refine same_bind (same_exchange asked (same_nextBatch extract state)) fun batch => ?_
  cases batch with
  | inr state => exact same_done state
  | inl cursor =>
    refine same_iterate (fun cursor => ?_) turns cursor
    unfold cursorLoop
    split
    · exact same_bind (same_ofExcept _) fun id =>
        same_get (by simp) _ (same_nextBatch extract cursor.state)
    · exact same_done _

include textual

/-- The requests of queries. -/
theorem same_createAQLRequest (batchSize : Int32) {query : ArangoDBQuery}
    (complete : Complete (aqlQuery query)) :
    Likewise (AlikeRequest env (env.speaking put get debug)) (createAQLRequest env batchSize query)
      (createAQLRequest (env.speaking put get debug) batchSize query) := by
  cases bound : bindVarsData env batchSize query with
  | error exception =>
    have boundToo : bindVarsData (env.speaking put get debug) batchSize query =
        .error exception := bound
    unfold createAQLRequest
    rw [bound, boundToo]
    exact .error _
  | ok bindVars =>
    cases opted : optionsData env query with
    | error exception =>
      have boundToo : bindVarsData (env.speaking put get debug) batchSize query =
          .ok bindVars := bound
      have optedToo : optionsData (env.speaking put get debug) query = .error exception := opted
      unfold createAQLRequest
      rw [bound, boundToo, opted, optedToo]
      exact .error _
    | ok options =>
      rw [createAQLRequest_eq batchSize bound opted,
        @createAQLRequest_eq (env.speaking put get debug) batchSize query bindVars options bound
          opted]
      exact .ok (same_request (env.vpack_speaking put get debug) textual (by simp) _
        (json_queryValue complete (json_bindVars batchSize textual.parses bound)
          (json_options textual.parses opted)))

theorem same_createSimpleAllRequest (batchSize : Int32) {collname : Bytes}
    (complete : Complete collname) :
    Likewise (AlikeRequest env (env.speaking put get debug))
      (createSimpleAllRequest env batchSize collname)
      (createSimpleAllRequest (env.speaking put get debug) batchSize collname) := by
  unfold createSimpleAllRequest
  rw [addVPack_createREQUEST, addVPack_createREQUEST]
  refine .ok (same_request (env.vpack_speaking put get debug) textual (by simp) _ ?_)
  simp +decide [complete, isWord_batchSize batchSize]

theorem same_createByExampleRequest (batchSize : Int32) {collname : Bytes}
    (complete : Complete collname) (jsontempl : Bytes) :
    Likewise (AlikeRequest env (env.speaking put get debug))
      (createByExampleRequest env batchSize collname jsontempl)
      (createByExampleRequest (env.speaking put get debug) batchSize collname jsontempl) := by
  unfold createByExampleRequest
  cases parsed : env.vpack.fromJson parseOptions jsontempl with
  | error exception => exact .error _
  | ok data =>
    simp only [addVPack_createREQUEST, ofVpack_ok, ok_bind]
    refine .ok (same_request (env.vpack_speaking put get debug) textual (by simp) _ ?_)
    have json := textual.parses _ _ parsed
    simp +decide [complete, json, isWord_batchSize batchSize]

theorem same_selectRequest_direction (batchSize : Int32) (collname : Bytes) {query : ArangoDBQuery}
    {keyword : Bytes} (edge : directionKeyword query.queryType = some keyword) :
    Corresponds (AlikeRequest env (env.speaking put get debug))
      (Likewise (AlikeResponse env (env.speaking put get debug)))
      (AlikeRequest env (env.speaking put get debug)) (selectRequest env batchSize collname query)
      (selectRequest (env.speaking put get debug) batchSize collname query) := by
  cases parsed : edgeQuery env query with
  | error fault =>
    have parsedToo : edgeQuery (env.speaking put get debug) query = .error fault := parsed
    unfold selectRequest createEdgeRequest
    rw [parsed, parsedToo]
    split <;> first
      | exact .raise _
      | rename_i type
        rw [type] at edge
        cases edge
  | ok named =>
    obtain ⟨startVertex, edgeCollections⟩ := named
    have parsedToo : edgeQuery (env.speaking put get debug) query =
        .ok (startVertex, edgeCollections) := parsed
    obtain ⟨vertex, complete⟩ := complete_edgeQuery textual.parses parsed
    rw [selectRequest_edges edge parsed, selectRequest_edges edge parsedToo]
    refine Corresponds.bind (complete_edgeCollectionsOr complete) fun collections _ held => ?_
    obtain ⟨rfl, complete⟩ := held
    exact .done (same_request (env.vpack_speaking put get debug) textual (by simp) _
      (json_edgeValue batchSize edge vertex complete))

theorem same_selectRequest (batchSize : Int32) {collname : Bytes} (complete : Complete collname)
    {query : ArangoDBQuery} (sendable : query.Sendable) :
    Corresponds (AlikeRequest env (env.speaking put get debug))
      (Likewise (AlikeResponse env (env.speaking put get debug)))
      (AlikeRequest env (env.speaking put get debug)) (selectRequest env batchSize collname query)
      (selectRequest (env.speaking put get debug) batchSize collname query) := by
  cases type : query.queryType with
  | edgesFrom =>
    exact same_selectRequest_direction textual batchSize collname (congrArg directionKeyword type)
  | edgesTo =>
    exact same_selectRequest_direction textual batchSize collname (congrArg directionKeyword type)
  | edgesAll =>
    exact same_selectRequest_direction textual batchSize collname (congrArg directionKeyword type)
  | template =>
    unfold selectRequest
    rw [type]
    exact corresponds_ofExcept (same_createByExampleRequest textual batchSize complete _)
  | all =>
    unfold selectRequest
    rw [type]
    exact corresponds_ofExcept (same_createSimpleAllRequest textual batchSize complete)
  | aql =>
    unfold selectRequest
    rw [type]
    exact corresponds_ofExcept (same_createAQLRequest textual batchSize (sendable type))
  | undef =>
    unfold selectRequest
    rw [type]
    exact .raise _

theorem same_selectQuery {State : Type} (batchSize : Int32) (turns : Nat) {collname : Bytes}
    (complete : Complete collname) {query : ArangoDBQuery} (sendable : query.Sendable)
    (setfnc : State → Bytes → State) (state : State) :
    AlikeProgram env (env.speaking put get debug)
      (selectQuery env batchSize turns collname query setfnc state)
      (selectQuery (env.speaking put get debug) batchSize turns collname query setfnc state) :=
  Corresponds.bind (same_selectRequest textual batchSize complete sendable) fun _ _ asked =>
    same_readCursor turns (extractData env setfnc) state asked

theorem same_selectAll {State : Type} (batchSize : Int32) (turns : Nat) {collname : Bytes}
    (complete : Complete collname) {queryFields : QueryFields}
    (sendable : (selectAllQuery collname queryFields).Sendable)
    (setfnc : State → Bytes → Bytes → State) (state : State) :
    AlikeProgram env (env.speaking put get debug)
      (selectAll env batchSize turns collname queryFields setfnc state)
      (selectAll (env.speaking put get debug) batchSize turns collname queryFields setfnc
        state) := by
  have requests : Likewise (AlikeRequest env (env.speaking put get debug))
      (selectAllRequest env batchSize collname queryFields)
      (selectAllRequest (env.speaking put get debug) batchSize collname queryFields) := by
    unfold selectAllRequest
    split
    · exact same_createSimpleAllRequest textual batchSize complete
    · exact same_createAQLRequest textual batchSize (sendable rfl)
  exact Corresponds.bind (corresponds_ofExcept requests) fun _ _ asked =>
    same_readCursor turns (extractDataId env setfnc) state asked

theorem same_removeByTemplate {collname : Bytes} (complete : Complete collname)
    (jsontempl : Bytes) :
    AlikeProgram env (env.speaking put get debug) (removeByTemplate env collname jsontempl)
      (removeByTemplate (env.speaking put get debug) collname jsontempl) := by
  have agrees := env.vpack_speaking put get debug
  refine same_catchVelocypack agrees title 11
    (same_parsed agrees textual jsontempl fun data json => ?_)
  refine same_exchangeQuery agrees textual (by simp) _ ?_ (same_takeValue _ _ _)
  simp +decide [complete, json]

theorem same_removeEdges (collname vertexkey : Bytes) :
    AlikeProgram env (env.speaking put get debug) (removeEdges env collname vertexkey)
      (removeEdges (env.speaking put get debug) collname vertexkey) := by
  refine Corresponds.bind (complete_collectionNames .edge) fun edges edgesToo held => ?_
  obtain ⟨rfl, each⟩ := held
  have complete : ∀ edgecoll ∈ edgesToo.toList, Complete edgecoll := fun edgecoll listed =>
    each edgecoll (Std.TreeSet.mem_toList.mp listed)
  revert complete
  generalize edgesToo.toList = remaining
  intro complete
  induction remaining with
  | nil => exact same_done ()
  | cons edgecoll remaining inductionHypothesis =>
    obtain ⟨first, later⟩ := List.forall_mem_cons.mp complete
    refine same_bind ?_ fun _ => inductionHypothesis later
    exact same_bind (same_removeByTemplate textual first _) fun _ =>
      same_bind (same_removeByTemplate textual first _) fun _ => same_done ()

theorem same_lookupByKeys {State : Type} {collname : Bytes} (complete : Complete collname)
    {keys : List Bytes} (each : ∀ key ∈ keys, Complete key) (setfnc : State → Bytes → State)
    (state : State) :
    AlikeProgram env (env.speaking put get debug) (lookupByKeys env collname keys setfnc state)
      (lookupByKeys (env.speaking put get debug) collname keys setfnc state) := by
  refine same_exchangeQuery (env.vpack_speaking put get debug) textual (by simp) _ ?_
    fun response responseToo same => ?_
  · simpa +decide [complete] using each
  · simp only [same.status, same.front]
    rfl

theorem same_removeByKeys {collname : Bytes} (complete : Complete collname) {ids : List Bytes}
    (each : ∀ id ∈ ids, Complete (getKey collname id)) :
    AlikeProgram env (env.speaking put get debug) (removeByKeys env collname ids)
      (removeByKeys (env.speaking put get debug) collname ids) := by
  refine same_exchangeQuery (env.vpack_speaking put get debug) textual (by simp) _ ?_
    (same_takeValue _ _ _)
  simpa +decide [complete] using each

end ArangoDBCollectionAPI

/-! ### Users -/

theorem same_testConnection :
    AlikeProgram env (env.speaking put get debug) (testConnection env)
      (testConnection (env.speaking put get debug)) := by
  have asked : AlikeProgram env (env.speaking put get debug)
      (.exchange (createREQUEST env .get "/_api/version") fun result => do
        if result.statusCode ≠ statusOK then
          result.errorThrow env "An error occurs in ArangoDB server: "
        else
          let slice ← result.front env
          let version ← ofVpack (slice.get "version" >>= Slice.copyString)
          let server ← ofVpack (slice.get "server" >>= Slice.copyString)
          return (true, ("The client is connected to the " ++ server ++ " server version " ++
            version : Bytes)))
      (.exchange (createREQUEST (env.speaking put get debug) .get "/_api/version") fun result => do
        if result.statusCode ≠ statusOK then
          result.errorThrow (env.speaking put get debug) "An error occurs in ArangoDB server: "
        else
          let slice ← result.front (env.speaking put get debug)
          let version ← ofVpack (slice.get "version" >>= Slice.copyString)
          let server ← ofVpack (slice.get "server" >>= Slice.copyString)
          return (true, ("The client is connected to the " ++ server ++ " server version " ++
            version : Bytes))) :=
    same_get (Or.inl rfl) _ fun response responseToo same => by
      simp only [same.status, same.front, same.errorThrow]
  refine asked.rescue fun fault => ?_
  cases fault with
  | arango exception => exact .done rfl
  | velocypack exception => exact .done rfl
  | _ => exact .raise _

include textual

omit textual in
/-- A program that describes something by members of an object, and what is done with them. -/
theorem same_described {Result : Type} {data : Except VpackException (List (Bytes × Slice))}
    (json : ∀ members, data = .ok members → ∀ member ∈ members, Complete member.1 ∧ member.2.Json)
    {continuation continuationToo : List (Bytes × Slice) → Api Result}
    (each : ∀ members, (∀ member ∈ members, Complete member.1 ∧ member.2.Json) →
      AlikeProgram env (env.speaking put get debug) (continuation members)
        (continuationToo members)) :
    AlikeProgram env (env.speaking put get debug) (.bind (.ofExcept (ofVpack data)) continuation)
      (.bind (.ofExcept (ofVpack data)) continuationToo) := by
  cases data with
  | error exception => exact .raise _
  | ok members => exact each members (json members rfl)

omit textual in
/-- A name in front of what is described. -/
theorem json_named {field name : Bytes} (complete : Complete field) (named : Complete name)
    {members : List (Bytes × Slice)}
    (json : ∀ member ∈ members, Complete member.1 ∧ member.2.Json) :
    (Slice.object ((field, .string name) :: members)).Json :=
  (Slice.json_object_iff _).mpr (List.forall_mem_cons.mpr ⟨⟨complete, .string named⟩, json⟩)

namespace ArangoDBUsersAPI

theorem same_createDatabase {dbname : Bytes} (complete : Complete dbname)
    {users : List ArangoDBUser}
    (each : ∀ user ∈ users, Complete user.name ∧ Complete user.password) :
    AlikeProgram env (env.speaking put get debug) (createDatabase env dbname users)
      (createDatabase (env.speaking put get debug) dbname users) := by
  refine @same_branch _ _ _ _ _ _ _ _ _ _ id (same_probe (· != statusNotFound) _) (same_done ()) ?_
  refine same_catchVelocypack (env.vpack_speaking put get debug) title 41 ?_
  refine same_described (fun members described => json_usersData textual.parses each described)
    fun members json => ?_
  exact same_exchangeQuery (env.vpack_speaking put get debug) textual (by simp) _
    (json_named (by decide : Complete (text "name")) complete json) (same_demand _ _)

omit textual in
theorem same_removeDatabase (dbname : Bytes) :
    AlikeProgram env (env.speaking put get debug) (removeDatabase env dbname)
      (removeDatabase (env.speaking put get debug) dbname) :=
  @same_branch _ _ _ _ _ _ _ _ _ _ (fun exist => !exist) (same_probe (· != statusNotFound) _)
    (same_done ()) (same_delete _ _ _)

theorem same_createUser {user : ArangoDBUser} (name : Complete user.name)
    (password : Complete user.password) :
    AlikeProgram env (env.speaking put get debug) (createUser env user)
      (createUser (env.speaking put get debug) user) := by
  refine same_catchVelocypack (env.vpack_speaking put get debug) title 41 ?_
  refine same_described (fun members described => json_userData textual.parses password described)
    fun members json => ?_
  exact same_exchangeQuery (env.vpack_speaking put get debug) textual (by simp) _
    (json_named (by decide : Complete (text "user")) name json) (same_demand _ _)

theorem same_updateUser {user : ArangoDBUser} (password : Complete user.password) :
    AlikeProgram env (env.speaking put get debug) (updateUser env user)
      (updateUser (env.speaking put get debug) user) := by
  refine same_catchVelocypack (env.vpack_speaking put get debug) title 41 ?_
  refine same_described (fun members described => json_userData textual.parses password described)
    fun members json => ?_
  exact same_exchangeQuery (env.vpack_speaking put get debug) textual (by simp) _
    ((Slice.json_object_iff _).mpr json) (same_demand _ _)

theorem same_grantUserToDataBase (dbname username : Bytes) {grant : Bytes}
    (complete : Complete grant) :
    AlikeProgram env (env.speaking put get debug) (grantUserToDataBase env dbname username grant)
      (grantUserToDataBase (env.speaking put get debug) dbname username grant) :=
  same_exchangeQuery (env.vpack_speaking put get debug) textual (by simp) _
    (json_named (by decide : Complete (text "grant")) complete
      fun _ listed => absurd listed List.not_mem_nil) (same_demand _ _)

end ArangoDBUsersAPI

/-! ### Graphs -/

namespace ArangoDBGraphAPI

theorem same_createGraph {graphname : Bytes} (complete : Complete graphname)
    (edgeDefinitions : Bytes) :
    AlikeProgram env (env.speaking put get debug) (createGraph env graphname edgeDefinitions)
      (createGraph (env.speaking put get debug) graphname edgeDefinitions) := by
  have agrees := env.vpack_speaking put get debug
  refine @same_branch _ _ _ _ _ _ _ _ _ _ id (same_probe (· != statusNotFound) _) (same_done ()) ?_
  refine same_catchVelocypack agrees _ _ (same_parsed agrees textual _ fun data json => ?_)
  refine same_exchangeQuery agrees textual (by simp) _ ?_
    (same_status fun status => if notAccepted status then
      arangoThrow title 32 refusedGraph else .ok ())
  simp +decide [complete, json]

omit textual in
theorem same_removeGraph (graphname : Bytes) (dropCollections : Bool) :
    AlikeProgram env (env.speaking put get debug) (removeGraph env graphname dropCollections)
      (removeGraph (env.speaking put get debug) graphname dropCollections) :=
  @same_branch _ _ _ _ _ _ _ _ _ _ (fun exist => !exist) (same_probe (· != statusNotFound) _)
    (same_done ()) (same_delete _ _ _)

theorem same_addVertexGraph (graphname : Bytes) {collname : Bytes} (complete : Complete collname) :
    AlikeProgram env (env.speaking put get debug) (addVertexGraph env graphname collname)
      (addVertexGraph (env.speaking put get debug) graphname collname) :=
  same_exchangeQuery (env.vpack_speaking put get debug) textual (by simp) _
    (json_named (by decide : Complete (text "collection")) complete
      fun _ listed => absurd listed List.not_mem_nil) (same_demand _ _)

theorem same_addEdgeGraph (graphname edgeDefinition : Bytes) :
    AlikeProgram env (env.speaking put get debug) (addEdgeGraph env graphname edgeDefinition)
      (addEdgeGraph (env.speaking put get debug) graphname edgeDefinition) := by
  have agrees := env.vpack_speaking put get debug
  refine same_catchVelocypack agrees _ _ (same_parsed agrees textual _ fun data json => ?_)
  exact same_exchangeQuery agrees textual (by simp) _ json (same_demand _ _)

end ArangoDBGraphAPI

end

/-! ### The operations and what they return -/

/-- What an operation returns. -/
inductive OperationValue : Type where
  | nothing
  | flag (value : Bool)
  | names (names : StringSet)
  | rights (rights : StringMap)
  | text (text : Bytes)
  | texts (texts : List Bytes)
  | count (count : Int)
  | counts (removed ignored : Int)
  | version (answered : Bool) (message : Bytes)
  | query (query : ArangoDBQuery)

namespace Operation

/-- The texts that an operation sends in values can be dumped. -/
def Sendable : Operation → Prop
  | createCollection collname _ | removeByTemplate collname _ => Complete collname
  | selectQuery collname query => Complete collname ∧ query.Sendable
  | selectAll collname queryFields =>
    Complete collname ∧ (selectAllQuery collname queryFields).Sendable
  | lookupByKeys collname keys => Complete collname ∧ ∀ key ∈ keys, Complete key
  | collectQuery collname fpath => Complete collname ∧
    (ArangoDBQuery.new ("FOR doc IN " ++ collname ++ " RETURN DISTINCT doc." ++ fpath)
      .aql).Sendable
  | removeByKeys collname ids => Complete collname ∧ ∀ id ∈ ids, Complete (getKey collname id)
  | createGraph graphname _ => Complete graphname
  | addVertexGraph _ collname => Complete collname
  | createDatabase dbname users =>
    Complete dbname ∧ ∀ user ∈ users, Complete user.name ∧ Complete user.password
  | createUser user => Complete user.name ∧ Complete user.password
  | updateUser user => Complete user.password
  | grantUserToDataBase _ _ grant => Complete grant
  | _ => True

/-- What a program returns, as a value of an operation. -/
def returning {Value : Type} (wrap : Value → OperationValue) (program : Api Value) :
    Api OperationValue := program.bind fun value => .done (wrap value)

/-- The program of an operation with what it returns. -/
def returns (env : Env) (batchSize : Int32) (turns : Nat) : Operation → Api OperationValue
  | testConnection =>
    returning (fun answer => .version answer.1 answer.2) (ArangoCpp.testConnection env)
  | existCollection collname =>
    returning .flag (ArangoDBCollectionAPI.existCollection env collname)
  | createCollection collname ctype =>
    returning (fun _ => .nothing) (ArangoDBCollectionAPI.createCollection env collname ctype)
  | dropCollection collname =>
    returning (fun _ => .nothing) (ArangoDBCollectionAPI.dropCollection env collname)
  | collectionNames ctype => returning .names (ArangoDBCollectionAPI.collectionNames env ctype)
  | readDocument collname key =>
    returning .text (ArangoDBCollectionAPI.readDocument env collname key)
  | createDocument collname jsonrec =>
    returning .text (ArangoDBCollectionAPI.createDocument env collname jsonrec)
  | updateDocument collname key jsonrec =>
    returning .text (ArangoDBCollectionAPI.updateDocument env collname key jsonrec)
  | deleteDocument collname key =>
    returning .flag (ArangoDBCollectionAPI.deleteDocument env collname key)
  | existsDocument collname key =>
    returning .flag (ArangoDBCollectionAPI.existsDocument env collname key)
  | queryEdgesToFrom atype startVertex edgeCollections =>
    returning .query
      (ArangoDBCollectionAPI.queryEdgesToFrom env atype startVertex edgeCollections)
  | selectQuery collname query => returning .texts
    (ArangoDBCollectionAPI.selectQuery env batchSize turns collname query emplaceBack [])
  | selectAll collname queryFields => returning .texts
    (ArangoDBCollectionAPI.selectAll env batchSize turns collname queryFields
      (fun resultData jsondata _ => emplaceBack resultData jsondata) [])
  | lookupByKeys collname keys =>
    returning .texts (ArangoDBCollectionAPI.lookupByKeys env collname keys emplaceBack [])
  | collectQuery collname fpath => returning .texts
    (ArangoDBCollectionAPI.collectQuery env batchSize turns collname fpath [])
  | removeByTemplate collname jsontempl =>
    returning .count (ArangoDBCollectionAPI.removeByTemplate env collname jsontempl)
  | removeEdges collname vertexkey =>
    returning (fun _ => .nothing) (ArangoDBCollectionAPI.removeEdges env collname vertexkey)
  | removeByKeys collname ids => returning (fun counts => .counts counts.1 counts.2)
    (ArangoDBCollectionAPI.removeByKeys env collname ids)
  | existGraph graphname => returning .flag (ArangoDBGraphAPI.existGraph env graphname)
  | graphNames => returning .names (ArangoDBGraphAPI.graphNames env)
  | createGraph graphname edgeDefinitions =>
    returning (fun _ => .nothing) (ArangoDBGraphAPI.createGraph env graphname edgeDefinitions)
  | removeGraph graphname dropCollections =>
    returning (fun _ => .nothing) (ArangoDBGraphAPI.removeGraph env graphname dropCollections)
  | graphCollectionNames graphname colltype =>
    returning .names (ArangoDBGraphAPI.graphCollectionNames env graphname colltype)
  | addVertexGraph graphname collname =>
    returning (fun _ => .nothing) (ArangoDBGraphAPI.addVertexGraph env graphname collname)
  | addEdgeGraph graphname edgeDefinition =>
    returning (fun _ => .nothing) (ArangoDBGraphAPI.addEdgeGraph env graphname edgeDefinition)
  | readRecord graphname colltype collname documentHandle => returning .text
    (ArangoDBGraphAPI.readRecord env graphname colltype collname documentHandle)
  | createRecord graphname colltype collname jsonrec => returning .text
    (ArangoDBGraphAPI.createRecord env graphname colltype collname jsonrec)
  | updateRecord graphname colltype collname documentHandle jsonrec => returning .text
    (ArangoDBGraphAPI.updateRecord env graphname colltype collname documentHandle jsonrec)
  | deleteRecord graphname colltype collname documentHandle => returning .flag
    (ArangoDBGraphAPI.deleteRecord env graphname colltype collname documentHandle)
  | databaseNames => returning .names (ArangoDBUsersAPI.databaseNames env)
  | databaseNamesOf user => returning .rights (ArangoDBUsersAPI.databaseNamesOf env user)
  | existDatabase dbname => returning .flag (ArangoDBUsersAPI.existDatabase env dbname)
  | createDatabase dbname users =>
    returning (fun _ => .nothing) (ArangoDBUsersAPI.createDatabase env dbname users)
  | removeDatabase dbname =>
    returning (fun _ => .nothing) (ArangoDBUsersAPI.removeDatabase env dbname)
  | existUser username => returning .flag (ArangoDBUsersAPI.existUser env username)
  | createUser user => returning (fun _ => .nothing) (ArangoDBUsersAPI.createUser env user)
  | updateUser user => returning (fun _ => .nothing) (ArangoDBUsersAPI.updateUser env user)
  | removeUser username =>
    returning (fun _ => .nothing) (ArangoDBUsersAPI.removeUser env username)
  | grantUserToDataBase dbname username grant => returning (fun _ => .nothing)
    (ArangoDBUsersAPI.grantUserToDataBase env dbname username grant)
  | userNames => returning .names (ArangoDBUsersAPI.userNames env)

/-- Without what it returns it is the program of the operation. -/
theorem discard_returns (env : Env) (batchSize : Int32) (turns : Nat) (operation : Operation) :
    discard (operation.returns env batchSize turns) = operation.program env batchSize turns := by
  have unit (program : Api Unit) :
      discard (returning (fun _ => .nothing) program) = program := by
    rw [discard, returning, bind_assoc]
    exact bind_done program
  have kept {Value : Type} (wrap : Value → OperationValue) (program : Api Value) :
      discard (returning wrap program) = discard program := by
    rw [discard, returning, bind_assoc]
    rfl
  cases operation <;> first
    | exact kept _ _
    | exact unit _

theorem same_returning {env other : Env} {Value : Type} {program programToo : Api Value}
    (same : AlikeProgram env other program programToo) (wrap : Value → OperationValue) :
    AlikeProgram env other (returning wrap program) (returning wrap programToo) :=
  same_bind same fun value => same_done (wrap value)

section

variable {env : Env} {put get debug : Bool} (textual : env.vpack.Textual)

include textual

/-- Every operation asks for the same in all formats, and makes the same of what it is told. -/
theorem same_returns (batchSize : Int32) (turns : Nat) {operation : Operation}
    (sendable : operation.Sendable) :
    AlikeProgram env (env.speaking put get debug) (operation.returns env batchSize turns)
      (operation.returns (env.speaking put get debug) batchSize turns) := by
  cases operation with
  | testConnection => exact same_returning same_testConnection _
  | existCollection collname =>
    exact same_returning (ArangoDBCollectionAPI.same_existCollection collname) _
  | createCollection collname ctype =>
    exact same_returning (ArangoDBCollectionAPI.same_createCollection textual sendable ctype) _
  | dropCollection collname =>
    exact same_returning (ArangoDBCollectionAPI.same_dropCollection collname) _
  | collectionNames ctype =>
    exact same_returning (ArangoDBCollectionAPI.same_collectionNames ctype) _
  | readDocument collname key =>
    exact same_returning (same_get (Or.inl rfl) _ (same_takeValue _ _ _)) _
  | createDocument collname jsonrec =>
    exact same_returning
      (same_writeDocument (env.vpack_speaking put get debug) textual _ _ (by simp) _ _ _ _) _
  | updateDocument collname key jsonrec =>
    exact same_returning
      (same_writeDocument (env.vpack_speaking put get debug) textual _ _ (by simp) _ _ _ _) _
  | deleteDocument collname key =>
    exact same_returning (same_bind (same_delete _ _ _) fun _ => same_done true) _
  | existsDocument collname key =>
    exact same_returning (same_get (by simp) _
      (same_status fun status => .ok (status == statusOK))) _
  | queryEdgesToFrom atype startVertex edgeCollections =>
    exact same_returning (ArangoDBCollectionAPI.same_queryEdgesToFrom _ _ _) _
  | selectQuery collname query =>
    exact same_returning
      (ArangoDBCollectionAPI.same_selectQuery textual _ _ sendable.1 sendable.2 _ _) _
  | selectAll collname queryFields =>
    exact same_returning
      (ArangoDBCollectionAPI.same_selectAll textual _ _ sendable.1 sendable.2 _ _) _
  | lookupByKeys collname keys =>
    exact same_returning
      (ArangoDBCollectionAPI.same_lookupByKeys textual sendable.1 sendable.2 _ _) _
  | collectQuery collname fpath =>
    exact same_returning
      (ArangoDBCollectionAPI.same_selectQuery textual _ _ sendable.1 sendable.2 _ _) _
  | removeByTemplate collname jsontempl =>
    exact same_returning (ArangoDBCollectionAPI.same_removeByTemplate textual sendable _) _
  | removeEdges collname vertexkey =>
    exact same_returning (ArangoDBCollectionAPI.same_removeEdges textual _ _) _
  | removeByKeys collname ids =>
    exact same_returning (ArangoDBCollectionAPI.same_removeByKeys textual sendable.1 sendable.2) _
  | existGraph graphname => exact same_returning (same_probe (· != statusNotFound) _) _
  | graphNames => exact same_returning (same_get (Or.inl rfl) _ (same_listValue _ _)) _
  | createGraph graphname edgeDefinitions =>
    exact same_returning (ArangoDBGraphAPI.same_createGraph textual sendable _) _
  | removeGraph graphname dropCollections =>
    exact same_returning (ArangoDBGraphAPI.same_removeGraph _ _) _
  | graphCollectionNames graphname colltype =>
    exact same_returning (same_get (Or.inl rfl) _ (same_listValue _ _)) _
  | addVertexGraph graphname collname =>
    exact same_returning (ArangoDBGraphAPI.same_addVertexGraph textual _ sendable) _
  | addEdgeGraph graphname edgeDefinition =>
    exact same_returning (ArangoDBGraphAPI.same_addEdgeGraph textual _ _) _
  | readRecord graphname colltype collname documentHandle =>
    exact same_returning (same_get (Or.inl rfl) _ (same_takeValue _ _ _)) _
  | createRecord graphname colltype collname jsonrec =>
    exact same_returning
      (same_writeDocument (env.vpack_speaking put get debug) textual _ _ (by simp) _ _ _ _) _
  | updateRecord graphname colltype collname documentHandle jsonrec =>
    exact same_returning
      (same_writeDocument (env.vpack_speaking put get debug) textual _ _ (by simp) _ _ _ _) _
  | deleteRecord graphname colltype collname documentHandle =>
    exact same_returning (same_bind (same_delete _ _ _) fun _ => same_done true) _
  | databaseNames => exact same_returning (same_get (Or.inl rfl) _ (same_listValue _ _)) _
  | databaseNamesOf user => exact same_returning (same_get (Or.inl rfl) _ (same_listValue _ _)) _
  | existDatabase dbname => exact same_returning (same_probe (· != statusNotFound) _) _
  | createDatabase dbname users =>
    exact same_returning
      (ArangoDBUsersAPI.same_createDatabase textual sendable.1 sendable.2) _
  | removeDatabase dbname => exact same_returning (ArangoDBUsersAPI.same_removeDatabase _) _
  | existUser username => exact same_returning (same_probe (· == statusOK) _) _
  | createUser user =>
    exact same_returning (ArangoDBUsersAPI.same_createUser textual sendable.1 sendable.2) _
  | updateUser user => exact same_returning (ArangoDBUsersAPI.same_updateUser textual sendable) _
  | removeUser username => exact same_returning (same_delete _ _ _) _
  | grantUserToDataBase dbname username grant =>
    exact same_returning (ArangoDBUsersAPI.same_grantUserToDataBase textual _ _ sendable) _
  | userNames => exact same_returning (same_get (Or.inl rfl) _ (same_listValue _ _)) _

omit textual in
theorem asks_returns (lawful : env.vpack.Lawful) (batchSize : Int32) (turns : Nat)
    (operation : Operation) :
    (operation.returns env batchSize turns).Asks (HttpMessage.Issued env) := by
  have asks := asks_program lawful batchSize turns operation
  rw [← discard_returns] at asks
  exact asks.of_bind

end

end Operation

/-- With other formats, and with or without the log, every operation sends the same and returns or
throws the same, when the server brings the same in reply. -/
theorem formats_indifferent {env other : Env} (vpack : other.vpack = env.vpack)
    (edges : other.fullListOfEdges = env.fullListOfEdges) (textual : env.vpack.Textual)
    (dispatch : Dispatch) (connectData : ArangoDBConnection) (batchSize : Int32) (turns : Nat)
    {operation : Operation} (sendable : operation.Sendable)
    {transfers transfersToo : List Transfer}
    (same : List.Forall₂ (AlikeTransfer env other) transfers transfersToo) :
    let ran := (conduct env dispatch connectData
      (operation.returns env batchSize turns)).run transfers
    let ranToo := (conduct other dispatch connectData
      (operation.returns other batchSize turns)).run transfersToo
    ranToo.outcome = ran.outcome ∧
      List.Forall₂ (AlikeTransmission env other) ran.asked ranToo.asked ∧
      List.Forall₂ (AlikeTransfer env other) ran.rest ranToo.rest := by
  have speaking : other =
      env.speaking other.useVelocypackPut other.useVelocypackGet other.debug := by
    rw [Env.speaking, ← vpack, ← edges]
  intro ran ranToo
  have textualToo : other.vpack.Textual := vpack ▸ textual
  have corresponds : Corresponds (AlikeTransmission env other) (AlikeTransfer env other) Eq
      (conduct env dispatch connectData (operation.returns env batchSize turns))
      (conduct other dispatch connectData (operation.returns other batchSize turns)) := by
    rw [Operation.conduct_eq_through textual.toLawful
        (Operation.asks_returns textual.toLawful batchSize turns operation),
      Operation.conduct_eq_through textualToo.toLawful
        (Operation.asks_returns textualToo.toLawful batchSize turns operation)]
    refine Corresponds.through
      (fun rq rqToo asked => likewise_encode vpack textual dispatch connectData asked)
      (fun rq rqToo transfer transferToo asked same =>
        likewise_decode vpack textual dispatch connectData asked same) ?_
    rw [speaking]
    exact Operation.same_returns textual batchSize turns sendable
  obtain ⟨asked, rest, ended⟩ := corresponds.run same
  exact ⟨ended.eq.symm, asked, rest⟩

/-- A library that knows the values of some texts. -/
theorem textual_printing {texts : List (Bytes × Slice)} (json : ∀ entry ∈ texts, entry.2.Json) :
    (Velocypack.printing texts).Textual where
  toLawful := Velocypack.printing_lawful texts fun entry listed => (json entry listed).represented
  dumps value := ⟨_, rfl⟩
  parses jsonrec data parsed := by
    simp only [Velocypack.printing, Velocypack.simple] at parsed
    split at parsed
    · rename_i entry found
      cases parsed
      exact json entry (List.mem_of_find?_eq_some found)
    · cases parsed

/-- A document is created in VelocyPack, and in JSON with the log. -/
theorem formats_indifferent_created :
    let jsonrec : Bytes := "\x7b\"_id\": \"c/k\", \"size\": 1.5\x7d"
    let value : Slice := .object [("_id", .string "c/k"), ("size", .double 0x3ff8000000000000)]
    let env : Env := ⟨.printing [(jsonrec, value)], true, true, [], false⟩
    let other : Env := ⟨.printing [(jsonrec, value)], false, false, [], true⟩
    let ran := (conduct env .base .default
      ((Operation.createDocument "c" jsonrec).returns env 500 10)).run
        [⟨0, 201, [], [env.vpack.build value]⟩]
    let ranToo := (conduct other .base .default
      ((Operation.createDocument "c" jsonrec).returns other 500 10)).run
        [⟨0, 201, ["content-type: application/json\x0d\n"], [jsonrec]⟩]
    ranToo.outcome = ran.outcome ∧
      List.Forall₂ (AlikeTransmission env other) ran.asked ranToo.asked ∧
      List.Forall₂ (AlikeTransfer env other) ran.rest ranToo.rest := by
  intro jsonrec value env other ran ranToo
  have json : value.Json := by simp +decide [value]
  have textual : env.vpack.Textual := textual_printing fun entry listed => by
    rcases List.mem_singleton.mp listed with rfl
    exact json
  have parsed : other.vpack.fromJson ⟨false, false⟩ jsonrec = .ok value :=
    Velocypack.printing_fromJson _ jsonrec value []
  have holdsToo : Transfer.Holds other
      ⟨0, 201, ["content-type: application/json\x0d\n"], [jsonrec]⟩ value :=
    .json (@isContentTypeJson_headed_iff other _ |>.mpr (by decide)) (by decide) parsed
  have holds : Transfer.Holds env ⟨0, 201, [], [env.vpack.build value]⟩ value :=
    holds_build textual.toLawful 0 201 json.represented
  have same : AlikeTransfer env other ⟨0, 201, [], [env.vpack.build value]⟩
      ⟨0, 201, ["content-type: application/json\x0d\n"], [jsonrec]⟩ :=
    ⟨rfl, Or.inr ⟨⟨value, json⟩, holds, holdsToo⟩⟩
  exact @formats_indifferent env other rfl rfl textual .base .default 500 10
    (.createDocument "c" jsonrec) trivial _ _ (.cons same .nil)

end ArangoCpp
