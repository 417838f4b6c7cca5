/-
This file says when the operations that create something return without anything having been
confirmed.

They ask first whether the thing exists, and create it if it does not. The questions for a
database and for a graph take every status but 404 for a yes, so that an error of the server
makes the operation return; the question for a collection takes any response for a yes whose
body has a number as its status, other than 5. The requests that create accept the statuses
that say so, but for a graph, where every status up to 202 will do.
-/

import ArangoCpp.Operation

namespace ArangoCpp

variable {env : Env}

/-! ### Asking first -/

/-- A program that asks whether something exists, and creates it otherwise. -/
theorem create_ends_iff {question : HttpMessage} {read : HttpMessage → Except Fault Bool}
    {creation : Api Unit} {responses : List HttpMessage} {value : Unit} :
    (Dialogue.bind (.exchange question read) fun exist =>
        if exist = true then .done () else creation).Ends (responses.map .ok) (.returned value) ↔
      ∃ probe rest, responses = probe :: rest ∧
        (read probe = .ok true ∧ rest = [] ∨
          read probe = .ok false ∧ creation.Ends (rest.map .ok) (.returned value)) := by
  cases responses with
  | nil =>
    refine iff_of_false Dialogue.not_exchange_bind_ends_nil ?_
    rintro ⟨probe, rest, same, _⟩
    cases same
  | cons probe rest =>
    rw [List.map_cons, Dialogue.exchange_bind_ends_iff]
    constructor
    · rintro ⟨exist, taken, ends⟩
      refine ⟨probe, rest, rfl, ?_⟩
      cases exist with
      | true =>
        have none : rest.map (Except.ok : HttpMessage → Except Fault HttpMessage) = [] :=
          (Dialogue.ends_done_iff.mp ends).1
        exact Or.inl ⟨taken, List.map_eq_nil_iff.mp none⟩
      | false => exact Or.inr ⟨taken, ends⟩
    · rintro ⟨_, _, same, ⟨taken, none⟩ | ⟨taken, ends⟩⟩
      · cases same
        rw [none]
        exact ⟨true, taken, Dialogue.ends_done_iff.mpr ⟨rfl, rfl⟩⟩
      · cases same
        exact ⟨false, taken, ends⟩

theorem catchVelocypack_ends_iff {Value : Type} {title : Bytes} {id : Int} {program : Api Value}
    {replies : List (Except Fault HttpMessage)} {value : Value} :
    (catchVelocypack env title id program).Ends replies (.returned value) ↔
      program.Ends replies (.returned value) := by
  refine Dialogue.rescue_ends_iff fun fault => ?_
  cases fault <;> exact ⟨_, rfl⟩

/-! ### The operations that create -/

/-- The statuses that an operation takes for a creation. -/
def Operation.accepts : Operation → StatusCode → Bool
  | createDatabase _ _, status => status == statusCreated
  | createGraph _ _, status => !ArangoDBGraphAPI.notAccepted status
  | createCollection _ _, status => !notOK status
  | _, _ => false

/-- The responses that an operation takes for a yes to its question. -/
def Operation.TakesForExisting (env : Env) : Operation → HttpMessage → Prop
  | createDatabase _ _, response | createGraph _ _, response =>
    response.statusCode ≠ statusNotFound
  | createCollection _ _, response => response.statusCode ≠ statusNotFound ∧
    ∃ slice status, response.front env = .ok slice ∧
      (slice.get "status" >>= Slice.getInt) = .ok status ∧ toInt32 status ≠ 5
  | _, _ => False

/-- The operations that create. -/
def Operation.Creates : Operation → Prop
  | createDatabase _ _ | createGraph _ _ | createCollection _ _ => True
  | _ => False

/-- A program asks with a question whose answer is read as the operation does, and creates
otherwise: when that returns, it is on one response with an accepted status. -/
structure AsksFirst (env : Env) (operation : Operation) (program : Api Unit)
    (question : HttpMessage) (read : HttpMessage → Except Fault Bool) (creation : Api Unit) :
    Prop where
  program : program = .bind (.exchange question read) fun exist =>
    if exist = true then .done () else creation
  takes : ∀ response, read response = .ok true ↔ operation.TakesForExisting env response
  ends : ∀ responses, creation.Ends (responses.map .ok) (.returned ()) →
    ∃ response, responses = [response] ∧ operation.accepts response.statusCode = true
  returnsOn : creation.ReturnsOn (fun response => operation.accepts response.statusCode = true)
    fun _ => True
  strict : creation.Strict

section

variable {verb : RestVerb} {path : Bytes} {read : HttpMessage → Except Fault Unit}
  {accepts : StatusCode → Bool}
  (reads : ∀ response, read response = .ok () ↔ accepts response.statusCode = true)

include reads

theorem exchangeQuery_accepted {query : Slice} {responses : List HttpMessage}
    (ends : (exchangeQuery env verb path query read).Ends (responses.map .ok) (.returned ())) :
    ∃ response, responses = [response] ∧ accepts response.statusCode = true := by
  rw [exchangeQuery_eq, Dialogue.exchange_ends_iff] at ends
  obtain ⟨response, same, taken⟩ := ends
  exact ⟨response, same, (reads response).mp taken⟩

theorem exchangeQuery_returnsOn (query : Slice) :
    (exchangeQuery env verb path query read).ReturnsOn
      (fun response => accepts response.statusCode = true) fun _ => True := by
  rw [exchangeQuery_eq]
  exact Dialogue.returnsOn_exchange _ fun response accepted =>
    ⟨(), (reads response).mpr accepted, trivial⟩

omit reads in
theorem exchangeQuery_strict (query : Slice) : (exchangeQuery env verb path query read).Strict := by
  rw [exchangeQuery_eq]
  exact Dialogue.strict_exchange _ read

variable {Data : Type} {title : Bytes} {id : Int} {parsed : Except Fault Data}
  {query : Data → Slice}

/-- A request whose query is parsed from a text of the caller. -/
theorem parsed_accepted {responses : List HttpMessage}
    (ends : (catchVelocypack env title id (.bind (.ofExcept parsed) fun data =>
      exchangeQuery env verb path (query data) read)).Ends (responses.map .ok) (.returned ())) :
    ∃ response, responses = [response] ∧ accepts response.statusCode = true := by
  rw [catchVelocypack_ends_iff] at ends
  cases parsed with
  | error fault => exact absurd ends Dialogue.not_ends_raise
  | ok data => exact exchangeQuery_accepted reads ends

theorem parsed_returnsOn :
    (catchVelocypack env title id (.bind (.ofExcept parsed) fun data =>
      exchangeQuery env verb path (query data) read)).ReturnsOn
        (fun response => accepts response.statusCode = true) fun _ => True := by
  refine Dialogue.ReturnsOn.rescue ?_ fun fault => by cases fault <;> trivial
  cases parsed with
  | error fault => trivial
  | ok data => exact exchangeQuery_returnsOn reads (query data)

omit reads in
theorem parsed_strict :
    (catchVelocypack env title id (.bind (.ofExcept parsed) fun data =>
      exchangeQuery env verb path (query data) read)).Strict := by
  refine Dialogue.Strict.rescue ?_ fun fault => by cases fault <;> exact ⟨_, rfl⟩
  exact (Dialogue.strict_ofExcept parsed).bind fun data => exchangeQuery_strict (query data)

end

/-- What the three operations have in common. -/
theorem asksFirst_program {operation : Operation} (creates : operation.Creates) (batchSize : Int32)
    (turns : Nat) :
    ∃ question read creation,
      AsksFirst env operation (operation.program env batchSize turns) question read creation := by
  have found : ∀ response : HttpMessage,
      ((return response.statusCode != statusNotFound : Except Fault Bool) = .ok true ↔
        response.statusCode ≠ statusNotFound) := by
    intro response
    simp [pure, Except.pure]
  have demanded : ∀ (refused : StatusCode → Bool) (text : Bytes) (response : HttpMessage),
      demand env refused text response = .ok () ↔ (!refused response.statusCode) = true := by
    intro refused text response
    rw [demand_eq_ok_iff, Bool.not_eq_true']
  cases operation <;> try exact creates.elim
  case createCollection collname ctype =>
    refine ⟨_, _, _, rfl, fun response => ?_,
      fun responses => exchangeQuery_accepted (demanded _ _),
      exchangeQuery_returnsOn (demanded _ _) _, exchangeQuery_strict _⟩
    by_cases missing : response.statusCode = statusNotFound
    · rw [if_pos missing]
      exact iff_of_false (fun same => by cases same) fun takes => takes.1 missing
    · rw [if_neg missing, bind_eq_ok_iff]
      refine ⟨fun taken => ⟨missing, ?_⟩, fun taken => ?_⟩
      · obtain ⟨slice, front, taken⟩ := taken
        obtain ⟨status, number, other⟩ := bind_eq_ok_iff.mp taken
        refine ⟨slice, status, front, ofVpack_eq_ok_iff.mp number, ?_⟩
        simpa [pure, Except.pure] using other
      · obtain ⟨slice, status, front, number, other⟩ := taken.2
        refine ⟨slice, front, ?_⟩
        rw [number]
        simpa [ofVpack, pure, Except.pure] using other
  case createGraph graphname edgeDefinitions =>
    have accepted : ∀ response : HttpMessage,
        (if ArangoDBGraphAPI.notAccepted response.statusCode = true then
          arangoThrow ArangoDBGraphAPI.title 32 ArangoDBGraphAPI.refusedGraph
        else .ok () : Except Fault Unit) = .ok () ↔
          (!ArangoDBGraphAPI.notAccepted response.statusCode) = true := by
      intro response
      cases ArangoDBGraphAPI.notAccepted response.statusCode with
      | false => simp
      | true => simp [arangoThrow]
    exact ⟨_, _, _, rfl, found, fun responses => parsed_accepted accepted,
      parsed_returnsOn accepted, parsed_strict⟩
  case createDatabase dbname users =>
    have accepted : ∀ (text : Bytes) (response : HttpMessage),
        demand env (· != statusCreated) text response = .ok () ↔
          (response.statusCode == statusCreated) = true := by
      intro text response
      rw [demanded, bne, Bool.not_not]
    exact ⟨_, _, _, rfl, found, fun responses => parsed_accepted (accepted _),
      parsed_returnsOn (accepted _), parsed_strict⟩

namespace AsksFirst

variable {operation : Operation} {program : Api Unit} {question : HttpMessage}
  {take : HttpMessage → Except Fault Bool} {creation : Api Unit}
  (asksFirst : AsksFirst env operation program question take creation)

include asksFirst

/-- When the program returns, the question was answered with a yes, or else one response to the
creation was accepted. -/
theorem of_ends {responses : List HttpMessage}
    (ends : program.Ends (responses.map .ok) (.returned ())) :
    ∃ probe rest, responses = probe :: rest ∧
      (operation.TakesForExisting env probe ∧ rest = [] ∨
        ∃ response, rest = [response] ∧ operation.accepts response.statusCode = true) := by
  rw [asksFirst.program, create_ends_iff] at ends
  obtain ⟨probe, rest, same, ⟨yes, none⟩ | ⟨_, ends⟩⟩ := ends
  · exact ⟨probe, rest, same, Or.inl ⟨(asksFirst.takes probe).mp yes, none⟩⟩
  · exact ⟨probe, rest, same, Or.inr (asksFirst.ends rest ends)⟩

/-- After a yes to the question nothing else is asked. -/
theorem run_yes {probe : HttpMessage} {replies : List (Except Fault HttpMessage)}
    (takes : operation.TakesForExisting env probe)
    (rest : (program.run (.ok probe :: replies)).rest = []) :
    replies = [] ∧ (program.run (.ok probe :: replies)).outcome = .returned () := by
  have yes := (asksFirst.takes probe).mpr takes
  rw [asksFirst.program, Dialogue.run_exchange_bind yes, if_pos rfl, Dialogue.run_done] at rest ⊢
  exact ⟨rest, rfl⟩

/-- Once a response to the creation is accepted, the program returns. -/
theorem returned_of_accepted {reply : Except Fault HttpMessage}
    {replies : List (Except Fault HttpMessage)}
    (rest : (program.run (reply :: replies)).rest = []) {response : HttpMessage}
    (heard : .ok response ∈ replies)
    (accepted : operation.accepts response.statusCode = true) :
    ∃ value, (program.run (reply :: replies)).outcome = .returned value := by
  have returnsOn : ∀ exist, (if exist = true then .done () else creation : Api Unit).ReturnsOn
      (fun response => operation.accepts response.statusCode = true) fun _ => True := by
    intro exist
    split
    · trivial
    · exact asksFirst.returnsOn
  have strict : ∀ exist, (if exist = true then .done () else creation : Api Unit).Strict := by
    intro exist
    split
    · trivial
    · exact asksFirst.strict
  rw [asksFirst.program] at rest ⊢
  exact Dialogue.ReturnsOn.run_behind returnsOn strict rest heard accepted

end AsksFirst

/-! ### What has been confirmed -/

/-- The replies confirm that the thing exists: a yes to the question, or to the creation. -/
def ConfirmsExistence : List Transfer → Prop
  | [] => False
  | probe :: creation => probe.responseCode = statusOK ∨
    ∃ transfer ∈ creation, statusOK ≤ transfer.responseCode ∧ transfer.responseCode < 300

/-- When an operation returns, the replies confirm that the thing exists. -/
def ReturnsConfirmed (env : Env) (dispatch : Dispatch) (connectData : ArangoDBConnection)
    (batchSize : Int32) (turns : Nat) (operation : Operation) (transfers : List Transfer) : Prop :=
  (∃ value, ((conduct env dispatch connectData (operation.program env batchSize turns)).run
    transfers).outcome = .returned value) → ConfirmsExistence transfers

/-- No reply is taken for more than it says: what is taken for a yes to the question has the
status 200, and what is taken for a creation has no status below that. -/
def TakenAsSaid (env : Env) (operation : Operation) : List Transfer → Prop
  | [] => True
  | probe :: creation =>
    (∀ response, probe.Accepted env response → operation.TakesForExisting env response →
      response.statusCode = statusOK) ∧
    ∀ transfer ∈ creation, ∀ response, transfer.Accepted env response →
      operation.accepts response.statusCode = true → statusOK ≤ response.statusCode

theorem Operation.accepts_lt {operation : Operation} {status : StatusCode}
    (accepts : operation.accepts status = true) : status < 300 := by
  cases operation <;> simp only [Operation.accepts, Bool.false_eq_true] at accepts
  case createCollection =>
    have same : status = statusOK := by simpa [notOK] using accepts
    rw [same]
    decide
  case createGraph =>
    have small : status ≤ statusAccepted := by
      simpa [ArangoDBGraphAPI.notAccepted] using accepts
    exact Nat.lt_of_le_of_lt small (by decide)
  case createDatabase =>
    have same : status = statusCreated := by simpa using accepts
    rw [same]
    decide

/-- After a no with the status 200, the creation is accepted with no status below that. -/
theorem Operation.le_of_accepts {operation : Operation} {probe : HttpMessage}
    (fine : probe.statusCode = statusOK) (missing : ¬ operation.TakesForExisting env probe)
    {status : StatusCode} (accepts : operation.accepts status = true) : statusOK ≤ status := by
  have different : statusOK ≠ statusNotFound := by decide
  cases operation <;> simp only [Operation.accepts, Bool.false_eq_true] at accepts
  case createCollection =>
    have same : status = statusOK := by simpa [notOK] using accepts
    exact same.ge
  case createGraph =>
    have found : probe.statusCode ≠ statusNotFound := fine.symm ▸ different
    exact absurd found missing
  case createDatabase =>
    have found : probe.statusCode ≠ statusNotFound := fine.symm ▸ different
    exact absurd found missing

/-- An operation that creates returns without a confirmation exactly when some reply is taken for
more than it says. -/
theorem returns_confirmed_iff (lawful : env.vpack.Lawful) (dispatch : Dispatch)
    (connectData : ArangoDBConnection) (batchSize : Int32) (turns : Nat) {operation : Operation}
    (creates : operation.Creates) {transfers : List Transfer}
    (read : ((conduct env dispatch connectData
      (operation.program env batchSize turns)).run transfers).rest = []) :
    ReturnsConfirmed env dispatch connectData batchSize turns operation transfers ↔
      TakenAsSaid env operation transfers := by
  have other : operation ≠ .testConnection := by
    rintro rfl
    exact creates.elim
  have orderly := Operation.orderly_program lawful batchSize turns other
  obtain ⟨question, take, creation, asksFirst⟩ :=
    @asksFirst_program env operation creates batchSize turns
  have confirms := Operation.returned_iff lawful orderly dispatch connectData read
  constructor
  · intro confirmed
    obtain ⟨replies, failure, outcome, rest, tells, _⟩ := Operation.conduct_tells lawful
      orderly.asks orderly.strict.prompt dispatch connectData read
    cases tells with
    | nil => trivial
    | @cons probe reply transfers replies told tells =>
    rw [List.cons_append] at outcome rest
    constructor
    · intro response accepted takes
      have said := told.eq_ok accepted
      subst said
      obtain ⟨none, returned⟩ := asksFirst.run_yes takes rest
      rcases confirmed ⟨(), outcome.trans returned⟩ with fine | ⟨transfer, member, _⟩
      · exact accepted.status.trans fine
      · rw [(List.append_eq_nil_iff.mp none).1] at tells
        cases tells
        cases member
    · intro transfer member response accepted created
      obtain ⟨later, found, toldLater⟩ := Operation.exists_of_mem_forall₂ tells member
      have heard : .ok response ∈ replies ++ failure :=
        List.mem_append_left _ (toldLater.eq_ok accepted ▸ found)
      obtain ⟨value, returned⟩ := asksFirst.returned_of_accepted rest heard created
      obtain ⟨responses, all, _, ends⟩ := confirms.mp ⟨value, outcome.trans returned⟩
      obtain ⟨first, _, rfl, ⟨_, rfl⟩ | ⟨other, rfl, _⟩⟩ := asksFirst.of_ends ends
      · cases all with
        | cons _ none =>
          cases none
          cases member
      · cases all with
        | cons probed single =>
          cases single with
          | cons _ none =>
            cases none
            rcases confirmed ⟨value, outcome.trans returned⟩ with fine | ⟨_, otherMember, big, _⟩
            · have missing : ¬ operation.TakesForExisting env first := by
                intro takes
                rw [told.eq_ok probed] at rest
                rw [(asksFirst.run_yes takes rest).1] at heard
                cases heard
              exact Operation.le_of_accepts (probed.status.trans fine) missing created
            · rw [List.mem_singleton.mp otherMember] at big
              rw [List.mem_singleton.mp member] at accepted
              exact accepted.status.symm ▸ big
  · intro taken returned
    obtain ⟨responses, accepted, value, ends⟩ := confirms.mp returned
    obtain ⟨probe, rest, rfl, ⟨takes, rfl⟩ | ⟨response, rfl, created⟩⟩ := asksFirst.of_ends ends
    · cases accepted with
      | cons accepted none =>
        exact Or.inl (accepted.status.symm.trans (taken.1 probe accepted takes))
    · cases accepted with
      | cons _ accepted =>
        cases accepted with
        | cons accepted _ =>
          refine Or.inr ⟨_, List.mem_cons_self, ?_, ?_⟩
          · exact accepted.status ▸ taken.2 _ List.mem_cons_self response accepted created
          · exact accepted.status ▸ Operation.accepts_lt created

/-- A database that the server forbids to ask for. -/
theorem run_createDatabase_forbidden (lawful : env.vpack.Lawful) (connectData : ArangoDBConnection)
    (batchSize : Int32) (turns : Nat) :
    ∃ asked, (conduct env .users connectData
        ((Operation.createDatabase "db" []).program env batchSize turns)).run [⟨0, 403, [], []⟩] =
      ⟨asked, [], .returned ()⟩ := by
  obtain ⟨response, accepted, _⟩ := @accepted_of_empty env ⟨0, 403, [], []⟩ rfl (Nat.succ_ne_zero _)
  have forbidden : (response.statusCode != statusNotFound) = true := by
    rw [accepted.status]
    decide
  let read (result : HttpMessage) : Except Fault Bool := return result.statusCode != statusNotFound
  have taken : read response = .ok true := congrArg Except.ok forbidden
  have probed := Dialogue.run_through_exchange
    (encode_createREQUEST lawful .users connectData (Or.inl rfl) "/_db/db/_api/database/current")
    ((decode_eq_ok_iff lawful .users connectData _).mpr accepted) taken []
  rw [Operation.conduct_eq_through lawful (Operation.asks_program lawful _ _ _)]
  exact ⟨_, Dialogue.run_through_bind probed _⟩

/-- A database that the server forbids to ask for. -/
theorem returns_confirmed_iff_forbidden :
    let env : Env := ⟨.simple [], true, true, [], false⟩
    ReturnsConfirmed env .users .default 500 0 (.createDatabase "db" []) [⟨0, 403, [], []⟩] ↔
      TakenAsSaid env (.createDatabase "db" []) [⟨0, 403, [], []⟩] := by
  intro env
  have lawful : env.vpack.Lawful := Velocypack.simple_lawful []
  have creates : (Operation.createDatabase "db" []).Creates := trivial
  obtain ⟨asked, ran⟩ := run_createDatabase_forbidden lawful .default 500 0
  exact returns_confirmed_iff lawful .users .default 500 0 creates (by rw [ran])

/-- A database that the server forbids to ask for counts as created. -/
theorem not_returns_confirmed_forbidden :
    let env : Env := ⟨.simple [], true, true, [], false⟩
    ¬ ReturnsConfirmed env .users .default 500 0 (.createDatabase "db" []) [⟨0, 403, [], []⟩] := by
  intro env confirmed
  have lawful : env.vpack.Lawful := Velocypack.simple_lawful []
  obtain ⟨asked, ran⟩ := run_createDatabase_forbidden lawful .default 500 0
  rcases confirmed ⟨(), by rw [ran]⟩ with fine | ⟨transfer, member, _⟩
  · cases fine
  · cases member

end ArangoCpp
