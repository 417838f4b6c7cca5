/-
This file says what the operations do that are given a JSON text which the parser rejects.

All of them parse before they build their request, so that nothing is sent. Two ask first
whether the thing exists, and parse only after a no: for a graph or a database whose question is
answered with an error of the server, the operation returns as if the thing existed, and the
text is never looked at.
-/

import ArangoCpp.Creation
import ArangoCpp.Reception

namespace ArangoCpp

variable {env : Env}

/-! ### The JSON texts of the operations -/

/-- The JSON texts of a query that are parsed: its template, its edge query, or what is not empty
of its bind parameters and its options. -/
def ArangoDBQuery.jsonTexts (query : ArangoDBQuery) : List Bytes :=
  match query.queryType with
  | .template | .edgesFrom | .edgesTo | .edgesAll => [query.findCondition]
  | .aql => [query.bindVars, query.queryOptions].filter (· ≠ [])
  | .all | .undef => []

/-- The JSON texts that an operation is given. -/
def Operation.jsonTexts : Operation → List Bytes
  | createDocument _ jsonrec | updateDocument _ _ jsonrec => [jsonrec]
  | removeByTemplate _ jsontempl => [jsontempl]
  | selectQuery _ query => query.jsonTexts
  | createGraph _ edgeDefinitions => [edgeDefinitions]
  | addEdgeGraph _ edgeDefinition => [edgeDefinition]
  | createRecord _ _ _ jsonrec | updateRecord _ _ _ _ jsonrec => [jsonrec]
  | createUser user | updateUser user => [user.extra].filter (· ≠ [])
  | createDatabase _ users => (users.map ArangoDBUser.extra).filter (· ≠ [])
  | _ => []

/-- The parser rejects one of these texts. -/
def RejectsSome (env : Env) (texts : List Bytes) : Prop :=
  ∃ json ∈ texts, ∃ exception, env.vpack.fromJson parseOptions json = .error exception

/-- The question whether the thing exists that an operation with JSON texts asks first. -/
def Operation.probe (env : Env) : Operation → Option HttpMessage
  | createGraph graphname _ =>
    some (createREQUEST env .get (ArangoDBGraphAPI.graphPath graphname))
  | createDatabase dbname _ =>
    some (createREQUEST env .get ("/_db/" ++ dbname ++ "/_api/database/current"))
  | _ => none

theorem rejectsSome_singleton_iff {json : Bytes} :
    RejectsSome env [json] ↔
      ∃ exception, env.vpack.fromJson parseOptions json = .error exception := by
  simp only [RejectsSome, List.mem_singleton, exists_eq_left]

/-! ### Parsing that is rejected -/

/-- A list is not parsed when one of its elements is not. -/
theorem rejects_mapM {Error First Second : Type} {parse : First → Except Error Second}
    {firsts : List First}
    (rejects : ∃ first ∈ firsts, ∃ error, parse first = .error error) :
    ∃ error, firsts.mapM parse = .error error := by
  induction firsts with
  | nil =>
    obtain ⟨first, member, _⟩ := rejects
    cases member
  | cons head firsts inductionHypothesis =>
    rw [List.mapM_cons]
    cases parsed : parse head with
    | error error => exact ⟨error, rfl⟩
    | ok second =>
      obtain ⟨first, member, error, fails⟩ := rejects
      have later : first ∈ firsts := by
        refine (List.mem_cons.mp member).resolve_left fun same => ?_
        rw [same, parsed] at fails
        cases fails
      obtain ⟨other, stops⟩ := inductionHypothesis ⟨first, later, error, fails⟩
      refine ⟨other, ?_⟩
      rw [stops]
      rfl

theorem rejects_userData {user : ArangoDBUser}
    (rejects : RejectsSome env ([user.extra].filter (· ≠ []))) :
    ∃ exception, ArangoDBUsersAPI.userData env user = .error exception := by
  obtain ⟨json, listed, exception, fails⟩ := rejects
  simp only [List.mem_filter, List.mem_singleton, decide_eq_true_iff] at listed
  obtain ⟨rfl, nonempty⟩ := listed
  refine ⟨exception, ?_⟩
  rw [ArangoDBUsersAPI.userData, if_pos nonempty, fails]
  rfl

theorem rejects_usersData {users : List ArangoDBUser}
    (rejects : RejectsSome env ((users.map ArangoDBUser.extra).filter (· ≠ []))) :
    ∃ exception, ArangoDBUsersAPI.usersData env users = .error exception := by
  obtain ⟨json, listed, exception, fails⟩ := rejects
  obtain ⟨listed, nonempty⟩ := List.mem_filter.mp listed
  obtain ⟨user, member, rfl⟩ := List.mem_map.mp listed
  have some : users ≠ [] := List.ne_nil_of_mem member
  obtain ⟨other, refused⟩ := @rejects_userData env user
    ⟨user.extra, List.mem_filter.mpr ⟨List.mem_singleton_self _, nonempty⟩, exception, fails⟩
  let parse (user : ArangoDBUser) : Except VpackException Slice := do
    let data ← ArangoDBUsersAPI.userData env user
    return .object (("username", .string user.name) :: data)
  have fails : parse user = .error other := by
    show (ArangoDBUsersAPI.userData env user >>= _) = _
    rw [refused]
    rfl
  obtain ⟨last, stops⟩ := rejects_mapM ⟨user, member, other, fails⟩
  refine ⟨last, ?_⟩
  rw [ArangoDBUsersAPI.usersData, if_neg some]
  show (users.mapM parse >>= _) = _
  rw [stops]
  rfl

theorem rejects_createAQLRequest {query : ArangoDBQuery} (batchSize : Int32)
    (rejects : RejectsSome env ([query.bindVars, query.queryOptions].filter (· ≠ []))) :
    ∃ exception, ArangoDBCollectionAPI.createAQLRequest env batchSize query =
      .error (.arango exception) := by
  obtain ⟨json, listed, exception, fails⟩ := rejects
  obtain ⟨listed, nonempty⟩ := List.mem_filter.mp listed
  have nonempty : json ≠ [] := of_decide_eq_true nonempty
  rw [ArangoDBCollectionAPI.createAQLRequest]
  cases bound : ArangoDBCollectionAPI.bindVarsData env batchSize query with
  | error other => exact ⟨_, rfl⟩
  | ok bindVars =>
    have options : json = query.queryOptions := by
      refine (List.mem_cons.mp listed).elim (fun same => ?_) List.mem_singleton.mp
      rw [ArangoDBCollectionAPI.bindVarsData, if_pos (same ▸ nonempty), ← same, fails] at bound
      cases bound
    rw [ArangoDBCollectionAPI.optionsData, if_pos (options ▸ nonempty), ← options, fails]
    exact ⟨_, rfl⟩

/-! ### Programs that are given a rejected text -/

/-- A guarded program that begins with a computation that the library stops. -/
theorem catchVelocypack_of_error {Value Result : Type} (title : Bytes) (id : Int)
    {read : Except VpackException Value} {exception : VpackException}
    (fails : read = .error exception) (next : Value → Api Result) :
    ∃ thrown, catchVelocypack env title id (Dialogue.ofExcept (ofVpack read) >>= next) =
      .raise (.arango thrown) := by
  rw [fails]
  exact ⟨_, rfl⟩

theorem writeDocument_of_rejected {verb : RestVerb} (title : Bytes) (id : Int)
    (path errorText : Bytes) (identifier : Slice → Except VpackException Bytes) {jsonrec : Bytes}
    (rejects : RejectsSome env [jsonrec]) :
    ∃ thrown, writeDocument env title id verb path jsonrec errorText identifier =
      .raise (.arango thrown) := by
  obtain ⟨exception, fails⟩ := rejectsSome_singleton_iff.mp rejects
  exact catchVelocypack_of_error title id fails _

theorem selectRequest_of_rejected (batchSize : Int32) (collname : Bytes) {query : ArangoDBQuery}
    (rejects : RejectsSome env query.jsonTexts) :
    ∃ thrown, ArangoDBCollectionAPI.selectRequest env batchSize collname query =
      .raise (.arango thrown) := by
  have edges : RejectsSome env [query.findCondition] →
      ∃ thrown, ArangoDBCollectionAPI.createEdgeRequest env batchSize query =
        .raise (.arango thrown) := by
    intro rejects
    obtain ⟨exception, fails⟩ := rejectsSome_singleton_iff.mp rejects
    rw [ArangoDBCollectionAPI.createEdgeRequest, ArangoDBCollectionAPI.edgeQuery, fails]
    exact ⟨_, rfl⟩
  rw [ArangoDBQuery.jsonTexts] at rejects
  rw [ArangoDBCollectionAPI.selectRequest]
  cases kind : query.queryType with
  | template =>
    rw [kind] at rejects
    obtain ⟨exception, fails⟩ := rejectsSome_singleton_iff.mp rejects
    dsimp only
    rw [ArangoDBCollectionAPI.createByExampleRequest, fails]
    exact ⟨_, rfl⟩
  | edgesFrom | edgesTo | edgesAll =>
    rw [kind] at rejects
    exact edges rejects
  | aql =>
    rw [kind] at rejects
    obtain ⟨exception, fails⟩ := rejects_createAQLRequest batchSize rejects
    dsimp only
    rw [fails]
    exact ⟨exception, rfl⟩
  | all | undef =>
    rw [kind] at rejects
    obtain ⟨json, listed, _⟩ := rejects
    cases listed

/-- An operation that does not ask first ends at once with an exception. -/
theorem program_of_rejected {operation : Operation} (rejects : RejectsSome env operation.jsonTexts)
    (unasked : operation.probe env = none) (batchSize : Int32) (turns : Nat) :
    ∃ thrown, operation.program env batchSize turns = .raise (.arango thrown) := by
  have discarded : ∀ {Value : Type} {program : Api Value},
      (∃ thrown, program = .raise (.arango thrown)) →
        ∃ thrown, Operation.discard program = .raise (.arango thrown) := by
    intro Value program raised
    obtain ⟨thrown, rfl⟩ := raised
    exact ⟨thrown, rfl⟩
  cases operation with
  | createDocument => exact discarded (writeDocument_of_rejected _ _ _ _ _ rejects)
  | updateDocument => exact discarded (writeDocument_of_rejected _ _ _ _ _ rejects)
  | createRecord => exact discarded (writeDocument_of_rejected _ _ _ _ _ rejects)
  | updateRecord => exact discarded (writeDocument_of_rejected _ _ _ _ _ rejects)
  | removeByTemplate =>
    obtain ⟨exception, fails⟩ := rejectsSome_singleton_iff.mp rejects
    exact discarded (catchVelocypack_of_error _ _ fails _)
  | addEdgeGraph =>
    obtain ⟨exception, fails⟩ := rejectsSome_singleton_iff.mp rejects
    exact catchVelocypack_of_error _ _ fails _
  | createUser | updateUser =>
    obtain ⟨exception, fails⟩ := rejects_userData rejects
    exact catchVelocypack_of_error _ _ fails _
  | selectQuery collname query =>
    obtain ⟨thrown, raised⟩ := selectRequest_of_rejected batchSize collname rejects
    refine discarded ⟨thrown, ?_⟩
    rw [ArangoDBCollectionAPI.selectQuery, raised]
    rfl
  | createGraph | createDatabase => cases unasked
  | _ =>
    obtain ⟨json, listed, _⟩ := rejects
    cases listed

/-- An operation that asks first returns after every answer but a 404, and ends with an exception
after that. -/
theorem program_of_rejected_asked {operation : Operation}
    (rejects : RejectsSome env operation.jsonTexts) {question : HttpMessage}
    (asked : operation.probe env = some question) (batchSize : Int32) (turns : Nat) :
    (∃ path, question = createREQUEST env .get path) ∧
      ∃ thrown, operation.program env batchSize turns =
        .bind (.exchange question fun response => .ok (response.statusCode != statusNotFound))
          fun exist => if exist = true then .done () else .raise (.arango thrown) := by
  cases operation with
  | createGraph graphname edgeDefinitions =>
    cases asked
    refine ⟨⟨_, rfl⟩, ?_⟩
    obtain ⟨exception, fails⟩ := rejectsSome_singleton_iff.mp rejects
    obtain ⟨thrown, raised⟩ := @catchVelocypack_of_error env _ _ ArangoDBGraphAPI.title 31 _ _ fails
      fun data => exchangeQuery env .post "/_api/gharial"
        (.object [("name", .string graphname), ("edgeDefinitions", data)]) fun result =>
          if ArangoDBGraphAPI.notAccepted result.statusCode then
            arangoThrow ArangoDBGraphAPI.title 32 ArangoDBGraphAPI.refusedGraph else .ok ()
    refine ⟨thrown, ?_⟩
    rw [← raised]
    rfl
  | createDatabase dbname users =>
    cases asked
    refine ⟨⟨_, rfl⟩, ?_⟩
    obtain ⟨exception, fails⟩ := rejects_usersData rejects
    obtain ⟨thrown, raised⟩ := @catchVelocypack_of_error env _ _ ArangoDBUsersAPI.title 41 _ _ fails
      fun listed => exchangeQuery env .post "/_api/database"
        (.object (("name", .string dbname) :: listed))
        (demand env (· != statusCreated) "Error when create database: ")
    refine ⟨thrown, ?_⟩
    rw [← raised]
    rfl
  | _ => cases asked

/-! ### Runs of operations that are given a rejected text -/

/-- Nothing but the question whether the thing exists has been sent, and the operation has ended
with an exception, unless the reply to the question had the status 200. -/
structure StopsInTime (env : Env) (dispatch : Dispatch) (connectData : ArangoDBConnection)
    (operation : Operation) (transfer : Transfer)
    (ran : Dialogue.Run Transmission Transfer Fault Unit) : Prop where
  sent : ran.asked = [] ∨ ∃ question sent, operation.probe env = some question ∧
    (dispatch.channel env connectData).encode question = .ok sent ∧ ran.asked = [sent]
  ended : ThrowsException ran.outcome ∨
    operation.probe env ≠ none ∧ transfer.responseCode = statusOK

/-- How an operation ends that asks first and returns after every answer but a 404. -/
theorem throwsException_asked_iff (lawful : env.vpack.Lawful) (dispatch : Dispatch)
    (connectData : ArangoDBConnection) (question : HttpMessage) (thrown : ArangoException)
    (transfer : Transfer) :
    ThrowsException (.ofExcept (do
        let response ← (dispatch.channel env connectData).decode question transfer
        if (response.statusCode != statusNotFound) = true then .ok ()
        else (.error (.arango thrown) : Except Fault Unit))) ↔
      ¬ (env.debug = true ∧ transfer.Stalls env) ∧ (transfer.responseCode = statusNotFound ∨
        transfer.responseCode = 0 ∨ ¬ transfer.Legible env) := by
  have stuck := decode_stuck_iff lawful dispatch connectData question transfer
  have throws := throwsException_iff lawful dispatch connectData question transfer
  cases decoded : (dispatch.channel env connectData).decode question transfer with
  | error fault =>
    rw [decoded] at stuck throws
    rw [error_bind, Dialogue.Outcome.ofExcept, throwsException_raised_iff]
    constructor
    · intro thrown
      obtain ⟨unstuck, refused⟩ := throws.mp ⟨fault, rfl, thrown⟩
      exact ⟨unstuck, Or.inr refused⟩
    · intro refused
      by_contra bad
      exact refused.1 (stuck.mp ⟨fault, rfl, bad⟩)
  | ok response =>
    have accepted := (decode_eq_ok_iff lawful dispatch connectData question).mp decoded
    obtain ⟨received, legible⟩ := (accepted_iff lawful transfer).mp ⟨response, accepted⟩
    have unstuck : ¬ (env.debug = true ∧ transfer.Stalls env) := by
      rw [← stuck, decoded]
      intro raised
      obtain ⟨fault, same, _⟩ := raised
      cases same
    rw [ok_bind, and_iff_right unstuck, or_iff_left (not_or_intro received (not_not_intro legible)),
      ← accepted.status]
    by_cases missing : response.statusCode = statusNotFound
    · rw [missing]
      exact iff_of_true ⟨.arango thrown, rfl, trivial⟩ rfl
    · rw [if_pos (bne_iff_ne.mpr missing)]
      refine iff_of_false (fun raised => ?_) missing
      obtain ⟨fault, same, _⟩ := raised
      cases same

/-- The run of a program that asks first. -/
theorem run_asked (lawful : env.vpack.Lawful) (dispatch : Dispatch)
    (connectData : ArangoDBConnection) (path : Bytes) (thrown : ArangoException)
    (transfer : Transfer) (transfers : List Transfer) :
    ∃ sent rest,
      (dispatch.channel env connectData).encode (createREQUEST env .get path) = .ok sent ∧
      ((Dialogue.bind (.exchange (createREQUEST env .get path) fun response =>
            .ok (response.statusCode != statusNotFound)) fun exist =>
          if exist = true then .done () else .raise (.arango thrown) : Api Unit).through
        (dispatch.channel env connectData)).run (transfer :: transfers) =
      ⟨[sent], rest, .ofExcept (do
        let response ←
          (dispatch.channel env connectData).decode (createREQUEST env .get path) transfer
        if (response.statusCode != statusNotFound) = true then .ok ()
        else .error (.arango thrown))⟩ := by
  have encoded := encode_createREQUEST lawful dispatch connectData (Or.inl rfl) path
  refine ⟨_, transfers, encoded, ?_⟩
  show ((Dialogue.ask (createREQUEST env .get path) _).through _).run _ = _
  rw [Dialogue.through_ask_of_ok encoded, Dialogue.run_ask_cons]
  cases (dispatch.channel env connectData).decode (createREQUEST env .get path) transfer with
  | error fault => rfl
  | ok response =>
    by_cases missing : response.statusCode = statusNotFound
    · simp [missing, Dialogue.ofExcept, Dialogue.Outcome.ofExcept]
    · simp [missing, Dialogue.ofExcept, Dialogue.Outcome.ofExcept]

/-- Whatever is replied, nothing but the question is sent. -/
theorem sent_of_rejected (lawful : env.vpack.Lawful) (dispatch : Dispatch)
    (connectData : ArangoDBConnection) (batchSize : Int32) (turns : Nat) {operation : Operation}
    (rejects : RejectsSome env operation.jsonTexts) (transfer : Transfer)
    (transfers : List Transfer) :
    let ran := (conduct env dispatch connectData (operation.program env batchSize turns)).run
      (transfer :: transfers)
    ran.asked = [] ∨ ∃ question sent, operation.probe env = some question ∧
      (dispatch.channel env connectData).encode question = .ok sent ∧ ran.asked = [sent] := by
  rw [Operation.conduct_eq_through lawful (Operation.asks_program lawful _ _ _)]
  cases probe : operation.probe env with
  | none =>
    obtain ⟨thrown, raises⟩ := program_of_rejected rejects probe batchSize turns
    rw [raises, Dialogue.through_raise, Dialogue.run_raise]
    exact Or.inl rfl
  | some question =>
    obtain ⟨⟨path, rfl⟩, thrown, asks⟩ := program_of_rejected_asked rejects probe batchSize turns
    obtain ⟨sent, rest, encoded, ran⟩ :=
      run_asked lawful dispatch connectData path thrown transfer transfers
    rw [asks, ran]
    exact Or.inr ⟨_, sent, rfl, encoded, rfl⟩

/-- An operation that asks first stops in time exactly when the reply to its question has the status
200 or 404 or is refused, and the debug log does not get stuck at it. -/
theorem stopsInTime_asked_iff (lawful : env.vpack.Lawful) (dispatch : Dispatch)
    (connectData : ArangoDBConnection) (batchSize : Int32) (turns : Nat) {operation : Operation}
    (rejects : RejectsSome env operation.jsonTexts) {question : HttpMessage}
    (probe : operation.probe env = some question) (transfer : Transfer)
    (transfers : List Transfer) :
    StopsInTime env dispatch connectData operation transfer
        ((conduct env dispatch connectData (operation.program env batchSize turns)).run
          (transfer :: transfers)) ↔
      transfer.responseCode = statusOK ∨
        ¬ (env.debug = true ∧ transfer.Stalls env) ∧ (transfer.responseCode = statusNotFound ∨
          transfer.responseCode = 0 ∨ ¬ transfer.Legible env) := by
  obtain ⟨⟨path, rfl⟩, thrown, asks⟩ := program_of_rejected_asked rejects probe batchSize turns
  obtain ⟨sent, rest, _, ran⟩ :=
    run_asked lawful dispatch connectData path thrown transfer transfers
  rw [← asks, ← Operation.conduct_eq_through lawful (Operation.asks_program lawful _ _ _)] at ran
  have asksFirst : operation.probe env ≠ none := by
    rw [probe]
    exact Option.some_ne_none _
  rw [← throwsException_asked_iff lawful dispatch connectData (createREQUEST env .get path) thrown]
  constructor
  · intro stops
    have ended := stops.ended
    rw [ran] at ended
    exact ended.symm.imp_left And.right
  · intro ended
    have sent := sent_of_rejected lawful dispatch connectData batchSize turns rejects transfer
      transfers
    refine ⟨sent, ?_⟩
    rw [ran]
    exact ended.symm.imp_right fun found => ⟨asksFirst, found⟩

/-- An operation that is given a rejected text stops in time when it does not ask first. When it
does, the reply to its question decides. -/
theorem stopsInTime_iff (lawful : env.vpack.Lawful) (dispatch : Dispatch)
    (connectData : ArangoDBConnection) (batchSize : Int32) (turns : Nat) {operation : Operation}
    (rejects : RejectsSome env operation.jsonTexts) (transfer : Transfer)
    (transfers : List Transfer) :
    StopsInTime env dispatch connectData operation transfer
        ((conduct env dispatch connectData (operation.program env batchSize turns)).run
          (transfer :: transfers)) ↔
      operation.probe env = none ∨ transfer.responseCode = statusOK ∨
        ¬ (env.debug = true ∧ transfer.Stalls env) ∧ (transfer.responseCode = statusNotFound ∨
          transfer.responseCode = 0 ∨ ¬ transfer.Legible env) := by
  cases probe : operation.probe env with
  | none =>
    obtain ⟨thrown, raises⟩ := program_of_rejected rejects probe batchSize turns
    rw [Operation.conduct_eq_through lawful (Operation.asks_program lawful _ _ _), raises,
      Dialogue.through_raise, Dialogue.run_raise]
    exact iff_of_true ⟨Or.inl rfl, Or.inl ⟨_, rfl, trivial⟩⟩ (Or.inl rfl)
  | some question =>
    rw [or_iff_right (Option.some_ne_none question)]
    exact stopsInTime_asked_iff lawful dispatch connectData batchSize turns rejects probe transfer
      transfers

/-- Extra data that are not JSON. -/
theorem stopsInTime_iff_extra :
    let env : Env := ⟨.simple [], true, true, [], false⟩
    let operation : Operation := .createDatabase "db" [⟨"ann", [], "rw", true, "\x7b"⟩]
    StopsInTime env .users .default operation ⟨0, 404, [], []⟩
        ((conduct env .users .default (operation.program env 500 0)).run [⟨0, 404, [], []⟩]) ↔
      operation.probe env = none ∨ (⟨0, 404, [], []⟩ : Transfer).responseCode = statusOK ∨
        ¬ (env.debug = true ∧ (⟨0, 404, [], []⟩ : Transfer).Stalls env) ∧
          ((⟨0, 404, [], []⟩ : Transfer).responseCode = statusNotFound ∨
            (⟨0, 404, [], []⟩ : Transfer).responseCode = 0 ∨
              ¬ (⟨0, 404, [], []⟩ : Transfer).Legible env) :=
  stopsInTime_iff (Velocypack.simple_lawful []) .users .default 500 0
    ⟨"\x7b", List.mem_cons_self, .parseError, rfl⟩ ⟨0, 404, [], []⟩ []

/-- A graph with definitions that are not JSON counts as existing after an error of the server. -/
theorem not_stopsInTime_server_error :
    let env : Env := ⟨.simple [], true, true, [], false⟩
    let operation : Operation := .createGraph "g" "\x7b"
    ¬ StopsInTime env .base .default operation ⟨0, 500, [], []⟩
        ((conduct env .base .default (operation.program env 500 0)).run [⟨0, 500, [], []⟩]) := by
  intro env operation stops
  have lawful : env.vpack.Lawful := Velocypack.simple_lawful []
  have rejects : RejectsSome env operation.jsonTexts :=
    ⟨"\x7b", List.mem_cons_self, .parseError, rfl⟩
  have replied := (stopsInTime_asked_iff lawful .base .default 500 0 rejects rfl
    ⟨0, 500, [], []⟩ []).mp stops
  cases replied with
  | inl ok => cases ok
  | inr refused =>
    obtain ⟨_, missing | none | illegible⟩ := refused
    · cases missing
    · cases none
    · exact illegible (.empty rfl)

end ArangoCpp
