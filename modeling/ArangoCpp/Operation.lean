/-
This file gathers the public operations of the three API classes and says what they have in
common: every message that an operation gives to `sendREQUEST` is one that the request objects
are made for, and an operation ends when `sendREQUEST` fails.
-/

import ArangoCpp.Collection
import ArangoCpp.Graph
import ArangoCpp.Users
import Mathlib.Data.List.Forall2

namespace ArangoCpp

/-- The public operations. -/
inductive Operation : Type where
  | testConnection
  | existCollection (collname : Bytes)
  | createCollection (collname ctype : Bytes)
  | dropCollection (collname : Bytes)
  | collectionNames (ctype : CollectionTypes)
  | readDocument (collname key : Bytes)
  | createDocument (collname jsonrec : Bytes)
  | updateDocument (collname key jsonrec : Bytes)
  | deleteDocument (collname key : Bytes)
  | existsDocument (collname key : Bytes)
  | queryEdgesToFrom (atype : QueryType) (startVertex edgeCollections : Bytes)
  | selectQuery (collname : Bytes) (query : ArangoDBQuery)
  | selectAll (collname : Bytes) (queryFields : QueryFields)
  | lookupByKeys (collname : Bytes) (keys : List Bytes)
  | collectQuery (collname fpath : Bytes)
  | removeByTemplate (collname jsontempl : Bytes)
  | removeEdges (collname vertexkey : Bytes)
  | removeByKeys (collname : Bytes) (ids : List Bytes)
  | existGraph (graphname : Bytes)
  | graphNames
  | createGraph (graphname edgeDefinitions : Bytes)
  | removeGraph (graphname : Bytes) (dropCollections : Bool)
  | graphCollectionNames (graphname colltype : Bytes)
  | addVertexGraph (graphname collname : Bytes)
  | addEdgeGraph (graphname edgeDefinition : Bytes)
  | readRecord (graphname colltype collname documentHandle : Bytes)
  | createRecord (graphname colltype collname jsonrec : Bytes)
  | updateRecord (graphname colltype collname documentHandle jsonrec : Bytes)
  | deleteRecord (graphname colltype collname documentHandle : Bytes)
  | databaseNames
  | databaseNamesOf (user : Bytes)
  | existDatabase (dbname : Bytes)
  | createDatabase (dbname : Bytes) (users : List ArangoDBUser)
  | removeDatabase (dbname : Bytes)
  | existUser (username : Bytes)
  | createUser (user : ArangoDBUser)
  | updateUser (user : ArangoDBUser)
  | removeUser (username : Bytes)
  | grantUserToDataBase (dbname username grant : Bytes)
  | userNames

namespace Operation

/-- A program whose value does not matter. -/
def discard {Value : Type} (program : Api Value) : Api Unit := program.bind fun _ => .done ()

/-- The callback of the overloads that return the texts. -/
def emplaceBack (resultData : List Bytes) (jsondata : Bytes) : List Bytes :=
  resultData ++ [jsondata]

/-- The program of an operation, whatever it returns. Loops over cursors are unrolled the
given number of turns. -/
def program (env : Env) (batchSize : Int32) (turns : Nat) : Operation → Api Unit
  | testConnection => discard (ArangoCpp.testConnection env)
  | existCollection collname => discard (ArangoDBCollectionAPI.existCollection env collname)
  | createCollection collname ctype => ArangoDBCollectionAPI.createCollection env collname ctype
  | dropCollection collname => ArangoDBCollectionAPI.dropCollection env collname
  | collectionNames ctype => discard (ArangoDBCollectionAPI.collectionNames env ctype)
  | readDocument collname key => discard (ArangoDBCollectionAPI.readDocument env collname key)
  | createDocument collname jsonrec =>
    discard (ArangoDBCollectionAPI.createDocument env collname jsonrec)
  | updateDocument collname key jsonrec =>
    discard (ArangoDBCollectionAPI.updateDocument env collname key jsonrec)
  | deleteDocument collname key =>
    discard (ArangoDBCollectionAPI.deleteDocument env collname key)
  | existsDocument collname key =>
    discard (ArangoDBCollectionAPI.existsDocument env collname key)
  | queryEdgesToFrom atype startVertex edgeCollections =>
    discard (ArangoDBCollectionAPI.queryEdgesToFrom env atype startVertex edgeCollections)
  | selectQuery collname query =>
    discard (ArangoDBCollectionAPI.selectQuery env batchSize turns collname query emplaceBack [])
  | selectAll collname queryFields =>
    discard (ArangoDBCollectionAPI.selectAll env batchSize turns collname queryFields
      (fun resultData jsondata _ => emplaceBack resultData jsondata) [])
  | lookupByKeys collname keys =>
    discard (ArangoDBCollectionAPI.lookupByKeys env collname keys emplaceBack [])
  | collectQuery collname fpath =>
    discard (ArangoDBCollectionAPI.collectQuery env batchSize turns collname fpath [])
  | removeByTemplate collname jsontempl =>
    discard (ArangoDBCollectionAPI.removeByTemplate env collname jsontempl)
  | removeEdges collname vertexkey => ArangoDBCollectionAPI.removeEdges env collname vertexkey
  | removeByKeys collname ids => discard (ArangoDBCollectionAPI.removeByKeys env collname ids)
  | existGraph graphname => discard (ArangoDBGraphAPI.existGraph env graphname)
  | graphNames => discard (ArangoDBGraphAPI.graphNames env)
  | createGraph graphname edgeDefinitions =>
    ArangoDBGraphAPI.createGraph env graphname edgeDefinitions
  | removeGraph graphname dropCollections =>
    ArangoDBGraphAPI.removeGraph env graphname dropCollections
  | graphCollectionNames graphname colltype =>
    discard (ArangoDBGraphAPI.graphCollectionNames env graphname colltype)
  | addVertexGraph graphname collname => ArangoDBGraphAPI.addVertexGraph env graphname collname
  | addEdgeGraph graphname edgeDefinition =>
    ArangoDBGraphAPI.addEdgeGraph env graphname edgeDefinition
  | readRecord graphname colltype collname documentHandle =>
    discard (ArangoDBGraphAPI.readRecord env graphname colltype collname documentHandle)
  | createRecord graphname colltype collname jsonrec =>
    discard (ArangoDBGraphAPI.createRecord env graphname colltype collname jsonrec)
  | updateRecord graphname colltype collname documentHandle jsonrec =>
    discard (ArangoDBGraphAPI.updateRecord env graphname colltype collname documentHandle jsonrec)
  | deleteRecord graphname colltype collname documentHandle =>
    discard (ArangoDBGraphAPI.deleteRecord env graphname colltype collname documentHandle)
  | databaseNames => discard (ArangoDBUsersAPI.databaseNames env)
  | databaseNamesOf user => discard (ArangoDBUsersAPI.databaseNamesOf env user)
  | existDatabase dbname => discard (ArangoDBUsersAPI.existDatabase env dbname)
  | createDatabase dbname users => ArangoDBUsersAPI.createDatabase env dbname users
  | removeDatabase dbname => ArangoDBUsersAPI.removeDatabase env dbname
  | existUser username => discard (ArangoDBUsersAPI.existUser env username)
  | createUser user => ArangoDBUsersAPI.createUser env user
  | updateUser user => ArangoDBUsersAPI.updateUser env user
  | removeUser username => ArangoDBUsersAPI.removeUser env username
  | grantUserToDataBase dbname username grant =>
    ArangoDBUsersAPI.grantUserToDataBase env dbname username grant
  | userNames => discard (ArangoDBUsersAPI.userNames env)

variable {env : Env}

/-! ### The operations are orderly -/

theorem orderly_discard {Value : Type} {program : Api Value} (orderly : Orderly env program) :
    Orderly env (discard program) :=
  orderly.bind fun _ => orderly_done ()

theorem asks_discard {Value : Type} {property : HttpMessage → Prop} {program : Api Value}
    (asks : program.Asks property) : (discard program).Asks property :=
  asks.bind fun _ => trivial

/-- The operations other than `testConnection` are orderly. -/
theorem orderly_program (lawful : env.vpack.Lawful) (batchSize : Int32) (turns : Nat)
    {operation : Operation} (other : operation ≠ testConnection) :
    Orderly env (operation.program env batchSize turns) := by
  have loaded : ∀ {Value : Type} {verb : RestVerb} (path : Bytes) {query : Slice},
      query.Represented → ∀ read : HttpMessage → Except Fault Value,
      verb = .post ∨ verb = .put ∨ verb = .patch →
      Orderly env (exchangeQuery env verb path query read) := orderly_exchangeQuery lawful
  have written : ∀ {verb : RestVerb} (title : Bytes) (id : Int) (path jsonrec errorText : Bytes)
      (identifier : Slice → Except VpackException Bytes), verb = .post ∨ verb = .put →
      Orderly env (writeDocument env title id verb path jsonrec errorText identifier) :=
    orderly_writeDocument lawful
  have represented : ∀ {json : Bytes} (data : Slice),
      ofVpack (env.vpack.fromJson parseOptions json) = .ok data → data.Represented :=
    fun data parsed => lawful.represented _ _ data (ofVpack_eq_ok_iff.mp parsed)
  cases operation with
  | testConnection => exact absurd rfl other
  | existCollection => exact orderly_discard (orderly_get _ _)
  | createCollection =>
    refine (orderly_get _ _).branch (orderly_done ()) (loaded _ ?_ _ (by simp))
    split <;> simp [IsWord]
  | dropCollection => exact (orderly_get _ _).branch (orderly_done ()) (orderly_delete _ _)
  | collectionNames => exact orderly_discard (orderly_get _ _)
  | readDocument => exact orderly_discard (orderly_get _ _)
  | createDocument => exact orderly_discard (written _ _ _ _ _ _ (by simp))
  | updateDocument => exact orderly_discard (written _ _ _ _ _ _ (by simp))
  | deleteDocument => exact orderly_discard ((orderly_delete _ _).bind fun _ => orderly_done _)
  | existsDocument => exact orderly_discard (orderly_exchange (issued_createREQUEST _ (by simp)) _)
  | queryEdgesToFrom =>
    exact orderly_discard (ArangoDBCollectionAPI.orderly_queryEdgesToFrom _ _ _)
  | selectQuery =>
    exact orderly_discard (ArangoDBCollectionAPI.orderly_selectQuery lawful _ _ _ _ _ _)
  | selectAll => exact orderly_discard (ArangoDBCollectionAPI.orderly_selectAll lawful _ _ _ _ _ _)
  | lookupByKeys => exact orderly_discard (loaded _ (by simp) _ (by simp))
  | collectQuery =>
    exact orderly_discard (ArangoDBCollectionAPI.orderly_selectQuery lawful _ _ _ _ _ _)
  | removeByTemplate =>
    exact orderly_discard (ArangoDBCollectionAPI.orderly_removeByTemplate lawful _ _)
  | removeEdges => exact ArangoDBCollectionAPI.orderly_removeEdges lawful _ _
  | removeByKeys => exact orderly_discard (loaded _ (by simp) _ (by simp))
  | existGraph => exact orderly_discard (orderly_get _ _)
  | graphNames => exact orderly_discard (orderly_get _ _)
  | createGraph =>
    refine (orderly_get _ _).branch (orderly_done ()) ?_
    exact (orderly_ofExcept_bind fun data parsed =>
      loaded _ (by simp [represented data parsed]) _ (by simp)).catchVelocypack _ _
  | removeGraph => exact (orderly_get _ _).branch (orderly_done ()) (orderly_delete _ _)
  | graphCollectionNames => exact orderly_discard (orderly_get _ _)
  | addVertexGraph => exact loaded _ (by simp) _ (by simp)
  | addEdgeGraph =>
    exact (orderly_ofExcept_bind fun data parsed =>
      loaded _ (represented data parsed) _ (by simp)).catchVelocypack _ _
  | readRecord => exact orderly_discard (orderly_get _ _)
  | createRecord => exact orderly_discard (written _ _ _ _ _ _ (by simp))
  | updateRecord => exact orderly_discard (written _ _ _ _ _ _ (by simp))
  | deleteRecord => exact orderly_discard ((orderly_delete _ _).bind fun _ => orderly_done _)
  | databaseNames => exact orderly_discard (orderly_get _ _)
  | databaseNamesOf => exact orderly_discard (orderly_get _ _)
  | existDatabase => exact orderly_discard (orderly_get _ _)
  | createDatabase =>
    refine (orderly_get _ _).branch (orderly_done ()) ?_
    refine (orderly_ofExcept_bind fun listed described =>
      loaded _ ?_ _ (by simp)).catchVelocypack _ _
    exact .object (List.forall_mem_cons.mpr
      ⟨.string _, represented_usersData lawful (ofVpack_eq_ok_iff.mp described)⟩)
  | removeDatabase => exact (orderly_get _ _).branch (orderly_done ()) (orderly_delete _ _)
  | existUser => exact orderly_discard (orderly_get _ _)
  | createUser =>
    refine (orderly_ofExcept_bind fun data described =>
      loaded _ ?_ _ (by simp)).catchVelocypack _ _
    exact .object (List.forall_mem_cons.mpr
      ⟨.string _, represented_userData lawful (ofVpack_eq_ok_iff.mp described)⟩)
  | updateUser =>
    refine (orderly_ofExcept_bind fun data described =>
      loaded _ ?_ _ (by simp)).catchVelocypack _ _
    exact .object (represented_userData lawful (ofVpack_eq_ok_iff.mp described))
  | removeUser => exact orderly_delete _ _
  | grantUserToDataBase => exact loaded _ (by simp) _ (by simp)
  | userNames => exact orderly_discard (orderly_get _ _)

/-- The request of `testConnection`. -/
theorem orderly_version (env : Env) (read : HttpMessage → Except Fault (Bool × Bytes)) :
    Orderly env (.exchange (createREQUEST env .get "/_api/version") read) := orderly_get _ _

theorem asks_testConnection (env : Env) :
    (ArangoCpp.testConnection env).Asks (HttpMessage.Issued env) := by
  refine Dialogue.Asks.rescue (orderly_version env _).asks fun fault => ?_
  cases fault <;> trivial

/-- Every message that an operation gives to `sendREQUEST` is an issued one. -/
theorem asks_program (lawful : env.vpack.Lawful) (batchSize : Int32) (turns : Nat)
    (operation : Operation) :
    (operation.program env batchSize turns).Asks (HttpMessage.Issued env) := by
  by_cases same : operation = testConnection
  · subst same
    exact asks_discard (asks_testConnection env)
  · exact (orderly_program lawful batchSize turns same).asks

/-- An operation asks nothing more once `sendREQUEST` has failed. -/
theorem prompt_program (lawful : env.vpack.Lawful) (batchSize : Int32) (turns : Nat)
    (operation : Operation) : (operation.program env batchSize turns).Prompt := by
  by_cases same : operation = testConnection
  · subst same
    refine Dialogue.Prompt.bind_silent
      (Dialogue.Strict.prompt_rescue (orderly_version env _).strict ?_) fun _ => trivial
    intro fault
    cases fault <;> trivial
  · exact (orderly_program lawful batchSize turns same).strict.prompt

/-- An operation that is carried out is its program over the channel of `sendREQUEST`. -/
theorem conduct_eq_through (lawful : env.vpack.Lawful) {Value : Type} {program : Api Value}
    (asks : program.Asks (HttpMessage.Issued env)) (dispatch : Dispatch)
    (connectData : ArangoDBConnection) :
    conduct env dispatch connectData program = program.through (dispatch.channel env connectData) :=
  Dialogue.via_eq_through (fun _ issued =>
    attempt_sendREQUEST lawful connectData .new issued.toIssuable dispatch) asks

/-- A request for which one response is read. -/
theorem run_conduct_exchange (lawful : env.vpack.Lawful) {Value : Type} {rq : HttpMessage}
    (issued : rq.Issued env) (dispatch : Dispatch) (connectData : ArangoDBConnection)
    {sent : Transmission} (encoded : (dispatch.channel env connectData).encode rq = .ok sent)
    {transfer : Transfer} {response : HttpMessage} (accepted : transfer.Accepted env response)
    {read : HttpMessage → Except Fault Value} {value : Value} (reads : read response = .ok value)
    (transfers : List Transfer) :
    (conduct env dispatch connectData (discard (.exchange rq read))).run (transfer :: transfers) =
      ⟨[sent], transfers, .returned ()⟩ := by
  rw [conduct_eq_through lawful (asks_discard (Dialogue.asks_exchange issued read))]
  have ran := Dialogue.run_through_exchange encoded
    ((decode_eq_ok_iff lawful dispatch connectData rq).mpr accepted) reads transfers
  exact Dialogue.run_through_bind ran _

/-- What is made of a list element by element stands in the relation of the elements. -/
theorem forall₂_zipWith {First Second Made : Type} {relation : Second → Made → Prop}
    {make : First → Second → Made} {firsts : List First} {seconds : List Second}
    (lengths : firsts.length = seconds.length)
    (each : ∀ first second, relation second (make first second)) :
    List.Forall₂ relation seconds (List.zipWith make firsts seconds) := by
  induction firsts generalizing seconds with
  | nil =>
    have none : seconds = [] := List.eq_nil_of_length_eq_zero lengths.symm
    rw [none]
    exact .nil
  | cons first firsts inductionHypothesis =>
    obtain ⟨second, rest, rfl⟩ := List.exists_cons_of_length_eq_add_one lengths.symm
    exact .cons (each first second) (inductionHypothesis (Nat.succ.inj lengths))

/-- When a prompt program reads all transfers, it runs on what they tell it, and at most on one
failure of the library to dump a message behind them. -/
theorem conduct_tells (lawful : env.vpack.Lawful) {Value : Type} {program : Api Value}
    (asks : program.Asks (HttpMessage.Issued env)) (prompt : program.Prompt) (dispatch : Dispatch)
    (connectData : ArangoDBConnection) {transfers : List Transfer}
    (read : ((conduct env dispatch connectData program).run transfers).rest = []) :
    ∃ replies failure : List (Except Fault HttpMessage),
      ((conduct env dispatch connectData program).run transfers).outcome =
          (program.run (replies ++ failure)).outcome ∧
        (program.run (replies ++ failure)).rest = [] ∧
        List.Forall₂ (Transfer.Tells env) transfers replies ∧
        ∀ reply ∈ failure, ∃ exception, reply = .error (.velocypack exception) := by
  rw [conduct_eq_through lawful asks] at read ⊢
  obtain ⟨outcome, rest, _⟩ :=
    @Dialogue.run_through _ _ _ _ _ _ (dispatch.channel env connectData) program transfers
  obtain ⟨questions, failure, hears, length, _, fails⟩ := prompt.heard asks transfers read
  rw [hears] at outcome rest
  refine ⟨_, _, outcome, rest, ?_, fun reply member => ?_⟩
  · exact forall₂_zipWith length fun rq transfer =>
      tells_decode lawful dispatch connectData rq transfer
  · obtain ⟨fault, found, rfl⟩ : ∃ fault ∈ failure, .error fault = reply := by simpa using member
    obtain ⟨rq, issued, refused⟩ := fails fault found
    obtain ⟨exception, rfl⟩ := encode_eq_error lawful issued refused
    exact ⟨exception, rfl⟩

/-- An element of one list is related to some element of the other. -/
theorem exists_of_mem_forall₂ {First Second : Type} {relation : First → Second → Prop}
    {firsts : List First} {seconds : List Second} (related : List.Forall₂ relation firsts seconds)
    {first : First} (member : first ∈ firsts) : ∃ second ∈ seconds, relation first second := by
  induction related with
  | nil => cases member
  | @cons head other _ _ holds _ inductionHypothesis =>
    rcases List.mem_cons.mp member with rfl | later
    · exact ⟨other, List.mem_cons_self, holds⟩
    · obtain ⟨second, found, holdsToo⟩ := inductionHypothesis later
      exact ⟨second, List.mem_cons_of_mem _ found, holdsToo⟩

/-- What is related to a list with a last element has a last element too. -/
theorem exists_of_forall₂_concat {First Second : Type} {relation : First → Second → Prop}
    {firsts : List First} {last : First} {seconds : List Second}
    (related : List.Forall₂ relation (firsts ++ [last]) seconds) :
    ∃ before final, seconds = before ++ [final] ∧ List.Forall₂ relation firsts before ∧
      relation last final := by
  induction firsts generalizing seconds with
  | nil =>
    cases related with
    | cons holds none =>
      cases none
      exact ⟨[], _, rfl, .nil, holds⟩
  | cons first firsts inductionHypothesis =>
    cases related with
    | cons holds later =>
      obtain ⟨before, final, rfl, relatedToo, holdsToo⟩ := inductionHypothesis later
      exact ⟨_ :: before, final, rfl, .cons holds relatedToo, holdsToo⟩

/-- Replies without a failure of `sendREQUEST` are those of accepted transfers. -/
theorem exists_accepted {transfers : List Transfer} {replies : List (Except Fault HttpMessage)}
    (tells : List.Forall₂ (Transfer.Tells env) transfers replies)
    (heard : ∀ fault, .error fault ∉ replies) :
    ∃ responses : List HttpMessage, replies = responses.map .ok ∧
      List.Forall₂ (Transfer.Accepted env) transfers responses := by
  induction tells with
  | nil => exact ⟨[], rfl, .nil⟩
  | @cons first reply transfers replies told _ inductionHypothesis =>
    obtain ⟨responses, rfl, accepted⟩ := inductionHypothesis fun fault member =>
      heard fault (List.mem_cons_of_mem _ member)
    cases told with
    | refused refused => exact absurd List.mem_cons_self (heard _)
    | accepted first => exact ⟨_ :: responses, rfl, .cons first accepted⟩

/-- Accepted transfers tell the responses. -/
theorem eq_of_accepted {transfers : List Transfer} {replies : List (Except Fault HttpMessage)}
    (tells : List.Forall₂ (Transfer.Tells env) transfers replies) {responses : List HttpMessage}
    (accepted : List.Forall₂ (Transfer.Accepted env) transfers responses) :
    replies = responses.map .ok := by
  induction tells generalizing responses with
  | nil =>
    cases accepted
    rfl
  | cons told _ inductionHypothesis =>
    cases accepted with
    | cons first later =>
      rw [told.eq_ok first, inductionHypothesis later]
      rfl

/-- A strict program that reads all transfers has returned exactly when they are all accepted and it
returns on the responses. -/
theorem returned_iff (lawful : env.vpack.Lawful) {Value : Type} {program : Api Value}
    (orderly : Orderly env program) (dispatch : Dispatch) (connectData : ArangoDBConnection)
    {transfers : List Transfer}
    (read : ((conduct env dispatch connectData program).run transfers).rest = []) :
    (∃ value, ((conduct env dispatch connectData program).run transfers).outcome =
        .returned value) ↔
      ∃ responses : List HttpMessage, List.Forall₂ (Transfer.Accepted env) transfers responses ∧
        ∃ value, program.Ends (responses.map .ok) (.returned value) := by
  obtain ⟨replies, failure, outcome, rest, tells, failed⟩ :=
    conduct_tells lawful orderly.asks orderly.strict.prompt dispatch connectData read
  rw [outcome]
  constructor
  · rintro ⟨value, returned⟩
    have heard : ∀ fault, .error fault ∉ replies ++ failure := by
      intro fault found
      obtain ⟨final, raised⟩ := orderly.strict.run rest found
      rw [returned] at raised
      cases raised
    have none : failure = [] := by
      refine List.eq_nil_iff_forall_not_mem.mpr fun reply found => ?_
      obtain ⟨exception, rfl⟩ := failed reply found
      exact heard _ (List.mem_append_right _ found)
    rw [none, List.append_nil] at rest returned heard
    obtain ⟨responses, same, accepted⟩ := exists_accepted tells heard
    exact ⟨responses, accepted, value, same ▸ rest, same ▸ returned⟩
  · rintro ⟨responses, accepted, value, ends⟩
    rw [eq_of_accepted tells accepted]
    exact ⟨value, ends.outcome_append failure⟩

end Operation

end ArangoCpp
