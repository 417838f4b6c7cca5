/-
This file says which connection an API object works with after it has been reset.

`resetDBConnection` does nothing when the new connection equals the present one, and the
comparison leaves out the password, the activity and the extra data of the user. So what
stays is not the latest connection but the first one of the last unbroken run of equal
connections, where the connection that every object starts with counts as the first of all.
The latest password is in use exactly when it is that connection's password.
-/

import ArangoCpp.Operation

namespace ArangoCpp

/-! ### The first of the last run -/

/-- The last element of a list that has a first one. -/
def latest {α : Type} (start : α) (rest : List α) : α := rest.getLastD start

theorem latest_concat {α : Type} (start last : α) (rest : List α) :
    latest start (rest ++ [last]) = last := by
  simp [latest]

theorem getLast_cons_eq_latest {α : Type} (start : α) (rest : List α)
    (nonempty : start :: rest ≠ []) : (start :: rest).getLast nonempty = latest start rest := by
  induction rest using List.reverseRecOn with
  | nil => rfl
  | append_singleton rest last _ => simp [latest]

section

variable {α : Type} [BEq α]

/-- The first element of the unbroken run, at the end of a list, of elements that are equal to
the last one. -/
def firstOfRun (start : α) (rest : List α) : α :=
  ((start :: rest).rtakeWhile (· == latest start rest)).headD start

/-- Going through a list and keeping an element as long as the next one is equal to it. -/
def keepFirst (start : α) (rest : List α) : α :=
  rest.foldl (fun current next => if current == next then current else next) start

theorem keepFirst_concat (start last : α) (rest : List α) :
    keepFirst start (rest ++ [last]) =
      if keepFirst start rest == last then keepFirst start rest else last := by
  rw [keepFirst, List.foldl_append]
  rfl

variable [EquivBEq α]

theorem keepFirst_beq_latest (start : α) (rest : List α) :
    (keepFirst start rest == latest start rest) = true := by
  induction rest using List.reverseRecOn with
  | nil => exact BEq.rfl
  | append_singleton rest last _ =>
    rw [keepFirst_concat, latest_concat]
    split
    · assumption
    · exact BEq.rfl

/-- What is kept is the first element of the last run. -/
theorem keepFirst_eq_firstOfRun (start : α) (rest : List α) :
    keepFirst start rest = firstOfRun start rest := by
  induction rest using List.reverseRecOn with
  | nil =>
    have run : [start].rtakeWhile (· == start) = [start] :=
      List.rtakeWhile_eq_self_iff.mpr (by simp)
    rw [firstOfRun, latest, List.getLastD_nil, run]
    rfl
  | append_singleton rest last inductionHypothesis =>
    have equal := keepFirst_beq_latest start rest
    rw [keepFirst_concat, firstOfRun, latest_concat, ← List.cons_append, List.rtakeWhile_concat,
      if_pos BEq.rfl]
    by_cases same : (keepFirst start rest == last) = true
    · have predicates : (fun item => item == last) = (fun item => item == latest start rest) :=
        funext fun item => BEq.congr_right (BEq.trans (BEq.symm same) equal)
      have nonempty : (start :: rest).rtakeWhile (· == latest start rest) ≠ [] := by
        rw [ne_eq, List.rtakeWhile_eq_nil_iff]
        intro ends
        refine ends (List.cons_ne_nil _ _) ?_
        rw [getLast_cons_eq_latest]
        exact BEq.rfl
      rw [if_pos same, inductionHypothesis, firstOfRun, predicates]
      cases run : (start :: rest).rtakeWhile (· == latest start rest) with
      | nil => exact absurd run nonempty
      | cons first others => rfl
    · have empty : (start :: rest).rtakeWhile (· == last) = [] := by
        rw [List.rtakeWhile_eq_nil_iff]
        intro _ ends
        rw [getLast_cons_eq_latest] at ends
        exact same (BEq.trans equal ends)
      rw [if_neg same, empty]
      rfl

end

/-! ### Objects and their resets -/

/-- The comparison of connections is an equivalence. -/
instance : EquivBEq ArangoDBConnection where
  rfl := (ArangoDBConnection.beq_iff _ _).mpr ⟨rfl, rfl, rfl, rfl⟩
  symm same := by
    obtain ⟨url, database, name, access⟩ := (ArangoDBConnection.beq_iff _ _).mp same
    exact (ArangoDBConnection.beq_iff _ _).mpr ⟨url.symm, database.symm, name.symm, access.symm⟩
  trans first second := by
    obtain ⟨url, database, name, access⟩ := (ArangoDBConnection.beq_iff _ _).mp first
    obtain ⟨url', database', name', access'⟩ := (ArangoDBConnection.beq_iff _ _).mp second
    exact (ArangoDBConnection.beq_iff _ _).mpr
      ⟨url.trans url', database.trans database', name.trans name', access.trans access'⟩

/-- The kinds of object that can be reset. The last one is the users API of a root client. -/
inductive ApiObject : Type where
  | collection | graph | users | root
  deriving DecidableEq, Repr

namespace ApiObject

def dispatch : ApiObject → Dispatch
  | collection | graph => .base
  | users | root => .users

/-- An API object after its construction and a sequence of resets. -/
def resetAll (env : Env) (dispatch : Dispatch) (connectData : ArangoDBConnection)
    (resets : List ArangoDBConnection) : Wire ArangoDBAPIBase :=
  resets.foldl (fun api next => api.bind fun api => api.resetDBConnection env dispatch next)
    (ArangoDBAPIBase.construct env connectData)

/-- A root client after its construction and a sequence of resets. -/
def resetRoot (env : Env) (connectData : ArangoDBConnection)
    (resets : List ArangoDBConnection) : Wire ArangoDBRootClient :=
  resets.foldl (fun client next => client.bind fun _ =>
      ArangoDBRootClient.resetDBConnection env next)
    (ArangoDBRootClient.resetDBConnection env connectData)

/-- The API object in use after the construction of an object and a sequence of resets. -/
def connected (env : Env) (connectData : ArangoDBConnection)
    (resets : List ArangoDBConnection) : ApiObject → Wire ArangoDBAPIBase
  | root => (resetRoot env connectData resets).bind fun client => .done client.users
  | object => resetAll env object.dispatch connectData resets

/-- The connection that stays: the first of the last run of equal ones. The users API of a root
client is a new object after every reset. -/
def survivor (connectData : ArangoDBConnection) (resets : List ArangoDBConnection) :
    ApiObject → ArangoDBConnection
  | root => firstOfRun .default [latest connectData resets]
  | _ => firstOfRun .default (connectData :: resets)

end ApiObject

variable {env : Env}

/-- Whatever the server says of the connection, the reset keeps the present one or takes the
new one. -/
theorem returns_resetDBConnection (dispatch : Dispatch) (connectData : ArangoDBConnection)
    (api : ArangoDBAPIBase) :
    (api.resetDBConnection env dispatch connectData).Returns fun after => after.connectData =
      if api.connectData == connectData then api.connectData else connectData := by
  unfold ArangoDBAPIBase.resetDBConnection
  by_cases same : (api.connectData == connectData) = true
  · simp only [bne, same, Bool.not_true, Bool.not_false, if_true]
    rfl
  · simp only [bne, same, Bool.not_false, Bool.not_true, if_false, Bool.false_eq_true]
    exact Dialogue.Returns.bind _ (Dialogue.returns_of_forall (fun _ => trivial) _)
      fun _ (_ : True) => rfl

/-- A server that cannot be reached ends the test of the connection. -/
theorem canReturn_testConnection (lawful : env.vpack.Lawful) (dispatch : Dispatch)
    (connectData : ArangoDBConnection) :
    (conduct env dispatch connectData (testConnection env)).CanReturn := by
  have encoded := encode_createREQUEST lawful dispatch connectData (Or.inl rfl) "/_api/version"
  rw [Operation.conduct_eq_through lawful (Operation.asks_testConnection env)]
  refine (congrArg Dialogue.CanReturn (Dialogue.through_ask_of_ok encoded _)).mpr ⟨unconnected, ?_⟩
  dsimp only
  rw [decode_unconnected]
  trivial

theorem canReturn_resetDBConnection (lawful : env.vpack.Lawful) (dispatch : Dispatch)
    (connectData : ArangoDBConnection) (api : ArangoDBAPIBase) :
    (api.resetDBConnection env dispatch connectData).CanReturn := by
  unfold ArangoDBAPIBase.resetDBConnection
  split
  · trivial
  · exact (canReturn_testConnection lawful dispatch connectData).bind fun _ => trivial

theorem returns_resetAll (dispatch : Dispatch) (connectData : ArangoDBConnection)
    (resets : List ArangoDBConnection) :
    (ApiObject.resetAll env dispatch connectData resets).Returns fun api =>
      api.connectData = keepFirst .default (connectData :: resets) := by
  induction resets using List.reverseRecOn with
  | nil => exact returns_resetDBConnection .base connectData .initial
  | append_singleton resets last inductionHypothesis =>
    rw [ApiObject.resetAll, List.foldl_append, ← List.cons_append, keepFirst_concat]
    refine Dialogue.Returns.bind _ inductionHypothesis fun api present => ?_
    rw [← present]
    exact returns_resetDBConnection dispatch last api

theorem returns_resetRoot (connectData : ArangoDBConnection)
    (resets : List ArangoDBConnection) :
    (ApiObject.resetRoot env connectData resets).Returns fun client =>
      client.users.connectData = keepFirst .default [latest connectData resets] := by
  have single : ∀ connection, (ArangoDBRootClient.resetDBConnection env connection).Returns
      fun client => client.users.connectData = keepFirst .default [connection] :=
    fun connection => Dialogue.Returns.bind _
      (returns_resetDBConnection .base connection .initial) fun _ present => present
  induction resets using List.reverseRecOn with
  | nil => exact single connectData
  | append_singleton resets last _ =>
    rw [ApiObject.resetRoot, List.foldl_append, latest_concat]
    exact Dialogue.Returns.bind _ (Dialogue.returns_of_forall (fun _ => trivial) _)
      fun _ (_ : True) => single last

/-- After any resets there is one connection that every run has led to. -/
theorem returns_connected (object : ApiObject) (connectData : ArangoDBConnection)
    (resets : List ArangoDBConnection) :
    (object.connected env connectData resets).Returns fun api =>
      api.connectData = object.survivor connectData resets := by
  have all : ∀ dispatch, (ApiObject.resetAll env dispatch connectData resets).Returns fun api =>
      api.connectData = firstOfRun .default (connectData :: resets) := by
    rw [← keepFirst_eq_firstOfRun]
    exact fun dispatch => returns_resetAll dispatch connectData resets
  cases object with
  | collection => exact all .base
  | graph => exact all .base
  | users => exact all .users
  | root =>
    refine Dialogue.Returns.bind _ (returns_resetRoot connectData resets) fun _ present => ?_
    exact present.trans (keepFirst_eq_firstOfRun _ _)

theorem canReturn_resetAll (lawful : env.vpack.Lawful) (dispatch : Dispatch)
    (connectData : ArangoDBConnection) (resets : List ArangoDBConnection) :
    (ApiObject.resetAll env dispatch connectData resets).CanReturn := by
  induction resets using List.reverseRecOn with
  | nil => exact canReturn_resetDBConnection lawful .base connectData .initial
  | append_singleton resets last inductionHypothesis =>
    rw [ApiObject.resetAll, List.foldl_append]
    exact inductionHypothesis.bind fun api => canReturn_resetDBConnection lawful dispatch last api

theorem canReturn_resetRoot (lawful : env.vpack.Lawful) (connectData : ArangoDBConnection)
    (resets : List ArangoDBConnection) :
    (ApiObject.resetRoot env connectData resets).CanReturn := by
  have single : ∀ connection,
      (ArangoDBRootClient.resetDBConnection env connection).CanReturn := fun connection =>
    (canReturn_resetDBConnection lawful .base connection .initial).bind fun _ => trivial
  induction resets using List.reverseRecOn with
  | nil => exact single connectData
  | append_singleton resets last inductionHypothesis =>
    rw [ApiObject.resetRoot, List.foldl_append]
    exact inductionHypothesis.bind fun _ => single last

theorem canReturn_connected (lawful : env.vpack.Lawful) (object : ApiObject)
    (connectData : ArangoDBConnection) (resets : List ArangoDBConnection) :
    (object.connected env connectData resets).CanReturn := by
  cases object with
  | collection => exact canReturn_resetAll lawful .base connectData resets
  | graph => exact canReturn_resetAll lawful .base connectData resets
  | users => exact canReturn_resetAll lawful .users connectData resets
  | root => exact (canReturn_resetRoot lawful connectData resets).bind fun _ => trivial

/-! ### The requests after the last reset -/

/-- The request goes to the server and, where the URL names one, the database of a connection,
with the user name and the password of the connection. -/
structure Transmission.Follows (sent : Transmission) (dispatch : Dispatch)
    (connection : ArangoDBConnection) : Prop where
  url : ∃ path, sent.url = dispatch.url connection path
  username : sent.username = connection.user.name
  password : sent.password = connection.user.password

/-- The object whose class has an operation; the test of the connection is in all of them. -/
def Operation.object : Operation → Option ApiObject
  | testConnection => none
  | existCollection _ | createCollection _ _ | dropCollection _ | collectionNames _
  | readDocument _ _ | createDocument _ _ | updateDocument _ _ _ | deleteDocument _ _
  | existsDocument _ _ | queryEdgesToFrom _ _ _ | selectQuery _ _ | selectAll _ _
  | lookupByKeys _ _ | collectQuery _ _ | removeByTemplate _ _ | removeEdges _ _
  | removeByKeys _ _ => some .collection
  | existGraph _ | graphNames | createGraph _ _ | removeGraph _ _ | graphCollectionNames _ _
  | addVertexGraph _ _ | addEdgeGraph _ _ | readRecord _ _ _ _ | createRecord _ _ _ _
  | updateRecord _ _ _ _ _ | deleteRecord _ _ _ _ => some .graph
  | databaseNames | databaseNamesOf _ | existDatabase _ | createDatabase _ _ | removeDatabase _
  | existUser _ | createUser _ | updateUser _ | removeUser _ | grantUserToDataBase _ _ _
  | userNames => some .users

/-- Whether an object has an operation. A root client passes six of them on. -/
def ApiObject.Offers : ApiObject → Operation → Prop
  | root, operation => match operation with
    | .databaseNames | .databaseNamesOf _ | .existDatabase _ | .createDatabase _ _
    | .createUser _ | .userNames => True
    | _ => False
  | object, operation => operation.object = none ∨ operation.object = some object

/-- Every request of every operation of an object follows a connection. -/
def ApiObject.Follows (env : Env) (object : ApiObject) (connection : ArangoDBConnection)
    (api : ArangoDBAPIBase) : Prop :=
  ∀ (operation : Operation) (turns : Nat), object.Offers operation →
    (conduct env object.dispatch api.connectData
      (operation.program env api.batchSize turns)).Asks fun sent =>
        sent.Follows object.dispatch connection

/-- The first of the last run and the latest connection are equal up to what the comparison does
not look at. -/
theorem ApiObject.survivor_beq (object : ApiObject) (connectData : ArangoDBConnection)
    (resets : List ArangoDBConnection) :
    (object.survivor connectData resets == latest connectData resets) = true := by
  have last : ∀ rest : List ArangoDBConnection,
      latest ArangoDBConnection.default (connectData :: rest) = latest connectData rest :=
    fun rest => List.getLastD_cons
  have all := keepFirst_beq_latest ArangoDBConnection.default (connectData :: resets)
  rw [keepFirst_eq_firstOfRun, last] at all
  cases object with
  | collection => exact all
  | graph => exact all
  | users => exact all
  | root =>
    have single := keepFirst_beq_latest ArangoDBConnection.default [latest connectData resets]
    rw [keepFirst_eq_firstOfRun] at single
    exact single

/-- Every object has an operation that begins with a plain request. -/
theorem ApiObject.exists_get (env : Env) (object : ApiObject) :
    ∃ operation path read, object.Offers operation ∧ ∀ batchSize turns,
      operation.program env batchSize turns =
        Operation.discard (.exchange (createREQUEST env .get path) (read :
          HttpMessage → Except Fault Bool)) := by
  cases object with
  | collection => exact ⟨.existCollection [], _, _, Or.inr rfl, fun _ _ => rfl⟩
  | graph => exact ⟨.existGraph [], _, _, Or.inr rfl, fun _ _ => rfl⟩
  | users => exact ⟨.existUser [], _, _, Or.inr rfl, fun _ _ => rfl⟩
  | root => exact ⟨.existDatabase [], _, _, trivial, fun _ _ => rfl⟩

/-- An object whose connection equals another one follows it exactly when the passwords are the
same. -/
theorem follows_iff (lawful : env.vpack.Lawful) {object : ApiObject}
    {connection : ArangoDBConnection} {api : ArangoDBAPIBase}
    (equal : (api.connectData == connection) = true) :
    object.Follows env connection api ↔
      api.connectData.user.password = connection.user.password := by
  obtain ⟨serverUrl, databaseName, name, _⟩ := (ArangoDBConnection.beq_iff _ _).mp equal
  have url : ∀ path,
      object.dispatch.url api.connectData path = object.dispatch.url connection path := by
    intro path
    cases object.dispatch with
    | base => simp only [Dispatch.url, ArangoDBConnection.fullURL, ArangoDBConnection.fullHost,
        serverUrl, databaseName]
    | users => simp only [Dispatch.url, serverUrl]
  constructor
  · intro follows
    obtain ⟨operation, path, read, offered, program⟩ := object.exists_get env
    have encoded :=
      encode_createREQUEST lawful object.dispatch api.connectData (Or.inl rfl) path
    have asks := follows operation 0 offered
    rw [Operation.conduct_eq_through lawful (Operation.asks_program lawful _ _ _), program] at asks
    have asked := ((congrArg (Dialogue.Asks _) (Dialogue.through_ask_of_ok encoded _)).mp asks).1
    exact (encode_eq_ok encoded).2.2.symm.trans asked.password
  · intro same operation turns _
    rw [Operation.conduct_eq_through lawful (Operation.asks_program lawful _ _ _)]
    refine (Operation.asks_program lawful _ _ operation).through fun rq sent _ encoded => ?_
    obtain ⟨sentUrl, username, password⟩ := encode_eq_ok encoded
    exact ⟨⟨rq.header.path, sentUrl.trans (url _)⟩, username.trans name, password.trans same⟩

/-- Two equal connections are the same when what the comparison leaves out is the same. -/
theorem eq_of_beq {first second : ArangoDBConnection} (equal : (first == second) = true)
    (password : first.user.password = second.user.password)
    (active : first.user.active = second.user.active)
    (extra : first.user.extra = second.user.extra) : first = second := by
  obtain ⟨serverUrl, databaseName, name, access⟩ := (ArangoDBConnection.beq_iff _ _).mp equal
  obtain ⟨_, _, _, _, _, _, _⟩ := first
  obtain ⟨_, _, _, _, _, _, _⟩ := second
  simp only at serverUrl databaseName name access password active extra
  rw [serverUrl, databaseName, name, access, password, active, extra]

/-- After construction and any resets, every request follows the latest connection exactly when
the first connection of the last run of equal ones, the default one included, has its password;
and the connection of the object is the latest one exactly when that first one has its password,
activity and extra data. -/
theorem follows_latest_iff (lawful : env.vpack.Lawful) (object : ApiObject)
    (connectData : ArangoDBConnection) (resets : List ArangoDBConnection) :
    ((object.connected env connectData resets).Returns (fun api =>
        object.Follows env (latest connectData resets) api) ↔
      (object.survivor connectData resets).user.password =
        (latest connectData resets).user.password) ∧
    ((object.connected env connectData resets).Returns (fun api =>
        api.connectData = latest connectData resets) ↔
      (object.survivor connectData resets).user.password =
          (latest connectData resets).user.password ∧
        (object.survivor connectData resets).user.active =
          (latest connectData resets).user.active ∧
        (object.survivor connectData resets).user.extra =
          (latest connectData resets).user.extra) := by
  have returns := @returns_connected env object connectData resets
  have can := canReturn_connected lawful object connectData resets
  have equal := object.survivor_beq connectData resets
  refine ⟨⟨fun follows => ?_, fun same => ?_⟩, fun latests => ?_, fun same => ?_⟩
  · obtain ⟨api, present, follows⟩ := can.exists returns follows
    rw [← present] at equal ⊢
    exact (follows_iff lawful equal).mp follows
  · refine returns.mono fun api present => ?_
    rw [← present] at equal same
    exact (follows_iff lawful equal).mpr same
  · obtain ⟨api, present, final⟩ := can.exists returns latests
    rw [← present, final]
    exact ⟨rfl, rfl, rfl⟩
  · obtain ⟨password, active, extra⟩ := same
    refine returns.mono fun api present => ?_
    exact present.trans (eq_of_beq equal password active extra)

/-- A users API that is reset to another database, and then to a second password for it. -/
theorem follows_latest_iff_second_password :
    let env : Env := ⟨.simple [], true, true, [], false⟩
    let connection (password : Bytes) : ArangoDBConnection := .new "http://h" "ann" password "db"
    ((ApiObject.users.connected env (connection "one") [connection "two"]).Returns (fun api =>
        ApiObject.users.Follows env (connection "two") api) ↔
      (ApiObject.users.survivor (connection "one") [connection "two"]).user.password =
        (connection "two").user.password) :=
  (follows_latest_iff (Velocypack.simple_lawful []) .users _ [_]).1

/-- An object that is made for the local server, with a password for the root user, sends its
requests without the password. -/
theorem not_follows_root_password :
    let env : Env := ⟨.simple [], true, true, [], false⟩
    let connection : ArangoDBConnection := .new "http://localhost:8529" "root" "secret" "_system"
    ¬ (ApiObject.collection.connected env connection []).Returns (fun api =>
      ApiObject.collection.Follows env (latest connection []) api) := by
  intro env connection follows
  have equal : (ArangoDBAPIBase.initial.connectData == connection) = true := by decide
  have password := (follows_iff (Velocypack.simple_lawful []) equal).mp follows
  exact absurd password (by decide)

end ArangoCpp
