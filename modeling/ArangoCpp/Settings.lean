/-
This file translates `connectFromSettings`, which reads the connection data and two settings of
the process from the text of a configuration file.

The settings are written as soon as they are read, between the reads that can still throw, so
what has been written stays when a later read throws. Where the section of the client, or the
instance that it names, is not an object, the reads are skipped, and the connection data are
returned as they were constructed: the local server as its root user.
-/

import ArangoCpp.Connection
import ArangoCpp.Message
import ArangoCpp.Layout

namespace ArangoCpp

/-! ### Members of a type -/

namespace Slice

/-- `get` of a member that has to be a string. -/
def textMember (name : Bytes) (slice : Slice) : Except VpackException Bytes :=
  slice.get name >>= copyString

/-- `get` of a member that has to be a truth value. -/
def boolMember (name : Bytes) (slice : Slice) : Except VpackException Bool :=
  slice.get name >>= getBool

theorem textMember_eq_ok_iff {name value : Bytes} {slice : Slice} :
    slice.textMember name = .ok value ↔ slice.get name = .ok (.string value) := by
  rw [textMember, bind_eq_ok_iff]
  constructor
  · intro read
    obtain ⟨member, found, copied⟩ := read
    cases member with
    | string text =>
      cases copied
      exact found
    | _ => cases copied
  · intro found
    exact ⟨.string value, found, rfl⟩

theorem boolMember_eq_ok_iff {name : Bytes} {value : Bool} {slice : Slice} :
    slice.boolMember name = .ok value ↔ slice.get name = .ok (.bool value) := by
  rw [boolMember, bind_eq_ok_iff]
  constructor
  · intro read
    obtain ⟨member, found, copied⟩ := read
    cases member with
    | bool flag =>
      cases copied
      exact found
    | _ => cases copied
  · intro found
    exact ⟨.bool value, found, rfl⟩

end Slice

/-! ### The reads -/

/-- A computation that can write the settings of the process and can be left by an exception of
the library. What it has written stays. -/
abbrev Reading := ExceptT VpackException (StateM Env)

namespace Reading

variable {Value Result : Type}

def ofRead (read : Except VpackException Value) : Reading Value := ExceptT.mk (pure read)

/-- How a computation ends, and the settings behind it. -/
def finish (env : Env) (reading : Reading Value) : Except VpackException Value × Env :=
  (ExceptT.run reading).run env

@[simp] theorem finish_ok_bind (env : Env) (value : Value) (next : Value → Reading Result) :
    finish env (ofRead (.ok value) >>= next) = finish env (next value) := rfl

@[simp] theorem finish_get_bind (env : Env) (next : Env → Reading Result) :
    finish env (get >>= next) = finish env (next env) := rfl

@[simp] theorem finish_modify_bind (env : Env) (change : Env → Env)
    (next : PUnit → Reading Result) :
    finish env (modify change >>= next) = finish (change env) (next ⟨⟩) := rfl

end Reading

/-- The options `Options::Defaults`, with which `fromJson` parses a text by default. -/
def settingsOptions : VpackOptions := ⟨false, false⟩

/-- The connection data of an instance, of its root user or of its user. -/
def instanceConnection (rootdata : Bool) (slicedb : Slice) :
    Except VpackException ArangoDBConnection :=
  let connectData := ArangoDBConnection.default
  if rootdata then do
    let serverUrl ← slicedb.textMember "DB_URL"
    let databaseName ← slicedb.textMember "DBRootName"
    let name ← slicedb.textMember "DBRootUser"
    let password ← slicedb.textMember "DBRootPassword"
    return { connectData with
      serverUrl, databaseName, user := { connectData.user with name, password, access := "rw" } }
  else do
    let serverUrl ← slicedb.textMember "DB_URL"
    let databaseName ← slicedb.textMember "DBName"
    let name ← slicedb.textMember "DBUser"
    let password ← slicedb.textMember "DBUserPassword"
    let access ← slicedb.textMember "DBAccess"
    return { connectData with
      serverUrl, databaseName, user := { connectData.user with name, password, access } }

/-- The guarded part of `connectFromSettings`. -/
def readSettings (jsonstr : Bytes) (rootdata : Bool) : Reading ArangoDBConnection := do
  let env ← get
  let data ← .ofRead (env.vpack.fromJson settingsOptions jsonstr)
  let slicedb ← .ofRead (data.get "arangodb")
  if slicedb.isObject then
    let «instance» ← .ofRead (slicedb.textMember "UseArangoDBInstance")
    let put ← .ofRead (slicedb.boolMember "UseVelocypackPut")
    modify fun env => { env with useVelocypackPut := put }
    let get ← .ofRead (slicedb.boolMember "UseVelocypackGet")
    modify fun env => { env with useVelocypackGet := get }
    let slicedb ← .ofRead (slicedb.get «instance»)
    if slicedb.isObject then .ofRead (instanceConnection rootdata slicedb)
    else return .default
  else return .default

/-- `connectFromSettings`: what it returns or throws, and the settings of the process behind it. -/
def connectFromSettings (env : Env) (jsonstr : Bytes) (rootdata : Bool) :
    Except Fault ArangoDBConnection × Env :=
  match (readSettings jsonstr rootdata).finish env with
  | (.ok connectData, env) => (.ok connectData, env)
  | (.error error, env) =>
    (arangoThrow "ArangoDBRootClient" 4
      ("Read configuration file error: " ++ env.vpack.what error), env)

/-! ### How the reads end -/

variable {env : Env} {jsonstr : Bytes} {rootdata : Bool}

/-- The member for the client in the document that the text parses to. -/
def ClientSection (env : Env) (jsonstr : Bytes) (slicedb : Slice) : Prop :=
  ∃ data, env.vpack.fromJson settingsOptions jsonstr = .ok data ∧
    data.get "arangodb" = .ok slicedb

/-- The reads come to the settings of the process: the section is an object that names an instance
and says whether requests use VelocyPack. -/
structure NamesInstance (env : Env) (jsonstr : Bytes) (slicedb : Slice) («instance» : Bytes)
    (put : Bool) : Prop where
  client : ClientSection env jsonstr slicedb
  object : slicedb.isObject = true
  named : slicedb.get "UseArangoDBInstance" = .ok (.string «instance»)
  put : slicedb.get "UseVelocypackPut" = .ok (.bool put)

theorem finish_of_client {slicedb : Slice} (client : ClientSection env jsonstr slicedb)
    (other : slicedb.isObject = false) :
    (readSettings jsonstr rootdata).finish env = (.ok .default, env) := by
  obtain ⟨data, parsed, found⟩ := client
  rw [readSettings, Reading.finish_get_bind, parsed, Reading.finish_ok_bind, found,
    Reading.finish_ok_bind, other]
  rfl

theorem finish_of_named {slicedb : Slice} {«instance» : Bytes} {put : Bool}
    (named : NamesInstance env jsonstr slicedb «instance» put) :
    (readSettings jsonstr rootdata).finish env = Reading.finish { env with useVelocypackPut := put }
      (do
        let get ← .ofRead (slicedb.boolMember "UseVelocypackGet")
        modify fun env => { env with useVelocypackGet := get }
        let slicedb ← .ofRead (slicedb.get «instance»)
        if slicedb.isObject then .ofRead (instanceConnection rootdata slicedb)
        else return .default) := by
  obtain ⟨data, parsed, found⟩ := named.client
  rw [readSettings, Reading.finish_get_bind, parsed, Reading.finish_ok_bind, found,
    Reading.finish_ok_bind, if_pos named.object, Slice.textMember_eq_ok_iff.mpr named.named,
    Reading.finish_ok_bind, Slice.boolMember_eq_ok_iff.mpr named.put, Reading.finish_ok_bind,
    Reading.finish_modify_bind]

/-- The settings of the process after both have been read. -/
def Env.withFlags (env : Env) (put get : Bool) : Env :=
  { env with useVelocypackPut := put, useVelocypackGet := get }

theorem finish_of_instance {slicedb described : Slice} {«instance» : Bytes} {put get : Bool}
    (named : NamesInstance env jsonstr slicedb «instance» put)
    (flag : slicedb.get "UseVelocypackGet" = .ok (.bool get))
    (found : slicedb.get «instance» = .ok described) :
    (readSettings jsonstr rootdata).finish env =
      (if described.isObject then instanceConnection rootdata described else .ok .default,
        env.withFlags put get) := by
  rw [finish_of_named named, Slice.boolMember_eq_ok_iff.mpr flag, Reading.finish_ok_bind,
    Reading.finish_modify_bind, found, Reading.finish_ok_bind]
  split <;> rfl

/-- The ways in which the reads end. -/
inductive SettingsEnd (env : Env) (jsonstr : Bytes) (rootdata : Bool) :
    Except VpackException ArangoDBConnection × Env → Prop where
  | untouched (exception : VpackException) :
      SettingsEnd env jsonstr rootdata (.error exception, env)
  | skipped {slicedb : Slice} (client : ClientSection env jsonstr slicedb)
      (other : slicedb.isObject = false) : SettingsEnd env jsonstr rootdata (.ok .default, env)
  | halfway {slicedb : Slice} {«instance» : Bytes} {put : Bool}
      (named : NamesInstance env jsonstr slicedb «instance» put)
      (unread : ∀ get, slicedb.get "UseVelocypackGet" ≠ .ok (.bool get))
      (exception : VpackException) :
      SettingsEnd env jsonstr rootdata (.error exception, { env with useVelocypackPut := put })
  | read {slicedb described : Slice} {«instance» : Bytes} {put get : Bool}
      (named : NamesInstance env jsonstr slicedb «instance» put)
      (flag : slicedb.get "UseVelocypackGet" = .ok (.bool get))
      (found : slicedb.get «instance» = .ok described) :
      SettingsEnd env jsonstr rootdata
        (if described.isObject then instanceConnection rootdata described else .ok .default,
          env.withFlags put get)

theorem readSettings_ends (env : Env) (jsonstr : Bytes) (rootdata : Bool) :
    SettingsEnd env jsonstr rootdata ((readSettings jsonstr rootdata).finish env) := by
  cases parsed : env.vpack.fromJson settingsOptions jsonstr with
  | error exception =>
    rw [readSettings, Reading.finish_get_bind, parsed]
    exact .untouched exception
  | ok data =>
    cases member : data.get "arangodb" with
    | error exception =>
      rw [readSettings, Reading.finish_get_bind, parsed, Reading.finish_ok_bind, member]
      exact .untouched exception
    | ok slicedb =>
      have client : ClientSection env jsonstr slicedb := ⟨data, parsed, member⟩
      cases object : slicedb.isObject with
      | false =>
        rw [finish_of_client client object]
        exact .skipped client object
      | true =>
        cases named : slicedb.textMember "UseArangoDBInstance" with
        | error exception =>
          rw [readSettings, Reading.finish_get_bind, parsed, Reading.finish_ok_bind, member,
            Reading.finish_ok_bind, if_pos object, named]
          exact .untouched exception
        | ok «instance» =>
          cases flag : slicedb.boolMember "UseVelocypackPut" with
          | error exception =>
            rw [readSettings, Reading.finish_get_bind, parsed, Reading.finish_ok_bind, member,
              Reading.finish_ok_bind, if_pos object, named, Reading.finish_ok_bind, flag]
            exact .untouched exception
          | ok put =>
            have names : NamesInstance env jsonstr slicedb «instance» put :=
              ⟨client, object, Slice.textMember_eq_ok_iff.mp named,
                Slice.boolMember_eq_ok_iff.mp flag⟩
            cases second : slicedb.boolMember "UseVelocypackGet" with
            | error exception =>
              rw [finish_of_named names, second]
              refine .halfway names (fun get same => ?_) exception
              cases second.symm.trans (Slice.boolMember_eq_ok_iff.mpr same)
            | ok get =>
              have flag := Slice.boolMember_eq_ok_iff.mp second
              obtain ⟨described, found⟩ := Slice.exists_get object «instance»
              rw [finish_of_instance names flag found]
              exact .read names flag found

/-! ### The members of an instance -/

/-- The members that are read of an instance. -/
def instanceKeys (rootdata : Bool) : List Bytes :=
  if rootdata then ["DB_URL", "DBRootName", "DBRootUser", "DBRootPassword"]
  else ["DB_URL", "DBName", "DBUser", "DBUserPassword", "DBAccess"]

/-- The connection data are the values of the instance. -/
structure Describes (rootdata : Bool) (described : Slice) (connectData : ArangoDBConnection) :
    Prop where
  serverUrl : described.get "DB_URL" = .ok (.string connectData.serverUrl)
  databaseName : described.get (if rootdata then text "DBRootName" else text "DBName") =
    .ok (.string connectData.databaseName)
  name : described.get (if rootdata then text "DBRootUser" else text "DBUser") =
    .ok (.string connectData.user.name)
  password : described.get (if rootdata then text "DBRootPassword" else text "DBUserPassword") =
    .ok (.string connectData.user.password)
  access : if rootdata then connectData.user.access = "rw"
    else described.get "DBAccess" = .ok (.string connectData.user.access)

theorem instanceConnection_describes {described : Slice} {connectData : ArangoDBConnection}
    (connected : instanceConnection rootdata described = .ok connectData) :
    Describes rootdata described connectData := by
  cases rootdata with
  | true =>
    simp only [instanceConnection, if_true, bind_eq_ok_iff, Slice.textMember_eq_ok_iff] at connected
    obtain ⟨serverUrl, url, databaseName, database, name, user, password, secret, same⟩ := connected
    cases same
    exact ⟨url, database, user, secret, rfl⟩
  | false =>
    simp only [instanceConnection, Bool.false_eq_true, if_false, bind_eq_ok_iff,
      Slice.textMember_eq_ok_iff] at connected
    obtain ⟨serverUrl, url, databaseName, database, name, user, password, secret, access, right,
      same⟩ := connected
    cases same
    exact ⟨url, database, user, secret, right⟩

/-- An instance is read when all its members are strings. -/
theorem instanceConnection_ok_iff (rootdata : Bool) (described : Slice) :
    (∃ connectData, instanceConnection rootdata described = .ok connectData) ↔
      ∀ key ∈ instanceKeys rootdata, ∃ value, described.get key = .ok (.string value) := by
  cases rootdata with
  | true =>
    simp only [instanceConnection, instanceKeys, if_true, bind_eq_ok_iff,
      Slice.textMember_eq_ok_iff, List.forall_mem_cons]
    constructor
    · intro connected
      obtain ⟨_, serverUrl, url, databaseName, database, name, user, password, secret, _⟩ :=
        connected
      exact ⟨⟨_, url⟩, ⟨_, database⟩, ⟨_, user⟩, ⟨_, secret⟩,
        fun key listed => absurd listed List.not_mem_nil⟩
    · intro members
      obtain ⟨⟨_, url⟩, ⟨_, database⟩, ⟨_, user⟩, ⟨_, secret⟩, _⟩ := members
      exact ⟨_, _, url, _, database, _, user, _, secret, rfl⟩
  | false =>
    simp only [instanceConnection, instanceKeys, Bool.false_eq_true, if_false, bind_eq_ok_iff,
      Slice.textMember_eq_ok_iff, List.forall_mem_cons]
    constructor
    · intro connected
      obtain ⟨_, serverUrl, url, databaseName, database, name, user, password, secret, access,
        right, _⟩ := connected
      exact ⟨⟨_, url⟩, ⟨_, database⟩, ⟨_, user⟩, ⟨_, secret⟩, ⟨_, right⟩,
        fun key listed => absurd listed List.not_mem_nil⟩
    · intro members
      obtain ⟨⟨_, url⟩, ⟨_, database⟩, ⟨_, user⟩, ⟨_, secret⟩, ⟨_, right⟩, _⟩ := members
      exact ⟨_, _, url, _, database, _, user, _, secret, _, right, rfl⟩

/-! ### The settings of the process behind an exception -/

/-- When an exception is thrown, the settings of the process are what they were. -/
def KeepsFlags (env : Env) (jsonstr : Bytes) (rootdata : Bool) : Prop :=
  ∀ fault, (connectFromSettings env jsonstr rootdata).1 = .error fault →
    (connectFromSettings env jsonstr rootdata).2.useVelocypackPut = env.useVelocypackPut ∧
      (connectFromSettings env jsonstr rootdata).2.useVelocypackGet = env.useVelocypackGet

/-- A setting is read that is not what it was, and a member that is read behind it is not of its
type. -/
def WritesThenThrows (env : Env) (jsonstr : Bytes) (rootdata : Bool) : Prop :=
  ∃ slicedb «instance» put, NamesInstance env jsonstr slicedb «instance» put ∧
    ((put ≠ env.useVelocypackPut ∧ ∀ get, slicedb.get "UseVelocypackGet" ≠ .ok (.bool get)) ∨
      ∃ get described, slicedb.get "UseVelocypackGet" = .ok (.bool get) ∧
        ¬ (put = env.useVelocypackPut ∧ get = env.useVelocypackGet) ∧
        slicedb.get «instance» = .ok described ∧ described.isObject = true ∧
        ¬ ∀ key ∈ instanceKeys rootdata, ∃ value, described.get key = .ok (.string value))

theorem connectFromSettings_of_ok {connectData : ArangoDBConnection} {after : Env}
    (ends : (readSettings jsonstr rootdata).finish env = (.ok connectData, after)) :
    connectFromSettings env jsonstr rootdata = (.ok connectData, after) := by
  rw [connectFromSettings, ends]

theorem connectFromSettings_of_error {exception : VpackException} {after : Env}
    (ends : (readSettings jsonstr rootdata).finish env = (.error exception, after)) :
    ∃ thrown, connectFromSettings env jsonstr rootdata = (.error (.arango thrown), after) := by
  rw [connectFromSettings, ends]
  exact ⟨_, rfl⟩

/-- An instance that is not read ends the reads with an exception. -/
theorem exists_instanceConnection_error {described : Slice}
    (unread : ¬ ∀ key ∈ instanceKeys rootdata, ∃ value, described.get key = .ok (.string value)) :
    ∃ exception, instanceConnection rootdata described = .error exception := by
  rw [← instanceConnection_ok_iff] at unread
  cases connected : instanceConnection rootdata described with
  | error exception => exact ⟨exception, rfl⟩
  | ok connectData => exact absurd ⟨connectData, connected⟩ unread

theorem WritesThenThrows.not_keepsFlags (writes : WritesThenThrows env jsonstr rootdata) :
    ¬ KeepsFlags env jsonstr rootdata := by
  obtain ⟨slicedb, «instance», put, named, late⟩ := writes
  intro keeps
  cases late with
  | inl unread =>
    obtain ⟨changed, unread⟩ := unread
    cases second : slicedb.boolMember "UseVelocypackGet" with
    | ok get => exact unread get (Slice.boolMember_eq_ok_iff.mp second)
    | error exception =>
      have ends : (readSettings jsonstr rootdata).finish env =
          (.error exception, { env with useVelocypackPut := put }) := by
        rw [finish_of_named named, second]
        rfl
      obtain ⟨thrown, raised⟩ := connectFromSettings_of_error ends
      have kept := (keeps (.arango thrown) (by rw [raised])).1
      rw [raised] at kept
      exact changed kept
  | inr unread =>
    obtain ⟨get, described, flag, changed, found, object, unread⟩ := unread
    obtain ⟨exception, fails⟩ := exists_instanceConnection_error unread
    have ends := @finish_of_instance env jsonstr rootdata _ _ _ _ _ named flag found
    rw [if_pos object, fails] at ends
    obtain ⟨thrown, raised⟩ := connectFromSettings_of_error ends
    have kept := keeps (.arango thrown) (by rw [raised])
    rw [raised] at kept
    exact changed kept

/-- The settings of the process are kept unless one is written that was different, before a read
that throws. -/
theorem connectFromSettings_keepsFlags_iff (env : Env) (jsonstr : Bytes) (rootdata : Bool) :
    KeepsFlags env jsonstr rootdata ↔ ¬ WritesThenThrows env jsonstr rootdata := by
  constructor
  · intro keeps writes
    exact writes.not_keepsFlags keeps
  · intro proper fault raised
    have ends := readSettings_ends env jsonstr rootdata
    generalize outcome : (readSettings jsonstr rootdata).finish env = after at ends
    cases ends with
    | untouched exception =>
      obtain ⟨thrown, same⟩ := connectFromSettings_of_error outcome
      rw [same]
      exact ⟨rfl, rfl⟩
    | skipped client other =>
      rw [connectFromSettings_of_ok outcome] at raised
      cases raised
    | halfway named unread exception =>
      obtain ⟨thrown, same⟩ := connectFromSettings_of_error outcome
      rw [same]
      refine ⟨?_, rfl⟩
      by_contra changed
      exact proper ⟨_, _, _, named, Or.inl ⟨changed, unread⟩⟩
    | @read slicedb described «instance» put get named flag found =>
      cases object : described.isObject with
      | false =>
        rw [object] at outcome
        rw [connectFromSettings_of_ok outcome] at raised
        cases raised
      | true =>
        rw [object, if_pos rfl] at outcome
        cases connected : instanceConnection rootdata described with
        | ok connectData =>
          rw [connected] at outcome
          rw [connectFromSettings_of_ok outcome] at raised
          cases raised
        | error exception =>
          rw [connected] at outcome
          obtain ⟨thrown, same⟩ := connectFromSettings_of_error outcome
          rw [same]
          by_contra changed
          refine proper ⟨_, _, _, named, Or.inr ⟨get, described, flag, changed, found, object, ?_⟩⟩
          rw [← instanceConnection_ok_iff, connected]
          intro read
          obtain ⟨_, read⟩ := read
          cases read

/-- Settings that turn VelocyPack off for requests, and whose instance has no members. -/
def emptyInstance : Slice :=
  .object [("arangodb", .object [("UseArangoDBInstance", .string "Local"),
    ("UseVelocypackPut", .bool false), ("UseVelocypackGet", .bool true), ("Local", .object [])])]

theorem not_forall_keepsFlags :
    ¬ ∀ (env : Env) (jsonstr : Bytes) (rootdata : Bool), KeepsFlags env jsonstr rootdata := by
  intro keeps
  let env : Env := ⟨.printing [(emptyInstance.print, emptyInstance)], true, true, [], false⟩
  have client : ClientSection env emptyInstance.print _ :=
    ⟨emptyInstance, Velocypack.printing_fromJson _ _ _ _, rfl⟩
  refine WritesThenThrows.not_keepsFlags ?_ (keeps env emptyInstance.print true)
  refine ⟨_, "Local", false, ⟨client, rfl, rfl, rfl⟩,
    Or.inr ⟨true, .object [], rfl, ?_, rfl, rfl, ?_⟩⟩
  · exact fun same => Bool.false_ne_true same.1
  · intro members
    obtain ⟨value, found⟩ := members "DB_URL" List.mem_cons_self
    cases found

/-! ### What is returned -/

/-- A connection is returned only where the document describes it, and otherwise an
`arango_exception` is thrown. -/
def ReturnsDescribed (env : Env) (jsonstr : Bytes) (rootdata : Bool) : Prop :=
  (∀ connectData, (connectFromSettings env jsonstr rootdata).1 = .ok connectData →
    ∃ slicedb «instance» described, ClientSection env jsonstr slicedb ∧ slicedb.isObject = true ∧
      slicedb.get "UseArangoDBInstance" = .ok (.string «instance») ∧
      slicedb.get «instance» = .ok described ∧ described.isObject = true ∧
      Describes rootdata described connectData) ∧
  ∀ fault, (connectFromSettings env jsonstr rootdata).1 = .error fault →
    ∃ exception, fault = .arango exception

/-- The section of the client is not an object, or the settings of the process are read and the
instance that is named is not an object. -/
def DescribesNothing (env : Env) (jsonstr : Bytes) : Prop :=
  ∃ slicedb, ClientSection env jsonstr slicedb ∧ (slicedb.isObject = false ∨
    ∃ «instance» put get described, NamesInstance env jsonstr slicedb «instance» put ∧
      slicedb.get "UseVelocypackGet" = .ok (.bool get) ∧
      slicedb.get «instance» = .ok described ∧ described.isObject = false)

theorem ClientSection.unique {first second : Slice} (left : ClientSection env jsonstr first)
    (right : ClientSection env jsonstr second) : first = second := by
  obtain ⟨data, parsed, member⟩ := left
  obtain ⟨other, reparsed, found⟩ := right
  cases parsed.symm.trans reparsed
  cases member.symm.trans found
  rfl

theorem DescribesNothing.not_returnsDescribed (nothing : DescribesNothing env jsonstr) :
    ¬ ReturnsDescribed env jsonstr rootdata := by
  obtain ⟨slicedb, client, missing⟩ := nothing
  intro returns
  cases missing with
  | inl other =>
    obtain ⟨found, _, _, section', object, _⟩ := returns.1 .default
      (by rw [connectFromSettings_of_ok (finish_of_client client other)])
    cases client.unique section'
    exact absurd (other.symm.trans object) Bool.false_ne_true
  | inr unnamed =>
    obtain ⟨«instance», put, get, described, named, flag, found, other⟩ := unnamed
    have ends := @finish_of_instance env jsonstr rootdata _ _ _ _ _ named flag found
    rw [other] at ends
    obtain ⟨_, name, value, section', _, names, member, object, _⟩ := returns.1 .default
      (by rw [connectFromSettings_of_ok ends])
    cases client.unique section'
    cases named.named.symm.trans names
    cases found.symm.trans member
    exact absurd (other.symm.trans object) Bool.false_ne_true

/-- What is returned is described by the document unless the document describes nothing. -/
theorem connectFromSettings_returnsDescribed_iff (env : Env) (jsonstr : Bytes) (rootdata : Bool) :
    ReturnsDescribed env jsonstr rootdata ↔ ¬ DescribesNothing env jsonstr := by
  constructor
  · intro returns nothing
    exact nothing.not_returnsDescribed returns
  · intro describes
    have ends := readSettings_ends env jsonstr rootdata
    generalize outcome : (readSettings jsonstr rootdata).finish env = after at ends
    have thrown : ∀ exception changed, after = (.error exception, changed) →
        ReturnsDescribed env jsonstr rootdata := by
      intro exception changed same
      obtain ⟨thrown, raised⟩ := connectFromSettings_of_error (outcome.trans same)
      rw [ReturnsDescribed, raised]
      refine ⟨fun connectData returned => (by cases returned), fun fault same => ?_⟩
      cases same
      exact ⟨thrown, rfl⟩
    cases ends with
    | untouched exception => exact thrown exception env rfl
    | skipped client other => exact absurd ⟨_, client, Or.inl other⟩ describes
    | halfway named unread exception => exact thrown exception _ rfl
    | @read slicedb described «instance» put get named flag found =>
      cases object : described.isObject with
      | false =>
        exact absurd ⟨_, named.client, Or.inr ⟨_, _, _, _, named, flag, found, object⟩⟩ describes
      | true =>
        rw [object, if_pos rfl] at outcome thrown
        cases connected : instanceConnection rootdata described with
        | error exception => exact thrown exception _ (by rw [connected])
        | ok connectData =>
          rw [connected] at outcome
          rw [ReturnsDescribed, connectFromSettings_of_ok outcome]
          refine ⟨fun returned same => ?_, fun fault same => (by cases same)⟩
          cases same
          exact ⟨slicedb, «instance», described, named.client, named.object, named.named, found,
            object, instanceConnection_describes connected⟩

/-- Settings that name an instance they do not have. -/
def misspeltInstance : Slice :=
  .object [("arangodb", .object [("UseArangoDBInstance", .string "Remote"),
    ("UseVelocypackPut", .bool true), ("UseVelocypackGet", .bool true), ("Local", .object [])])]

theorem not_forall_returnsDescribed :
    ¬ ∀ (env : Env) (jsonstr : Bytes) (rootdata : Bool), ReturnsDescribed env jsonstr rootdata := by
  intro returns
  let env : Env := ⟨.printing [(misspeltInstance.print, misspeltInstance)], true, true, [], false⟩
  have client : ClientSection env misspeltInstance.print _ :=
    ⟨misspeltInstance, Velocypack.printing_fromJson _ _ _ _, rfl⟩
  refine DescribesNothing.not_returnsDescribed ?_ (returns env misspeltInstance.print false)
  exact ⟨_, client, Or.inr ⟨"Remote", true, true, .none, ⟨client, rfl, rfl, rfl⟩, rfl, rfl, rfl⟩⟩

end ArangoCpp
