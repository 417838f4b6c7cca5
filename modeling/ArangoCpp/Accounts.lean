/-
This file says what the operations on databases and users do, among operations of other clients.

A server has databases, users with their passwords and extra data, and knows which user may do what
with which database. The requests for them go to the server without a database in the URL.
Databases are created and dropped by operations that ask first whether there is something to do, so
that another client may do it in between; users are created and removed with one request. The extra
data of a user is a JSON text, which the client parses before it sends anything: an operation with
a malformed text throws, and leaves everything as it is.
-/

import ArangoCpp.Interface
import ArangoCpp.Users
import ArangoCpp.Handles

namespace ArangoCpp

open Dialogue

/-! ### Databases and users -/

/-- A name of a database or of a user, which is one segment of a path and stands there as it is. -/
@[ext] structure SegmentName where
  bytes : Bytes
  utf8 : Utf8 bytes
  nonempty : bytes ≠ []
  plain : ∀ byte ∈ bytes, byte ∉ text "/?#%"
  notDot : bytes ≠ "."
  notDots : bytes ≠ ".."

instance : DecidableEq SegmentName := fun first second =>
  decidable_of_iff (first.bytes = second.bytes) SegmentName.ext_iff.symm

theorem SegmentName.slash_notMem (name : SegmentName) : slash ∉ name.bytes :=
  fun member => name.plain slash member (by decide)

/-- What a server knows of a user. There may be no extra data. -/
structure Account where
  password : Bytes
  active : Bool
  extra : Slice

/-- The second account is read when the first is sent. -/
structure Account.Alike (sent read : Account) : Prop where
  password : read.password = sent.password
  active : read.active = sent.active
  extra : sent.extra.Alike read.extra

/-- An account with new data. Extra data stays when there is no new one. -/
def Account.revised (account data : Account) : Account where
  password := data.password
  active := data.active
  extra := if data.extra.isNone then account.extra else data.extra

/-- The databases and users of a server, and what each user may do with each database. -/
@[ext] structure Accounts where
  databases : SegmentName → Bool
  users : SegmentName → Option Account
  grants : SegmentName → SegmentName → Option Bytes

/-- The users that come with a new database. Those that are there already stay as they are. -/
def enroll (listed : List (SegmentName × Account)) (users : SegmentName → Option Account) :
    SegmentName → Option Account :=
  listed.foldl (fun users entry =>
    if (users entry.1).isSome then users else Function.update users entry.1 (some entry.2)) users

/-- What a privilege lets a user do. -/
def granted (level : Bytes) : Option Bytes := if level = "none" then none else some level

/-! ### Requests -/

/-- The requests for databases and users. -/
inductive AccountRequest : Type where
  | databases
  | users
  | probe (database : SegmentName)
  | user (name : SegmentName)
  | rights (user : SegmentName)
  | createDatabase (database : SegmentName) (listed : List (SegmentName × Account))
  | dropDatabase (database : SegmentName)
  | createUser (name : SegmentName) (account : Account)
  | updateUser (name : SegmentName) (account : Account)
  | dropUser (name : SegmentName)
  | grant (database user : SegmentName) (level : Bytes)

/-- A value shows an account. -/
structure Account.Shown (account : Account) (value : Slice) : Prop where
  password : value.get "passwd" = .ok (.string account.password)
  active : value.get "active" = .ok (.bool account.active)
  extra : value.get "extra" = .ok account.extra

/-- A value shows a user of a new database. -/
def ShowsUser (entry : SegmentName × Account) (value : Slice) : Prop :=
  value.get "username" = .ok (.string entry.1.bytes) ∧ entry.2.Shown value

/-- A value shows the users of a new database, if there are any. -/
def ShowsUsers (listed : List (SegmentName × Account)) (value : Slice) : Prop :=
  if listed = [] then value.get "users" = .ok .none
  else ∃ items, value.get "users" = .ok (.array items) ∧ List.Forall₂ ShowsUser listed items

/-- How the requests for databases and users are sent. -/
def accountInterface : Interface AccountRequest where
  dispatch := .users
  verb
    | .databases | .users | .probe _ | .user _ | .rights _ => .get
    | .createDatabase _ _ | .createUser _ _ => .post
    | .dropDatabase _ | .dropUser _ => .delete
    | .updateUser _ _ => .patch
    | .grant _ _ _ => .put
  path
    | .databases | .createDatabase _ _ => "/_api/database"
    | .users => "/_api/user/"
    | .probe database => "/_db/" ++ database.bytes ++ "/_api/database/current"
    | .user name | .updateUser name _ | .dropUser name => "/_api/user/" ++ name.bytes
    | .rights user => "/_api/user/" ++ user.bytes ++ "/database/"
    | .dropDatabase database => "/_api/database/" ++ database.bytes
    | .createUser _ _ => "/_api/user"
    | .grant database user _ => "/_api/user/" ++ user.bytes ++ "/database/" ++ database.bytes
  body
    | .createDatabase database listed => some fun value =>
      value.get "name" = .ok (.string database.bytes) ∧ ShowsUsers listed value
    | .createUser name account => some fun value =>
      value.get "user" = .ok (.string name.bytes) ∧ account.Shown value
    | .updateUser _ account => some account.Shown
    | .grant _ _ level => some fun value => value.get "grant" = .ok (.string level)
    | _ => none

theorem Account.Shown.unique {account other : Account} {value : Slice}
    (shown : account.Shown value) (shownToo : other.Shown value) : account = other := by
  have passwords := Except.ok.inj (shown.password.symm.trans shownToo.password)
  have actives := Except.ok.inj (shown.active.symm.trans shownToo.active)
  have extras := Except.ok.inj (shown.extra.symm.trans shownToo.extra)
  injection passwords with passwords
  injection actives with actives
  cases account
  cases other
  simp only at passwords actives extras
  rw [passwords, actives, extras]

theorem segment_member_inj {value : Slice} {field : Bytes} {name other : SegmentName}
    (named : value.get field = .ok (.string name.bytes))
    (namedToo : value.get field = .ok (.string other.bytes)) : name = other := by
  have same := Except.ok.inj (named.symm.trans namedToo)
  injection same with same
  exact SegmentName.ext same

theorem ShowsUsers.unique {listed others : List (SegmentName × Account)} {value : Slice}
    (shown : ShowsUsers listed value) (shownToo : ShowsUsers others value) : listed = others := by
  have each : Relator.LeftUnique ShowsUser := by
    rintro ⟨name, account⟩ ⟨other, another⟩ item ⟨named, told⟩ ⟨namedToo, toldToo⟩
    exact Prod.ext (segment_member_inj named namedToo) (told.unique toldToo)
  unfold ShowsUsers at shown shownToo
  by_cases none : listed = []
  · by_cases noneToo : others = []
    · rw [none, noneToo]
    · rw [if_pos none] at shown
      rw [if_neg noneToo] at shownToo
      obtain ⟨items, there, _⟩ := shownToo
      cases shown.symm.trans there
  · by_cases noneToo : others = []
    · rw [if_neg none] at shown
      rw [if_pos noneToo] at shownToo
      obtain ⟨items, there, _⟩ := shown
      cases there.symm.trans shownToo
    · rw [if_neg none] at shown
      rw [if_neg noneToo] at shownToo
      obtain ⟨items, there, alike⟩ := shown
      obtain ⟨others, thereToo, alikeToo⟩ := shownToo
      cases there.symm.trans thereToo
      exact each.forall₂ alike alikeToo

/-- What stands between slashes is known from the whole. -/
theorem segment_append_inj {name other : SegmentName} {rest more : Bytes}
    (same : name.bytes ++ slash :: rest = other.bytes ++ slash :: more) :
    name = other ∧ rest = more := by
  have fronts := congrArg (List.takeWhile (· != slash)) same
  have long (name : SegmentName) (rest : Bytes) :
      (name.bytes ++ slash :: rest).takeWhile (· != slash) = name.bytes := by
    have before : ∀ byte ∈ name.bytes, (byte != slash) = true := by
      intro byte member
      refine bne_iff_ne.mpr fun equal => name.slash_notMem ?_
      rwa [← equal]
    rw [List.takeWhile_append_of_pos before]
    simp
  rw [long, long] at fronts
  refine ⟨SegmentName.ext fronts, ?_⟩
  rw [fronts] at same
  injection List.append_cancel_left same

/-- The paths of the requests for one user. -/
theorem path_rights (user : SegmentName) :
    accountInterface.path (.rights user) =
      text "/_api/user/" ++ (user.bytes ++ slash :: text "database/") :=
  List.append_assoc _ _ _

theorem path_grant (database user : SegmentName) (level : Bytes) :
    accountInterface.path (.grant database user level) =
      text "/_api/user/" ++ (user.bytes ++ slash :: (text "database/" ++ database.bytes)) := by
  show text "/_api/user/" ++ user.bytes ++ text "/database/" ++ database.bytes = _
  rw [List.append_assoc, List.append_assoc]
  rfl

/-- How a path begins: whether it names a database, and what it is about otherwise. -/
def opening (path : Bytes) : Bytes :=
  path.take 3 ++ if path.take 3 = "/_a" then (path.drop 6).take 1 else []

theorem opening_append {front : Bytes} (rest : Bytes) (long : 7 ≤ front.length) :
    opening (front ++ rest) = opening front := by
  unfold opening
  rw [List.take_append_of_le_length (by omega), List.drop_append_of_le_length (by omega),
    List.take_append_of_le_length (by rw [List.length_drop]; omega)]

/-- How the path of a request begins. -/
def AccountRequest.opening : AccountRequest → Bytes
  | databases | createDatabase _ _ | dropDatabase _ => "/_ad"
  | probe _ => "/_d"
  | users | user _ | rights _ | createUser _ _ | updateUser _ _ | dropUser _ | grant _ _ _ => "/_au"

theorem opening_path (request : AccountRequest) :
    ArangoCpp.opening (accountInterface.path request) = request.opening := by
  cases request with
  | databases | users | createDatabase _ _ | createUser _ _ => rfl
  | probe database =>
    have front : (accountInterface.path (.probe database)).take 3 = text "/_d" := rfl
    unfold ArangoCpp.opening
    rw [front, if_neg (by decide)]
    rfl
  | rights user =>
    rw [path_rights]
    exact opening_append _ (by decide)
  | grant database user level =>
    rw [path_grant]
    exact opening_append _ (by decide)
  | user _ | dropDatabase _ | updateUser _ _ | dropUser _ => exact opening_append _ (by decide)

/-- The server reads one request off what is sent. -/
theorem distinct_accountInterface : accountInterface.Distinct := by
  have listed (rest : Bytes) (more : rest ≠ []) :
      text "/_api/user/" ≠ text "/_api/user/" ++ rest :=
    fun same => more (List.self_eq_append_right.mp same)
  have named (name user : SegmentName) :
      accountInterface.path (.user name) ≠ accountInterface.path (.rights user) := by
    intro same
    rw [path_rights] at same
    have segment := List.append_cancel_left same
    exact name.slash_notMem (segment ▸ List.mem_append_right _ List.mem_cons_self)
  intro first second verbs paths bodies
  have openings : first.opening = second.opening := by
    rw [← opening_path, ← opening_path, paths]
  cases first <;> cases second <;> first
    | rfl
    | exact absurd verbs (by simp only [accountInterface]; decide)
    | exact absurd openings (by simp only [AccountRequest.opening]; decide)
    | skip
  case users.user name => exact absurd paths (listed _ name.nonempty)
  case user.users name => exact absurd paths.symm (listed _ name.nonempty)
  case users.rights user =>
    rw [path_rights] at paths
    exact absurd paths (listed _ (List.append_ne_nil_of_right_ne_nil _ (List.cons_ne_nil _ _)))
  case rights.users user =>
    rw [path_rights] at paths
    exact absurd paths.symm
      (listed _ (List.append_ne_nil_of_right_ne_nil _ (List.cons_ne_nil _ _)))
  case user.rights name user => exact absurd paths (named name user)
  case rights.user user name => exact absurd paths.symm (named name user)
  case probe.probe database other =>
    simp only [accountInterface, List.append_assoc] at paths
    rw [(segment_append_inj (List.append_cancel_left paths)).1]
  case rights.rights user other =>
    rw [path_rights, path_rights] at paths
    rw [(segment_append_inj (List.append_cancel_left paths)).1]
  case grant.grant database user level other another further =>
    rw [path_grant, path_grant] at paths
    obtain ⟨users, ends⟩ := segment_append_inj (List.append_cancel_left paths)
    obtain ⟨value, stated, statedToo⟩ := bodies _ _ rfl rfl
    injection Except.ok.inj (stated.symm.trans statedToo) with levels
    rw [users, SegmentName.ext (List.append_cancel_left ends), levels]
  case createDatabase.createDatabase database listed other others =>
    obtain ⟨value, ⟨named, shown⟩, namedToo, shownToo⟩ := bodies _ _ rfl rfl
    rw [segment_member_inj named namedToo, shown.unique shownToo]
  case createUser.createUser name account other another =>
    obtain ⟨value, ⟨named, shown⟩, namedToo, shownToo⟩ := bodies _ _ rfl rfl
    rw [segment_member_inj named namedToo, shown.unique shownToo]
  case updateUser.updateUser name account other another =>
    obtain ⟨value, shown, shownToo⟩ := bodies _ _ rfl rfl
    rw [SegmentName.ext (List.append_cancel_left paths), shown.unique shownToo]
  all_goals rw [SegmentName.ext (List.append_cancel_left paths)]

/-! ### What a server does -/

/-- How a server answers the requests that change nothing. The lists have the names, and the
privileges of a user are shown for the databases that are there. -/
inductive Accounts.Tells (env : Env) (accounts : Accounts) : AccountRequest → Transfer → Prop where
  | current {database : SegmentName} {reply : Transfer} (has : accounts.databases database = true)
      (received : reply.responseCode ≠ 0) (status : reply.responseCode ≠ 404)
      (plain : reply.Plain env) : Tells env accounts (.probe database) reply
  | noDatabase {database : SegmentName} {reply : Transfer}
      (missing : accounts.databases database = false) (status : reply.responseCode = 404)
      (plain : reply.Plain env) : Tells env accounts (.probe database) reply
  | known {name : SegmentName} {reply : Transfer} (has : (accounts.users name).isSome = true)
      (status : reply.responseCode = 200) (plain : reply.Plain env) :
      Tells env accounts (.user name) reply
  | noUser {name : SegmentName} {reply : Transfer} (missing : (accounts.users name).isSome = false)
      (received : reply.responseCode ≠ 0) (status : reply.responseCode ≠ 200)
      (plain : reply.Plain env) : Tells env accounts (.user name) reply
  | databases {value : JsonValue} {reply : Transfer} {names : List Bytes}
      (status : reply.responseCode = 200) (holds : reply.Holds env value)
      (result : value.1.get "result" = .ok (.array (names.map .string)))
      (all : ∀ name, name ∈ names ↔
        ∃ database, database.bytes = name ∧ accounts.databases database = true) :
      Tells env accounts .databases reply
  | users {value : JsonValue} {reply : Transfer} {names : List Bytes} {items : List Slice}
      (status : reply.responseCode = 200) (holds : reply.Holds env value)
      (result : value.1.get "result" = .ok (.array items))
      (shown : List.Forall₂ (fun name item => item.get "user" = .ok (.string name)) names items)
      (all : ∀ name, name ∈ names ↔
        ∃ user, user.bytes = name ∧ (accounts.users user).isSome = true) :
      Tells env accounts .users reply
  | rights {user : SegmentName} {value : JsonValue} {reply : Transfer}
      {levels : List (Bytes × Bytes)} (has : (accounts.users user).isSome = true)
      (status : reply.responseCode = 200) (holds : reply.Holds env value)
      (result : value.1.get "result" =
        .ok (.object (levels.map fun entry => (entry.1, .string entry.2))))
      (all : ∀ name level, (name, level) ∈ levels ↔ ∃ database, database.bytes = name ∧
        accounts.databases database = true ∧ accounts.grants user database = some level) :
      Tells env accounts (.rights user) reply
  | noRights {user : SegmentName} {reply : Transfer}
      (missing : (accounts.users user).isSome = false) (received : reply.responseCode ≠ 0)
      (status : reply.responseCode ≠ 200) (plain : reply.Plain env) :
      Tells env accounts (.rights user) reply

/-- What a request makes of the accounts, and the status that says so. What users may do with a
database that is created or dropped is for the server to say, and so it is for users; the name `*`
stands for all databases. -/
inductive Accounts.Changes (accounts : Accounts) :
    AccountRequest → StatusCode → Accounts → Prop where
  | createDatabase {database : SegmentName} {listed : List (SegmentName × Account)}
      {grants : SegmentName → SegmentName → Option Bytes}
      (missing : accounts.databases database = false)
      (kept : ∀ user other, other ≠ database → grants user other = accounts.grants user other) :
      Changes accounts (.createDatabase database listed) 201
        ⟨Function.update accounts.databases database true, enroll listed accounts.users, grants⟩
  | dropDatabase {database : SegmentName} {grants : SegmentName → SegmentName → Option Bytes}
      (has : accounts.databases database = true)
      (kept : ∀ user other, other ≠ database → grants user other = accounts.grants user other) :
      Changes accounts (.dropDatabase database) 200
        ⟨Function.update accounts.databases database false, accounts.users, grants⟩
  | createUser {name : SegmentName} {account : Account}
      {grants : SegmentName → SegmentName → Option Bytes}
      (missing : (accounts.users name).isSome = false)
      (kept : ∀ other, other ≠ name → grants other = accounts.grants other) :
      Changes accounts (.createUser name account) 201
        ⟨accounts.databases, Function.update accounts.users name (some account), grants⟩
  | updateUser {name : SegmentName} {account stored : Account}
      (found : accounts.users name = some stored) :
      Changes accounts (.updateUser name account) 200 { accounts with
        users := Function.update accounts.users name (some (stored.revised account)) }
  | dropUser {name : SegmentName} {grants : SegmentName → SegmentName → Option Bytes}
      (has : (accounts.users name).isSome = true)
      (kept : ∀ other, other ≠ name → grants other = accounts.grants other) :
      Changes accounts (.dropUser name) 202
        ⟨accounts.databases, Function.update accounts.users name none, grants⟩
  | grant {database user : SegmentName} {level : Bytes}
      {grants : SegmentName → SegmentName → Option Bytes}
      (has : (accounts.users user).isSome = true) (set : grants user database = granted level)
      (others : ∀ other, other ≠ user → grants other = accounts.grants other)
      (kept : database.bytes ≠ "*" →
        ∀ other, other ≠ database → grants user other = accounts.grants user other) :
      Changes accounts (.grant database user level) 200
        { accounts with grants := grants }

/-- The requests that are refused. The system database is not dropped, the privileges are those that
the server knows, and extra data may be unfit. -/
inductive Accounts.Refuses (accounts : Accounts) : AccountRequest → Prop where
  | createDatabase {database : SegmentName} {listed : List (SegmentName × Account)}
      (has : accounts.databases database = true) :
      Refuses accounts (.createDatabase database listed)
  | dropDatabase {database : SegmentName} (missing : accounts.databases database = false) :
      Refuses accounts (.dropDatabase database)
  | system {database : SegmentName} (has : accounts.databases database = true)
      (named : database.bytes = "_system") : Refuses accounts (.dropDatabase database)
  | createUser {name : SegmentName} {account : Account}
      (has : (accounts.users name).isSome = true) : Refuses accounts (.createUser name account)
  | updateUser {name : SegmentName} {account : Account}
      (missing : (accounts.users name).isSome = false) :
      Refuses accounts (.updateUser name account)
  | dropUser {name : SegmentName} (missing : (accounts.users name).isSome = false) :
      Refuses accounts (.dropUser name)
  | grant {database user : SegmentName} {level : Bytes}
      (refused : (accounts.users user).isSome = false ∨
        level ∉ [text "rw", text "ro", text "none"]) :
      Refuses accounts (.grant database user level)
  | unfitDatabase {database : SegmentName} {listed : List (SegmentName × Account)}
      (unfit : ∃ entry ∈ listed, entry.2.extra.Unfit) :
      Refuses accounts (.createDatabase database listed)
  | unfitCreate {name : SegmentName} {account : Account} (unfit : account.extra.Unfit) :
      Refuses accounts (.createUser name account)
  | unfitUpdate {name : SegmentName} {account : Account} (unfit : account.extra.Unfit) :
      Refuses accounts (.updateUser name account)

/-- What a server does with the requests for databases and users. -/
def accountRules (env : Env) : Rules AccountRequest Accounts where
  tells accounts := accounts.Tells env
  changes accounts := accounts.Changes
  refuses accounts := accounts.Refuses

/-- How a server answers a request, and what it knows then. -/
abbrev Accounts.Serves (env : Env) (accounts : Accounts) (request : AccountRequest)
    (reply : Transfer) (after : Accounts) : Prop :=
  (accountRules env).Serves env accounts request reply after

/-- A server answers what it reads as a request for databases and users out of its accounts. -/
abbrev Accounts.Answers (env : Env) (policy : Policy) (connectData : ArangoDBConnection) :
    Accounts → Transmission → Transfer → Accounts → Prop :=
  (accountRules env).Answers accountInterface env policy connectData

/-! ### What the client says of users -/

section

variable {env : Env}
  (parses : ∀ jsonrec data, env.vpack.fromJson parseOptions jsonrec = .ok data → data.Json)

include parses

/-- What is said of a user are values that a JSON text has. -/
theorem json_userData {user : ArangoDBUser} (password : Complete user.password)
    {data : List (Bytes × Slice)} (described : ArangoDBUsersAPI.userData env user = .ok data) :
    ∀ member ∈ data, Complete member.1 ∧ member.2.Json := by
  refine forall_userData ?_ ?_ (fun value parsed => ?_) described
  · exact ⟨(by decide : Complete (text "passwd")), .string password⟩
  · exact ⟨(by decide : Complete (text "active")), .bool _⟩
  · exact ⟨(by decide : Complete (text "extra")), parses _ _ parsed⟩

theorem json_usersData {users : List ArangoDBUser}
    (complete : ∀ user ∈ users, Complete user.name ∧ Complete user.password)
    {data : List (Bytes × Slice)} (described : ArangoDBUsersAPI.usersData env users = .ok data) :
    ∀ member ∈ data, Complete member.1 ∧ member.2.Json := by
  have each : ∀ user ∈ users, ∀ described, ArangoDBUsersAPI.userData env user = .ok described →
      (Slice.object (("username", .string user.name) :: described)).Json := by
    intro user listed described made
    obtain ⟨name, password⟩ := complete user listed
    exact (Slice.json_object_iff _).mpr (List.forall_mem_cons.mpr
      ⟨⟨(by decide : Complete (text "username")), .string name⟩,
        json_userData parses password made⟩)
  exact forall_usersData
    (fun items each => ⟨(by decide : Complete (text "users")), .array each⟩) each described

end

/-! ### Calls and what the accounts say about them -/

/-- A user of the client with a name that can stand in a path, and a password in UTF-8. -/
structure NamedUser where
  name : SegmentName
  user : ArangoDBUser
  named : user.name = name.bytes
  utf8 : Utf8 user.password

/-- The account of a user, with the extra data parsed if there is any. -/
def NamedUser.account (env : Env) (user : NamedUser) : Except VpackException Account :=
  if user.user.extra ≠ [] then do
    let data ← env.vpack.fromJson parseOptions user.user.extra
    return ⟨user.user.password, user.user.active, data⟩
  else return ⟨user.user.password, user.user.active, .none⟩

/-- The users of a new database, if all their extra data can be parsed. -/
def accountsOf (env : Env) (users : List NamedUser) :
    Except VpackException (List (SegmentName × Account)) :=
  users.mapM fun user => do
    let account ← user.account env
    return (user.name, account)

/-- The calls of the operations on databases and users. -/
inductive AccountCall : Type where
  | databaseNames
  | databaseNamesOf (user : SegmentName)
  | existDatabase (database : SegmentName)
  | createDatabase (database : SegmentName) (users : List NamedUser)
  | removeDatabase (database : SegmentName)
  | existUser (name : SegmentName)
  | createUser (user : NamedUser)
  | updateUser (user : NamedUser)
  | removeUser (name : SegmentName)
  | grantUserToDataBase (database user : SegmentName) (grant : Bytes) (utf8 : Utf8 grant)
  | userNames

/-- What the operations return. -/
inductive AccountReturned : Type where
  | flag (value : Bool)
  | nothing
  | names (names : StringSet)
  | rights (rights : StringMap)

/-- The program of a call. -/
def AccountCall.program (env : Env) : AccountCall → Api AccountReturned
  | databaseNames => (ArangoDBUsersAPI.databaseNames env).bind fun names => .done (.names names)
  | databaseNamesOf user =>
    (ArangoDBUsersAPI.databaseNamesOf env user.bytes).bind fun rights => .done (.rights rights)
  | existDatabase database =>
    (ArangoDBUsersAPI.existDatabase env database.bytes).bind fun exist => .done (.flag exist)
  | createDatabase database users =>
    (ArangoDBUsersAPI.createDatabase env database.bytes (users.map NamedUser.user)).bind
      fun _ => .done .nothing
  | removeDatabase database =>
    (ArangoDBUsersAPI.removeDatabase env database.bytes).bind fun _ => .done .nothing
  | existUser name =>
    (ArangoDBUsersAPI.existUser env name.bytes).bind fun exist => .done (.flag exist)
  | createUser user => (ArangoDBUsersAPI.createUser env user.user).bind fun _ => .done .nothing
  | updateUser user => (ArangoDBUsersAPI.updateUser env user.user).bind fun _ => .done .nothing
  | removeUser name => (ArangoDBUsersAPI.removeUser env name.bytes).bind fun _ => .done .nothing
  | grantUserToDataBase database user grant _ =>
    (ArangoDBUsersAPI.grantUserToDataBase env database.bytes user.bytes grant).bind
      fun _ => .done .nothing
  | userNames => (ArangoDBUsersAPI.userNames env).bind fun names => .done (.names names)

/-- What a call is answered. -/
inductive AccountAnswer : Type where
  | flag (value : Bool)
  | done
  | refused
  | names (listed : SegmentName → Prop)
  | rights (levels : SegmentName → Option Bytes)

/-- What a request does that changes the accounts or is refused. -/
abbrev AccountRequest.Does (env : Env) (request : AccountRequest) (accounts : Accounts)
    (answer : AccountAnswer) (after : Accounts) : Prop :=
  (accountRules env).Does .done .refused request accounts answer after

/-- What a user may do with the databases that are there. -/
def Accounts.rights (accounts : Accounts) (user database : SegmentName) : Option Bytes :=
  if (accounts.users user).isSome = true ∧ accounts.databases database = true then
    accounts.grants user database
  else none

/-- The second list of users is read when the first is sent. -/
def ListAlike : List (SegmentName × Account) → List (SegmentName × Account) → Prop :=
  List.Forall₂ fun sent read => read.1 = sent.1 ∧ sent.2.Alike read.2

/-- What a call does to the accounts, and what it is answered. A call that finds its work done may
be refused when clients can get in between. Malformed extra data is refused, and other extra data
is kept as it is read. -/
def AccountCall.Does (env : Env) (races : Prop) :
    AccountCall → Accounts → AccountAnswer → Accounts → Prop
  | databaseNames, accounts, answer, after =>
    answer = .names (fun database => accounts.databases database = true) ∧ after = accounts
  | databaseNamesOf user, accounts, answer, after =>
    answer = .rights (accounts.rights user) ∧ after = accounts
  | existDatabase database, accounts, answer, after =>
    answer = .flag (accounts.databases database) ∧ after = accounts
  | createDatabase database users, accounts, answer, after =>
    if accounts.databases database = true then
      (answer = .done ∨ races ∧ answer = .refused) ∧ after = accounts
    else match accountsOf env users with
      | .ok listed => ∃ read, ListAlike listed read ∧
        (AccountRequest.createDatabase database read).Does env accounts answer after
      | .error _ => answer = .refused ∧ after = accounts
  | removeDatabase database, accounts, answer, after =>
    if accounts.databases database = true then
      (AccountRequest.dropDatabase database).Does env accounts answer after
    else (answer = .done ∨ races ∧ answer = .refused) ∧ after = accounts
  | existUser name, accounts, answer, after =>
    answer = .flag (accounts.users name).isSome ∧ after = accounts
  | createUser user, accounts, answer, after => match user.account env with
    | .ok account => ∃ read, account.Alike read ∧
      (AccountRequest.createUser user.name read).Does env accounts answer after
    | .error _ => answer = .refused ∧ after = accounts
  | updateUser user, accounts, answer, after => match user.account env with
    | .ok account => ∃ read, account.Alike read ∧
      (AccountRequest.updateUser user.name read).Does env accounts answer after
    | .error _ => answer = .refused ∧ after = accounts
  | removeUser name, accounts, answer, after =>
    (AccountRequest.dropUser name).Does env accounts answer after
  | grantUserToDataBase database user grant _, accounts, answer, after =>
    (AccountRequest.grant database user grant).Does env accounts answer after
  | userNames, accounts, answer, after =>
    answer = .names (fun user => (accounts.users user).isSome = true) ∧ after = accounts

/-- What a call returns or throws when it is answered so. -/
inductive AccountAnswer.Agrees : AccountAnswer → Except Fault AccountReturned → Prop where
  | flag (value : Bool) : Agrees (.flag value) (.ok (.flag value))
  | done : Agrees .done (.ok .nothing)
  | refused (exception : ArangoException) : Agrees .refused (.error (.arango exception))
  | names {listed : SegmentName → Prop} {names : StringSet}
      (exact : ∀ bytes, bytes ∈ names ↔ ∃ name : SegmentName, name.bytes = bytes ∧ listed name) :
      Agrees (.names listed) (.ok (.names names))
  | rights {levels : SegmentName → Option Bytes} {rights : StringMap}
      (exact : ∀ bytes level, rights[bytes]? = some level ↔
        ∃ database : SegmentName, database.bytes = bytes ∧ levels database = some level) :
      Agrees (.rights levels) (.ok (.rights rights))

/-- The database that a request may create or drop. -/
def AccountRequest.database : AccountRequest → Option SegmentName
  | createDatabase database _ | dropDatabase database => some database
  | _ => none

/-- The database that a call may create or drop. -/
def AccountCall.changes : AccountCall → Option SegmentName
  | createDatabase database _ | removeDatabase database => some database
  | _ => none

theorem Accounts.Changes.keeps {accounts after : Accounts} {request : AccountRequest}
    {status : StatusCode} (changes : accounts.Changes request status after)
    {database : SegmentName} (apart : request.database ≠ some database) :
    after.databases database = accounts.databases database := by
  cases changes <;> first
    | rfl
    | exact Function.update_of_ne (fun same => apart (congrArg some same.symm)) _ _

/-- A request creates and drops no other database than the one that it is about. -/
theorem Accounts.Serves.keeps {env : Env} {accounts after : Accounts} {request : AccountRequest}
    {reply : Transfer} (serves : accounts.Serves env request reply after) {database : SegmentName}
    (apart : request.database ≠ some database) :
    after.databases database = accounts.databases database := by
  cases serves with
  | told tells => rfl
  | changed changes plain => exact Accounts.Changes.keeps changes apart
  | refused refuses bad holds explains => rfl

end ArangoCpp
