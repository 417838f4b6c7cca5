/-
This file lets any number of clients administer the databases and users of one server.

Every operation takes effect in one instant, in which its request is answered. An operation that
creates or drops a database is refused for what others have done only when another client may
create or drop the same database; all other refusals are those that the accounts themselves give.
The lists and maps that the operations return are read off the responses item by item, and have
exactly what the server has.
-/

import ArangoCpp.Accounts
import ArangoCpp.Cursor
import ArangoCpp.Headers

namespace ArangoCpp

open Dialogue

/-! ### Lists and maps that are read -/

/-- What is put into a map entry by entry. -/
theorem getElem?_foldl_insert (entries : List (Bytes × Bytes)) (start : StringMap) (key : Bytes) :
    (entries.foldl (fun map entry => map.insert entry.1 entry.2) start)[key]? =
      (lastValue key entries).or start[key]? := by
  induction entries generalizing start with
  | nil => rfl
  | cons entry entries inductionHypothesis =>
    rw [List.foldl_cons, inductionHypothesis, lastValue, Option.or_assoc]
    congr 1
    rw [Std.TreeMap.getElem?_insert]
    simp only [Std.LawfulEqCmp.compare_eq_iff_eq]
    by_cases same : entry.1 = key
    · rw [if_pos same, if_pos same]
      rfl
    · rw [if_neg same, if_neg same]
      rfl

theorem lastValue_eq_some_iff {key level : Bytes} {entries : List (Bytes × Bytes)}
    (one : ∀ first second, (key, first) ∈ entries → (key, second) ∈ entries → first = second) :
    lastValue key entries = some level ↔ (key, level) ∈ entries := by
  have there : ∀ {level}, lastValue key entries = some level → (key, level) ∈ entries := by
    intro level
    clear one
    induction entries with
    | nil =>
      intro none
      cases none
    | cons entry entries inductionHypothesis =>
      rw [lastValue, Option.or_eq_some_iff]
      rintro (later | ⟨_, now⟩)
      · exact List.mem_cons_of_mem _ (inductionHypothesis later)
      · split at now
        · rename_i same
          cases now
          rw [← same]
          exact List.mem_cons_self
        · cases now
  refine ⟨there, fun member => ?_⟩
  cases found : lastValue key entries with
  | none => exact absurd rfl (lastValue_eq_none_iff.mp found _ member)
  | some other => rw [one level other member (there found)]

/-- The privileges that an object shows are those that are read. -/
theorem databaseNamesOf_eq (env : Env) (user : Bytes) :
    ∃ read, ArangoDBUsersAPI.databaseNamesOf env user =
        .exchange (createREQUEST env .get ("/_api/user/" ++ user ++ "/database/"))
          (listValue env ∅ read) ∧
      ∀ (value : Slice) (levels : List (Bytes × Bytes)),
        value.get "result" = .ok (.object (levels.map fun entry => (entry.1, .string entry.2))) →
          read value = .ok (levels.foldl (fun map entry => map.insert entry.1 entry.2) ∅) := by
  refine ⟨_, rfl, fun value levels result => ?_⟩
  rw [result, ok_bind]
  have counted : (Slice.object (levels.map fun entry => (entry.1, .string entry.2))).length =
      .ok levels.length := congrArg Except.ok (List.length_map _)
  rw [counted, ok_bind]
  refine (@foldlM_range StringMap (Bytes × Bytes) VpackException levels _
    (fun map entry => .ok (map.insert entry.1 entry.2)) ?_ ∅).trans
      (foldlM_of_ok (fun _ _ _ => rfl) ∅)
  intro index entry found map
  have listed : (levels.map fun entry => (entry.1, Slice.string entry.2))[index]? =
      some (entry.1, .string entry.2) := by rw [List.getElem?_map, found]; rfl
  have key : (Slice.object (levels.map fun entry => (entry.1, .string entry.2))).keyAt index =
      .ok (.string entry.1) := by rw [Slice.keyAt, listed]
  have level : (Slice.object (levels.map fun entry => (entry.1, .string entry.2))).valueAt index =
      .ok (.string entry.2) := by rw [Slice.valueAt, listed]
  rw [key, level]
  rfl

/-! ### The messages -/

section

variable {env : Env}

/-- The members that show an account. -/
def Account.members (account : Account) : List (Bytes × Slice) :=
  [(text "passwd", Slice.string account.password), (text "active", .bool account.active)] ++
    if account.extra.isNone then [] else [(text "extra", account.extra)]

theorem eq_none_of_isNone {value : Slice} (none : value.isNone = true) : value = .none := by
  cases value <;> first
    | rfl
    | cases none

theorem Slice.Json.isNone {value : Slice} (json : value.Json) : value.isNone = false := by
  cases json <;> rfl

/-- The names of the members of an account. -/
def accountFields : List Bytes := [text "passwd", text "active", text "extra"]

namespace Account

variable (account : Account)

theorem distinct_members : (account.members.map Prod.fst).Nodup := by
  unfold members
  cases account.extra.isNone <;> simp +decide

theorem fields_members : ∀ name ∈ account.members.map Prod.fst, name ∈ accountFields := by
  unfold members accountFields
  cases account.extra.isNone <;> simp +decide

theorem shown_members : account.Shown (.object account.members) := by
  refine ⟨rfl, rfl, ?_⟩
  unfold members
  by_cases none : account.extra.isNone = true
  · rw [if_pos none, eq_none_of_isNone none]
    rfl
  · rw [if_neg none]
    rfl

/-- What is read of an account that is shown. -/
theorem exists_shown_members {members : List (Bytes × Slice)} {other : Slice}
    (distinct : (members.map Prod.fst).Nodup) (shown : account.Shown (.object members))
    (alike : (Slice.object members).Alike other) :
    ∃ read, account.Alike read ∧ read.Shown other := by
  obtain ⟨value, read, same, found, extra⟩ := alike.get distinct "extra"
  cases shown.extra.symm.trans same
  exact ⟨⟨account.password, account.active, read⟩, ⟨rfl, rfl, extra⟩,
    alike.get_eq distinct "passwd" (Slice.rigid_string _) shown.password,
    alike.get_eq distinct "active" (Slice.rigid_bool _) shown.active, found⟩

/-- A name may stand in front of the account. -/
theorem exists_shown {field name : Bytes} {other : Slice} (apart : field ∉ accountFields)
    (alike : (Slice.object ((field, .string name) :: account.members)).Alike other) :
    ∃ read, account.Alike read ∧ other.get field = .ok (.string name) ∧ read.Shown other := by
  have distinct : (((field, Slice.string name) :: account.members).map Prod.fst).Nodup :=
    List.nodup_cons.mpr ⟨fun listed => apart (account.fields_members field listed),
      account.distinct_members⟩
  have behind : ∀ asked ∈ accountFields,
      (Slice.object ((field, .string name) :: account.members)).get asked =
        (Slice.object account.members).get asked := by
    intro asked listed
    have differ : ¬ field = asked := fun same => apart (same ▸ listed)
    rw [Slice.get, List.find?_cons_of_neg (by simpa using differ)]
    rfl
  have shown : account.Shown (.object ((field, .string name) :: account.members)) :=
    ⟨(behind _ (by decide)).trans account.shown_members.password,
      (behind _ (by decide)).trans account.shown_members.active,
      (behind _ (by decide)).trans account.shown_members.extra⟩
  obtain ⟨read, same, showsRead⟩ := account.exists_shown_members distinct shown alike
  exact ⟨read, same, alike.get_eq distinct field (Slice.rigid_string name)
    (Slice.get_of_mem distinct List.mem_cons_self), showsRead⟩

end Account

/-- What shows a user of a new database. -/
def userItem (entry : SegmentName × Account) : Slice :=
  .object ((text "username", .string entry.1.bytes) :: entry.2.members)

/-- The member that lists the users of a new database, if there are any. -/
def usersMembers (listed : List (SegmentName × Account)) : List (Bytes × Slice) :=
  if listed = [] then [] else [(text "users", .array (listed.map userItem))]

/-- What is read of the users of a new database. -/
theorem exists_forall₂_showsUser {listed : List (SegmentName × Account)} {others : List Slice}
    (alike : List.Forall₂ Slice.Alike (listed.map userItem) others) :
    ∃ read, ListAlike listed read ∧ List.Forall₂ ShowsUser read others := by
  induction listed generalizing others with
  | nil =>
    cases alike
    exact ⟨[], .nil, .nil⟩
  | cons entry listed inductionHypothesis =>
    cases alike with
    | cons one more =>
      obtain ⟨account, same, named, shown⟩ := entry.2.exists_shown (by decide) one
      obtain ⟨read, alike, shows⟩ := inductionHypothesis more
      exact ⟨(entry.1, account) :: read, .cons ⟨rfl, same⟩ alike, .cons ⟨named, shown⟩ shows⟩

theorem exists_showsUsers (database : SegmentName) {listed : List (SegmentName × Account)}
    {other : Slice}
    (alike : (Slice.object ((text "name", .string database.bytes) :: usersMembers listed)).Alike
      other) :
    ∃ read, ListAlike listed read ∧ other.get "name" = .ok (.string database.bytes) ∧
      ShowsUsers read other := by
  have distinct : (((text "name", Slice.string database.bytes) :: usersMembers listed).map
      Prod.fst).Nodup := by
    unfold usersMembers
    split <;> simp +decide
  have named := alike.get_eq distinct "name" (Slice.rigid_string database.bytes) rfl
  unfold ShowsUsers
  unfold usersMembers at alike distinct
  by_cases none : listed = []
  · rw [if_pos none] at alike distinct
    rw [none]
    exact ⟨[], .nil, named, (if_pos rfl).mpr
      (alike.get_eq distinct "users" Slice.rigid_none rfl)⟩
  · rw [if_neg none] at alike distinct
    obtain ⟨value, read, same, found, users⟩ := alike.get distinct "users"
    have stated : value = .array (listed.map userItem) := Except.ok.inj (same.symm.trans rfl)
    rw [stated] at users
    cases users with
    | @array _ others each =>
      obtain ⟨read, alike, shows⟩ := exists_forall₂_showsUser each
      have some : read ≠ [] := by
        rintro rfl
        exact none (List.forall₂_nil_right_iff.mp alike)
      exact ⟨read, alike, named, by rw [if_neg some]; exact ⟨others, found, shows⟩⟩

variable {policy : Policy} (understands : policy.Understands env)

include understands

/-- The members of an account that the client sends. -/
theorem userData_eq (user : NamedUser) :
    ArangoDBUsersAPI.userData env user.user = (user.account env).map Account.members := by
  unfold ArangoDBUsersAPI.userData NamedUser.account
  by_cases extra : user.user.extra ≠ []
  · rw [if_pos extra, if_pos extra]
    cases parsed : env.vpack.fromJson parseOptions user.user.extra with
    | error exception => rfl
    | ok data =>
      have present := (understands.parses _ _ parsed).isNone
      show Except.ok _ = Except.ok (Account.members ⟨_, _, data⟩)
      rw [Account.members, if_neg (by rw [present]; exact Bool.false_ne_true)]
  · rw [if_neg extra, if_neg extra]
    rfl

/-- What is shown of an account are values that a JSON text has. -/
theorem json_account {user : NamedUser} {account : Account}
    (made : user.account env = .ok account) :
    ∀ member ∈ account.members, Complete member.1 ∧ member.2.Json := by
  have described : ArangoDBUsersAPI.userData env user.user = .ok account.members :=
    (userData_eq understands user).trans (by rw [made]; rfl)
  exact json_userData understands.parses user.utf8.complete described

theorem usersData_eq (users : List NamedUser) :
    ArangoDBUsersAPI.usersData env (users.map NamedUser.user) =
      (accountsOf env users).map usersMembers := by
  have listing : ((users.map NamedUser.user).mapM fun user => do
      let data ← ArangoDBUsersAPI.userData env user
      return Slice.object (("username", .string user.name) :: data)) =
      (accountsOf env users).map (List.map userItem) := by
    unfold accountsOf
    induction users with
    | nil => rfl
    | cons user users inductionHypothesis =>
      rw [List.map_cons, List.mapM_cons, List.mapM_cons, inductionHypothesis,
        userData_eq understands]
      cases user.account env with
      | error exception => rfl
      | ok account =>
        cases users.mapM fun user : NamedUser => do
            let account ← user.account env
            return (user.name, account) with
        | error exception => rfl
        | ok listed =>
          rw [user.named]
          rfl
  unfold ArangoDBUsersAPI.usersData
  cases users with
  | nil => rfl
  | cons user users =>
    rw [if_neg (List.map_eq_nil_iff.not.mpr (List.cons_ne_nil _ _)), listing]
    cases made : accountsOf env (user :: users) with
    | error exception => rfl
    | ok listed =>
      have some : listed ≠ [] := by
        rintro rfl
        unfold accountsOf at made
        rw [List.mapM_cons] at made
        obtain ⟨entry, _, made⟩ := bind_eq_ok_iff.mp made
        obtain ⟨rest, _, same⟩ := bind_eq_ok_iff.mp made
        cases same
      show Except.ok [(text "users", Slice.array (listed.map userItem))] =
        Except.ok (usersMembers listed)
      rw [usersMembers, if_neg some]

theorem json_usersMembers {users : List NamedUser} {listed : List (SegmentName × Account)}
    (made : accountsOf env users = .ok listed) :
    ∀ member ∈ usersMembers listed, Complete member.1 ∧ member.2.Json := by
  have described : ArangoDBUsersAPI.usersData env (users.map NamedUser.user) =
      .ok (usersMembers listed) := (usersData_eq understands users).trans (by rw [made]; rfl)
  refine json_usersData understands.parses (fun user inList => ?_) described
  obtain ⟨user, _, rfl⟩ := List.mem_map.mp inList
  rw [user.named]
  exact ⟨user.name.utf8.complete, user.utf8.complete⟩

omit understands in
/-- The messages for the requests without a body. -/
theorem carried_bare {request : AccountRequest}
    (kind : accountInterface.verb request = .get ∨ accountInterface.verb request = .delete)
    (plain : accountInterface.body request = none) :
    accountInterface.Carried env policy request
      (createREQUEST env (accountInterface.verb request) (accountInterface.path request)) :=
  .bare (by tauto) plain

theorem carried_createDatabase (database : SegmentName) {users : List NamedUser}
    {listed : List (SegmentName × Account)} (made : accountsOf env users = .ok listed) :
    ∃ read, ListAlike listed read ∧
      accountInterface.Carried env policy (.createDatabase database read)
        (createREQUESTWith env .post "/_api/database"
          (.object ((text "name", .string database.bytes) :: usersMembers listed))) := by
  have json : (Slice.object ((text "name", .string database.bytes) :: usersMembers listed)).Json :=
    (Slice.json_object_iff _).mpr (List.forall_mem_cons.mpr
      ⟨⟨(by decide : Complete (text "name")), .string database.utf8.complete⟩,
        json_usersMembers understands made⟩)
  obtain ⟨read, alike, named, shown⟩ := exists_showsUsers database (understands.alike ⟨_, json⟩)
  refine ⟨read, alike, @Interface.carried_createREQUESTWith _ accountInterface env policy
    understands.lawful (.createDatabase database read) _ (Or.inl rfl) json fun fits stated => ?_⟩
  cases stated
  exact ⟨named, shown⟩

theorem carried_createUser {user : NamedUser} {account : Account}
    (made : user.account env = .ok account) :
    ∃ read, account.Alike read ∧
      accountInterface.Carried env policy (.createUser user.name read)
        (createREQUESTWith env .post "/_api/user"
          (.object ((text "user", .string user.user.name) :: account.members))) := by
  rw [user.named]
  have json : (Slice.object ((text "user", .string user.name.bytes) :: account.members)).Json :=
    (Slice.json_object_iff _).mpr (List.forall_mem_cons.mpr
      ⟨⟨(by decide : Complete (text "user")), .string user.name.utf8.complete⟩,
        json_account understands made⟩)
  have apart : text "user" ∉ accountFields := by decide
  obtain ⟨read, alike, named, shown⟩ := account.exists_shown apart (understands.alike ⟨_, json⟩)
  refine ⟨read, alike, @Interface.carried_createREQUESTWith _ accountInterface env policy
    understands.lawful (.createUser user.name read) _ (Or.inl rfl) json fun fits stated => ?_⟩
  cases stated
  exact ⟨named, shown⟩

theorem carried_updateUser {user : NamedUser} {account : Account}
    (made : user.account env = .ok account) :
    ∃ read, account.Alike read ∧
      accountInterface.Carried env policy (.updateUser user.name read)
        (createREQUESTWith env .patch ("/_api/user/" ++ user.user.name)
          (.object account.members)) := by
  rw [user.named]
  have json : (Slice.object account.members).Json :=
    (Slice.json_object_iff _).mpr (json_account understands made)
  obtain ⟨read, alike, shown⟩ := account.exists_shown_members account.distinct_members
    account.shown_members (understands.alike ⟨_, json⟩)
  refine ⟨read, alike, @Interface.carried_createREQUESTWith _ accountInterface env policy
    understands.lawful (.updateUser user.name read) _ (Or.inr (Or.inr rfl)) json
      fun fits stated => ?_⟩
  cases stated
  exact shown

theorem carried_grant (database user : SegmentName) {level : Bytes} (utf8 : Utf8 level) :
    accountInterface.Carried env policy (.grant database user level)
      (createREQUESTWith env .put ("/_api/user/" ++ user.bytes ++ "/database/" ++ database.bytes)
        (.object [(text "grant", .string level)])) := by
  have json : (Slice.object [(text "grant", .string level)]).Json := by
    simp +decide [utf8.complete]
  have distinct : [text "grant"].Nodup := by decide
  refine @Interface.carried_createREQUESTWith _ accountInterface env policy understands.lawful
    (.grant database user level) _ (Or.inr (Or.inl rfl)) json fun fits stated => ?_
  cases stated
  exact (understands.alike ⟨_, json⟩).get_eq distinct "grant" (Slice.rigid_string level) rfl

end

/-! ### Each call takes effect in one instant -/

section

variable {env : Env} {policy : Policy} {connectData : ArangoDBConnection} {races : Prop}
  {rely guarantee : Accounts → Accounts → Prop} (understands : policy.Understands env)
  {request : AccountRequest} {rq : HttpMessage}

include understands

/-- The status says whether a database exists. -/
theorem told_existDatabase {database : SegmentName} {accounts : Accounts} {reply : Transfer}
    (tells : accounts.Tells env (.probe database) reply) (rq : HttpMessage) :
    told env .users connectData rq
      (fun result => pure (result.statusCode != statusNotFound)) reply =
        .ok (accounts.databases database) := by
  cases tells with
  | current has received status plain =>
    rw [understands.told_status .users rq (· != statusNotFound) received plain, has]
    exact congrArg Except.ok (bne_iff_ne.mpr status)
  | noDatabase missing status plain =>
    rw [understands.told_status .users rq (· != statusNotFound) (by rw [status]; decide) plain,
      missing, status]
    rfl

/-- A request that changes something is carried out, or an exception says that it is refused. -/
theorem atomic_changed (carried : accountInterface.Carried env policy request rq)
    (writes : (accountRules env).Writes request) {refuses : StatusCode → Bool}
    (accepts : ∀ accounts status after, Accounts.Changes accounts request status after →
      refuses status = false ∧ status ≠ 0)
    (bad : ∀ status, badRequest status = true → refuses status = true) (text : Bytes)
    {does : Accounts → AccountAnswer → Accounts → Prop} {accounts : Accounts}
    (each : ∀ now answer after, rely accounts now → request.Does env now answer after →
      does now answer after)
    (guarantees : ∀ now reply after, Accounts.Serves env now request reply after →
      guarantee now after) :
    (conduct env .users connectData (.exchange rq (demand env refuses text))).Atomic
      (Accounts.Answers env policy connectData) id rely guarantee does
      (fun answer result => answer.Agrees (result.map fun _ => .nothing)) accounts :=
  Rules.Writes.atomic_demand understands carried writes accepts bad text
    AccountAnswer.Agrees.done AccountAnswer.Agrees.refused each guarantees

omit understands in
/-- What agrees with an answer needs no translation. -/
theorem AccountAnswer.Agrees.translate {Value : Type} {wrap : Value → AccountReturned}
    {answer : AccountAnswer} {result : Except Fault Value}
    (agrees : answer.Agrees (result.map wrap)) (title : Bytes) (id : Int) :
    answer.Agrees ((result.tryCatch (ArangoCpp.translate env title id)).map wrap) := by
  cases result with
  | ok value => exact agrees
  | error fault =>
    cases fault with
    | arango exception => exact agrees
    | _ => cases agrees

/-- A program that goes on after asking whether a database exists. -/
theorem atomic_existDatabase_bind (database : SegmentName) {Result : Type}
    {continuation : Bool → Api Result} {does : Accounts → AccountAnswer → Accounts → Prop}
    {agrees : AccountAnswer → Except Fault Result → Prop}
    (guarantees : ∀ now, guarantee now now)
    (each : ∀ now : Accounts,
      (∃ answer, does now answer now ∧
        (conduct env .users connectData (continuation (now.databases database))).Settled
          (Accounts.Answers env policy connectData) id rely guarantee (agrees answer) now) ∨
      (conduct env .users connectData (continuation (now.databases database))).Atomic
        (Accounts.Answers env policy connectData) id rely guarantee does agrees now)
    (accounts : Accounts) :
    (conduct env .users connectData
      (.bind (ArangoDBUsersAPI.existDatabase env database.bytes) continuation)).Atomic
        (Accounts.Answers env policy connectData) id rely guarantee does agrees accounts := by
  have reads : (accountRules env).Reads (.probe database) :=
    ⟨by rintro _ _ _ ⟨⟩, by rintro _ ⟨⟩⟩
  exact reads.atomic_bind understands (@carried_bare env policy (.probe database) (Or.inl rfl) rfl)
    (fun now reply tells => told_existDatabase understands tells _) guarantees each accounts

variable {accounts : Accounts}

theorem atomic_databaseNames (guarantees : ∀ now, guarantee now now) :
    (conduct env .users connectData (ArangoDBUsersAPI.databaseNames env)).Atomic
      (Accounts.Answers env policy connectData) id rely guarantee
      (AccountCall.databaseNames.Does env races)
      (fun answer result => answer.Agrees (result.map .names)) accounts := by
  have carried : accountInterface.Carried env policy .databases
    (createREQUEST env .get "/_api/database") := carried_bare (Or.inl rfl) rfl
  refine Rules.Reads.atomic understands carried ⟨by rintro _ _ _ ⟨⟩, by rintro _ ⟨⟩⟩
    (fun accounts reply tells => ?_) guarantees accounts
  cases tells with
  | @databases value _ names status holds result all =>
    obtain ⟨found, read, member⟩ := @insertNames_array Slice.copyString names
      (names.map .string) (List.forall₂_map_right_iff.mpr (List.forall₂_same.mpr fun _ _ => rfl))
    refine ⟨found, ?_, .names fun bytes => (member bytes).trans (all bytes)⟩
    refine (understands.told_listValue .users _ status holds ∅ _).trans ?_
    rw [result, ok_bind, read, ofVpack_ok]

theorem atomic_userNames (guarantees : ∀ now, guarantee now now) :
    (conduct env .users connectData (ArangoDBUsersAPI.userNames env)).Atomic
      (Accounts.Answers env policy connectData) id rely guarantee
      (AccountCall.userNames.Does env races)
      (fun answer result => answer.Agrees (result.map .names)) accounts := by
  have carried : accountInterface.Carried env policy .users
      (createREQUEST env .get "/_api/user/") :=
    carried_bare (Or.inl rfl) rfl
  refine Rules.Reads.atomic understands carried ⟨by rintro _ _ _ ⟨⟩, by rintro _ ⟨⟩⟩
    (fun accounts reply tells => ?_) guarantees accounts
  cases tells with
  | @users value _ names items status holds result shown all =>
    obtain ⟨found, read, member⟩ := @insertNames_array
      (fun user => user.get "user" >>= Slice.copyString) names items
      (shown.imp fun name item there => by rw [there, ok_bind, Slice.copyString])
    refine ⟨found, ?_, .names fun bytes => (member bytes).trans (all bytes)⟩
    refine (understands.told_listValue .users _ status holds ∅ _).trans ?_
    rw [result, ok_bind, read, ofVpack_ok]

theorem atomic_databaseNamesOf (user : SegmentName) (guarantees : ∀ now, guarantee now now) :
    (conduct env .users connectData (ArangoDBUsersAPI.databaseNamesOf env user.bytes)).Atomic
      (Accounts.Answers env policy connectData) id rely guarantee
      ((AccountCall.databaseNamesOf user).Does env races)
      (fun answer result => answer.Agrees (result.map .rights)) accounts := by
  have carried : accountInterface.Carried env policy (.rights user)
      (createREQUEST env .get ("/_api/user/" ++ user.bytes ++ "/database/")) :=
    carried_bare (Or.inl rfl) rfl
  obtain ⟨read, asks, reads⟩ := databaseNamesOf_eq env user.bytes
  rw [asks]
  refine Rules.Reads.atomic understands carried ⟨by rintro _ _ _ ⟨⟩, by rintro _ ⟨⟩⟩
    (fun accounts reply tells => ?_) guarantees accounts
  cases tells with
  | @rights _ value _ levels has status holds result all =>
    refine ⟨levels.foldl (fun map entry => map.insert entry.1 entry.2) ∅, ?_, ?_⟩
    · refine (understands.told_listValue .users _ status holds ∅ _).trans ?_
      rw [reads value levels result, ofVpack_ok]
    · have one : ∀ name first second, (name, first) ∈ levels → (name, second) ∈ levels →
          first = second := by
        intro name first second member memberToo
        obtain ⟨database, named, _, level⟩ := (all name first).mp member
        obtain ⟨other, namedToo, _, levelToo⟩ := (all name second).mp memberToo
        rw [SegmentName.ext (named.trans namedToo.symm), levelToo] at level
        exact Option.some.inj level.symm
      refine .rights fun bytes level => ?_
      rw [getElem?_foldl_insert, Std.TreeMap.getElem?_emptyc, Option.or_none,
        lastValue_eq_some_iff (one bytes), all]
      refine exists_congr fun database => and_congr_right fun _ => ?_
      unfold Accounts.rights
      by_cases there : accounts.databases database = true
      · rw [if_pos ⟨has, there⟩]
        exact and_iff_right there
      · rw [if_neg fun both => there both.2]
        exact iff_of_false (fun both => there both.1) fun same => by cases same
  | noRights missing received status plain =>
    obtain ⟨response, same, takes⟩ := understands.told_plain .users
      (createREQUEST env .get ("/_api/user/" ++ user.bytes ++ "/database/")) (listValue env ∅ read)
      plain received
    have elsewhere : ¬ response.statusCode = statusOK := same ▸ status
    refine ⟨∅, takes.trans (if_neg elsewhere), .rights fun bytes level => ?_⟩
    rw [Std.TreeMap.getElem?_emptyc]
    refine iff_of_false (fun none => by cases none) ?_
    rintro ⟨database, _, level⟩
    unfold Accounts.rights at level
    rw [missing, if_neg fun both => Bool.false_ne_true both.1] at level
    cases level

theorem atomic_existDatabase (database : SegmentName) (guarantees : ∀ now, guarantee now now) :
    (conduct env .users connectData (ArangoDBUsersAPI.existDatabase env database.bytes)).Atomic
      (Accounts.Answers env policy connectData) id rely guarantee
      ((AccountCall.existDatabase database).Does env races)
      (fun answer result => answer.Agrees (result.map .flag)) accounts := by
  have carried : accountInterface.Carried env policy (.probe database)
      (createREQUEST env .get ("/_db/" ++ database.bytes ++ "/_api/database/current")) :=
    carried_bare (Or.inl rfl) rfl
  exact Rules.Reads.atomic understands carried ⟨by rintro _ _ _ ⟨⟩, by rintro _ ⟨⟩⟩
    (fun accounts reply tells => ⟨_, told_existDatabase understands tells _, .flag _⟩) guarantees
    accounts

theorem atomic_existUser (name : SegmentName) (guarantees : ∀ now, guarantee now now) :
    (conduct env .users connectData (ArangoDBUsersAPI.existUser env name.bytes)).Atomic
      (Accounts.Answers env policy connectData) id rely guarantee
      ((AccountCall.existUser name).Does env races)
      (fun answer result => answer.Agrees (result.map .flag)) accounts := by
  have carried : accountInterface.Carried env policy (.user name)
      (createREQUEST env .get ("/_api/user/" ++ name.bytes)) := carried_bare (Or.inl rfl) rfl
  refine Rules.Reads.atomic understands carried ⟨by rintro _ _ _ ⟨⟩, by rintro _ ⟨⟩⟩
    (fun accounts reply tells => ⟨(accounts.users name).isSome, ?_, .flag _⟩) guarantees accounts
  cases tells with
  | known has status plain =>
    refine (understands.told_status .users _ (· == statusOK) (by rw [status]; decide)
      plain).trans ?_
    rw [has, status]
    rfl
  | noUser missing received status plain =>
    refine (understands.told_status .users _ (· == statusOK) received plain).trans ?_
    rw [missing]
    exact congrArg Except.ok (beq_eq_false_iff_ne.mpr status)

omit understands in
/-- A request is refused with a status that says so. -/
theorem bad_ne {status expected : StatusCode} (fine : badRequest expected = false)
    (bad : badRequest status = true) : (status != expected) = true := by
  refine bne_iff_ne.mpr fun same => ?_
  rw [same, fine] at bad
  cases bad

theorem atomic_removeUser (name : SegmentName)
    (guarantees : ∀ now reply after, Accounts.Serves env now (.dropUser name) reply after →
      guarantee now after) :
    (conduct env .users connectData (ArangoDBUsersAPI.removeUser env name.bytes)).Atomic
      (Accounts.Answers env policy connectData) id rely guarantee
      ((AccountCall.removeUser name).Does env races)
      (fun answer result => answer.Agrees (result.map fun _ => .nothing)) accounts := by
  have carried : accountInterface.Carried env policy (.dropUser name)
      (createREQUEST env .delete ("/_api/user/" ++ name.bytes)) := carried_bare (Or.inr rfl) rfl
  refine atomic_changed understands carried (by rintro _ _ ⟨⟩) ?_
    (fun status bad => bad_ne rfl bad) _
    (fun now answer after _ does => does) guarantees
  rintro accounts status after ⟨⟩
  exact ⟨rfl, by decide⟩

theorem atomic_grantUserToDataBase (database user : SegmentName) {level : Bytes} (utf8 : Utf8 level)
    (guarantees : ∀ now reply after,
      Accounts.Serves env now (.grant database user level) reply after → guarantee now after) :
    (conduct env .users connectData (ArangoDBUsersAPI.grantUserToDataBase env database.bytes
      user.bytes level)).Atomic (Accounts.Answers env policy connectData) id rely guarantee
      ((AccountCall.grantUserToDataBase database user level utf8).Does env races)
      (fun answer result => answer.Agrees (result.map fun _ => .nothing)) accounts := by
  unfold ArangoDBUsersAPI.grantUserToDataBase
  rw [exchangeQuery_eq]
  refine atomic_changed understands (carried_grant understands database user utf8)
    (by rintro _ _ ⟨⟩) ?_
    notOK_of_badRequest _ (fun now answer after _ does => does) guarantees
  rintro accounts status after ⟨⟩
  exact ⟨rfl, by decide⟩

theorem atomic_createUser (user : NamedUser)
    (guarantees : ∀ account now reply after,
      Accounts.Serves env now (.createUser user.name account) reply after → guarantee now after) :
    (conduct env .users connectData (ArangoDBUsersAPI.createUser env user.user)).Atomic
      (Accounts.Answers env policy connectData) id rely guarantee
      ((AccountCall.createUser user).Does env races)
      (fun answer result => answer.Agrees (result.map fun _ => .nothing)) accounts := by
  unfold ArangoDBUsersAPI.createUser
  rw [userData_eq understands, Dialogue.bind_eq, ofVpack_map_bind]
  refine atomic_parsed understands.lawful (fun account made => ?_)
    (fun exception made now _ => ?_) AccountAnswer.Agrees.refused
    (fun answer result agrees => agrees.translate _ _) fun account made => ?_
  · rw [exchangeQuery_eq]
    obtain ⟨read, _, carried⟩ := carried_createUser understands made
    exact asks_exchange carried.issued _
  · rw [AccountCall.Does, made]
    exact ⟨rfl, rfl⟩
  · rw [exchangeQuery_eq]
    obtain ⟨read, alike, carried⟩ := carried_createUser understands made
    refine atomic_changed understands carried (by rintro _ _ ⟨⟩) ?_
      (fun status bad => bad_ne rfl bad) _ (fun now answer after _ does => ?_) (guarantees read)
    · rintro accounts status after ⟨⟩
      exact ⟨rfl, by decide⟩
    · rw [AccountCall.Does, made]
      exact ⟨read, alike, does⟩

theorem atomic_updateUser (user : NamedUser)
    (guarantees : ∀ account now reply after,
      Accounts.Serves env now (.updateUser user.name account) reply after → guarantee now after) :
    (conduct env .users connectData (ArangoDBUsersAPI.updateUser env user.user)).Atomic
      (Accounts.Answers env policy connectData) id rely guarantee
      ((AccountCall.updateUser user).Does env races)
      (fun answer result => answer.Agrees (result.map fun _ => .nothing)) accounts := by
  unfold ArangoDBUsersAPI.updateUser
  rw [userData_eq understands, Dialogue.bind_eq, ofVpack_map_bind]
  refine atomic_parsed understands.lawful (fun account made => ?_)
    (fun exception made now _ => ?_) AccountAnswer.Agrees.refused
    (fun answer result agrees => agrees.translate _ _) fun account made => ?_
  · rw [exchangeQuery_eq]
    obtain ⟨read, _, carried⟩ := carried_updateUser understands made
    exact asks_exchange carried.issued _
  · rw [AccountCall.Does, made]
    exact ⟨rfl, rfl⟩
  · rw [exchangeQuery_eq]
    obtain ⟨read, alike, carried⟩ := carried_updateUser understands made
    refine atomic_changed understands carried (by rintro _ _ ⟨⟩) ?_
      notOK_of_badRequest _ (fun now answer after _ does => ?_) (guarantees read)
    · rintro accounts status after ⟨⟩
      exact ⟨rfl, by decide⟩
    · rw [AccountCall.Does, made]
      exact ⟨read, alike, does⟩

theorem atomic_removeDatabase (database : SegmentName)
    (keeps : ¬ races → ∀ now later, rely now later →
      later.databases database = now.databases database)
    (reads : ∀ now, guarantee now now)
    (guarantees : ∀ now reply after, Accounts.Serves env now (.dropDatabase database) reply after →
      guarantee now after) :
    (conduct env .users connectData (ArangoDBUsersAPI.removeDatabase env database.bytes)).Atomic
      (Accounts.Answers env policy connectData) id rely guarantee
      ((AccountCall.removeDatabase database).Does env races)
      (fun answer result => answer.Agrees (result.map fun _ => .nothing)) accounts := by
  refine atomic_existDatabase_bind understands database reads (fun now => ?_) accounts
  cases has : now.databases database with
  | false =>
    refine Or.inl ⟨.done, ?_, .done⟩
    rw [AccountCall.Does, has, if_neg Bool.false_ne_true]
    exact ⟨Or.inl rfl, rfl⟩
  | true =>
    have carried : accountInterface.Carried env policy (.dropDatabase database)
        (createREQUEST env .delete ("/_api/database/" ++ database.bytes)) :=
      carried_bare (Or.inr rfl) rfl
    refine Or.inr (atomic_changed understands carried (by rintro _ _ ⟨⟩) ?_ notOK_of_badRequest _
      (fun later answer after borne does => ?_) guarantees)
    · rintro accounts status after ⟨⟩
      exact ⟨rfl, by decide⟩
    · rw [AccountCall.Does]
      by_cases there : later.databases database = true
      · rw [if_pos there]
        exact does
      · rw [if_neg there]
        have raced : races := by
          by_contra alone
          exact there ((keeps alone _ _ borne).trans has)
        rcases does with ⟨_, _, changes⟩ | ⟨refused, _, same⟩
        · cases changes with
          | dropDatabase found kept => exact absurd found there
        · exact ⟨Or.inr ⟨raced, refused⟩, same⟩

theorem atomic_createDatabase (database : SegmentName) (users : List NamedUser)
    (keeps : ¬ races → ∀ now later, rely now later →
      later.databases database = now.databases database)
    (reads : ∀ now, guarantee now now)
    (guarantees : ∀ listed now reply after,
      Accounts.Serves env now (.createDatabase database listed) reply after →
        guarantee now after) :
    (conduct env .users connectData (ArangoDBUsersAPI.createDatabase env database.bytes
      (users.map NamedUser.user))).Atomic (Accounts.Answers env policy connectData) id rely
      guarantee ((AccountCall.createDatabase database users).Does env races)
      (fun answer result => answer.Agrees (result.map fun _ => .nothing)) accounts := by
  unfold ArangoDBUsersAPI.createDatabase
  rw [usersData_eq understands]
  simp only [Dialogue.bind_eq, ofVpack_map_bind]
  refine atomic_existDatabase_bind understands database reads (fun now => ?_) accounts
  cases has : now.databases database with
  | true =>
    refine Or.inl ⟨.done, ?_, .done⟩
    rw [AccountCall.Does, has, if_pos rfl]
    exact ⟨Or.inl rfl, rfl⟩
  | false =>
    have raced : ∀ later, rely now later → later.databases database = true → races := by
      intro later borne there
      by_contra alone
      rw [keeps alone _ _ borne, has] at there
      exact Bool.false_ne_true there
    refine Or.inr (atomic_parsed understands.lawful (fun listed made => ?_)
      (fun exception made later borne => ?_) AccountAnswer.Agrees.refused
      (fun answer result agrees => agrees.translate _ _) fun listed made => ?_)
    · rw [exchangeQuery_eq]
      obtain ⟨read, _, carried⟩ := carried_createDatabase understands database made
      exact asks_exchange carried.issued _
    · rw [id, AccountCall.Does]
      by_cases there : later.databases database = true
      · rw [if_pos there]
        exact ⟨Or.inr ⟨raced later borne there, rfl⟩, rfl⟩
      · rw [if_neg there, made]
        exact ⟨rfl, rfl⟩
    · rw [exchangeQuery_eq]
      obtain ⟨read, alike, carried⟩ := carried_createDatabase understands database made
      refine atomic_changed understands carried (by rintro _ _ ⟨⟩) ?_
        (fun status bad => bad_ne rfl bad) _ (fun later answer after borne does => ?_)
        (guarantees read)
      · rintro accounts status after ⟨⟩
        exact ⟨rfl, by decide⟩
      · rw [AccountCall.Does]
        by_cases there : later.databases database = true
        · rw [if_pos there]
          rcases does with ⟨_, _, changes⟩ | ⟨refused, _, same⟩
          · cases changes with
            | createDatabase missing kept =>
              rw [missing] at there
              exact absurd there Bool.false_ne_true
          · exact ⟨Or.inr ⟨raced later borne there, refused⟩, same⟩
        · rw [if_neg there, made]
          exact ⟨read, alike, does⟩

end

/-! ### Clients that share the accounts -/

/-- The clients of a server, each of which makes one call after the other. -/
abbrev AccountSharing (env : Env) (policy : Policy) (connectData : ArangoDBConnection)
    {Client : Type} [DecidableEq Client] (may : Client → AccountCall → Prop) :
    Crowd Client Transmission Transfer Fault AccountReturned Accounts AccountCall →
      List (Event Client Fault AccountReturned AccountCall) →
      Crowd Client Transmission Transfer Fault AccountReturned Accounts AccountCall → Prop :=
  Crowd.Step may (fun call => conduct env .users connectData (call.program env))
    fun _ => Accounts.Answers env policy connectData

/-- The accounts, when every call is served in one instant. -/
abbrev SharedAccounts (env : Env) (races : Prop) (Client : Type) [DecidableEq Client] :
    Object Client Accounts AccountCall AccountAnswer →
      List (Event Client Fault AccountReturned AccountCall) →
      Object Client Accounts AccountCall AccountAnswer → Prop :=
  Object.Step (AccountCall.Does env races) AccountAnswer.Agrees

/-- A client may create or drop a database. -/
def Administers {Client : Type} (may : Client → AccountCall → Prop) (client : Client)
    (database : SegmentName) : Prop :=
  ∃ call, may client call ∧ call.changes = some database

/-- The databases that a client may create or drop are as they were. -/
def Accounts.Bears {Client : Type} (may : Client → AccountCall → Prop) (races : Prop)
    (client : Client) (now later : Accounts) : Prop :=
  ¬ races → ∀ database, Administers may client database →
    later.databases database = now.databases database

/-- A client creates and drops only databases that it may. -/
def Accounts.Spares {Client : Type} (may : Client → AccountCall → Prop) (client : Client)
    (now later : Accounts) : Prop :=
  ∀ database, ¬ Administers may client database →
    later.databases database = now.databases database

section

variable {Client : Type} {env : Env} {policy : Policy} {connectData : ArangoDBConnection}
  {races : Prop} {may : Client → AccountCall → Prop} {client : Client}
  (understands : policy.Understands env)

include understands

/-- Every call takes effect in one instant. -/
theorem atomic_accountCall (call : AccountCall) (allowed : may client call) (accounts : Accounts) :
    (conduct env .users connectData (call.program env)).Atomic
      (Accounts.Answers env policy connectData) id (Accounts.Bears may races client)
      (Accounts.Spares may client) (call.Does env races) AccountAnswer.Agrees accounts := by
  have reads : ∀ now, Accounts.Spares may client now now := fun now database _ => rfl
  have quiet : ∀ request : AccountRequest, request.database = none → ∀ now reply after,
      Accounts.Serves env now request reply after → Accounts.Spares may client now after := by
    intro request silent now reply after serves database _
    exact serves.keeps (by rw [silent]; exact fun same => by cases same)
  have changes : ∀ request : AccountRequest, request.database = call.changes →
      ∀ now reply after, Accounts.Serves env now request reply after →
        Accounts.Spares may client now after := by
    intro request about now reply after serves database others
    exact serves.keeps fun same => others ⟨call, allowed, about.symm.trans same⟩
  have keeps : ∀ database, call.changes = some database → ¬ races → ∀ now later,
      Accounts.Bears may races client now later →
        later.databases database = now.databases database :=
    fun database about alone now later bears => bears alone database ⟨call, allowed, about⟩
  cases call with
  | databaseNames => exact atomic_bind_done (atomic_databaseNames understands reads)
  | databaseNamesOf user => exact atomic_bind_done (atomic_databaseNamesOf understands user reads)
  | existDatabase database =>
    exact atomic_bind_done (atomic_existDatabase understands database reads)
  | createDatabase database users =>
    exact atomic_bind_done (atomic_createDatabase understands database users (keeps database rfl)
      reads fun listed => changes _ rfl)
  | removeDatabase database =>
    exact atomic_bind_done (atomic_removeDatabase understands database (keeps database rfl) reads
      (changes _ rfl))
  | existUser name => exact atomic_bind_done (atomic_existUser understands name reads)
  | createUser user =>
    exact atomic_bind_done (atomic_createUser understands user fun account => quiet _ rfl)
  | updateUser user =>
    exact atomic_bind_done (atomic_updateUser understands user fun account => quiet _ rfl)
  | removeUser name => exact atomic_bind_done (atomic_removeUser understands name (quiet _ rfl))
  | grantUserToDataBase database user grant utf8 =>
    exact atomic_bind_done (atomic_grantUserToDataBase understands database user utf8 (quiet _ rfl))
  | userNames => exact atomic_bind_done (atomic_userNames understands reads)

/-- Clients do not disturb each other, when no two of them create or drop the same database. -/
theorem accord_accounts
    (apart : races ∨ ∀ client other database, Administers may client database →
      Administers may other database → client = other) :
    Accord may (fun call => conduct env .users connectData (call.program env))
      (fun _ => Accounts.Answers env policy connectData) id (AccountCall.Does env races)
      AccountAnswer.Agrees (Accounts.Bears may races) (Accounts.Spares may) where
  refl _ _ _ _ _ := rfl
  trans _ _ _ _ early late alone database own :=
    (late alone database own).trans (early alone database own)
  bears client other differ _ _ spares alone database own :=
    spares database fun others =>
      differ ((apart.resolve_left alone) client other database own others)
  atomic _ call allowed accounts := atomic_accountCall understands call allowed accounts

variable [DecidableEq Client] {history : List (Event Client Fault AccountReturned AccountCall)}
  {accounts : Accounts}
  {crowd : Crowd Client Transmission Transfer Fault AccountReturned Accounts AccountCall}

/-- What any number of clients see of the databases and users, they could see if each call were
served in one instant between its start and its end. No call notices what others have done while it
was under way, unless two clients may create or drop the same database. -/
theorem accounts_linearizable
    (apart : races ∨ ∀ client other database, Administers may client database →
      Administers may other database → client = other)
    (run : Unfolds (AccountSharing env policy connectData may) (.start accounts) history crowd) :
    ∃ object, Unfolds (SharedAccounts env races Client) (.start accounts) history object ∧
      DoesAll (AccountCall.Does env races) ((object.log.map Prod.snd).map Prod.fst) accounts
        ((object.log.map Prod.snd).map Prod.snd) crowd.state ∧
      ∀ client, crowd.activity client = .idle →
        callsOf client history = (servedTo client object.log).map Prod.fst ∧
        List.Forall₂ AccountAnswer.Agrees ((servedTo client object.log).map Prod.snd)
          (resultsOf client history) :=
  (accord_accounts understands apart).tallies run

end

/-! ### Two clients -/

section

variable {env : Env} {policy : Policy} {connectData : ArangoDBConnection} {accounts : Accounts}
  (understands : policy.Understands env)

include understands

theorem plays_existDatabase {database : SegmentName} (has : accounts.databases database = true) :
    Plays (Accounts.Answers env policy connectData) (conduct env .users connectData
      (ArangoDBUsersAPI.existDatabase env database.bytes)) accounts (.ok true) accounts := by
  have tells : accounts.Tells env (.probe database) ⟨0, 200, [], []⟩ :=
    .current has (by decide) (by decide) (Or.inl rfl)
  have heard := @told_existDatabase env policy connectData understands database accounts _ tells
    (createREQUEST env .get ("/_db/" ++ database.bytes ++ "/_api/database/current"))
  rw [has] at heard
  rw [← heard]
  exact (@carried_bare env policy (.probe database) (Or.inl rfl) rfl).plays understands _
    fun sent sees =>
    Rules.answers_of_serves distinct_accountInterface sees (.told tells)

/-- A database that is there is dropped. -/
theorem plays_removeDatabase {database : SegmentName} (has : accounts.databases database = true) :
    Plays (Accounts.Answers env policy connectData) (conduct env .users connectData
      ((AccountCall.removeDatabase database).program env)) accounts (.ok .nothing)
      { accounts with databases := Function.update accounts.databases database false } := by
  have changes : accounts.Changes (.dropDatabase database) 200
      { accounts with databases := Function.update accounts.databases database false } :=
    .dropDatabase has fun _ _ _ => rfl
  have told := @Policy.Understands.told_demand env policy connectData understands
    accountInterface.dispatch
    (createREQUEST env .delete ("/_api/database/" ++ database.bytes)) ⟨0, 200, [], []⟩ notOK rfl
    (by decide) (Or.inl rfl) "Error when drop database: "
  have dropped : Plays (Accounts.Answers env policy connectData) (conduct env .users connectData
      (.exchange (createREQUEST env .delete ("/_api/database/" ++ database.bytes))
        (demand env notOK "Error when drop database: "))) accounts (.ok ())
      { accounts with databases := Function.update accounts.databases database false } := by
    rw [← told]
    exact (@carried_bare env policy (.dropDatabase database) (Or.inr rfl) rfl).plays understands _
      fun sent sees => Rules.answers_of_serves distinct_accountInterface sees
        (@Rules.Serves.changed _ _ (accountRules env) env accounts _ ⟨0, 200, [], []⟩ _ changes
          (Or.inl rfl))
  have shape : (AccountCall.removeDatabase database).program env =
      ((ArangoDBUsersAPI.existDatabase env database.bytes).bind fun exist =>
        if !exist then .done () else
          .exchange (createREQUEST env .delete ("/_api/database/" ++ database.bytes))
            (demand env notOK "Error when drop database: ")).bind fun _ => .done .nothing := rfl
  rw [shape, conduct_bind, conduct_bind]
  exact plays_bind_iff.mpr (Or.inl ⟨_, _, plays_bind_iff.mpr (Or.inl ⟨true, accounts,
    plays_existDatabase understands has, dropped⟩), plays_done_iff.mpr ⟨rfl, rfl⟩⟩)

end

/-- A client drops a database while another one asks whether it exists. -/
theorem accounts_linearizable_two :
    let database : SegmentName :=
      ⟨[0x64], ⟨['d'], rfl⟩, by decide, List.forall_mem_singleton.mpr (by decide), by decide,
        by decide⟩
    let env : Env := ⟨.printing [], true, true, [], false⟩
    let policy : Policy := ⟨fun body => some ((Velocypack.printing []).sliceAt body),
      fun _ _ _ _ => True⟩
    let accounts : Accounts := ⟨fun _ => true, fun _ => none, fun _ _ => none⟩
    let may : Bool → AccountCall → Prop := fun client call =>
      ∀ database, call.changes = some database → client = true
    let history : List (Event Bool Fault AccountReturned AccountCall) :=
      [.called true (.removeDatabase database), .called false (.existDatabase database),
        .returned false (.ok (.flag true)), .returned true (.ok .nothing)]
    ∃ crowd object,
      Unfolds (AccountSharing env policy .default may) (.start accounts) history crowd ∧
      Unfolds (SharedAccounts env False Bool) (.start accounts) history object ∧
      DoesAll (AccountCall.Does env False) ((object.log.map Prod.snd).map Prod.fst) accounts
        ((object.log.map Prod.snd).map Prod.snd) crowd.state := by
  intro database env policy accounts may history
  have understands : policy.Understands env := understands_printing fun entry listed =>
    absurd listed List.not_mem_nil
  have probed : Plays (Accounts.Answers env policy .default) (conduct env .users .default
      ((AccountCall.existDatabase database).program env)) accounts (.ok (.flag true)) accounts := by
    rw [AccountCall.program, conduct_bind]
    exact plays_bind_iff.mpr (Or.inl ⟨true, accounts,
      @plays_existDatabase env policy .default accounts understands database rfl,
      plays_done_iff.mpr ⟨rfl, rfl⟩⟩)
  obtain ⟨crowd, run, _, _⟩ := Crowd.exists_overlapping may
    (fun call : AccountCall => conduct env .users .default (call.program env))
    (fun _ => Accounts.Answers env policy .default) (Bool.noConfusion : true ≠ false)
    (fun _ _ => rfl) (fun other changes => by cases changes) probed
    (@plays_removeDatabase env policy .default accounts understands database rfl)
  obtain ⟨object, served, done, _⟩ := @accounts_linearizable Bool env policy .default False may
    understands _ history accounts crowd (Or.inr fun client other database own others => by
      obtain ⟨call, allowed, changes⟩ := own
      obtain ⟨callToo, allowedToo, changesToo⟩ := others
      exact (allowed database changes).trans (allowedToo database changesToo).symm) run
  exact ⟨crowd, object, run, served, done⟩

end ArangoCpp
