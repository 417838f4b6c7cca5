/-
This file translates `ArangoDBUsersAPI`: databases, users and their rights. Its requests go
to the server without a database in the URL.
-/

import ArangoCpp.Response

namespace ArangoCpp

namespace ArangoDBUsersAPI

variable (env : Env)

def title : Bytes := "ArangoDBUsersAPI"

/-! ### Databases -/

def databaseNames : Api StringSet :=
  .exchange (createREQUEST env .get "/_api/database") <| listValue env ∅ fun slice =>
    slice.get "result" >>= insertNames Slice.copyString

/-- `databaseNames` of a user: the privilege for each database. -/
def databaseNamesOf (user : Bytes) : Api StringMap :=
  .exchange (createREQUEST env .get ("/_api/user/" ++ user ++ "/database/")) <|
    listValue env ∅ fun slice => do
      let collst ← slice.get "result"
      let numb ← collst.length
      (List.range numb).foldlM (fun (dbnames : StringMap) ii => do
        let key ← collst.keyAt ii >>= Slice.copyString
        let value ← collst.valueAt ii >>= Slice.copyString
        return dbnames.insert key value) ∅

def existDatabase (dbname : Bytes) : Api Bool :=
  .exchange (createREQUEST env .get ("/_db/" ++ dbname ++ "/_api/database/current"))
    fun result => return result.statusCode != statusNotFound

/-- The members that describe a user: the password, the activity, and the extra data if any. -/
def userData (user : ArangoDBUser) : Except VpackException (List (Bytes × Slice)) :=
  let required := [(text "passwd", Slice.string user.password), (text "active", .bool user.active)]
  if user.extra ≠ [] then do
    let data ← env.vpack.fromJson parseOptions user.extra
    return required ++ [(text "extra", data)]
  else return required

/-- The users of a new database; there is no such member when there are none. -/
def usersData (users : List ArangoDBUser) : Except VpackException (List (Bytes × Slice)) :=
  if users = [] then return []
  else do
    let listed ← users.mapM fun user => do
      let data ← userData env user
      return Slice.object (("username", .string user.name) :: data)
    return [("users", .array listed)]

def createDatabase (dbname : Bytes) (users : List ArangoDBUser) : Api Unit := do
  if ← existDatabase env dbname then return
  else
    catchVelocypack env title 41 do
      let listed ← .ofExcept (ofVpack (usersData env users))
      exchangeQuery env .post "/_api/database" (.object (("name", .string dbname) :: listed))
        (demand env (· != statusCreated) "Error when create database: ")

def removeDatabase (dbname : Bytes) : Api Unit := do
  if !(← existDatabase env dbname) then return
  else
    .exchange (createREQUEST env .delete ("/_api/database/" ++ dbname))
      (demand env notOK "Error when drop database: ")

/-! ### Users -/

def existUser (username : Bytes) : Api Bool :=
  .exchange (createREQUEST env .get ("/_api/user/" ++ username)) fun result =>
    return result.statusCode == statusOK

def createUser (user : ArangoDBUser) : Api Unit :=
  catchVelocypack env title 41 do
    let data ← .ofExcept (ofVpack (userData env user))
    exchangeQuery env .post "/_api/user" (.object (("user", .string user.name) :: data))
      (demand env (· != statusCreated) "Error when create user: ")

def updateUser (user : ArangoDBUser) : Api Unit :=
  catchVelocypack env title 41 do
    let data ← .ofExcept (ofVpack (userData env user))
    exchangeQuery env .patch ("/_api/user/" ++ user.name) (.object data)
      (demand env notOK "Error when update user data: ")

def removeUser (username : Bytes) : Api Unit :=
  .exchange (createREQUEST env .delete ("/_api/user/" ++ username))
    (demand env (· != statusAccepted) "Error when drop user: ")

def grantUserToDataBase (dbname username grant : Bytes) : Api Unit :=
  exchangeQuery env .put ("/_api/user/" ++ username ++ "/database/" ++ dbname)
    (.object [("grant", .string grant)]) (demand env notOK "Error when grant user: ")

def userNames : Api StringSet :=
  .exchange (createREQUEST env .get "/_api/user/") <| listValue env ∅ fun slice =>
    slice.get "result" >>= insertNames fun user => user.get "user" >>= Slice.copyString

end ArangoDBUsersAPI

/-! ### What is said of users -/

/-- What is made of each item of a list has what each of them is made with. -/
theorem forall_of_mapM {Error First Second : Type} {make : First → Except Error Second}
    {property : Second → Prop} {items : List First}
    (each : ∀ item ∈ items, ∀ value, make item = .ok value → property value)
    {values : List Second} (made : items.mapM make = .ok values) :
    ∀ value ∈ values, property value := by
  induction items generalizing values with
  | nil =>
    cases made
    exact fun value listed => absurd listed List.not_mem_nil
  | cons item items inductionHypothesis =>
    rw [List.mapM_cons] at made
    obtain ⟨first, one, made⟩ := bind_eq_ok_iff.mp made
    obtain ⟨rest, more, same⟩ := bind_eq_ok_iff.mp made
    cases same
    obtain ⟨here, there⟩ := List.forall_mem_cons.mp each
    exact List.forall_mem_cons.mpr ⟨here _ one, inductionHypothesis there more⟩

section

variable {env : Env} {holds : Bytes × Slice → Prop}

/-- What holds of the password, the activity and the extra data holds of what describes a user. -/
theorem forall_userData {user : ArangoDBUser} {data : List (Bytes × Slice)}
    (password : holds (text "passwd", .string user.password))
    (active : holds (text "active", .bool user.active))
    (extra : ∀ value, env.vpack.fromJson parseOptions user.extra = .ok value →
      holds (text "extra", value))
    (described : ArangoDBUsersAPI.userData env user = .ok data) :
    ∀ member ∈ data, holds member := by
  unfold ArangoDBUsersAPI.userData at described
  split at described
  · obtain ⟨value, parsed, same⟩ := bind_eq_ok_iff.mp described
    cases same
    simp [password, active, extra value parsed]
  · cases described
    simp [password, active]

/-- What holds of a list of whatever describes each user holds of the users of a new database. -/
theorem forall_usersData {users : List ArangoDBUser} {data : List (Bytes × Slice)}
    {item : Slice → Prop} (list : ∀ items, (∀ value ∈ items, item value) →
      holds (text "users", .array items))
    (each : ∀ user ∈ users, ∀ described, ArangoDBUsersAPI.userData env user = .ok described →
      item (.object (("username", .string user.name) :: described)))
    (described : ArangoDBUsersAPI.usersData env users = .ok data) :
    ∀ member ∈ data, holds member := by
  unfold ArangoDBUsersAPI.usersData at described
  split at described
  · cases described
    exact fun member listed => absurd listed List.not_mem_nil
  · obtain ⟨listed, made, same⟩ := bind_eq_ok_iff.mp described
    cases same
    refine List.forall_mem_singleton.mpr (list listed (forall_of_mapM ?_ made))
    intro user inList value formed
    obtain ⟨data, described, same⟩ := bind_eq_ok_iff.mp formed
    cases same
    exact each user inList data described

/-- The values that describe users are represented. -/
theorem represented_userData (lawful : env.vpack.Lawful) {user : ArangoDBUser}
    {data : List (Bytes × Slice)} (described : ArangoDBUsersAPI.userData env user = .ok data) :
    ∀ member ∈ data, member.2.Represented :=
  forall_userData (.string _) (.bool _) (fun value parsed => lawful.represented _ _ value parsed)
    described

theorem represented_usersData (lawful : env.vpack.Lawful) {users : List ArangoDBUser}
    {data : List (Bytes × Slice)} (described : ArangoDBUsersAPI.usersData env users = .ok data) :
    ∀ member ∈ data, member.2.Represented := by
  have each : ∀ user ∈ users, ∀ described, ArangoDBUsersAPI.userData env user = .ok described →
      (Slice.object (("username", .string user.name) :: described)).Represented := by
    intro user _ described made
    simp only [Slice.represented_object_iff, List.forall_mem_cons]
    exact ⟨.string _, represented_userData lawful made⟩
  exact forall_usersData (fun items each => .array each) each described

end

end ArangoCpp
