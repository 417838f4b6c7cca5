/-
This file translates the connection data: a user, a connection, and the comparison that the
client makes between two of them. The comparison does not look at the password, nor at the
`active` flag and the extra data of the user.
-/

import ArangoCpp.Text

namespace ArangoCpp

structure ArangoDBUser where
  name : Bytes
  password : Bytes
  access : Bytes
  active : Bool
  extra : Bytes

namespace ArangoDBUser

/-- The constructor, with the default access, activity and extra data. -/
def new (theUser thePasswd : Bytes) : ArangoDBUser := ⟨theUser, thePasswd, "rw", true, []⟩

/-- The default constructor. -/
def default : ArangoDBUser := ⟨"root", [], "rw", true, []⟩

/-- `operator==`. -/
instance : BEq ArangoDBUser where
  beq lhs rhs := lhs.name == rhs.name && lhs.access == rhs.access

end ArangoDBUser

structure ArangoDBConnection where
  serverUrl : Bytes
  databaseName : Bytes
  user : ArangoDBUser

namespace ArangoDBConnection

def localServerEndpoint : Bytes := "http://localhost:8529"
def localServerDatabase : Bytes := "_system"

/-- The constructor. -/
def new (theURL theUser thePasswd theDBname : Bytes) : ArangoDBConnection :=
  ⟨theURL, theDBname, .new theUser thePasswd⟩

/-- The default constructor: the local server as its root user. -/
def default : ArangoDBConnection := ⟨localServerEndpoint, localServerDatabase, .default⟩

/-- `operator==`. -/
instance : BEq ArangoDBConnection where
  beq lhs rhs := lhs.serverUrl == rhs.serverUrl && lhs.user == rhs.user &&
    lhs.databaseName == rhs.databaseName

def fullHost (connection : ArangoDBConnection) : Bytes :=
  connection.serverUrl ++ "/_db/" ++ connection.databaseName

def fullURL (localpath : Bytes) (connection : ArangoDBConnection) : Bytes :=
  connection.fullHost ++ localpath

/-- What the comparison of two connections looks at. -/
theorem beq_iff (lhs rhs : ArangoDBConnection) :
    (lhs == rhs) = true ↔ lhs.serverUrl = rhs.serverUrl ∧ lhs.databaseName = rhs.databaseName ∧
      lhs.user.name = rhs.user.name ∧ lhs.user.access = rhs.user.access := by
  show (lhs.serverUrl == rhs.serverUrl && (lhs.user.name == rhs.user.name &&
    lhs.user.access == rhs.user.access) && lhs.databaseName == rhs.databaseName) = true ↔ _
  simp only [Bool.and_eq_true, beq_iff_eq]
  tauto

end ArangoDBConnection

end ArangoCpp
