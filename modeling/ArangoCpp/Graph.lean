/-
This file translates `ArangoDBGraphAPI`: graphs, their collections, and the records in them.
The operations on records differ from those on documents in the path and in the member of
the response that holds the record.
-/

import ArangoCpp.Response

namespace ArangoCpp

namespace ArangoDBGraphAPI

variable (env : Env)

def title : Bytes := "ArangoDBGraphAPI"

/-- `status > StatusAccepted`. -/
def notAccepted (status : StatusCode) : Bool := status > statusAccepted

/-! ### Graphs -/

def graphPath (graphname : Bytes) : Bytes := "/_api/gharial/" ++ graphname

def existGraph (graphname : Bytes) : Api Bool :=
  .exchange (createREQUEST env .get (graphPath graphname)) fun result =>
    return result.statusCode != statusNotFound

def graphNames : Api StringSet :=
  .exchange (createREQUEST env .get "/_api/gharial") <| listValue env ∅ fun slice =>
    slice.get "graphs" >>= insertNames fun graph => graph.get "_key" >>= Slice.copyString

/-- The text of the exception when the server refuses a new graph. -/
def refusedGraph : Bytes :=
  text "This can occur either if a graph with this name is already stored," ++
    text "or if there is one edge definition with a the same edge collection but a different " ++
    text "signature used in any other graph."

def createGraph (graphname edgeDefinitions : Bytes) : Api Unit := do
  if ← existGraph env graphname then return
  else
    catchVelocypack env title 31 do
      let data ← .ofExcept (ofVpack (env.vpack.fromJson parseOptions edgeDefinitions))
      exchangeQuery env .post "/_api/gharial"
        (.object [("name", .string graphname), ("edgeDefinitions", data)]) fun result =>
          if notAccepted result.statusCode then arangoThrow title 32 refusedGraph else .ok ()

def removeGraph (graphname : Bytes) (dropCollections : Bool) : Api Unit := do
  if !(← existGraph env graphname) then return
  else
    let rqstr := graphPath graphname ++ if dropCollections then text "?dropCollections=true" else []
    .exchange (createREQUEST env .delete rqstr) (demand env notAccepted "Error when drop graph: ")

def graphCollectionNames (graphname colltype : Bytes) : Api StringSet :=
  .exchange (createREQUEST env .get (graphPath graphname ++ "/" ++ colltype)) <|
    listValue env ∅ fun slice => slice.get "collections" >>= insertNames Slice.copyString

def addVertexGraph (graphname collname : Bytes) : Api Unit :=
  exchangeQuery env .post (graphPath graphname ++ "/vertex")
    (.object [("collection", .string collname)])
    (demand env badRequest "Error when add collection: ")

def addEdgeGraph (graphname edgeDefinition : Bytes) : Api Unit :=
  catchVelocypack env title 31 do
    let data ← .ofExcept (ofVpack (env.vpack.fromJson parseOptions edgeDefinition))
    exchangeQuery env .post (graphPath graphname ++ "/edge") data
      (demand env badRequest "Error create edge: ")

/-! ### Records -/

/-- The path of a record, or of the collection that a new record goes into. -/
def recordPath (graphname colltype rid : Bytes) : Bytes :=
  graphPath graphname ++ "/" ++ colltype ++ "/" ++ rid

/-- `readRecord`, which returns the text that it reads. -/
def readRecord (graphname colltype collname documentHandle : Bytes) : Api Bytes :=
  .exchange (createREQUEST env .get
      (recordPath graphname colltype (getId collname documentHandle)))
    (takeValue env notOK "Error when try load record: " fun slice =>
      slice.get colltype >>= env.vpack.toJson dumpOptions)

def createRecord (graphname colltype collname jsonrec : Bytes) : Api Bytes :=
  writeDocument env title 31 .post (recordPath graphname colltype collname) jsonrec
    "Error when try create record: " fun slice => do
      let record ← slice.get colltype
      record.get "_id" >>= Slice.copyString

def updateRecord (graphname colltype collname documentHandle jsonrec : Bytes) : Api Bytes :=
  writeDocument env title 31 .put
    (recordPath graphname colltype (getId collname documentHandle)) jsonrec
    "Error when try save record: " fun slice => do
      let record ← slice.get colltype
      record.get "_id" >>= Slice.copyString

def deleteRecord (graphname colltype collname documentHandle : Bytes) : Api Bool := do
  .exchange (createREQUEST env .delete
      (recordPath graphname colltype (getId collname documentHandle)))
    (demand env badRequest "Error when try remove record: ")
  return true

end ArangoDBGraphAPI

end ArangoCpp
