/-
This file translates `ArangoDBCollectionAPI`: collections, documents, queries with their
cursors, and the removal of documents.

An operation is a program over `sendREQUEST`. A callback that is run for every document is
a function on a state of the caller's choosing. The loop that reads a cursor stands twice
in the source, for documents and for documents with their identifiers; here it is one loop
that is given how to read a batch. Its length is the server's choice, so it is unrolled a
given number of turns.
-/

import ArangoCpp.Query
import ArangoCpp.Response

namespace ArangoCpp

namespace ArangoDBCollectionAPI

variable (env : Env)

def title : Bytes := "ArangoDBCollectionAPI"

/-! ### Collections -/

/-- `existCollection`. The status 5 is that of a deleted collection. -/
def existCollection (collname : Bytes) : Api Bool :=
  .exchange (createREQUEST env .get ("/_api/collection/" ++ collname)) fun result => do
    if result.statusCode = statusNotFound then return false
    else
      let slice ← result.front env
      let status ← ofVpack (slice.get "status" >>= Slice.getInt)
      return toInt32 status != 5

def createCollection (collname ctype : Bytes) : Api Unit := do
  if ← existCollection env collname then return
  else
    let type := if ctype = "edge" then [(text "type", Slice.int 3)] else []
    exchangeQuery env .post "/_api/collection" (.object (("name", .string collname) :: type))
      (demand env notOK "Error when create collection: ")

def dropCollection (collname : Bytes) : Api Unit := do
  if !(← existCollection env collname) then return
  else
    .exchange (createREQUEST env .delete ("/_api/collection/" ++ collname))
      (demand env notOK "Error when try drop collection: ")

/-- The body of the loop of `collectionNames`. -/
def addCollection (ctype : CollectionTypes) (collection : Slice) (collnames : StringSet) :
    Except VpackException StringSet := do
  let isType (kind : CollectionTypes) (code : Int) : Except VpackException Bool :=
    if ctype.and kind then do
      let type ← collection.get "type" >>= Slice.getInt
      return type == code
    else return false
  if ← collection.get "isSystem" >>= Slice.getBool then return collnames
  else if ← isType .vertex 2 then
    return collnames.insert (← collection.get "name" >>= Slice.copyString)
  else if ← isType .edge 3 then
    return collnames.insert (← collection.get "name" >>= Slice.copyString)
  else return collnames

def collectionNames (ctype : CollectionTypes) : Api StringSet :=
  .exchange (createREQUEST env .get "/_api/collection") <| listValue env ∅ fun slice => do
    let collst ← slice.get "result"
    let numb ← collst.length
    (List.range numb).foldlM (fun collnames ii => do
      let collection ← collst.itemAt ii
      addCollection ctype collection collnames) ∅

/-! ### Documents -/

/-- `readDocument`, which returns the text that it reads. -/
def readDocument (collname key : Bytes) : Api Bytes :=
  .exchange (createREQUEST env .get ("/_api/document/" ++ getId collname key))
    (takeValue env notOK "Error when try load record: " (env.vpack.toJson dumpOptions))

def createDocument (collname jsonrec : Bytes) : Api Bytes :=
  writeDocument env title 11 .post ("/_api/document/" ++ collname) jsonrec
    "Error when try create record: " fun slice => slice.get "_id" >>= Slice.copyString

def updateDocument (collname key jsonrec : Bytes) : Api Bytes :=
  writeDocument env title 11 .put ("/_api/document/" ++ getId collname key) jsonrec
    "Error when try save record: " fun slice => slice.get "_id" >>= Slice.copyString

def deleteDocument (collname key : Bytes) : Api Bool := do
  .exchange (createREQUEST env .delete ("/_api/document/" ++ getId collname key))
    (demand env badRequest "Error when try remove record: ")
  return true

def existsDocument (collname key : Bytes) : Api Bool :=
  .exchange (createREQUEST env .head ("/_api/document/" ++ getId collname key)) fun result =>
    return result.statusCode == statusOK

/-! ### Requests for documents -/

def createSimpleAllRequest (batchSize : Int32) (collname : Bytes) : Except Fault HttpMessage :=
  (createREQUEST env .put "/_api/simple/all").addVPack env (env.vpack.build
    (.object [("collection", .string collname), ("batchSize", .int batchSize.toInt)]))

/-- The handler of the functions that build a request. -/
def throwVelocypack {Value : Type} : Except Fault Value → Except Fault Value
  | .error (.velocypack exception) =>
    arangoThrow title 11 ("Velocypack error: " ++ env.vpack.what exception)
  | result => result

def createByExampleRequest (batchSize : Int32) (collname jsontempl : Bytes) :
    Except Fault HttpMessage :=
  throwVelocypack env do
    let data ← ofVpack (env.vpack.fromJson parseOptions jsontempl)
    (createREQUEST env .put "/_api/simple/by-example").addVPack env (env.vpack.build
      (.object [("collection", .string collname), ("example", data),
        ("batchSize", .int batchSize.toInt)]))

/-- The text of an AQL query. The clause that returns the fields is added unless the text says
`RETURN` somewhere. -/
def aqlQuery (query : ArangoDBQuery) : Bytes :=
  if (Text.find (text "RETURN") query.findCondition).isNone then
    query.findCondition ++ query.generateRETURN false "u"
  else query.findCondition

/-- The bind parameters of an AQL query, and the size of the batches. Twice the size is an `int` in
the source, whose value is not defined where it does not fit. -/
def bindVarsData (batchSize : Int32) (query : ArangoDBQuery) :
    Except VpackException (List (Bytes × Slice)) :=
  if query.bindVars ≠ [] then do
    let data ← env.vpack.fromJson parseOptions query.bindVars
    return [("bindVars", data), ("batchSize", .int (batchSize.toInt * 2))]
  else return [("batchSize", .int batchSize.toInt)]

/-- The options of an AQL query. -/
def optionsData (query : ArangoDBQuery) : Except VpackException (List (Bytes × Slice)) :=
  if query.queryOptions ≠ [] then do
    let data ← env.vpack.fromJson parseOptions query.queryOptions
    return [("options", data)]
  else return []

def createAQLRequest (batchSize : Int32) (query : ArangoDBQuery) : Except Fault HttpMessage :=
  throwVelocypack env do
    let bindVars ← ofVpack (bindVarsData env batchSize query)
    let options ← ofVpack (optionsData env query)
    (createREQUEST env .post "/_api/cursor").addVPack env (env.vpack.build
      (.object (("query", .string (aqlQuery query)) :: ("count", .bool true) ::
        (bindVars ++ options))))

/-- The edge collections of a query that names none: all that exist, or those of the list of
the process that exist. -/
def existingEdges (edgesexist : StringSet) : List Bytes :=
  if env.fullListOfEdges = [] then edgesexist.toList
  else Detail.getSubset env.fullListOfEdges edgesexist

/-- One edge collection behind those before it. -/
def addEdges (edgeCollections edgecoll : Bytes) : Bytes :=
  (if edgeCollections = [] then [] else edgeCollections ++ text ", ") ++ edgecoll

/-- The direction keyword of an edge query, with the opening quote. -/
def direction : QueryType → Except Fault Bytes
  | .edgesAll => .ok "ANY '"
  | .edgesFrom => .ok "OUTBOUND '"
  | .edgesTo => .ok "INBOUND '"
  | _ => arangoThrow title 19 "Illegal query type"

/-- The edge collections of a query: those that it names, or else those that exist. -/
def edgeCollectionsOr (edgeCollectionsdefault : Bytes) : Api Bytes :=
  if edgeCollectionsdefault = [] then do
    let edgesexist ← collectionNames env .edge
    return (existingEdges env edgesexist).foldl addEdges []
  else return edgeCollectionsdefault

def queryEdgesToFrom (atype : QueryType) (startVertex edgeCollectionsdefault : Bytes) :
    Api ArangoDBQuery := do
  let edgeCollections ← edgeCollectionsOr env edgeCollectionsdefault
  let keyword ← .ofExcept (direction atype)
  return .new ("FOR v,e IN 1..1 " ++ keyword ++ startVertex ++ "' \n" ++ edgeCollections ++
    ArangoDBQuery.generateRETURNOf true ∅ "e") .aql

/-- The start vertex and the edge collections that an edge query names. -/
def edgeQuery (query : ArangoDBQuery) : Except Fault (Bytes × Bytes) :=
  throwVelocypack env <| ofVpack do
    let slice ← env.vpack.fromJson parseOptions query.findCondition
    let slicelabel ← slice.get "edgeCollections"
    let edgeCollections ← if slicelabel.isNone then pure [] else slicelabel.copyString
    let startVertex ← slice.get "startVertex" >>= Slice.copyString
    return (startVertex, edgeCollections)

def createEdgeRequest (batchSize : Int32) (query : ArangoDBQuery) : Api HttpMessage := do
  let (startVertex, edgeCollections) ← .ofExcept (edgeQuery env query)
  let querytofrom ← queryEdgesToFrom env query.queryType startVertex edgeCollections
  .ofExcept (createAQLRequest env batchSize querytofrom)

/-! ### Reading documents -/

variable {State : Type}

/-- `extractData`: the callback is given the text of every document. -/
def extractData (setfnc : State → Bytes → State) (state : State) (sresult : Slice) :
    Except VpackException State := do
  let numb ← sresult.length
  (List.range numb).foldlM (fun state ii => do
    let item ← sresult.itemAt ii
    let jsondata ← env.vpack.toJson dumpOptions item
    return setfnc state jsondata) state

/-- `extractData` for a callback that is given the identifiers too. -/
def extractDataId (setfnc : State → Bytes → Bytes → State) (state : State) (sresult : Slice) :
    Except VpackException State := do
  let numb ← sresult.length
  (List.range numb).foldlM (fun state ii => do
    let item ← sresult.itemAt ii
    let id ← item.get "_id" >>= Slice.copyString
    let jsondata ← env.vpack.toJson dumpOptions item
    return setfnc state jsondata id) state

/-- Where a cursor stands: the latest batch, whether there are more, and the caller's state. -/
structure Cursor (State : Type) where
  slice : Slice
  hasMore : Bool
  state : State

/-- Take a batch from a response. -/
def readBatch (extract : State → Slice → Except VpackException State) (state : State)
    (result : HttpMessage) : Except Fault (Cursor State) := do
  let slice ← result.front env
  let hasMore ← ofVpack (slice.get "hasMore" >>= Slice.getBool)
  let queryResult ← ofVpack (slice.get "result")
  let state ← ofVpack (extract state queryResult)
  return ⟨slice, hasMore, state⟩

/-- The response to a request for a batch: a batch, or a failure, at which the reading ends
with what there is. -/
def nextBatch (extract : State → Slice → Except VpackException State) (state : State)
    (result : HttpMessage) : Except Fault (Cursor State ⊕ State) :=
  if badRequest result.statusCode then .ok (.inr state)
  else return .inl (← readBatch env extract state result)

/-- The loop over the batches of a cursor. -/
def cursorLoop (extract : State → Slice → Except VpackException State) (cursor : Cursor State) :
    Api (Cursor State ⊕ State) := do
  if cursor.hasMore then
    let id ← .ofExcept (ofVpack (cursor.slice.get "id" >>= Slice.copyString))
    .exchange (createREQUEST env .put ("/_api/cursor/" ++ id))
      (nextBatch env extract cursor.state)
  else return .inr cursor.state

/-- Send a request for documents, and read the batches of the response and of its cursor. -/
def readCursor (turns : Nat) (extract : State → Slice → Except VpackException State)
    (state : State) (request : HttpMessage) : Api State := do
  match ← .exchange request (nextBatch env extract state) with
  | .inl cursor => .iterate (cursorLoop env extract) turns cursor
  | .inr state => return state

/-- The request of a query. -/
def selectRequest (batchSize : Int32) (collname : Bytes) (query : ArangoDBQuery) :
    Api HttpMessage :=
  match query.queryType with
  | .template => .ofExcept (createByExampleRequest env batchSize collname query.findCondition)
  | .all => .ofExcept (createSimpleAllRequest env batchSize collname)
  | .edgesAll | .edgesFrom | .edgesTo => createEdgeRequest env batchSize query
  | .aql => .ofExcept (createAQLRequest env batchSize query)
  | .undef => .ofExcept (arangoThrow title 18 "Illegal query type ")

def selectQuery (batchSize : Int32) (turns : Nat) (collname : Bytes) (query : ArangoDBQuery)
    (setfnc : State → Bytes → State) (state : State) : Api State := do
  let request ← selectRequest env batchSize collname query
  readCursor env turns (extractData env setfnc) state request

/-- The request of `selectAll`. -/
def selectAllRequest (batchSize : Int32) (collname : Bytes) (queryFields : QueryFields) :
    Except Fault HttpMessage :=
  if queryFields.isEmpty then createSimpleAllRequest env batchSize collname
  else createAQLRequest env batchSize
    ((ArangoDBQuery.new ("FOR u IN " ++ collname) .aql).setQueryFields queryFields)

def selectAll (batchSize : Int32) (turns : Nat) (collname : Bytes) (queryFields : QueryFields)
    (setfnc : State → Bytes → Bytes → State) (state : State) : Api State := do
  let request ← .ofExcept (selectAllRequest env batchSize collname queryFields)
  readCursor env turns (extractDataId env setfnc) state request

def lookupByKeys (collname : Bytes) (keys : List Bytes) (setfnc : State → Bytes → State)
    (state : State) : Api State :=
  exchangeQuery env .put "/_api/simple/lookup-by-keys"
    (.object [("collection", .string collname), ("keys", .array (keys.map Slice.string))])
    fun result =>
      if badRequest result.statusCode then .ok state
      else do
        let slice ← result.front env
        ofVpack (slice.get "documents" >>= extractData env setfnc state)

/-- `collectQuery`, which leaves out the values that read `null`. -/
def collectQuery (batchSize : Int32) (turns : Nat) (collname fpath : Bytes) (values : List Bytes) :
    Api (List Bytes) :=
  selectQuery env batchSize turns collname
    (.new ("FOR doc IN " ++ collname ++ " RETURN DISTINCT doc." ++ fpath) .aql)
    (fun values jsondata => if jsondata ≠ "null" then values ++ [jsondata] else values) values

/-! ### Removing documents -/

/-- `removeByTemplate`. The number of removed documents is logged. -/
def removeByTemplate (collname jsontempl : Bytes) : Api Int :=
  catchVelocypack env title 11 do
    let data ← .ofExcept (ofVpack (env.vpack.fromJson parseOptions jsontempl))
    exchangeQuery env .put "/_api/simple/remove-by-example"
      (.object [("collection", .string collname), ("example", data)])
      (takeValue env badRequest "Error removeByExampleRequest: " fun slice =>
        slice.get "deleted" >>= Slice.getInt)

def removeEdges (collname vertexkey : Bytes) : Api Unit := do
  let vertexid := getId collname vertexkey
  let toTempl : Bytes := "\x7b\"_to\": \"" ++ vertexid ++ "\" \x7d"
  let fromTempl : Bytes := "\x7b\"_from\": \"" ++ vertexid ++ "\" \x7d"
  let edges ← collectionNames env .edge
  edges.toList.forM fun edgecoll => do
    let _ ← removeByTemplate env edgecoll toTempl
    let _ ← removeByTemplate env edgecoll fromTempl

/-- `removeByKeys`. The numbers of removed and of ignored documents are logged. -/
def removeByKeys (collname : Bytes) (ids : List Bytes) : Api (Int × Int) :=
  exchangeQuery env .put "/_api/simple/remove-by-keys"
    (.object [("collection", .string collname),
      ("keys", .array (ids.map fun id => .string (getKey collname id)))])
    (takeValue env badRequest "Error removeByKeys: " fun slice => do
      let removed ← slice.get "removed" >>= Slice.getInt
      let ignored ← slice.get "ignored" >>= Slice.getInt
      return (removed, ignored))

/-! ### The operations are orderly -/

variable {env}

theorem throwVelocypack_eq_ok_iff {Value : Type} {result : Except Fault Value} {value : Value} :
    throwVelocypack env result = .ok value ↔ result = .ok value := by
  unfold throwVelocypack
  split
  · exact iff_of_false (fun same => by cases same) fun same => by cases same
  · exact Iff.rfl

/-- What a request is that a value has been added to. -/
theorem issued_addVPack (lawful : env.vpack.Lawful) {verb : RestVerb} {path : Bytes}
    {query : Slice} (represented : query.Represented)
    (loaded : verb = .post ∨ verb = .put ∨ verb = .patch) {request : HttpMessage}
    (added : (createREQUEST env verb path).addVPack env (env.vpack.build query) = .ok request) :
    request.Issued env := by
  rw [addVPack_createREQUEST] at added
  cases added
  exact issued_createREQUESTWith lawful path represented loaded

/-- The sizes of batches are kept as integers, and so are the doubled ones. -/
theorem isWord_batchSize (batchSize : Int32) : IsWord batchSize.toInt := by
  have low := batchSize.le_toInt
  have high := batchSize.toInt_lt
  unfold IsWord
  omega

theorem isWord_batchSize_two (batchSize : Int32) : IsWord (batchSize.toInt * 2) := by
  have low := batchSize.le_toInt
  have high := batchSize.toInt_lt
  unfold IsWord
  omega

/-- The values of the requests for documents are represented. -/
theorem represented_all (collname : Bytes) (batchSize : Int32) :
    (Slice.object [("collection", .string collname),
      ("batchSize", .int batchSize.toInt)]).Represented := by
  simp [isWord_batchSize]

theorem represented_byExample (collname : Bytes) {data : Slice} (represented : data.Represented)
    (batchSize : Int32) : (Slice.object [("collection", .string collname), ("example", data),
      ("batchSize", .int batchSize.toInt)]).Represented := by
  simp [isWord_batchSize, represented]

theorem represented_bindVarsData (lawful : env.vpack.Lawful) {batchSize : Int32}
    {query : ArangoDBQuery} {bindVars : List (Bytes × Slice)}
    (bound : bindVarsData env batchSize query = .ok bindVars) :
    ∀ member ∈ bindVars, member.2.Represented := by
  unfold bindVarsData at bound
  split at bound
  · obtain ⟨data, parsed, made⟩ := bind_eq_ok_iff.mp bound
    cases made
    simp [lawful.represented _ _ data parsed, isWord_batchSize_two]
  · cases bound
    simp [isWord_batchSize]

theorem represented_optionsData (lawful : env.vpack.Lawful) {query : ArangoDBQuery}
    {options : List (Bytes × Slice)} (opted : optionsData env query = .ok options) :
    ∀ member ∈ options, member.2.Represented := by
  unfold optionsData at opted
  split at opted
  · obtain ⟨data, parsed, made⟩ := bind_eq_ok_iff.mp opted
    cases made
    simp [lawful.represented _ _ data parsed]
  · cases opted
    simp

/-- So are those of AQL queries. -/
theorem represented_aql (source : Bytes) {bindVars options : List (Bytes × Slice)}
    (bound : ∀ member ∈ bindVars, member.2.Represented)
    (opted : ∀ member ∈ options, member.2.Represented) :
    (Slice.object (("query", .string source) :: ("count", .bool true) ::
      (bindVars ++ options))).Represented := by
  refine .object fun member listed => ?_
  rcases List.mem_cons.mp listed with rfl | listed
  · exact .string source
  · rcases List.mem_cons.mp listed with rfl | listed
    · exact .bool true
    · exact (List.mem_append.mp listed).elim (bound member) (opted member)

theorem issued_createByExampleRequest (lawful : env.vpack.Lawful) {batchSize : Int32}
    {collname jsontempl : Bytes} {request : HttpMessage}
    (created : createByExampleRequest env batchSize collname jsontempl = .ok request) :
    request.Issued env := by
  obtain ⟨data, parsed, added⟩ := bind_eq_ok_iff.mp (throwVelocypack_eq_ok_iff.mp created)
  have represented := lawful.represented _ _ data (ofVpack_eq_ok_iff.mp parsed)
  exact issued_addVPack lawful (represented_byExample collname represented batchSize)
    (Or.inr (Or.inl rfl)) added

theorem issued_createAQLRequest (lawful : env.vpack.Lawful) {batchSize : Int32}
    {query : ArangoDBQuery} {request : HttpMessage}
    (created : createAQLRequest env batchSize query = .ok request) : request.Issued env := by
  obtain ⟨bindVars, bound, created⟩ := bind_eq_ok_iff.mp (throwVelocypack_eq_ok_iff.mp created)
  obtain ⟨options, opted, added⟩ := bind_eq_ok_iff.mp created
  have represented := represented_aql (aqlQuery query)
    (represented_bindVarsData lawful (ofVpack_eq_ok_iff.mp bound))
    (represented_optionsData lawful (ofVpack_eq_ok_iff.mp opted))
  exact issued_addVPack lawful represented (Or.inl rfl) added

theorem orderly_collectionNames (ctype : CollectionTypes) :
    Orderly env (collectionNames env ctype) := orderly_get _ _

theorem orderly_queryEdgesToFrom (atype : QueryType) (startVertex edgeCollections : Bytes) :
    Orderly env (queryEdgesToFrom env atype startVertex edgeCollections) := by
  refine Orderly.bind ?_ fun _ => (orderly_ofExcept _).bind fun _ => orderly_done _
  unfold edgeCollectionsOr
  split
  · exact (orderly_collectionNames .edge).bind fun _ => orderly_done _
  · exact orderly_done _

theorem orderly_createEdgeRequest (batchSize : Int32) (query : ArangoDBQuery) :
    Orderly env (createEdgeRequest env batchSize query) :=
  (orderly_ofExcept _).bind fun _ =>
    (orderly_queryEdgesToFrom _ _ _).bind fun _ => orderly_ofExcept _

theorem orderly_selectRequest (batchSize : Int32) (collname : Bytes) (query : ArangoDBQuery) :
    Orderly env (selectRequest env batchSize collname query) := by
  unfold selectRequest
  split
  · exact orderly_ofExcept _
  · exact orderly_ofExcept _
  · exact orderly_createEdgeRequest batchSize query
  · exact orderly_createEdgeRequest batchSize query
  · exact orderly_createEdgeRequest batchSize query
  · exact orderly_ofExcept _
  · exact orderly_ofExcept _

/-- The request of a query is one that the request objects are made for. -/
theorem returns_selectRequest (lawful : env.vpack.Lawful) (batchSize : Int32) (collname : Bytes)
    (query : ArangoDBQuery) :
    (selectRequest env batchSize collname query).Returns (HttpMessage.Issued env) := by
  have anything : ∀ {Value : Type} (program : Api Value), program.Returns fun _ => True :=
    Dialogue.returns_of_forall fun _ => trivial
  have aql : ∀ query, (Dialogue.ofExcept (createAQLRequest env batchSize query) :
      Api HttpMessage).Returns (HttpMessage.Issued env) := fun _ =>
    Dialogue.returns_ofExcept fun _ created => issued_createAQLRequest lawful created
  have edges : (createEdgeRequest env batchSize query).Returns (HttpMessage.Issued env) :=
    Dialogue.Returns.bind _ (anything _) fun _ _ =>
      Dialogue.Returns.bind _ (anything _) fun query _ => aql query
  unfold selectRequest
  split
  · exact Dialogue.returns_ofExcept fun _ created => issued_createByExampleRequest lawful created
  · exact Dialogue.returns_ofExcept fun _ created =>
      issued_addVPack lawful (represented_all collname batchSize) (Or.inr (Or.inl rfl)) created
  · exact edges
  · exact edges
  · exact edges
  · exact aql query
  · trivial

theorem orderly_readCursor (turns : Nat) (extract : State → Slice → Except VpackException State)
    (state : State) {request : HttpMessage} (issued : request.Issued env) :
    Orderly env (readCursor env turns extract state request) := by
  refine (orderly_exchange issued _).bind fun read => ?_
  cases read with
  | inr state => exact orderly_done state
  | inl cursor =>
    refine orderly_iterate (fun cursor => ?_) turns cursor
    unfold cursorLoop
    split
    · exact (orderly_ofExcept _).bind fun _ =>
        orderly_exchange (issued_createREQUEST _ (by simp)) _
    · exact orderly_done _

theorem orderly_selectQuery (lawful : env.vpack.Lawful) (batchSize : Int32) (turns : Nat)
    (collname : Bytes) (query : ArangoDBQuery) (setfnc : State → Bytes → State) (state : State) :
    Orderly env (selectQuery env batchSize turns collname query setfnc state) where
  asks := (orderly_selectRequest batchSize collname query).asks.bind_of_returns
    (returns_selectRequest lawful batchSize collname query)
    fun _ issued => (orderly_readCursor turns _ state issued).asks
  strict := (orderly_selectRequest batchSize collname query).strict.bind_of_returns
    (returns_selectRequest lawful batchSize collname query)
    fun _ issued => (orderly_readCursor turns _ state issued).strict

theorem orderly_selectAll (lawful : env.vpack.Lawful) (batchSize : Int32) (turns : Nat)
    (collname : Bytes) (queryFields : QueryFields) (setfnc : State → Bytes → Bytes → State)
    (state : State) :
    Orderly env (selectAll env batchSize turns collname queryFields setfnc state) := by
  unfold selectAll
  cases created : selectAllRequest env batchSize collname queryFields with
  | error fault => exact ⟨trivial, trivial⟩
  | ok request =>
    refine orderly_readCursor turns _ state ?_
    unfold selectAllRequest at created
    split at created
    · exact issued_addVPack lawful (represented_all collname batchSize) (Or.inr (Or.inl rfl))
        created
    · exact issued_createAQLRequest lawful created

theorem orderly_removeByTemplate (lawful : env.vpack.Lawful) (collname jsontempl : Bytes) :
    Orderly env (removeByTemplate env collname jsontempl) :=
  Orderly.catchVelocypack (orderly_ofExcept_bind fun data parsed => by
    have represented := lawful.represented _ _ data (ofVpack_eq_ok_iff.mp parsed)
    exact orderly_exchangeQuery lawful _ (by simp [represented]) _ (by simp)) title 11

theorem orderly_removeEdges (lawful : env.vpack.Lawful) (collname vertexkey : Bytes) :
    Orderly env (removeEdges env collname vertexkey) := by
  refine (orderly_collectionNames .edge).bind fun edges => ?_
  generalize edges.toList = remaining
  induction remaining with
  | nil => exact orderly_done ()
  | cons edgecoll remaining inductionHypothesis =>
    refine Orderly.bind ?_ fun _ => inductionHypothesis
    exact (orderly_removeByTemplate lawful _ _).bind fun _ =>
      (orderly_removeByTemplate lawful _ _).bind fun _ => orderly_done ()

end ArangoDBCollectionAPI

end ArangoCpp
