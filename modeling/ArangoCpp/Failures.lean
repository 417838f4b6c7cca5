/-
This file says when the operations that read report a failure of the server.

They do not, on the whole. A list reads as nothing unless the status is 200, and a cursor ends
with what there is at the first error status, so that an error status that gets past
`sendREQUEST` makes the operation return. What is left are the failures that `sendREQUEST`
itself stops at, and one reply whose failure may be reported by accident: the list of the
edge collections that an edge query asks for first. When that list fails, the query is put
without any collection, and the operation returns if the replies to that query let it.
-/

import ArangoCpp.Cursor

namespace ArangoCpp

variable {env : Env}

/-! ### What ends a cursor -/

open ArangoDBCollectionAPI in
/-- The further batches of a cursor, up to its end or to an error status. -/
def Continues (env : Env) (slice : Slice) (hasMore : Bool) : List HttpMessage → Prop
  | [] => hasMore = false
  | response :: rest => hasMore = true ∧
    (∃ id, (slice.get "id" >>= Slice.copyString) = .ok id) ∧
    if badRequest response.statusCode then rest = []
    else ∃ cursor, readBatch env (extractData env Operation.emplaceBack) [] response = .ok cursor ∧
      Continues env cursor.slice cursor.hasMore rest

open ArangoDBCollectionAPI in
/-- Responses to a query that let it return: an error status at once, or batches up to the end
of the cursor or to an error status. -/
def CursorEnds (env : Env) : List HttpMessage → Prop
  | [] => False
  | response :: rest =>
    if badRequest response.statusCode then rest = []
    else ∃ cursor, readBatch env (extractData env Operation.emplaceBack) [] response = .ok cursor ∧
      Continues env cursor.slice cursor.hasMore rest

namespace ArangoDBCollectionAPI

/-- The texts that a batch adds do not depend on those that are there. -/
theorem extractData_emplaceBack (state : List Bytes) (result : Slice) :
    extractData env Operation.emplaceBack state result =
      (extractData env Operation.emplaceBack [] result).map (state ++ ·) := by
  have loop : ∀ (indices : List Nat) (before texts : List Bytes),
      indices.foldlM (fun state ii => do
        let item ← result.itemAt ii
        let jsondata ← env.vpack.toJson dumpOptions item
        return Operation.emplaceBack state jsondata) (before ++ texts) =
      (indices.foldlM (fun state ii => do
        let item ← result.itemAt ii
        let jsondata ← env.vpack.toJson dumpOptions item
        return Operation.emplaceBack state jsondata) texts).map (before ++ ·) := by
    intro indices before
    induction indices with
    | nil => exact fun _ => rfl
    | cons ii indices inductionHypothesis =>
      intro texts
      rw [List.foldlM_cons, List.foldlM_cons]
      cases result.itemAt ii with
      | error exception => rfl
      | ok item =>
        simp only [ok_bind]
        cases env.vpack.toJson dumpOptions item with
        | error exception => rfl
        | ok jsondata =>
          have appended : Operation.emplaceBack (before ++ texts) jsondata =
              before ++ Operation.emplaceBack texts jsondata := List.append_assoc _ _ _
          simp only [ok_bind, pure, Except.pure, appended]
          exact inductionHypothesis _
  unfold extractData
  cases result.length with
  | error exception => rfl
  | ok numb =>
    have extracted := loop (List.range numb) state []
    rw [List.append_nil] at extracted
    exact extracted

/-- Whether a batch can be read does not depend on the texts that are there. -/
theorem readBatch_emplaceBack (state : List Bytes) (response : HttpMessage) :
    readBatch env (extractData env Operation.emplaceBack) state response =
      (readBatch env (extractData env Operation.emplaceBack) [] response).map fun cursor =>
        { cursor with state := state ++ cursor.state } := by
  unfold readBatch
  cases response.front env with
  | error fault => rfl
  | ok slice =>
    simp only [ok_bind]
    cases ofVpack (slice.get "hasMore" >>= Slice.getBool) with
    | error fault => rfl
    | ok hasMore =>
      simp only [ok_bind]
      cases ofVpack (slice.get "result") with
      | error fault => rfl
      | ok result =>
        simp only [ok_bind]
        rw [extractData_emplaceBack state result]
        cases extractData env Operation.emplaceBack [] result with
        | error fault => rfl
        | ok texts => rfl

/-- A batch is read whatever texts are there, and leaves the cursor in the same place. -/
theorem nextBatch_emplaceBack_iff {property : Cursor (List Bytes) ⊕ List Bytes → Prop}
    {state : List Bytes} {response : HttpMessage}
    (place : ∀ cursor state, property (.inl cursor) ↔ property (.inl { cursor with state })) :
    (∃ read, nextBatch env (extractData env Operation.emplaceBack) state response = .ok read ∧
        property read) ↔
      if badRequest response.statusCode then property (.inr state)
      else ∃ cursor,
        readBatch env (extractData env Operation.emplaceBack) [] response = .ok cursor ∧
        property (.inl cursor) := by
  unfold nextBatch
  split
  · simp
  · rw [readBatch_emplaceBack state response]
    cases readBatch env (extractData env Operation.emplaceBack) [] response with
    | error fault => simp [Except.map, pure, Except.pure]
    | ok cursor =>
      simp only [Except.map, ok_bind, pure, Except.pure, Except.ok.injEq, exists_eq_left']
      exact (place cursor _).symm

/-- What follows a request for a batch, when it is known what follows the batch. -/
theorem returns_nextBatch_iff {Value : Type} {rest : List HttpMessage}
    {continuation : Cursor (List Bytes) ⊕ List Bytes → Api Value}
    (more : ∀ cursor, (∃ value, (continuation (.inl cursor)).Ends (rest.map .ok)
        (.returned value)) ↔ Continues env cursor.slice cursor.hasMore rest)
    (final : ∀ texts, ∃ value, continuation (.inr texts) = .done value)
    (request response : HttpMessage) (state : List Bytes) :
    (∃ value, (Dialogue.bind
        (.exchange request (nextBatch env (extractData env Operation.emplaceBack) state))
        continuation).Ends ((response :: rest).map .ok) (.returned value)) ↔
      if badRequest response.statusCode then rest = []
      else ∃ cursor,
        readBatch env (extractData env Operation.emplaceBack) [] response = .ok cursor ∧
        Continues env cursor.slice cursor.hasMore rest := by
  let property : Cursor (List Bytes) ⊕ List Bytes → Prop
    | .inl cursor => Continues env cursor.slice cursor.hasMore rest
    | .inr _ => rest = []
  refine Iff.trans ?_ (@nextBatch_emplaceBack_iff env property state response
    fun cursor state => Iff.rfl)
  simp only [List.map_cons, Dialogue.exchange_bind_ends_iff]
  rw [exists_comm]
  refine exists_congr fun read => ?_
  rw [exists_and_left]
  refine and_congr_right fun _ => ?_
  cases read with
  | inl cursor => exact more cursor
  | inr texts =>
    obtain ⟨value, done⟩ := final texts
    rw [done]
    simp only [Dialogue.ends_done_iff]
    simp [property]

/-- A batch that says that there are more, without the identifier for them. -/
theorem cursorLoop_unidentified {slice : Slice} {exception : VpackException}
    (unidentified : (slice.get "id" >>= Slice.copyString) = .error exception) (state : List Bytes) :
    cursorLoop env (extractData env Operation.emplaceBack) ⟨slice, true, state⟩ =
      .raise (.velocypack exception) := by
  unfold cursorLoop
  rw [if_pos rfl]
  simp only [unidentified]
  rfl

/-- A loop that is unrolled often enough returns on responses that continue the cursor, and on no
others. -/
theorem returns_cursorLoop_iff {responses : List HttpMessage} {turns : Nat}
    (enough : responses.length < turns) (cursor : Cursor (List Bytes)) :
    (∃ texts, (Dialogue.iterate (cursorLoop env (extractData env Operation.emplaceBack)) turns
        cursor).Ends (responses.map .ok) (.returned texts)) ↔
      Continues env cursor.slice cursor.hasMore responses := by
  induction responses generalizing turns cursor with
  | nil =>
    obtain ⟨slice, hasMore, state⟩ := cursor
    obtain ⟨left, rfl⟩ : ∃ left, turns = left + 1 := ⟨turns - 1, by omega⟩
    cases hasMore with
    | false => exact iff_of_true ⟨state, rfl, rfl⟩ rfl
    | true =>
      refine iff_of_false ?_ Bool.noConfusion
      rintro ⟨texts, ended⟩
      rw [Dialogue.iterate] at ended
      cases identified : (slice.get "id" >>= Slice.copyString) with
      | error exception =>
        rw [cursorLoop_unidentified identified, Dialogue.raise_bind] at ended
        exact Dialogue.not_ends_raise ended
      | ok id =>
        rw [cursorLoop_eq identified] at ended
        exact Dialogue.not_exchange_bind_ends_nil ended
  | cons response rest inductionHypothesis =>
    obtain ⟨slice, hasMore, state⟩ := cursor
    obtain ⟨left, rfl⟩ : ∃ left, turns = left + 1 := ⟨turns - 1, by omega⟩
    rw [Continues]
    cases hasMore with
    | false =>
      refine iff_of_false ?_ fun continues => Bool.noConfusion continues.1
      rintro ⟨texts, read, _⟩
      cases read
    | true =>
      rw [Dialogue.iterate]
      cases identified : (slice.get "id" >>= Slice.copyString) with
      | error exception =>
        rw [cursorLoop_unidentified identified, Dialogue.raise_bind]
        refine iff_of_false ?_ ?_
        · rintro ⟨_, ended⟩
          exact Dialogue.not_ends_raise ended
        · rintro ⟨_, ⟨id, same⟩, _⟩
          cases same
      | ok id =>
        rw [cursorLoop_eq identified]
        refine (returns_nextBatch_iff (inductionHypothesis (Nat.lt_of_succ_lt_succ enough))
          (fun texts => ⟨texts, rfl⟩) _ response state).trans ?_
        exact ⟨fun continues => ⟨rfl, ⟨id, rfl⟩, continues⟩, fun continues => continues.2.2⟩

/-- The reading of the documents returns on the responses that let it. -/
theorem returns_readCursor_iff {responses : List HttpMessage} {turns : Nat}
    (enough : responses.length ≤ turns) (state : List Bytes) (request : HttpMessage) :
    (∃ texts, (readCursor env turns (extractData env Operation.emplaceBack) state request).Ends
        (responses.map .ok) (.returned texts)) ↔ CursorEnds env responses := by
  cases responses with
  | nil =>
    refine iff_of_false ?_ id
    rintro ⟨texts, ended⟩
    exact Dialogue.not_exchange_bind_ends_nil ended
  | cons response rest =>
    exact returns_nextBatch_iff (fun cursor => returns_cursorLoop_iff enough cursor)
      (fun texts => ⟨texts, rfl⟩) request response state

/-- The reading of the documents returns at an error status. -/
theorem returnsOn_readCursor {State : Type} (turns : Nat)
    (extract : State → Slice → Except VpackException State) (state : State)
    (request : HttpMessage) :
    (readCursor env turns extract state request).ReturnsOn
      (fun response => statusBadRequest ≤ response.statusCode) fun _ => True := by
  have taken : ∀ (state : State) (response : HttpMessage), statusBadRequest ≤ response.statusCode →
      ∃ read, nextBatch env extract state response = .ok read ∧ ∃ state, read = .inr state := by
    intro state response bad
    exact ⟨.inr state, if_pos (decide_eq_true bad), state, rfl⟩
  refine Dialogue.ReturnsOn.bind (Dialogue.returnsOn_exchange request (taken state)) ?_
    fun read => ?_
  · rintro _ ⟨state, rfl⟩
    exact ⟨state, rfl, trivial⟩
  · cases read with
    | inr state => trivial
    | inl cursor =>
      refine Dialogue.ReturnsOn.iterate (fun cursor => ?_) turns cursor
      unfold cursorLoop
      split
      · refine Dialogue.ReturnsOn.bind (Dialogue.returnsOn_of_silent (Dialogue.asks_ofExcept _))
          (fun _ => False.elim) fun id => Dialogue.returnsOn_exchange _ (taken cursor.state)
      · trivial

theorem strict_readCursor {State : Type} (turns : Nat)
    (extract : State → Slice → Except VpackException State) (state : State)
    (request : HttpMessage) : (readCursor env turns extract state request).Strict := by
  refine (Dialogue.strict_exchange request _).bind fun read => ?_
  cases read with
  | inr state => trivial
  | inl cursor =>
    refine Dialogue.Strict.iterate (fun cursor => ?_) turns cursor
    unfold cursorLoop
    split
    · exact (Dialogue.strict_ofExcept _).bind fun _ => Dialogue.strict_exchange _ _
    · trivial

end ArangoDBCollectionAPI

/-! ### The operations that read -/

namespace Operation

/-- The operations that are asked for an answer and change nothing. -/
def Reads : Operation → Prop
  | selectQuery _ _ | selectAll _ _ | lookupByKeys _ _ | collectQuery _ _ | collectionNames _
  | graphNames | graphCollectionNames _ _ | databaseNames | databaseNamesOf _ | userNames
  | existsDocument _ _ | existUser _ => True
  | _ => False

/-- The statuses that are failures: a document or a user that is not found is an answer. -/
def Fails : Operation → StatusCode → Prop
  | existsDocument _ _, status | existUser _, status =>
    statusBadRequest ≤ status ∧ status ≠ statusNotFound
  | _, status => statusBadRequest ≤ status

/-- An edge query that names no collections, which asks for their list first. -/
def Lists (env : Env) : Operation → Prop
  | selectQuery _ query =>
    (query.queryType = .edgesAll ∨ query.queryType = .edgesFrom ∨ query.queryType = .edgesTo) ∧
      ∃ startVertex, ArangoDBCollectionAPI.edgeQuery env query = .ok (startVertex, [])
  | _ => False

theorem Fails.badRequest {operation : Operation} {status : StatusCode}
    (fails : operation.Fails status) : statusBadRequest ≤ status := by
  unfold Fails at fails
  split at fails
  · exact fails.1
  · exact fails.1
  · exact fails

theorem returnsOn_discard {Value : Type} {ends : HttpMessage → Prop} {program : Api Value}
    (returnsOn : program.ReturnsOn ends fun _ => True) :
    (discard program).ReturnsOn ends fun _ => True :=
  returnsOn.bind (fun _ _ => ⟨(), rfl, trivial⟩) fun _ => trivial

/-- A query that does not ask for the list of the collections asks nothing before it is put. -/
theorem silent_selectRequest {batchSize : Int32} {collname : Bytes} {query : ArangoDBQuery}
    (direct : ¬ (selectQuery collname query).Lists env) :
    (ArangoDBCollectionAPI.selectRequest env batchSize collname query).Silent := by
  have edges : (query.queryType = .edgesAll ∨ query.queryType = .edgesFrom ∨
      query.queryType = .edgesTo) →
      (ArangoDBCollectionAPI.createEdgeRequest env batchSize query).Silent := by
    intro type
    unfold ArangoDBCollectionAPI.createEdgeRequest
    cases named : ArangoDBCollectionAPI.edgeQuery env query with
    | error fault => trivial
    | ok names =>
      obtain ⟨startVertex, edgeCollections⟩ := names
      have given : edgeCollections ≠ [] := by
        rintro rfl
        exact direct ⟨type, startVertex, named⟩
      show (Dialogue.bind (ArangoDBCollectionAPI.queryEdgesToFrom env query.queryType startVertex
        edgeCollections) _).Silent
      refine Dialogue.Asks.bind ?_ fun _ => Dialogue.asks_ofExcept _
      refine Dialogue.Asks.bind ?_ fun _ =>
        (Dialogue.asks_ofExcept _).bind fun _ => trivial
      unfold ArangoDBCollectionAPI.edgeCollectionsOr
      rw [if_neg given]
      trivial
  unfold ArangoDBCollectionAPI.selectRequest
  split
  · exact Dialogue.asks_ofExcept _
  · exact Dialogue.asks_ofExcept _
  · exact edges (by simp [*])
  · exact edges (by simp [*])
  · exact edges (by simp [*])
  · exact Dialogue.asks_ofExcept _
  · trivial

/-- An operation that reads returns at a failure, unless it is an edge query that asks for the list
of the collections. -/
theorem returnsOn_program {operation : Operation} (reads : operation.Reads)
    (direct : ¬ operation.Lists env) (batchSize : Int32) (turns : Nat) :
    (operation.program env batchSize turns).ReturnsOn
      (fun response => operation.Fails response.statusCode) fun _ => True := by
  have listed : ∀ {Value : Type} (path : Bytes) (nothing : Value)
      (read : Slice → Except VpackException Value),
      (discard (.exchange (createREQUEST env .get path) (listValue env nothing read))).ReturnsOn
        (fun response => statusBadRequest ≤ response.statusCode) fun _ => True := by
    intro Value path nothing read
    refine returnsOn_discard (Dialogue.returnsOn_exchange _ fun response bad => ?_)
    have other : response.statusCode ≠ statusOK := by
      intro same
      rw [same] at bad
      exact absurd bad (by decide)
    exact ⟨nothing, if_neg other, trivial⟩
  have probed : ∀ (request : HttpMessage) (ends : HttpMessage → Prop),
      (discard (.exchange request fun result =>
        return result.statusCode == statusOK)).ReturnsOn ends fun _ => True := by
    intro request ends
    exact returnsOn_discard (Dialogue.returnsOn_exchange _ fun response _ => ⟨_, rfl, trivial⟩)
  have selected : ∀ {request : Api HttpMessage} {State : Type} {state : State}
      {extract : State → Slice → Except VpackException State}, request.Silent →
      (discard (request.bind fun request => ArangoDBCollectionAPI.readCursor env turns extract state
        request)).ReturnsOn (fun response => statusBadRequest ≤ response.statusCode)
          fun _ => True := by
    intro request State state extract silent
    exact returnsOn_discard (Dialogue.ReturnsOn.bind (Dialogue.returnsOn_of_silent silent)
      (fun _ => False.elim) fun request =>
        ArangoDBCollectionAPI.returnsOn_readCursor turns extract state request)
  cases operation <;> try exact reads.elim
  case selectQuery collname query => exact selected (silent_selectRequest direct)
  case selectAll => exact selected (Dialogue.asks_ofExcept _)
  case collectQuery => exact selected (Dialogue.asks_ofExcept _)
  case lookupByKeys collname keys =>
    refine returnsOn_discard ?_
    rw [ArangoDBCollectionAPI.lookupByKeys, exchangeQuery_eq]
    refine Dialogue.returnsOn_exchange _ fun response bad => ?_
    have refused : statusBadRequest ≤ response.statusCode := bad
    exact ⟨[], if_pos (decide_eq_true refused), trivial⟩
  case collectionNames => exact listed _ _ _
  case graphNames => exact listed _ _ _
  case graphCollectionNames => exact listed _ _ _
  case databaseNames => exact listed _ _ _
  case databaseNamesOf => exact listed _ _ _
  case userNames => exact listed _ _ _
  case existsDocument => exact probed _ _
  case existUser => exact probed _ _

/-- An AQL query without parameters and options is put whatever it says. -/
theorem createAQLRequest_of_plain {query : ArangoDBQuery} (batchSize : Int32)
    (parameters : query.bindVars = []) (options : query.queryOptions = []) :
    ∃ request, ArangoDBCollectionAPI.createAQLRequest env batchSize query = .ok request := by
  unfold ArangoDBCollectionAPI.createAQLRequest ArangoDBCollectionAPI.bindVarsData
    ArangoDBCollectionAPI.optionsData
  simp only [parameters, options, ne_eq, not_true_eq_false, if_false, pure, Except.pure, ofVpack,
    ok_bind, addVPack_createREQUEST]
  exact ⟨_, rfl⟩

/-- An edge query that names no collections is put with those that are listed, whichever they
are. -/
theorem selectRequest_of_lists {collname : Bytes} {query : ArangoDBQuery}
    (lists : (selectQuery collname query).Lists env) (batchSize : Int32) :
    ∃ request : StringSet → HttpMessage,
      ArangoDBCollectionAPI.selectRequest env batchSize collname query =
        (ArangoDBCollectionAPI.collectionNames env .edge).bind fun names =>
          .done (request names) := by
  obtain ⟨type, startVertex, named⟩ := lists
  have selected : ArangoDBCollectionAPI.selectRequest env batchSize collname query =
      ArangoDBCollectionAPI.createEdgeRequest env batchSize query := by
    unfold ArangoDBCollectionAPI.selectRequest
    rcases type with type | type | type <;> rw [type]
  obtain ⟨keyword, directed⟩ : ∃ keyword,
      ArangoDBCollectionAPI.direction query.queryType = .ok keyword := by
    rcases type with type | type | type <;> rw [type] <;> exact ⟨_, rfl⟩
  have plain := fun edgeCollections : Bytes => @createAQLRequest_of_plain env
    (.new ("FOR v,e IN 1..1 " ++ keyword ++ startVertex ++ "' \n" ++ edgeCollections ++
      ArangoDBQuery.generateRETURNOf true ∅ "e") .aql) batchSize rfl rfl
  choose request created using plain
  refine ⟨fun names => request
    ((ArangoDBCollectionAPI.existingEdges env names).foldl ArangoDBCollectionAPI.addEdges []), ?_⟩
  rw [selected]
  unfold ArangoDBCollectionAPI.createEdgeRequest ArangoDBCollectionAPI.queryEdgesToFrom
    ArangoDBCollectionAPI.edgeCollectionsOr
  simp only [named, Dialogue.ofExcept_ok, Dialogue.bind_eq, Dialogue.done_bind, if_true, directed,
    Dialogue.bind_assoc, Dialogue.pure_eq_done, created]

/-- An edge query that names no collections, as what follows their list. -/
theorem program_of_lists {operation : Operation} (lists : operation.Lists env) (batchSize : Int32)
    (turns : Nat) :
    ∃ request : StringSet → HttpMessage, operation.program env batchSize turns =
      (ArangoDBCollectionAPI.collectionNames env .edge).bind fun names =>
        discard (ArangoDBCollectionAPI.readCursor env turns
          (ArangoDBCollectionAPI.extractData env emplaceBack) [] (request names)) := by
  cases operation <;> try exact lists.elim
  case selectQuery collname query =>
    obtain ⟨request, selected⟩ := selectRequest_of_lists lists batchSize
    refine ⟨request, ?_⟩
    show Dialogue.bind (Dialogue.bind
      (ArangoDBCollectionAPI.selectRequest env batchSize collname query) _) _ = _
    rw [selected, Dialogue.bind_assoc, Dialogue.bind_assoc]
    rfl

theorem ends_discard_iff {Value : Type} {program : Api Value}
    {replies : List (Except Fault HttpMessage)} :
    (∃ value, (discard program).Ends replies (.returned value)) ↔
      ∃ value, program.Ends replies (.returned value) := by
  unfold discard Dialogue.Ends
  rw [Dialogue.run_bind]
  rcases program.run replies with ⟨asked, rest, value | fault | _⟩
  · simp
  · simp
  · simp

/-- When the list of the collections fails, the query behind it decides. -/
theorem returns_lists_iff {operation : Operation} (lists : operation.Lists env) (batchSize : Int32)
    {turns : Nat} {first : HttpMessage} (bad : statusBadRequest ≤ first.statusCode)
    {responses : List HttpMessage} (enough : responses.length ≤ turns) :
    (∃ value, (operation.program env batchSize turns).Ends ((first :: responses).map .ok)
        (.returned value)) ↔ CursorEnds env responses := by
  have other : first.statusCode ≠ statusOK := by
    intro same
    rw [same] at bad
    exact absurd bad (by decide)
  have listed : listValue env ∅ (fun slice => do
      let collst ← slice.get "result"
      let numb ← collst.length
      (List.range numb).foldlM (fun collnames ii => do
        let collection ← collst.itemAt ii
        ArangoDBCollectionAPI.addCollection .edge collection collnames) ∅) first = .ok ∅ :=
    if_neg other
  obtain ⟨request, program⟩ := program_of_lists lists batchSize turns
  rw [program]
  unfold ArangoDBCollectionAPI.collectionNames
  simp only [List.map_cons, Dialogue.exchange_bind_ends_iff, listed, Except.ok.injEq,
    exists_eq_left']
  exact ends_discard_iff.trans (ArangoDBCollectionAPI.returns_readCursor_iff enough [] _)

/-- A failure behind the first reply makes an operation that reads return. -/
theorem returned_of_fails_behind (lawful : env.vpack.Lawful) {operation : Operation}
    (reads : operation.Reads) (batchSize : Int32) (turns : Nat) {first : Except Fault HttpMessage}
    {replies : List (Except Fault HttpMessage)}
    (read : ((operation.program env batchSize turns).run (first :: replies)).rest = [])
    {response : HttpMessage} (member : .ok response ∈ replies)
    (fails : operation.Fails response.statusCode) :
    ∃ value, ((operation.program env batchSize turns).run (first :: replies)).outcome =
      .returned value := by
  by_cases lists : operation.Lists env
  · obtain ⟨request, program⟩ := program_of_lists lists batchSize turns
    rw [program] at read ⊢
    exact Dialogue.ReturnsOn.run_behind
      (fun names => returnsOn_discard (ArangoDBCollectionAPI.returnsOn_readCursor turns _ _ _))
      (fun names => (ArangoDBCollectionAPI.strict_readCursor turns _ _ _).bind fun _ => trivial)
      read member fails.badRequest
  · have other : operation ≠ testConnection := by
      rintro rfl
      exact reads.elim
    exact (returnsOn_program reads lists batchSize turns).run
      (orderly_program lawful batchSize turns other).strict read (List.mem_cons_of_mem _ member)
      fails

/-- The replies to an operation are such that no failure is taken for an answer: `sendREQUEST`
refuses every reply with an error status, or it is the list of the collections that fails, and
the replies to the query behind it do not let the operation return. -/
def StopsAtFailures (env : Env) (operation : Operation) : List Transfer → Prop
  | [] => True
  | first :: rest =>
    (∀ transfer ∈ rest, operation.Fails transfer.responseCode →
      ∃ fault, transfer.Refused env fault) ∧
    (operation.Fails first.responseCode → (∃ fault, first.Refused env fault) ∨
      operation.Lists env ∧ ¬ ∃ responses, List.Forall₂ (Transfer.Accepted env) rest responses ∧
        CursorEnds env responses)

/-- When there is a failure among the replies to an operation, the operation does not return. -/
def ReportsFailures (env : Env) (dispatch : Dispatch) (connectData : ArangoDBConnection)
    (batchSize : Int32) (turns : Nat) (operation : Operation) (transfers : List Transfer) : Prop :=
  (∃ transfer ∈ transfers, operation.Fails transfer.responseCode) →
    ∀ value, ((conduct env dispatch connectData (operation.program env batchSize turns)).run
      transfers).outcome ≠ .returned value

/-- The operations that read report the failures among the replies exactly when no failure gets past
`sendREQUEST`, the one exception being the list of the collections for an edge query whose other
replies do not let it return. -/
theorem reports_failures_iff (lawful : env.vpack.Lawful) (dispatch : Dispatch)
    (connectData : ArangoDBConnection) (batchSize : Int32) {operation : Operation}
    (reads : operation.Reads) {transfers : List Transfer} {turns : Nat}
    (enough : transfers.length ≤ turns)
    (read : ((conduct env dispatch connectData
      (operation.program env batchSize turns)).run transfers).rest = []) :
    ReportsFailures env dispatch connectData batchSize turns operation transfers ↔
      StopsAtFailures env operation transfers := by
  have other : operation ≠ testConnection := by
    rintro rfl
    exact reads.elim
  have orderly := orderly_program lawful batchSize turns other
  constructor
  · intro reports
    obtain ⟨replies, failure, outcome, rest, tells, _⟩ := conduct_tells lawful
      orderly.asks orderly.strict.prompt dispatch connectData read
    unfold ReportsFailures at reports
    rw [outcome] at reports
    cases tells with
    | nil => trivial
    | @cons first reply transfers replies told tells =>
    constructor
    · intro transfer member fails
      obtain ⟨later, found, toldLater⟩ := exists_of_mem_forall₂ tells member
      cases toldLater with
      | refused refused => exact ⟨_, refused⟩
      | accepted accepted =>
        obtain ⟨value, returned⟩ := returned_of_fails_behind lawful reads batchSize turns rest
          (List.mem_append_left _ found) (accepted.status.symm ▸ fails)
        exact absurd returned (reports ⟨transfer, List.mem_cons_of_mem _ member, fails⟩ value)
    · intro fails
      cases told with
      | refused refused => exact Or.inl ⟨_, refused⟩
      | @accepted response accepted =>
        have failed : operation.Fails response.statusCode := accepted.status.symm ▸ fails
        by_cases lists : operation.Lists env
        · refine Or.inr ⟨lists, ?_⟩
          rintro ⟨responses, all, ends⟩
          have short : responses.length ≤ turns := by
            rw [← all.length_eq]
            exact Nat.le_of_succ_le enough
          obtain ⟨value, ends⟩ :=
            (returns_lists_iff lists batchSize failed.badRequest short).mpr ends
          refine reports ⟨first, List.mem_cons_self, fails⟩ value ?_
          rw [eq_of_accepted tells all]
          exact ends.outcome_append failure
        · obtain ⟨value, returned⟩ := (returnsOn_program reads lists batchSize turns).run
            orderly.strict rest List.mem_cons_self failed
          exact absurd returned (reports ⟨first, List.mem_cons_self, fails⟩ value)
  · rintro stops ⟨transfer, member, fails⟩ value returned
    obtain ⟨responses, accepted, ends⟩ :=
      (returned_iff lawful orderly dispatch connectData read).mp ⟨value, returned⟩
    cases accepted with
    | nil => cases member
    | @cons first response rest responses accepted all =>
      rcases List.mem_cons.mp member with same | later
      · rw [same] at fails
        rcases stops.2 fails with ⟨fault, refused⟩ | ⟨lists, query⟩
        · exact accepted.not_refused refused
        · have failed : operation.Fails response.statusCode := accepted.status.symm ▸ fails
          have short : responses.length ≤ turns := by
            rw [← all.length_eq]
            exact Nat.le_of_succ_le enough
          exact query ⟨responses, all,
            (returns_lists_iff lists batchSize failed.badRequest short).mp ends⟩
      · obtain ⟨fault, refused⟩ := stops.1 transfer later fails
        obtain ⟨response, _, accepted⟩ := exists_of_mem_forall₂ all later
        exact accepted.not_refused refused

/-- A list that the server refuses without a word. -/
theorem run_collectionNames_refused (lawful : env.vpack.Lawful) (connectData : ArangoDBConnection)
    (batchSize : Int32) (turns : Nat) :
    (conduct env .base connectData ((collectionNames .all).program env batchSize turns)).run
        [⟨0, 503, [], []⟩] =
      ⟨[listingRequest env connectData], [], .returned ()⟩ := by
  have unavailable : (503 : StatusCode) ≠ statusOK := by decide
  obtain ⟨response, accepted, _⟩ := @accepted_of_empty env ⟨0, 503, [], []⟩ rfl (Nat.succ_ne_zero _)
  exact run_conduct_exchange lawful (issued_createREQUEST _ (Or.inl rfl)) .base connectData
    (encode_createREQUEST lawful .base connectData (Or.inl rfl) _) accepted
    (if_neg (accepted.status.symm ▸ unavailable)) []

/-- A list that the server refuses without a word. -/
theorem reports_failures_iff_refused :
    let env : Env := ⟨.simple [], true, true, [], false⟩
    ReportsFailures env .base .default 500 1 (collectionNames .all) [⟨0, 503, [], []⟩] ↔
      StopsAtFailures env (collectionNames .all) [⟨0, 503, [], []⟩] := by
  intro env
  have lawful : env.vpack.Lawful := Velocypack.simple_lawful []
  have reads : (collectionNames .all).Reads := trivial
  exact reports_failures_iff lawful .base .default 500 reads (Nat.le_refl 1)
    (by rw [run_collectionNames_refused lawful])

/-- The names of the collections are none when the server is unavailable. -/
theorem not_reports_unavailable :
    let env : Env := ⟨.simple [], true, true, [], false⟩
    ¬ ReportsFailures env .base .default 500 1 (collectionNames .all) [⟨0, 503, [], []⟩] := by
  intro env reports
  refine reports ⟨_, List.mem_singleton_self _, by show 400 ≤ 503; decide⟩ () ?_
  rw [run_collectionNames_refused (Velocypack.simple_lawful [])]

end Operation

end ArangoCpp
