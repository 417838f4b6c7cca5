/-
This file proves what `selectQuery` and `selectAll` do with a cursor that the server serves to
its end.

The documents come in batches. The reply to the query is the first batch, and as long as a
batch says that there are more, the next one is the reply to a request with the identifier
that came with it. The proof goes along the batches: one turn of the loop sends one request
and hands the documents of its reply to the callback, so that a cursor of any length is read
in as many turns, and one more that finds that there is nothing left.
-/

import ArangoCpp.Operation

namespace ArangoCpp

variable {env : Env}

/-! ### The items of a list -/

/-- A loop over the indices of a list is a loop over its items. -/
theorem foldlM_range {State Item Fault : Type} {items : List Item}
    {body : State → Nat → Except Fault State} {each : State → Item → Except Fault State}
    (same : ∀ index item, items[index]? = some item → ∀ state, body state index = each state item)
    (state : State) : (List.range items.length).foldlM body state = items.foldlM each state := by
  have from_ : ∀ (before rest : List Item) (state : State), before ++ rest = items →
      (List.range' before.length rest.length).foldlM body state = rest.foldlM each state := by
    intro before rest
    induction rest generalizing before with
    | nil => exact fun _ _ => rfl
    | cons item rest inductionHypothesis =>
      intro state whole
      have found : items[before.length]? = some item := by simp [← whole]
      have later := fun state => inductionHypothesis (before ++ [item]) state (by simp [← whole])
      rw [List.length_append, List.length_singleton] at later
      rw [List.length_cons, List.range'_succ, List.foldlM_cons, List.foldlM_cons, same _ _ found]
      exact congrArg (each state item >>= ·) (funext later)
  rw [List.range_eq_range']
  exact from_ [] items state rfl

/-- A loop over the indices of an array is a loop over its items. -/
theorem foldlM_itemAt {State : Type} (body : State → Slice → Except VpackException State)
    (items : List Slice) (state : State) :
    (List.range items.length).foldlM (fun state ii => do
      let item ← (Slice.array items).itemAt ii
      body state item) state = items.foldlM body state := by
  refine foldlM_range (fun index item found state => ?_) state
  rw [Slice.itemAt, found, ok_bind]

/-- What every step of a loop keeps. -/
theorem foldlM_keeps {State Item Error : Type} {body : State → Item → Except Error State}
    {holds : State → Prop} {items : List Item}
    (each : ∀ state, ∀ item ∈ items, ∀ next, holds state → body state item = .ok next → holds next)
    {state final : State} (start : holds state) (ran : items.foldlM body state = .ok final) :
    holds final := by
  induction items generalizing state with
  | nil =>
    cases ran
    exact start
  | cons item items inductionHypothesis =>
    rw [List.foldlM_cons] at ran
    obtain ⟨next, stepped, ran⟩ := bind_eq_ok_iff.mp ran
    exact inductionHypothesis
      (fun state other member => each state other (List.mem_cons_of_mem item member))
      (each state item List.mem_cons_self next start stepped) ran

/-- A loop whose steps all succeed. -/
theorem foldlM_of_ok {State Item Error : Type} {body : State → Item → Except Error State}
    {step : State → Item → State} {items : List Item}
    (each : ∀ state, ∀ item ∈ items, body state item = .ok (step state item)) (state : State) :
    items.foldlM body state = .ok (items.foldl step state) := by
  induction items generalizing state with
  | nil => rfl
  | cons item items inductionHypothesis =>
    rw [List.foldlM_cons, each state item List.mem_cons_self, ok_bind, List.foldl_cons]
    exact inductionHypothesis (fun state other member =>
      each state other (List.mem_cons_of_mem item member)) _

namespace ArangoDBCollectionAPI

variable {State : Type}

/-- The callback is given the texts of the documents, one after the other. -/
theorem extractData_array (setfnc : State → Bytes → State) {json : Slice → Bytes}
    {items : List Slice}
    (dumps : ∀ item ∈ items, env.vpack.toJson dumpOptions item = .ok (json item))
    (state : State) :
    extractData env setfnc state (.array items) =
      .ok (items.foldl (fun state item => setfnc state (json item)) state) := by
  refine (foldlM_itemAt _ items state).trans (foldlM_of_ok ?_ state)
  intro state item member
  rw [dumps item member]
  rfl

/-- The callback is given the texts and the identifiers of the documents. -/
theorem extractDataId_array (setfnc : State → Bytes → Bytes → State) {json id : Slice → Bytes}
    {items : List Slice}
    (dumps : ∀ item ∈ items, env.vpack.toJson dumpOptions item = .ok (json item))
    (identified : ∀ item ∈ items, item.get "_id" = .ok (.string (id item))) (state : State) :
    extractDataId env setfnc state (.array items) =
      .ok (items.foldl (fun state item => setfnc state (json item) (id item)) state) := by
  refine (foldlM_itemAt _ items state).trans (foldlM_of_ok ?_ state)
  intro state item member
  rw [dumps item member, identified item member]
  rfl

end ArangoDBCollectionAPI

/-! ### Batches -/

/-- A response brings a batch: an object with the documents, and with the identifier for the
next batch if there is one. -/
def HttpMessage.Brings (env : Env) (response : HttpMessage) (items : List Slice)
    (next : Option Bytes) : Prop :=
  response.statusCode < statusBadRequest ∧ ∃ members : List (Bytes × Slice),
    response.front env = .ok (.object members) ∧
    (Slice.object members).get "hasMore" = .ok (.bool next.isSome) ∧
    (Slice.object members).get "result" = .ok (.array items) ∧
    ∀ id ∈ next, (Slice.object members).get "id" = .ok (.string id)

/-- Transfers that serve a cursor to its end: their documents, and the identifiers that came with
all batches but the last. -/
inductive Serves (env : Env) : List Transfer → List Slice → List Bytes → Prop where
  | last {transfer : Transfer} {response : HttpMessage} {items : List Slice}
      (accepted : transfer.Accepted env response) (brings : response.Brings env items none) :
      Serves env [transfer] items []
  | more {transfer : Transfer} {response : HttpMessage} {items documents : List Slice} {id : Bytes}
      {transfers : List Transfer} {ids : List Bytes}
      (accepted : transfer.Accepted env response) (brings : response.Brings env items (some id))
      (later : Serves env transfers documents ids) :
      Serves env (transfer :: transfers) (items ++ documents) (id :: ids)

/-- What is sent for the next batch. -/
def nextRequest (env : Env) (connectData : ArangoDBConnection) (id : Bytes) : Transmission :=
  (createREQUEST env .put ("/_api/cursor/" ++ id)).transmission env .base connectData []

namespace ArangoDBCollectionAPI

variable {State : Type}

/-- A batch is taken, and its documents are extracted. -/
theorem nextBatch_of_brings {extract : State → Slice → Except VpackException State}
    {state after : State} {response : HttpMessage} {items : List Slice} {next : Option Bytes}
    (brings : response.Brings env items next)
    (extracts : extract state (.array items) = .ok after) :
    ∃ slice, nextBatch env extract state response = .ok (.inl ⟨slice, next.isSome, after⟩) ∧
      ∀ id ∈ next, slice.get "id" = .ok (.string id) := by
  obtain ⟨fine, members, front, hasMore, result, identified⟩ := brings
  have accepted : ¬ badRequest response.statusCode = true := by
    simpa [badRequest] using fine
  refine ⟨.object members, ?_, identified⟩
  rw [nextBatch, if_neg accepted, readBatch, front, ok_bind, hasMore, ok_bind, Slice.getBool]
  simp only [ofVpack, ok_bind, result, extracts]
  rfl

/-- A turn of the loop that has a batch to read. -/
theorem cursorLoop_eq {extract : State → Slice → Except VpackException State} {slice : Slice}
    {id : Bytes} (identified : (slice.get "id" >>= Slice.copyString) = .ok id) (state : State) :
    cursorLoop env extract ⟨slice, true, state⟩ =
      .exchange (createREQUEST env .put ("/_api/cursor/" ++ id)) (nextBatch env extract state) := by
  unfold cursorLoop
  rw [if_pos rfl]
  simp only [identified]
  rfl

section

variable (lawful : env.vpack.Lawful) (connectData : ArangoDBConnection)
  {extract : State → Slice → Except VpackException State} {step : State → Slice → State}

include lawful

/-- A request that brings a batch. -/
theorem run_nextBatch {request : HttpMessage} {sent : Transmission}
    (encoded : (Dispatch.base.channel env connectData).encode request = .ok sent)
    {transfer : Transfer} {response : HttpMessage} {items : List Slice} {next : Option Bytes}
    (accepted : transfer.Accepted env response) (brings : response.Brings env items next)
    {state after : State} (extracts : extract state (.array items) = .ok after)
    (transfers : List Transfer) :
    ∃ slice, (∀ id ∈ next, slice.get "id" = .ok (.string id)) ∧
      ((Dialogue.exchange request (nextBatch env extract state)).through
          (Dispatch.base.channel env connectData)).run (transfer :: transfers) =
        ⟨[sent], transfers, .returned (.inl ⟨slice, next.isSome, after⟩)⟩ := by
  obtain ⟨slice, taken, found⟩ := nextBatch_of_brings brings extracts
  exact ⟨slice, found, Dialogue.run_through_exchange encoded
    ((decode_eq_ok_iff lawful .base connectData _).mpr accepted) taken transfers⟩

/-- The loop sends one request for each further batch and hands on its documents. -/
theorem run_cursorLoop {transfers : List Transfer} {documents : List Slice} {ids : List Bytes}
    (serves : Serves env transfers documents ids)
    (extracts : ∀ items, items ⊆ documents → ∀ state, extract state (.array items) =
      .ok (items.foldl step state))
    {turns : Nat} (enough : ids.length + 1 < turns) {slice : Slice} {id : Bytes}
    (identified : slice.get "id" = .ok (.string id)) (state : State) :
    ((Dialogue.iterate (cursorLoop env extract) turns ⟨slice, true, state⟩).through
        (Dispatch.base.channel env connectData)).run transfers =
      ⟨(id :: ids).map (nextRequest env connectData), [],
        .returned (documents.foldl step state)⟩ := by
  have put : ∀ id, (Dispatch.base.channel env connectData).encode
      (createREQUEST env .put ("/_api/cursor/" ++ id)) = .ok (nextRequest env connectData id) :=
    fun id => encode_createREQUEST lawful .base connectData (by simp) _
  have found : ∀ {slice : Slice} {id : Bytes}, slice.get "id" = .ok (.string id) →
      (slice.get "id" >>= Slice.copyString) = .ok id := fun identified => by rw [identified]; rfl
  induction serves generalizing turns slice id state with
  | last accepted brings =>
    obtain ⟨turns, rfl⟩ : ∃ left, turns = left + 2 := ⟨turns - 2, by simp at enough; omega⟩
    obtain ⟨slice', _, turn⟩ := run_nextBatch lawful connectData (put id) accepted brings
      (extracts _ (List.Subset.refl _) state) []
    rw [Dialogue.iterate, cursorLoop_eq (found identified), Dialogue.run_through_bind turn]
    rfl
  | @more transfer response items documents next transfers ids accepted brings later
      inductionHypothesis =>
    obtain ⟨turns, rfl⟩ : ∃ left, turns = left + 1 := ⟨turns - 1, by omega⟩
    obtain ⟨slice', has, turn⟩ := run_nextBatch lawful connectData (put id) accepted brings
      (extracts items (List.subset_append_left items documents) state) transfers
    have rest := inductionHypothesis (fun items included => extracts items
      (List.Subset.trans included (List.subset_append_right _ _))) (Nat.lt_of_succ_lt_succ enough)
      (has next rfl) (items.foldl step state)
    rw [Dialogue.iterate, cursorLoop_eq (found identified), Dialogue.run_through_bind turn,
      List.foldl_append]
    dsimp only [Option.isSome_some]
    rw [rest]
    rfl

/-- A cursor that is served to its end is read to its end. -/
theorem run_readCursor {transfers : List Transfer} {documents : List Slice} {ids : List Bytes}
    (serves : Serves env transfers documents ids)
    (extracts : ∀ items, items ⊆ documents → ∀ state, extract state (.array items) =
      .ok (items.foldl step state))
    {turns : Nat} (enough : ids.length < turns) {request : HttpMessage} {sent : Transmission}
    (encoded : (Dispatch.base.channel env connectData).encode request = .ok sent) (state : State) :
    ((readCursor env turns extract state request).through
        (Dispatch.base.channel env connectData)).run transfers =
      ⟨sent :: ids.map (nextRequest env connectData), [],
        .returned (documents.foldl step state)⟩ := by
  cases serves with
  | last accepted brings =>
    obtain ⟨turns, rfl⟩ : ∃ left, turns = left + 1 := ⟨turns - 1, by simp at enough; omega⟩
    obtain ⟨slice, _, taken⟩ := run_nextBatch lawful connectData encoded accepted brings
      (extracts _ (List.Subset.refl _) state) []
    exact (Dialogue.run_through_bind taken _).trans rfl
  | @more transfer response items documents next transfers ids accepted brings later =>
    obtain ⟨slice, found, taken⟩ := run_nextBatch lawful connectData encoded accepted brings
      (extracts items (List.subset_append_left items documents) state) transfers
    have rest := run_cursorLoop lawful connectData later (fun items included => extracts items
      (List.Subset.trans included (List.subset_append_right _ _))) enough (found next rfl)
      (items.foldl step state)
    refine (Dialogue.run_through_bind taken _).trans ?_
    rw [List.foldl_append]
    dsimp only [Option.isSome_some]
    rw [rest]
    rfl

end

/-- What is asked before the request of a query is the list of the collections. -/
theorem asks_selectRequest (batchSize : Int32) (collname : Bytes) (query : ArangoDBQuery) :
    (selectRequest env batchSize collname query).Asks fun rq =>
      rq = createREQUEST env .get "/_api/collection" := by
  have silent : ∀ {Value : Type} (result : Except Fault Value),
      (Dialogue.ofExcept result : Api Value).Asks fun rq =>
        rq = createREQUEST env .get "/_api/collection" := fun _ => Dialogue.asks_ofExcept _
  have listing : (collectionNames env .edge).Asks fun rq =>
      rq = createREQUEST env .get "/_api/collection" :=
    Dialogue.Asks.bind ⟨rfl, fun _ => silent _⟩ fun _ => silent _
  have edges : (createEdgeRequest env batchSize query).Asks fun rq =>
      rq = createREQUEST env .get "/_api/collection" := by
    refine (silent _).bind fun named => Dialogue.Asks.bind ?_ fun _ => silent _
    refine Dialogue.Asks.bind ?_ fun _ => (silent _).bind fun _ => trivial
    unfold edgeCollectionsOr
    split
    · exact listing.bind fun _ => trivial
    · trivial
  unfold selectRequest
  split
  · exact silent _
  · exact silent _
  · exact edges
  · exact edges
  · exact edges
  · exact silent _
  · trivial

end ArangoDBCollectionAPI

/-- What is sent for the list of the collections. -/
def listingRequest (env : Env) (connectData : ArangoDBConnection) : Transmission :=
  (createREQUEST env .get "/_api/collection").transmission env .base connectData []

open ArangoDBCollectionAPI in
/-- When a cursor is served to its end, `selectQuery` and `selectAll` give every document to the
callback once and in order, send one request for each further batch, with the identifier that
came with the batch before, and return. What `selectQuery` sends before the request of
the query, to which the batches reply, is for the list of the collections. -/
theorem select_reads_to_end (lawful : env.vpack.Lawful) (connectData : ArangoDBConnection)
    (batchSize : Int32) (collname : Bytes) {transfers : List Transfer} {documents : List Slice}
    {ids : List Bytes} (serves : Serves env transfers documents ids) {json : Slice → Bytes}
    (dumps : ∀ item ∈ documents, env.vpack.toJson dumpOptions item = .ok (json item))
    {turns : Nat} (enough : ids.length < turns) {State : Type} :
    (∀ (query : ArangoDBQuery) (setfnc : State → Bytes → State) (state : State)
      (listing : List Transfer) (asked : List Transmission) (request : HttpMessage)
      (sent : Transmission),
      (conduct env .base connectData (selectRequest env batchSize collname query)).run listing =
        ⟨asked, [], .returned request⟩ →
      (Dispatch.base.channel env connectData).encode request = .ok sent →
      (conduct env .base connectData
          (selectQuery env batchSize turns collname query setfnc state)).run
          (listing ++ transfers) =
        ⟨asked ++ sent :: ids.map (nextRequest env connectData), [],
          .returned ((documents.map json).foldl setfnc state)⟩ ∧
      ∀ earlier ∈ asked, earlier = listingRequest env connectData) ∧
    (∀ (queryFields : QueryFields) (setfnc : State → Bytes → Bytes → State) (state : State)
      (id : Slice → Bytes) (request : HttpMessage) (sent : Transmission),
      (∀ item ∈ documents, item.get "_id" = .ok (.string (id item))) →
      selectAllRequest env batchSize collname queryFields = .ok request →
      (Dispatch.base.channel env connectData).encode request = .ok sent →
      (conduct env .base connectData
          (selectAll env batchSize turns collname queryFields setfnc state)).run transfers =
        ⟨sent :: ids.map (nextRequest env connectData), [],
          .returned (documents.foldl (fun state item => setfnc state (json item) (id item))
            state)⟩) := by
  constructor
  · intro query setfnc state listing asked request sent listed encoded
    rw [Operation.conduct_eq_through lawful (orderly_selectRequest batchSize collname query).asks]
      at listed
    rw [Operation.conduct_eq_through lawful
      (orderly_selectQuery lawful batchSize turns collname query setfnc state).asks]
    constructor
    · refine (Dialogue.run_through_bind (Dialogue.run_append listed transfers) _).trans ?_
      rw [List.nil_append, List.foldl_map, run_readCursor lawful connectData serves
        (fun items included => extractData_array setfnc fun item member =>
          dumps item (included member)) enough encoded]
    · intro earlier member
      have all : ((selectRequest env batchSize collname query).through
          (Dispatch.base.channel env connectData)).Asks fun sent =>
            sent = listingRequest env connectData := by
        refine (asks_selectRequest batchSize collname query).through fun rq sent same encoded => ?_
        rw [same, encode_createREQUEST lawful .base connectData (Or.inl rfl)] at encoded
        cases encoded
        rfl
      have ran := all.run listing
      rw [listed] at ran
      exact ran earlier member
  · intro queryFields setfnc state id request sent identified created encoded
    rw [Operation.conduct_eq_through lawful
      (orderly_selectAll lawful batchSize turns collname queryFields setfnc state).asks]
    unfold selectAll
    rw [created]
    exact run_readCursor lawful connectData serves
      (fun items included => extractDataId_array setfnc (fun item member =>
        dumps item (included member)) fun item member => identified item (included member))
      enough encoded state

/-- A transfer that holds a batch, when the debug log is off. -/
theorem exists_accepted_brings (lawful : env.vpack.Lawful) (quiet : env.debug = false)
    {transfer : Transfer} {members : List (Bytes × Slice)}
    (holds : transfer.Holds env (.object members)) (received : transfer.responseCode ≠ 0)
    (fine : transfer.responseCode < statusBadRequest) {items : List Slice} {next : Option Bytes}
    (hasMore : (Slice.object members).get "hasMore" = .ok (.bool next.isSome))
    (result : (Slice.object members).get "result" = .ok (.array items))
    (identified : ∀ id ∈ next, (Slice.object members).get "id" = .ok (.string id)) :
    ∃ response, transfer.Accepted env response ∧ response.Brings env items next := by
  obtain ⟨response, accepted, reads⟩ := holds.accepted lawful received fun debug => by
    rw [quiet] at debug
    cases debug
  exact ⟨response, accepted, accepted.status.symm ▸ fine, members, reads.front, hasMore, result,
    identified⟩

open ArangoDBCollectionAPI in
/-- Two batches of one document each. -/
theorem select_reads_to_end_two :
    let json : Bytes := "\x7b\"_id\":\"c/k\"\x7d"
    let document : Slice := .object [("_id", .string "c/k")]
    let env : Env := ⟨.simple [(json, document)], true, true, [], false⟩
    let batch (members : List (Bytes × Slice)) : Transfer :=
      ⟨0, 200, [], [env.vpack.build (.object members)]⟩
    let first : List (Bytes × Slice) :=
      [("hasMore", .bool true), ("result", .array [document]), ("id", .string "7")]
    let second : List (Bytes × Slice) := [("hasMore", .bool false), ("result", .array [document])]
    let transfers := [batch first, batch second]
    ∃ sent, (conduct env .base .default (selectQuery env 500 3 "c" (.ofType .all)
          Operation.emplaceBack [])).run transfers =
        ⟨[sent, nextRequest env .default "7"], [], .returned [json, json]⟩ ∧
      (conduct env .base .default (selectAll env 500 3 "c" ∅
          (fun ids _ id => ids ++ [id]) [])).run transfers =
        ⟨[sent, nextRequest env .default "7"], [], .returned ["c/k", "c/k"]⟩ := by
  intro json document env batch first second transfers
  have represented : document.Represented := by simp [document]
  have lawful : env.vpack.Lawful :=
    Velocypack.simple_lawful _ (List.forall_mem_singleton.mpr represented)
  have brought : ∀ (members : List (Bytes × Slice)) (items : List Slice) (next : Option Bytes),
      (Slice.object members).Represented →
      (Slice.object members).get "hasMore" = .ok (.bool next.isSome) →
      (Slice.object members).get "result" = .ok (.array items) →
      (∀ id ∈ next, (Slice.object members).get "id" = .ok (.string id)) →
      ∃ response, (batch members).Accepted env response ∧ response.Brings env items next :=
    fun members items next represented =>
      exists_accepted_brings lawful rfl (holds_build lawful 0 200 represented)
        (Nat.succ_ne_zero 199) (by show (200 : Nat) < 400; decide)
  obtain ⟨_, accepted, brings⟩ := brought first [document] (some "7")
    (by simp [first, represented]) rfl rfl fun _ same => by cases same; rfl
  obtain ⟨_, accepted', brings'⟩ := brought second [document] none
    (by simp [second, represented]) rfl rfl fun _ same => by cases same
  have serves : Serves env transfers [document, document] ["7"] :=
    .more accepted brings (.last accepted' brings')
  have same : ∀ item ∈ [document, document], item = document := by
    intro item member
    simpa using member
  have dumps : ∀ item ∈ [document, document], env.vpack.toJson dumpOptions item = .ok json := by
    intro item member
    rw [same item member]
    decide
  have created := @addVPack_createREQUEST env .put "/_api/simple/all"
    (.object [("collection", .string "c"), ("batchSize", .int (Int32.toInt 500))])
  have encoded := encode_holds lawful .base .default
    (issued_createREQUESTWith lawful "/_api/simple/all" (represented_all "c" 500)
      (Or.inr (Or.inl rfl)))
    (holds_createREQUESTWith .put "/_api/simple/all" (represented_all "c" 500))
  obtain ⟨query, all⟩ := @select_reads_to_end env lawful .default 500 "c" transfers
    [document, document] ["7"] serves (fun _ => json) dumps 3 (by decide) (List Bytes)
  refine ⟨_, (query (.ofType .all) _ _ [] [] _ _ ?_ encoded).1, ?_⟩
  · show Dialogue.run (conduct env .base .default
      (Dialogue.ofExcept (createSimpleAllRequest env 500 "c"))) [] = _
    rw [createSimpleAllRequest, created]
    rfl
  · exact all ∅ _ _ (fun _ => "c/k") _ _ (fun item member => by rw [same item member]; rfl)
      created encoded

end ArangoCpp
