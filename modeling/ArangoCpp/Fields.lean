/-
This file says when `selectAll` returns the documents with the fields that are selected.

The function that returns the texts is made of the one that runs a callback with the text and the
identifier of every document, and the loop of that one reads the attribute `_id` of every object
that the server delivers. The server delivers the selected fields and no others. So the texts are
returned exactly when every delivered object has a string under that name, which the selected fields
decide: a map that gives no field this name works for empty collections only.
-/

import ArangoCpp.Cursor
import ArangoCpp.Queries

namespace ArangoCpp

variable {env : Env}

/-! ### Selected fields -/

/-- An object that the server delivers for a document: the selected fields under their names, and
nothing else. `evaluate` is what the server finds at a path in a document. A name that is given to
several paths is the server's choice among them. -/
structure Projects (evaluate : Bytes → Slice → Slice) (queryFields : QueryFields)
    (document item : Slice) : Prop where
  selected : ∀ name, (∃ path : Bytes, queryFields[path]? = some name) →
    ∃ path : Bytes, queryFields[path]? = some name ∧ item.get name = .ok (evaluate path document)
  others : ∀ name, (∀ path : Bytes, queryFields[path]? ≠ some name) → item.get name = .ok .none

/-- An object has a string under `_id`. -/
def Identified (item : Slice) : Prop := ∃ id, item.get "_id" = .ok (.string id)

theorem identified_iff (item : Slice) :
    Identified item ↔ ∃ id, (item.get "_id" >>= Slice.copyString) = .ok id := by
  constructor
  · rintro ⟨id, found⟩
    exact ⟨id, by rw [found]; rfl⟩
  · rintro ⟨id, read⟩
    obtain ⟨value, found, copied⟩ := bind_eq_ok_iff.mp read
    cases value with
    | string other => exact ⟨other, found⟩
    | _ => cases copied

namespace Projects

variable {evaluate : Bytes → Slice → Slice} {queryFields : QueryFields} {document item : Slice}

/-- No field is called `_id`. -/
theorem not_identified (projects : Projects evaluate queryFields document item)
    (absent : ∀ path : Bytes, queryFields[path]? ≠ some (text "_id")) : ¬ Identified item := by
  rintro ⟨id, found⟩
  rw [projects.others _ absent] at found
  cases found

/-- One field is called `_id`. -/
theorem identified_iff_evaluate (projects : Projects evaluate queryFields document item)
    {path : Bytes}
    (only : ∀ other : Bytes, queryFields[other]? = some (text "_id") ↔ other = path) :
    Identified item ↔ ∃ id, evaluate path document = .string id := by
  obtain ⟨other, called, found⟩ := projects.selected _ ⟨path, (only path).mpr rfl⟩
  rw [(only other).mp called] at found
  simp only [Identified, found, Except.ok.injEq]

end Projects

/-! ### Loops that fail -/

/-- A loop fails when one of its items fails in every state. -/
theorem foldlM_fails {State Item Error : Type} {body : State → Item → Except Error State}
    {items : List Item} {item : Item} (member : item ∈ items)
    (fails : ∀ state, ∃ error, body state item = .error error) (state : State) :
    ∃ error, items.foldlM body state = .error error := by
  induction items generalizing state with
  | nil => cases member
  | cons head items inductionHypothesis =>
    rw [List.foldlM_cons]
    rcases List.mem_cons.mp member with rfl | later
    · obtain ⟨error, failed⟩ := fails state
      exact ⟨error, by rw [failed, error_bind]⟩
    · cases stepped : body state head with
      | error error => exact ⟨error, rfl⟩
      | ok next => exact inductionHypothesis later next

namespace ArangoDBCollectionAPI

variable {State : Type}

/-- An item without an identifier makes the extraction fail. -/
theorem extractDataId_fails (setfnc : State → Bytes → Bytes → State) {items : List Slice}
    (anonymous : ¬ ∀ item ∈ items, Identified item) (state : State) :
    ∃ exception, extractDataId env setfnc state (.array items) = .error exception := by
  let body (state : State) (item : Slice) : Except VpackException State := do
    let id ← item.get "_id" >>= Slice.copyString
    let jsondata ← env.vpack.toJson dumpOptions item
    return setfnc state jsondata id
  obtain ⟨item, member, bad⟩ : ∃ item ∈ items, ¬ Identified item := by
    simpa only [not_forall, exists_prop] using anonymous
  have fails : ∀ state, ∃ exception, body state item = .error exception := by
    intro state
    cases read : item.get "_id" >>= Slice.copyString with
    | error exception => exact ⟨exception, by simp only [body, read, error_bind]⟩
    | ok id => exact absurd ((identified_iff item).mpr ⟨id, read⟩) bad
  obtain ⟨exception, failed⟩ := foldlM_fails member fails state
  exact ⟨exception, (foldlM_itemAt body items state).trans failed⟩

/-- A batch whose extraction fails. -/
theorem nextBatch_fails {extract : State → Slice → Except VpackException State} {state : State}
    {response : HttpMessage} {items : List Slice} {next : Option Bytes}
    (brings : response.Brings env items next) {exception : VpackException}
    (fails : extract state (.array items) = .error exception) :
    nextBatch env extract state response = .error (.velocypack exception) := by
  obtain ⟨fine, members, front, hasMore, result, _⟩ := brings
  have accepted : ¬ badRequest response.statusCode = true := by
    simpa [badRequest] using fine
  rw [nextBatch, if_neg accepted, readBatch, front, ok_bind, hasMore, ok_bind, Slice.getBool]
  simp only [ofVpack, ok_bind, result, fails]
  rfl

/-- The request whose reply brings such a batch ends the program. -/
theorem run_nextBatch_fails (lawful : env.vpack.Lawful) (connectData : ArangoDBConnection)
    {extract : State → Slice → Except VpackException State} {state : State} {request : HttpMessage}
    {sent : Transmission}
    (encoded : (Dispatch.base.channel env connectData).encode request = .ok sent)
    {transfer : Transfer} {response : HttpMessage} (accepted : transfer.Accepted env response)
    {items : List Slice} {next : Option Bytes} (brings : response.Brings env items next)
    (fails : ∃ exception, extract state (.array items) = .error exception)
    (continuation : Cursor State ⊕ State → Api State) (transfers : List Transfer) :
    ∃ fault, ((((Dialogue.exchange request (nextBatch env extract state)).bind
      continuation).through (Dispatch.base.channel env connectData)).run
        (transfer :: transfers)).outcome = .raised fault := by
  obtain ⟨exception, failed⟩ := fails
  rw [Dialogue.run_through_exchange_of_error encoded
    ((decode_eq_ok_iff lawful .base connectData _).mpr accepted) (nextBatch_fails brings failed)]
  exact ⟨_, rfl⟩

/-- A cursor stops with a fault when an object of a batch is not as it should be. The batches reply
to a request and to those that a loop puts behind it. -/
theorem run_batches_fails (lawful : env.vpack.Lawful) (connectData : ArangoDBConnection)
    {extract : State → Slice → Except VpackException State} {step : State → Slice → State}
    {good : Slice → Prop} {transfers : List Transfer} {documents : List Slice} {ids : List Bytes}
    (serves : Serves env transfers documents ids)
    (extracts : ∀ items, items ⊆ documents → (∀ item ∈ items, good item) → ∀ state,
      extract state (.array items) = .ok (items.foldl step state))
    (fails : ∀ items, (¬ ∀ item ∈ items, good item) → ∀ state,
      ∃ exception, extract state (.array items) = .error exception)
    (bad : ¬ ∀ item ∈ documents, good item) {turns : Nat} (enough : ids.length < turns)
    {request : HttpMessage} {sent : Transmission}
    (encoded : (Dispatch.base.channel env connectData).encode request = .ok sent) (state : State)
    {continuation : Cursor State ⊕ State → Api State}
    (continues : ∀ cursor, continuation (.inl cursor) =
      Dialogue.iterate (cursorLoop env extract) turns cursor) :
    ∃ fault, ((((Dialogue.exchange request (nextBatch env extract state)).bind
      continuation).through (Dispatch.base.channel env connectData)).run transfers).outcome =
        .raised fault := by
  induction serves generalizing turns request sent state continuation with
  | last accepted brings =>
    exact run_nextBatch_fails lawful connectData encoded accepted brings (fails _ bad state)
      continuation []
  | @more transfer response items documents next transfers ids accepted brings later
      inductionHypothesis =>
    by_cases all : ∀ item ∈ items, good item
    · obtain ⟨slice, has, taken⟩ := run_nextBatch lawful connectData encoded accepted brings
        (extracts items (List.subset_append_left items documents) all state) transfers
      have badLater : ¬ ∀ item ∈ documents, good item := fun allLater => bad fun item member =>
        (List.mem_append.mp member).elim (all item) (allLater item)
      obtain ⟨turns, rfl⟩ : ∃ left, turns = left + 1 := ⟨turns - 1, by omega⟩
      have identified : (slice.get "id" >>= Slice.copyString) = .ok next := by
        rw [has next rfl]
        rfl
      rw [Dialogue.run_through_bind taken, continues, Option.isSome_some, Dialogue.iterate,
        cursorLoop_eq identified]
      exact inductionHypothesis (fun items included => extracts items
        (List.Subset.trans included (List.subset_append_right _ _))) badLater
        (Nat.lt_of_succ_lt_succ enough)
        (encode_createREQUEST lawful .base connectData (by simp) _) _ fun _ => rfl
    · exact run_nextBatch_fails lawful connectData encoded accepted brings (fails items all state)
        continuation transfers

end ArangoDBCollectionAPI

/-! ### The texts that are returned -/

open ArangoDBCollectionAPI in
/-- The overload of `selectAll` that returns texts returns these. -/
def ReturnsTexts (env : Env) (connectData : ArangoDBConnection) (batchSize : Int32) (turns : Nat)
    (collname : Bytes) (queryFields : QueryFields) (transfers : List Transfer)
    (texts : List Bytes) : Prop :=
  ((conduct env .base connectData (selectAll env batchSize turns collname queryFields
    (fun resultData jsondata _ => Operation.emplaceBack resultData jsondata) [])).run
      transfers).outcome = .returned texts

section

variable (lawful : env.vpack.Lawful) (connectData : ArangoDBConnection) (batchSize : Int32)
  (collname : Bytes) (queryFields : QueryFields) {transfers : List Transfer} {items : List Slice}
  {ids : List Bytes} (serves : Serves env transfers items ids) {json : Slice → Bytes}
  (dumps : ∀ item ∈ items, env.vpack.toJson dumpOptions item = .ok (json item)) {turns : Nat}
  (enough : ids.length < turns) {request : HttpMessage} {sent : Transmission}
  (created : ArangoDBCollectionAPI.selectAllRequest env batchSize collname queryFields =
    .ok request)
  (encoded : (Dispatch.base.channel env connectData).encode request = .ok sent)

include lawful serves dumps enough created encoded

/-- The texts are returned when every object has an identifier, and only then. -/
theorem returnsTexts_iff :
    ReturnsTexts env connectData batchSize turns collname queryFields transfers (items.map json) ↔
      ∀ item ∈ items, Identified item := by
  let id (item : Slice) : Bytes := ((item.get "_id" >>= Slice.copyString).toOption).getD []
  have extracts : ∀ part : List Slice, part ⊆ items → (∀ item ∈ part, Identified item) →
      ∀ state : List Bytes, ArangoDBCollectionAPI.extractDataId env
        (fun resultData jsondata _ => Operation.emplaceBack resultData jsondata) state
        (.array part) = .ok (part.foldl
          (fun state item => Operation.emplaceBack state (json item)) state) := by
    intro part included all state
    refine @ArangoDBCollectionAPI.extractDataId_array env _ _ json id part (fun item member =>
      dumps item (included member)) (fun item member => ?_) state
    obtain ⟨identifier, found⟩ := all item member
    simp only [id, found, ok_bind, Slice.copyString, Except.toOption, Option.getD_some]
  unfold ReturnsTexts
  rw [Operation.conduct_eq_through lawful
    (ArangoDBCollectionAPI.orderly_selectAll lawful _ _ _ _ _ _).asks,
    ArangoDBCollectionAPI.selectAll, created, Dialogue.ofExcept_ok, Dialogue.bind_eq,
    Dialogue.done_bind]
  by_cases all : ∀ item ∈ items, Identified item
  · rw [ArangoDBCollectionAPI.run_readCursor lawful connectData serves (fun part included =>
      extracts part included fun item member => all item (included member)) enough encoded]
    refine iff_of_true (congrArg Dialogue.Outcome.returned ?_) all
    rw [List.map_eq_flatMap]
    exact List.foldl_append_eq_append.trans (List.nil_append _)
  · have fails : ∃ fault, (((ArangoDBCollectionAPI.readCursor env turns
        (ArangoDBCollectionAPI.extractDataId env fun resultData jsondata _ =>
          Operation.emplaceBack resultData jsondata) [] request).through
        (Dispatch.base.channel env connectData)).run transfers).outcome = .raised fault :=
      ArangoDBCollectionAPI.run_batches_fails lawful connectData serves extracts
        (fun part anonymous => ArangoDBCollectionAPI.extractDataId_fails _ anonymous) all enough
        encoded [] fun _ => rfl
    obtain ⟨fault, raised⟩ := fails
    refine iff_of_false (fun returned => ?_) all
    cases raised.symm.trans returned

/-- The texts are returned exactly when every delivered object has a string under `_id`. When no
field is called so, they are returned for an empty collection only; when one field is, they are
returned exactly when it is a string in every document. -/
theorem selectAll_returnsTexts_iff {evaluate : Bytes → Slice → Slice} {contents : List Slice}
    (projects : List.Forall₂ (Projects evaluate queryFields) contents items) :
    (ReturnsTexts env connectData batchSize turns collname queryFields transfers
        (items.map json) ↔ ∀ item ∈ items, Identified item) ∧
    ((∀ path : Bytes, queryFields[path]? ≠ some (text "_id")) →
      (ReturnsTexts env connectData batchSize turns collname queryFields transfers
        (items.map json) ↔ contents = [])) ∧
    ∀ path : Bytes, (∀ other : Bytes, queryFields[other]? = some (text "_id") ↔ other = path) →
      (ReturnsTexts env connectData batchSize turns collname queryFields transfers
        (items.map json) ↔ ∀ document ∈ contents, ∃ id, evaluate path document = .string id) := by
  have returns := returnsTexts_iff lawful connectData batchSize collname queryFields serves dumps
    enough created encoded
  refine ⟨returns, fun absent => returns.trans ?_, fun path only => returns.trans ?_⟩
  · cases projects with
    | nil => simp only [List.not_mem_nil, false_imp_iff, implies_true]
    | cons first later =>
      refine iff_of_false (fun all => ?_) (List.cons_ne_nil _ _)
      exact first.not_identified absent (all _ List.mem_cons_self)
  · clear serves dumps returns
    induction projects with
    | nil => simp only [List.not_mem_nil, false_imp_iff, implies_true]
    | cons first later inductionHypothesis =>
      rw [List.forall_mem_cons, List.forall_mem_cons, inductionHypothesis,
        first.identified_iff_evaluate only]

end

/-! ### Maps with one field -/

theorem getElem?_single (path name other : Bytes) :
    ((∅ : QueryFields).insert path name)[other]? = if path = other then some name else none := by
  simp only [Std.TreeMap.getElem?_insert, Std.LawfulEqCmp.compare_eq_iff_eq,
    Std.TreeMap.getElem?_emptyc]

/-- What is delivered for one field. -/
theorem projects_single (evaluate : Bytes → Slice → Slice) (path name : Bytes) (document : Slice) :
    Projects evaluate ((∅ : QueryFields).insert path name) document
      (.object [(name, evaluate path document)]) where
  selected called := by
    rintro ⟨other, found⟩
    rw [getElem?_single] at found
    split at found
    · cases found
      exact ⟨path, by rw [getElem?_single, if_pos rfl], by simp [Slice.get]⟩
    · cases found
  others called absent := by
    have differs : name ≠ called := fun same => absent path (by
      rw [getElem?_single, if_pos rfl, same])
    simp [Slice.get, differs]

/-- The request of `selectAll` for some fields is sent. -/
theorem exists_sent_selectAll (lawful : env.vpack.Lawful) (binary : env.useVelocypackPut = true)
    (quiet : env.debug = false) (connectData : ArangoDBConnection) (batchSize : Int32)
    (collname path name : Bytes) :
    ∃ request sent, ArangoDBCollectionAPI.selectAllRequest env batchSize collname
        ((∅ : QueryFields).insert path name) = .ok request ∧
      (Dispatch.base.channel env connectData).encode request = .ok sent := by
  have nonempty : ¬ ((∅ : QueryFields).insert path name).isEmpty = true := by
    rw [Std.TreeMap.isEmpty_insert]
    exact Bool.false_ne_true
  let query := selectAllQuery collname ((∅ : QueryFields).insert path name)
  obtain ⟨request, created⟩ := @exists_createAQLRequest env batchSize query rfl rfl
  obtain ⟨value, holds, _⟩ := (carriesQuery_createAQLRequest_iff lawful created _).mpr rfl
  have encoded := encode_holds lawful .base connectData
    (ArangoDBCollectionAPI.issued_createAQLRequest lawful created) holds
  rw [valueLine, quiet, valueBody, if_pos binary] at encoded
  refine ⟨request, _, ?_, encoded⟩
  rw [ArangoDBCollectionAPI.selectAllRequest, if_neg nonempty]
  exact created

/-- A batch with one object. -/
theorem serves_one (lawful : env.vpack.Lawful) (quiet : env.debug = false) {item : Slice}
    (represented : item.Represented) :
    Serves env [⟨0, 200, [], [env.vpack.build (.object
      [("hasMore", .bool false), ("result", .array [item])])]⟩] [item] [] := by
  obtain ⟨response, accepted, brings⟩ := @exists_accepted_brings env lawful quiet _ _
    (@holds_build env lawful 0 200
      (.object [("hasMore", .bool false), ("result", .array [item])]) (by simp [represented]))
    (Nat.succ_ne_zero 199) (by show (200 : Nat) < 400; decide) [item] none rfl rfl
    fun _ same => by cases same
  exact .last accepted brings

/-- The attribute at a path that has no points in it. -/
def attributeAt (path : Bytes) (document : Slice) : Slice :=
  match document.get path with
  | .ok .none | .error _ => .null
  | .ok value => value

/-- The key under the name `_id`. -/
theorem selectAll_returnsTexts_iff_key :
    let env : Env := ⟨.printing [], true, true, [], false⟩
    let queryFields : QueryFields := (∅ : QueryFields).insert "_key" "_id"
    let item : Slice := .object [("_id", .string "7")]
    let transfer : Transfer := ⟨0, 200, [], [env.vpack.build (.object
      [("hasMore", .bool false), ("result", .array [item])])]⟩
    ReturnsTexts env .default 500 1 "c" queryFields [transfer] [item.print] := by
  intro env queryFields item transfer
  have lawful : env.vpack.Lawful := Velocypack.printing_lawful []
  let document : Slice := .object [("_key", .string "7")]
  obtain ⟨request, sent, created, encoded⟩ :=
    exists_sent_selectAll lawful rfl rfl .default 500 "c" "_key" "_id"
  obtain ⟨_, _, only⟩ := @selectAll_returnsTexts_iff env lawful .default 500 "c" queryFields
    [transfer] [item] [] (serves_one lawful rfl (by simp [item])) Slice.print (fun _ _ => rfl) 1
    Nat.zero_lt_one request sent created encoded attributeAt [document]
    (.cons (projects_single attributeAt "_key" "_id" document) .nil)
  refine (only "_key" fun other => ?_).mpr fun document listed => ?_
  · rw [getElem?_single]
    simp [eq_comm]
  · rw [List.mem_singleton.mp listed]
    exact ⟨"7", rfl⟩

/-- A field other than `_id`, of one document. -/
theorem not_returnsTexts_index :
    let env : Env := ⟨.printing [], true, true, [], false⟩
    let queryFields : QueryFields := (∅ : QueryFields).insert "index" "index"
    let item : Slice := .object [("index", .int 1)]
    let transfer : Transfer := ⟨0, 200, [], [env.vpack.build (.object
      [("hasMore", .bool false), ("result", .array [item])])]⟩
    Serves env [transfer] [item] [] ∧ Projects attributeAt queryFields item item ∧
      ¬ ReturnsTexts env .default 500 1 "c" queryFields [transfer] [item.print] := by
  intro env queryFields item transfer
  have lawful : env.vpack.Lawful := Velocypack.printing_lawful []
  have serves := @serves_one env lawful rfl item (by simp [item, IsWord])
  obtain ⟨request, sent, created, encoded⟩ :=
    exists_sent_selectAll lawful rfl rfl .default 500 "c" "index" "index"
  have projects : Projects attributeAt queryFields item item :=
    projects_single attributeAt "index" "index" item
  refine ⟨serves, projects, fun returned => ?_⟩
  have identified := (@returnsTexts_iff env lawful .default 500 "c" queryFields [transfer] [item]
    [] serves Slice.print (fun _ _ => rfl) 1 Nat.zero_lt_one request sent created encoded).mp
      returned
  refine projects.not_identified (fun path => ?_) (identified item (List.mem_singleton_self item))
  rw [getElem?_single]
  split
  · decide
  · intro found
    cases found

end ArangoCpp
