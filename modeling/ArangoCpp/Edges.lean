/-
This file says which documents `removeEdges` removes.

The server keeps documents in collections, which are for edges or not and system collections or
not. It lists its collections, and it removes the documents of a collection that have the attributes
of an example. `removeEdges` asks for the list and then twice for each collection of edges that is
not a system collection, with an example for the edges to the vertex and one for those from it.
When all its requests are granted, the edges of the vertex are gone and every other document is as
it was: an edge from the vertex to itself goes with the first example, and an identifier that
another one begins with is not mistaken for it, since attributes are compared as a whole.
-/

import ArangoCpp.Documents
import ArangoCpp.Listing

namespace ArangoCpp

variable {env : Env} {policy : Policy} {connectData : ArangoDBConnection} {Key : Type}

/-! ### The collections of a server -/

/-- What a server knows of a collection besides its documents. -/
structure CollectionKind where
  isSystem : Bool
  isEdge : Bool

/-- The entry of a collection in the list of the collections. -/
def CollectionKind.entry (name : CollectionName) (kind : CollectionKind) : Listed where
  name := name.bytes
  isSystem := kind.isSystem
  type := if kind.isEdge then 3 else 2
  named := name.nonempty
  plain := by
    intro byte member between
    have legal := name.legal byte member
    revert legal
    rcases List.mem_pair.mp between with rfl | rfl <;> decide
  readable := by split <;> decide

theorem CollectionKind.json_item (name : CollectionName) (kind : CollectionKind) :
    (kind.entry name).item.Json := by
  have types : IsWord (kind.entry name).type := by
    unfold entry IsWord
    dsimp only
    split <;> decide
  have named : Complete (kind.entry name).name := name.complete
  simp +decide [Listed.item, types, named]

/-- An edge collection that is not a system collection. -/
def CollectionKind.HoldsEdges (kind : CollectionKind) : Prop :=
  kind.isSystem = false ∧ kind.isEdge = true

theorem CollectionKind.holdsEdges_iff (kind : CollectionKind) {name : CollectionName} :
    kind.HoldsEdges ↔ (kind.entry name).Selected .edge := by
  rw [Listed.selected_edge_iff, HoldsEdges, entry]
  by_cases edge : kind.isEdge = true
  · simp only [edge, if_true]
  · simp only [edge, and_congr_right_iff]
    exact fun _ => by decide

/-- The list has an entry for each collection and no other. -/
def ListsAll (kind : CollectionName → CollectionKind)
    (store : Catalogue CollectionName Key JsonValue) (entries : List Listed) : Prop :=
  ∀ entry, entry ∈ entries ↔ ∃ name, (store name).isSome = true ∧ entry = (kind name).entry name

/-- The attributes of an example are those of a document. -/
def Matches (template document : Slice) : Prop :=
  ∃ members, template = .object members ∧
    ∀ member ∈ members, ∃ value, document.get member.1 = .ok value ∧ member.2.Equal value

/-- An example with one string. -/
theorem matches_single_iff (field value : Bytes) (document : Slice) :
    Matches (.object [(field, .string value)]) document ↔
      document.get field = .ok (.string value) := by
  constructor
  · rintro ⟨members, same, each⟩
    injection same with same
    obtain ⟨found, has, equal⟩ := each (field, .string value) (same ▸ List.mem_singleton_self _)
    rw [has, Slice.equal_string_iff.mp equal]
  · intro has
    refine ⟨_, rfl, fun member listed => ?_⟩
    rw [List.mem_singleton.mp listed]
    exact ⟨_, has, .same _⟩

/-- An edge from or to a vertex. -/
def Touches (id : Bytes) (document : Slice) : Prop :=
  document.get "_to" = .ok (.string id) ∨ document.get "_from" = .ok (.string id)

/-! ### Requests -/

/-- The requests of `removeEdges`. -/
inductive RemovalRequest : Type where
  | list
  | removeByExample (name : CollectionName) (template : Slice)

namespace RemovalRequest

def verb : RemovalRequest → RestVerb
  | list => .get
  | removeByExample _ _ => .put

def path : RemovalRequest → Bytes
  | list => "/_api/collection"
  | removeByExample _ _ => "/_api/simple/remove-by-example"

/-- What the value in the body of a request says. -/
def Says (value : Slice) : RemovalRequest → Prop
  | list => True
  | removeByExample name template =>
    value.get "collection" = .ok (.string name.bytes) ∧ value.get "example" = .ok template

end RemovalRequest

/-- The request that a server reads off what is sent. -/
structure Policy.SeesRemoval (policy : Policy) (connectData : ArangoDBConnection)
    (sent : Transmission) (request : RemovalRequest) : Prop where
  method : sent.method = request.verb.method
  url : sent.url = connectData.fullURL request.path
  body : request.verb = .put →
    ∃ body value, sent.body = some (some body) ∧ policy.read body = some value ∧
      request.Says value

/-- The server reads one request off what is sent. -/
theorem Policy.SeesRemoval.unique {sent : Transmission} {first second : RemovalRequest}
    (sees : policy.SeesRemoval connectData sent first)
    (other : policy.SeesRemoval connectData sent second) : first = second := by
  have methods := sees.method.symm.trans other.method
  cases first with
  | list =>
    cases second with
    | list => rfl
    | removeByExample => exact absurd methods (by simp only [RemovalRequest.verb]; decide)
  | removeByExample name template =>
    cases second with
    | list => exact absurd methods (by simp only [RemovalRequest.verb]; decide)
    | removeByExample name' template' =>
      obtain ⟨body, value, carried, read, collection, listed⟩ := sees.body rfl
      obtain ⟨body', value', carried', read', collection', listed'⟩ := other.body rfl
      cases carried.symm.trans carried'
      cases read.symm.trans read'
      have names := collection.symm.trans collection'
      injection names with names
      injection names with names
      cases CollectionName.ext names
      cases listed.symm.trans listed'
      rfl

/-! ### Replies -/

/-- How a server grants a request, and the collections that it has then. -/
inductive Policy.Grants (env : Env) (kind : CollectionName → CollectionKind)
    (store : Catalogue CollectionName Key JsonValue) :
    RemovalRequest → Transfer → Catalogue CollectionName Key JsonValue → Prop where
  | listed {reply : Transfer} {value : JsonValue} {entries : List Listed} {items : List Slice}
      (all : ListsAll kind store entries) (shown : List.Forall₂ Listed.Shown entries items)
      (status : reply.responseCode = 200) (holds : reply.Holds env value)
      (result : value.1.get "result" = .ok (.array items)) :
      Grants env kind store .list reply store
  | removed {name : CollectionName} {template : Slice} {reply : Transfer} {value : JsonValue}
      {after : Catalogue CollectionName Key JsonValue} {deleted : Int}
      (collection : (store name).isSome = true)
      (loses : store.Loses (fun other document => other = name ∧ Matches template document) after)
      (status : 200 ≤ reply.responseCode ∧ reply.responseCode < 300)
      (holds : reply.Holds env value)
      (counted : (value.1.get "deleted" >>= Slice.getInt) = .ok deleted) :
      Grants env kind store (.removeByExample name template) reply after

/-- How a server answers what is sent when it grants the requests. What it does not read as one of
them, it may answer in any way, and do anything. -/
inductive Policy.Obeys (env : Env) (policy : Policy) (kind : CollectionName → CollectionKind)
    (connectData : ArangoDBConnection) (store : Catalogue CollectionName Key JsonValue)
    (sent : Transmission) : Transfer → Catalogue CollectionName Key JsonValue → Prop where
  | granted {request : RemovalRequest} {reply : Transfer}
      {after : Catalogue CollectionName Key JsonValue}
      (sees : policy.SeesRemoval connectData sent request)
      (grants : Policy.Grants env kind store request reply after) :
      Obeys env policy kind connectData store sent reply after
  | strange (reply : Transfer) (after : Catalogue CollectionName Key JsonValue)
      (unseen : ∀ request, ¬ policy.SeesRemoval connectData sent request) :
      Obeys env policy kind connectData store sent reply after

variable {kind : CollectionName → CollectionKind}
  {store after : Catalogue CollectionName Key JsonValue}

theorem Policy.SeesRemoval.obeys_iff {sent : Transmission} {request : RemovalRequest}
    (sees : policy.SeesRemoval connectData sent request) {reply : Transfer} :
    policy.Obeys env kind connectData store sent reply after ↔
      Policy.Grants env kind store request reply after := by
  constructor
  · intro obeys
    cases obeys with
    | granted other grants => exact sees.unique other ▸ grants
    | strange _ _ unseen => exact absurd sees (unseen request)
  · exact fun grants => .granted sees grants

/-! ### Examples -/

/-- The bytes that stand for themselves in the strings of a JSON text. -/
def isJsonPlain (byte : UInt8) : Bool := 0x20 ≤ byte && byte < 0x7f && byte != 0x22 && byte != 0x5c

/-- The text of an example with one attribute. -/
def exampleText (field id : Bytes) : Bytes := "\x7b\"" ++ field ++ "\": \"" ++ id ++ "\" \x7d"

/-- The library parses the text of an example whose strings stand for themselves. -/
def Velocypack.ParsesExamples (vpack : Velocypack) : Prop :=
  ∀ field id, (∀ byte ∈ field, isJsonPlain byte = true) → (∀ byte ∈ id, isJsonPlain byte = true) →
    vpack.fromJson parseOptions (exampleText field id) = .ok (.object [(field, .string id)])

theorem isJsonPlain_of_isNameByte {byte : UInt8} (legal : isNameByte byte = true) :
    isJsonPlain byte = true := by
  have each : ∀ number : Fin 256, isNameByte (UInt8.ofNat number) = true →
      isJsonPlain (UInt8.ofNat number) = true := by decide +kernel
  exact @forall_byte (fun byte => isNameByte byte = true → isJsonPlain byte = true) each byte legal

theorem isJsonPlain_of_isKeyByte {byte : UInt8} (legal : isKeyByte byte = true) :
    isJsonPlain byte = true := by
  have each : ∀ number : Fin 256, isKeyByte (UInt8.ofNat number) = true →
      isJsonPlain (UInt8.ofNat number) = true := by decide +kernel
  exact @forall_byte (fun byte => isKeyByte byte = true → isJsonPlain byte = true) each byte legal

/-- The example with strings that stand for themselves is a value that a text has. -/
theorem json_example {field id : Bytes} (plainField : ∀ byte ∈ field, isJsonPlain byte = true)
    (plain : ∀ byte ∈ id, isJsonPlain byte = true) :
    (Slice.object [(field, .string id)]).Json := by
  have ascii : ∀ byte, isJsonPlain byte = true → byte < 0x80 := forall_byte (by decide +kernel)
  have complete : ∀ value : Bytes, (∀ byte ∈ value, isJsonPlain byte = true) → Complete value :=
    fun value legal => complete_of_ascii fun byte listed => ascii byte (legal byte listed)
  simp [complete field plainField, complete id plain]

/-- Identifiers stand for themselves. -/
theorem isJsonPlain_identifier (name : CollectionName) (key : LegalKey) :
    ∀ byte ∈ name.bytes ++ slash :: key.bytes, isJsonPlain byte = true := by
  intro byte member
  rcases List.mem_append.mp member with inName | inKey
  · exact isJsonPlain_of_isNameByte (name.legal byte inName)
  · rcases List.mem_cons.mp inKey with rfl | inKey
    · decide
    · rcases key.legal byte inKey with legal | rfl
      · exact isJsonPlain_of_isKeyByte legal
      · decide

/-- A server that grants the requests sees the request for the list. -/
theorem Policy.Understands.sees_list (understands : policy.Understands env)
    (connectData : ArangoDBConnection) :
    ∃ sent, (Dispatch.base.channel env connectData).encode
        (createREQUEST env .get "/_api/collection") = .ok sent ∧
      policy.SeesRemoval connectData sent .list :=
  ⟨_, encode_createREQUEST understands.lawful .base connectData (Or.inl rfl) _, rfl, rfl,
    fun loaded => by cases loaded⟩

/-- The request to remove by an example. -/
def removeByExampleRequest (env : Env) (name : CollectionName) (template : Slice) : HttpMessage :=
  createREQUESTWith env .put "/_api/simple/remove-by-example"
    (.object [("collection", .string name.bytes), ("example", template)])

theorem issued_removeByExampleRequest (lawful : env.vpack.Lawful) (name : CollectionName)
    {template : Slice} (represented : template.Represented) :
    (removeByExampleRequest env name template).Issued env :=
  issued_createREQUESTWith lawful _ (by simp [represented]) (Or.inr (Or.inl rfl))

/-- It sees the request to remove by an example with one string. -/
theorem Policy.Understands.sees_removeByExample (understands : policy.Understands env)
    (connectData : ArangoDBConnection) (name : CollectionName) {field id : Bytes}
    (json : (Slice.object [(field, .string id)]).Json) :
    ∃ sent, (Dispatch.base.channel env connectData).encode
        (removeByExampleRequest env name (.object [(field, .string id)])) = .ok sent ∧
      policy.SeesRemoval connectData sent
        (.removeByExample name (.object [(field, .string id)])) := by
  let members : List (Bytes × Slice) :=
    [("collection", .string name.bytes), ("example", .object [(field, .string id)])]
  have distinct : [text "collection", text "example"].Nodup := by decide
  let value : JsonValue := ⟨.object members, by
    have stated := (Slice.json_object_iff _).mp json
    simp +decide [members, name.complete] at stated ⊢
    exact stated⟩
  obtain ⟨body, encoded, nonempty, read⟩ := @Policy.Understands.encodes _ _ understands .base
    connectData _ (issued_removeByExampleRequest understands.lawful name json.represented) value
    (holds_createREQUESTWith _ _ value.2.represented)
  have alike : (Slice.object members).Alike (policy.seen env value) := understands.alike value
  have apart : text "collection" ≠ text "example" := by decide
  have named := alike.get_eq distinct "collection" (Slice.rigid_string name.bytes) rfl
  have found := alike.get_eq distinct "example" (Slice.rigid_single field (Slice.rigid_string id))
    (by simp [members, Slice.get, apart])
  exact ⟨_, encoded, rfl, rfl, fun _ => ⟨body, _, if_neg nonempty, read, named, found⟩⟩

/-! ### The removal of the edges of a vertex -/

open ArangoDBCollectionAPI

/-- The body of the loop of `removeEdges`. -/
def detach (env : Env) (id edgecoll : Bytes) : Api Unit := do
  let _ ← removeByTemplate env edgecoll (exampleText "_to" id)
  let _ ← removeByTemplate env edgecoll (exampleText "_from" id)

theorem removeEdges_eq {collname vertexkey id : Bytes}
    (identifier : getId collname vertexkey = id) :
    removeEdges env collname vertexkey =
      (collectionNames env .edge).bind fun edges => edges.toList.forM (detach env id) := by
  have toExample : text "\x7b\"_to\": \"" =
      text "\x7b\"" ++ text "_to" ++ text "\": \"" := by decide
  have fromExample : text "\x7b\"_from\": \"" =
      text "\x7b\"" ++ text "_from" ++ text "\": \"" := by decide
  unfold removeEdges
  rw [identifier, toExample, fromExample]
  rfl

theorem forM_detach_cons (id name : Bytes) (names : List Bytes) :
    (name :: names).forM (detach env id) =
      (detach env id name).bind fun _ => names.forM (detach env id) := rfl

section

variable (understands : policy.Understands env) (parses : env.vpack.ParsesExamples)
  {id : Bytes} (plain : ∀ byte ∈ id, isJsonPlain byte = true)

include understands parses plain

/-- `removeByTemplate` with an example of one attribute asks to remove by it. -/
theorem plays_removeByTemplate_iff {field : Bytes}
    (plainField : ∀ byte ∈ field, isJsonPlain byte = true) (name : CollectionName)
    {result : Except Fault Int} :
    Dialogue.Plays (policy.Obeys env kind connectData) (conduct env .base connectData
        (removeByTemplate env name.bytes (exampleText field id))) store result after ↔
      ∃ reply, Policy.Grants env kind store
          (.removeByExample name (.object [(field, .string id)])) reply after ∧
        result = throwVelocypack env ((Dispatch.base.channel env connectData).decode
            (removeByExampleRequest env name (.object [(field, .string id)])) reply >>=
          takeValue env badRequest "Error removeByExampleRequest: " fun slice =>
            slice.get "deleted" >>= Slice.getInt) := by
  have json := json_example plainField plain
  obtain ⟨sent, encoded, sees⟩ := understands.sees_removeByExample connectData name json
  have program : removeByTemplate env name.bytes (exampleText field id) =
      catchVelocypack env title 11 (.exchange
        (removeByExampleRequest env name (.object [(field, .string id)]))
        (takeValue env badRequest "Error removeByExampleRequest: " fun slice =>
          slice.get "deleted" >>= Slice.getInt)) := by
    unfold removeByTemplate
    rw [parses field id plainField plain, ofVpack_ok, Dialogue.ofExcept_ok, Dialogue.bind_eq,
      Dialogue.done_bind, exchangeQuery_eq]
    rfl
  have asks := Dialogue.asks_exchange
    (issued_removeByExampleRequest understands.lawful name json.represented)
    (takeValue env badRequest "Error removeByExampleRequest: " fun slice =>
      slice.get "deleted" >>= Slice.getInt)
  rw [program, plays_catchVelocypack_iff understands.lawful asks,
    Operation.conduct_eq_through understands.lawful asks]
  simp only [Dialogue.plays_through_exchange_iff encoded, sees.obeys_iff]
  constructor
  · rintro ⟨_, ⟨reply, grants, rfl⟩, same⟩
    exact ⟨reply, grants, same⟩
  · rintro ⟨reply, grants, same⟩
    exact ⟨_, ⟨reply, grants, rfl⟩, same⟩

omit parses plain in
/-- The number of removed documents is read out of the reply. -/
theorem deleted_of_grants {rq : HttpMessage} {name : CollectionName} {template : Slice}
    {reply : Transfer}
    (grants : Policy.Grants env kind store (.removeByExample name template) reply after) :
    ∃ deleted, throwVelocypack env ((Dispatch.base.channel env connectData).decode rq reply >>=
      takeValue env badRequest "Error removeByExampleRequest: " fun slice =>
        slice.get "deleted" >>= Slice.getInt) = .ok deleted := by
  cases grants with
  | @removed _ _ _ _ _ deleted collection loses status holds counted =>
    have accepts : badRequest reply.responseCode = false :=
      decide_eq_false (Nat.not_le_of_lt (Nat.lt_of_lt_of_le status.2 (by decide)))
    have received : reply.responseCode ≠ 0 := by omega
    rw [understands.taken _ accepts received holds, counted]
    exact ⟨deleted, rfl⟩

/-- It removes the documents that have the attribute. -/
theorem removes_removeByTemplate {field : Bytes}
    (plainField : ∀ byte ∈ field, isJsonPlain byte = true) (name : CollectionName)
    {result : Except Fault Int}
    (plays : Dialogue.Plays (policy.Obeys env kind connectData) (conduct env .base connectData
      (removeByTemplate env name.bytes (exampleText field id))) store result after) :
    (∃ deleted, result = .ok deleted) ∧ store.Loses
      (fun other document => other = name ∧ document.1.get field = .ok (.string id)) after := by
  obtain ⟨reply, grants, rfl⟩ :=
    (plays_removeByTemplate_iff understands parses plain plainField name).mp plays
  refine ⟨deleted_of_grants understands grants, ?_⟩
  cases grants with
  | removed collection loses status holds counted =>
    refine loses.congr fun other key document _ => ?_
    rw [matches_single_iff]

/-- Both examples for an edge collection remove the edges that touch the vertex. -/
theorem removes_detach (name : CollectionName) {result : Except Fault Unit}
    (plays : Dialogue.Plays (policy.Obeys env kind connectData)
      (conduct env .base connectData (detach env id name.bytes)) store result after) :
    result = .ok () ∧
      store.Loses (fun other document => other = name ∧ Touches id document.1) after := by
  have plainTo : ∀ byte ∈ text "_to", isJsonPlain byte = true := List.all_eq_true.mp rfl
  have plainFrom : ∀ byte ∈ text "_from", isJsonPlain byte = true := List.all_eq_true.mp rfl
  unfold detach at plays
  rw [Dialogue.bind_eq, conduct_bind, Dialogue.plays_bind_iff] at plays
  obtain ⟨_, between, first, plays⟩ | ⟨fault, failed, _⟩ := plays
  · have lost := (removes_removeByTemplate understands parses plain plainTo name first).2
    rw [Dialogue.bind_eq, conduct_bind, Dialogue.plays_bind_iff] at plays
    obtain ⟨_, final, second, plays⟩ | ⟨fault, failed, _⟩ := plays
    · have lostToo := (removes_removeByTemplate understands parses plain plainFrom name second).2
      obtain ⟨rfl, rfl⟩ := Dialogue.plays_done_iff.mp plays
      refine ⟨rfl, (lost.trans lostToo).congr fun other key document _ => ?_⟩
      rw [Touches, and_or_left]
    · obtain ⟨⟨_, same⟩, _⟩ :=
        removes_removeByTemplate understands parses plain plainFrom name failed
      cases same
  · obtain ⟨⟨_, same⟩, _⟩ := removes_removeByTemplate understands parses plain plainTo name failed
    cases same

/-- The loop removes the edges that touch the vertex from all collections that are named. -/
theorem removes_forM_detach {names : List Bytes}
    (legal : ∀ name ∈ names, ∃ collection : CollectionName, collection.bytes = name)
    {result : Except Fault Unit}
    (plays : Dialogue.Plays (policy.Obeys env kind connectData)
      (conduct env .base connectData (names.forM (detach env id))) store result after) :
    result = .ok () ∧ store.Loses
      (fun other document => other.bytes ∈ names ∧ Touches id document.1) after := by
  induction names generalizing store with
  | nil =>
    obtain ⟨rfl, rfl⟩ := Dialogue.plays_done_iff.mp plays
    refine ⟨rfl, (Catalogue.loses_refl _).congr fun other key document _ => ?_⟩
    simp only [List.not_mem_nil, false_and]
  | cons name names inductionHypothesis =>
    obtain ⟨collection, rfl⟩ := legal name List.mem_cons_self
    rw [forM_detach_cons, conduct_bind, Dialogue.plays_bind_iff] at plays
    obtain ⟨_, between, first, plays⟩ | ⟨fault, failed, _⟩ := plays
    · have lost := (removes_detach understands parses plain collection first).2
      obtain ⟨returned, lostToo⟩ := inductionHypothesis
        (fun other member => legal other (List.mem_cons_of_mem _ member)) plays
      refine ⟨returned, (lost.trans lostToo).congr fun other key document _ => ?_⟩
      rw [List.mem_cons, ← CollectionName.ext_iff, or_and_right]
    · cases (removes_detach understands parses plain collection failed).1

omit parses plain in
/-- The list that the server grants is read as the names of its edge collections. -/
theorem lists_collectionNames {result : Except Fault StringSet}
    (plays : Dialogue.Plays (policy.Obeys env kind connectData)
      (conduct env .base connectData (collectionNames env .edge)) store result after) :
    after = store ∧ ∃ edges, result = .ok edges ∧ ∀ name, name ∈ edges ↔
      ∃ collection : CollectionName, ((store collection).isSome = true ∧
        (kind collection).HoldsEdges) ∧ collection.bytes = name := by
  obtain ⟨sent, encoded, sees⟩ := understands.sees_list connectData
  obtain ⟨read, program, reads⟩ := collectionNames_eq env .edge
  rw [Operation.conduct_eq_through understands.lawful (orderly_collectionNames .edge).asks, program,
    Dialogue.plays_through_exchange_iff encoded] at plays
  obtain ⟨reply, obeys, rfl⟩ := plays
  cases sees.obeys_iff.mp obeys with
  | @listed _ value entries items all shown status holds listed =>
    have received : reply.responseCode ≠ 0 := by rw [status]; decide
    obtain ⟨response, decoded, readsValue, same⟩ :=
      @Policy.Understands.decode_holds env policy connectData understands
        (createREQUEST env .get "/_api/collection") reply value holds received
    obtain ⟨edges, found, member⟩ := reads response entries
      ⟨same.trans status, value, items, readsValue.front, listed, shown⟩
    refine ⟨rfl, edges, by rw [decoded, ok_bind, found], fun name => ?_⟩
    rw [member]
    constructor
    · rintro ⟨entry, inList, selected, rfl⟩
      obtain ⟨collection, there, rfl⟩ := (all entry).mp inList
      exact ⟨collection, ⟨there, (kind collection).holdsEdges_iff.mpr selected⟩, rfl⟩
    · rintro ⟨collection, ⟨there, holdsEdges⟩, rfl⟩
      exact ⟨(kind collection).entry collection, (all _).mpr ⟨collection, there, rfl⟩,
        (kind collection).holdsEdges_iff.mp holdsEdges, rfl⟩

/-! ### Requests that can be granted -/

omit parses plain in
/-- A list of the collections can be sent. -/
theorem exists_plays_collectionNames {entries : List Listed} (all : ListsAll kind store entries) :
    ∃ edges, Dialogue.Plays (policy.Obeys env kind connectData)
      (conduct env .base connectData (collectionNames env .edge)) store (.ok edges) store := by
  have shown : ∀ item ∈ entries.map Listed.item, item.Json := by
    intro item listed
    obtain ⟨entry, inList, rfl⟩ := List.mem_map.mp listed
    obtain ⟨name, _, rfl⟩ := (all entry).mp inList
    exact (kind name).json_item name
  let value : JsonValue := ⟨.object [("result", .array (entries.map Listed.item))], by
    simp +decide only [Slice.json_object_iff, Slice.json_array_iff, List.forall_mem_singleton,
      true_and]
    exact shown⟩
  obtain ⟨sent, encoded, sees⟩ := understands.sees_list connectData
  obtain ⟨read, program, _⟩ := collectionNames_eq env .edge
  have grants : Policy.Grants env kind store .list ⟨0, 200, [], [env.vpack.build value]⟩ store :=
    .listed all (List.forall₂_map_right_iff.mpr
      (List.forall₂_same.mpr fun entry _ => entry.shown_item)) rfl
      (holds_build understands.lawful 0 200 value.2.represented) rfl
  have plays : ∃ result, Dialogue.Plays (policy.Obeys env kind connectData)
      (conduct env .base connectData (collectionNames env .edge)) store result store := by
    rw [Operation.conduct_eq_through understands.lawful (orderly_collectionNames .edge).asks,
      program]
    exact ⟨_, (Dialogue.plays_through_exchange_iff encoded).mpr
      ⟨_, sees.obeys_iff.mpr grants, rfl⟩⟩
  obtain ⟨result, plays⟩ := plays
  obtain ⟨_, edges, rfl, _⟩ := lists_collectionNames understands plays
  exact ⟨edges, plays⟩

/-- The documents of a collection that have an attribute can be removed. -/
theorem exists_plays_removeByTemplate {field : Bytes}
    (plainField : ∀ byte ∈ field, isJsonPlain byte = true) {name : CollectionName}
    (collection : (store name).isSome = true) :
    ∃ deleted after, Dialogue.Plays (policy.Obeys env kind connectData) (conduct env .base
      connectData (removeByTemplate env name.bytes (exampleText field id))) store (.ok deleted)
      after := by
  let value : JsonValue := ⟨.object [("deleted", .int 0)], by simp +decide [IsWord]⟩
  obtain ⟨after, loses⟩ := store.exists_loses fun other document =>
    other = name ∧ Matches (.object [(field, .string id)]) document.1
  have grants : Policy.Grants env kind store
      (.removeByExample name (.object [(field, .string id)]))
      ⟨0, 200, [], [env.vpack.build value]⟩ after :=
    .removed collection loses ⟨Nat.le_refl 200, Nat.lt_of_sub_eq_succ rfl⟩
      (holds_build understands.lawful 0 200 value.2.represented) rfl
  obtain ⟨deleted, read⟩ := deleted_of_grants understands grants
  exact ⟨deleted, after, (plays_removeByTemplate_iff understands parses plain plainField name).mpr
    ⟨_, grants, read.symm⟩⟩

/-- So can the edges that touch a vertex. -/
theorem exists_plays_detach {name : CollectionName} (present : (store name).isSome = true) :
    ∃ after, Dialogue.Plays (policy.Obeys env kind connectData)
      (conduct env .base connectData (detach env id name.bytes)) store (.ok ()) after := by
  have plainTo : ∀ byte ∈ text "_to", isJsonPlain byte = true := List.all_eq_true.mp rfl
  have plainFrom : ∀ byte ∈ text "_from", isJsonPlain byte = true := List.all_eq_true.mp rfl
  obtain ⟨_, between, first⟩ := @exists_plays_removeByTemplate env policy connectData Key kind
    store understands parses id plain "_to" plainTo name present
  have kept := (removes_removeByTemplate understands parses plain plainTo name first).2
  obtain ⟨_, final, second⟩ := @exists_plays_removeByTemplate env policy connectData Key kind
    between understands parses id plain "_from" plainFrom name
    ((kept.collections name).trans present)
  refine ⟨final, ?_⟩
  unfold detach
  rw [Dialogue.bind_eq, conduct_bind]
  refine Dialogue.plays_bind_iff.mpr (Or.inl ⟨_, between, first, ?_⟩)
  rw [Dialogue.bind_eq, conduct_bind]
  exact Dialogue.plays_bind_iff.mpr (Or.inl ⟨_, final, second, .done () final⟩)

theorem exists_plays_forM_detach {names : List Bytes}
    (there : ∀ name ∈ names, ∃ collection : CollectionName,
      collection.bytes = name ∧ (store collection).isSome = true) :
    ∃ after, Dialogue.Plays (policy.Obeys env kind connectData)
      (conduct env .base connectData (names.forM (detach env id))) store (.ok ()) after := by
  induction names generalizing store with
  | nil => exact ⟨store, .done () store⟩
  | cons name names inductionHypothesis =>
    obtain ⟨collection, rfl, present⟩ := there name List.mem_cons_self
    obtain ⟨between, first⟩ := @exists_plays_detach env policy connectData Key kind store
      understands parses id plain collection present
    have kept := (removes_detach understands parses plain collection first).2
    obtain ⟨after, rest⟩ := @inductionHypothesis between fun other member => by
      obtain ⟨collection, same, present⟩ := there other (List.mem_cons_of_mem _ member)
      exact ⟨collection, same, (kept.collections collection).trans present⟩
    rw [forM_detach_cons, conduct_bind]
    exact ⟨after, Dialogue.plays_bind_iff.mpr (Or.inl ⟨_, between, first, rest⟩)⟩

end

section

variable (understands : policy.Understands env) (parses : env.vpack.ParsesExamples)
  {kind : CollectionName → CollectionKind} {connectData : ArangoDBConnection}
  {store : Catalogue CollectionName Key JsonValue} {name : CollectionName} {key : LegalKey}
  {handle : Bytes} (spelling : handle = key.bytes ∨ handle = name.bytes ++ slash :: key.bytes)

include understands parses spelling

theorem exists_plays_removeEdges {entries : List Listed} (all : ListsAll kind store entries) :
    ∃ after, Dialogue.Plays (policy.Obeys env kind connectData)
      (conduct env .base connectData (removeEdges env name.bytes handle)) store (.ok ()) after := by
  have plain := isJsonPlain_identifier name key
  obtain ⟨edges, listed⟩ :=
    @exists_plays_collectionNames env policy connectData Key kind store understands entries all
  obtain ⟨_, found, same, member⟩ := lists_collectionNames understands listed
  cases same
  obtain ⟨after, rest⟩ := @exists_plays_forM_detach env policy connectData Key kind store
    understands parses _ plain edges.toList fun other inList => by
      obtain ⟨collection, ⟨there, _⟩, named⟩ := (member other).mp
        (Std.TreeSet.mem_toList.mp inList)
      exact ⟨collection, named, there⟩
  rw [removeEdges_eq (getId_of_spelling key.slash_notMem spelling), conduct_bind]
  exact ⟨after, Dialogue.plays_bind_iff.mpr (Or.inl ⟨edges, store, listed, rest⟩)⟩

theorem loses_of_plays_removeEdges {result : Except Fault Unit}
    {after : Catalogue CollectionName Key JsonValue}
    (plays : Dialogue.Plays (policy.Obeys env kind connectData)
      (conduct env .base connectData (removeEdges env name.bytes handle)) store result after) :
    result = .ok () ∧ store.Loses (fun other document =>
      (kind other).HoldsEdges ∧ Touches (name.bytes ++ slash :: key.bytes) document.1) after := by
  rw [removeEdges_eq (getId_of_spelling key.slash_notMem spelling), conduct_bind] at plays
  obtain ⟨edges, between, listed, rest⟩ | ⟨fault, failed, _⟩ := Dialogue.plays_bind_iff.mp plays
  · obtain ⟨rfl, _, same, member⟩ := lists_collectionNames understands listed
    cases same
    obtain ⟨returned, loses⟩ := removes_forM_detach understands parses
      (isJsonPlain_identifier name key) (fun other inList => by
        obtain ⟨collection, _, named⟩ := (member other).mp (Std.TreeSet.mem_toList.mp inList)
        exact ⟨collection, named⟩) rest
    refine ⟨returned, loses.congr fun other key document found => ?_⟩
    rw [Std.TreeSet.mem_toList, member]
    refine and_congr_left fun _ => ?_
    constructor
    · rintro ⟨collection, ⟨_, holdsEdges⟩, named⟩
      exact CollectionName.ext named ▸ holdsEdges
    · exact fun holdsEdges =>
        ⟨other, ⟨Catalogue.isSome_of_find found, holdsEdges⟩, rfl⟩
  · obtain ⟨_, _, same, _⟩ := lists_collectionNames understands failed
    cases same

end

/-- A server with a list of its collections can grant all requests of `removeEdges`. When it grants
them, the edges that touch the vertex are gone from the edge collections other than system
collections, and every other document is as it was. -/
theorem removeEdges_loses (understands : policy.Understands env)
    (parses : env.vpack.ParsesExamples) (kind : CollectionName → CollectionKind)
    (connectData : ArangoDBConnection) (store : Catalogue CollectionName Key JsonValue)
    (name : CollectionName) (key : LegalKey) {handle : Bytes}
    (spelling : handle = key.bytes ∨ handle = name.bytes ++ slash :: key.bytes) :
    ((∃ entries, ListsAll kind store entries) → ∃ after,
      Dialogue.Plays (policy.Obeys env kind connectData)
        (conduct env .base connectData (removeEdges env name.bytes handle)) store (.ok ()) after) ∧
    ∀ result after,
      Dialogue.Plays (policy.Obeys env kind connectData)
        (conduct env .base connectData (removeEdges env name.bytes handle)) store result after →
      result = .ok () ∧ store.Loses (fun other document =>
        (kind other).HoldsEdges ∧ Touches (name.bytes ++ slash :: key.bytes) document.1) after :=
  ⟨fun ⟨_, all⟩ => exists_plays_removeEdges understands parses spelling all,
    fun _ _ plays => loses_of_plays_removeEdges understands parses spelling plays⟩

/-- The library that parses objects with one member parses the examples. -/
theorem parsesExamples_oneMember : Velocypack.oneMember.ParsesExamples := by
  have free : ∀ string : Bytes, (∀ byte ∈ string, isJsonPlain byte = true) → 0x22 ∉ string := by
    intro string plain member
    have quote := plain 0x22 member
    revert quote
    decide
  intro field id plainField plain
  have json := json_example plainField plain
  simp only [Slice.json_object_iff, List.forall_mem_singleton, Slice.json_string_iff] at json
  exact Velocypack.parseMember_eq (free field plainField) (free id plain) json.1 json.2

theorem understands_oneMember :
    Policy.Understands ⟨fun body => some (Velocypack.oneMember.sliceAt body), fun _ _ _ _ => True⟩
      ⟨.oneMember, true, true, [], false⟩ :=
  Policy.understands_sliceAt Velocypack.oneMember_lawful (fun _ => ⟨_, rfl⟩) fun _ _ =>
    Velocypack.oneMember_json

/-- An edge from the vertex to itself is removed from an edge collection, and not from a system
collection. An edge to a vertex with a longer identifier stays, with its fractional length. -/
theorem removeEdges_loses_loop :
    let name : CollectionName := ⟨"c", by decide, List.all_eq_true.mp rfl⟩
    let edges : CollectionName := ⟨"e", by decide, List.all_eq_true.mp rfl⟩
    let system : CollectionName := ⟨"_e", by decide, List.all_eq_true.mp rfl⟩
    let policy : Policy :=
      ⟨fun body => some (Velocypack.oneMember.sliceAt body), fun _ _ _ _ => True⟩
    let env : Env := ⟨.oneMember, true, true, [], false⟩
    let kind (other : CollectionName) : CollectionKind := ⟨other = system, true⟩
    let loop : JsonValue := ⟨.object [("_from", .string "c/k"), ("_to", .string "c/k")],
      by simp +decide⟩
    let other : JsonValue := ⟨.object [("_from", .string "c/a"), ("_to", .string "c/kk"),
      ("length", .double 0x3ff8000000000000)], by simp +decide⟩
    let store : Catalogue CollectionName Bool JsonValue := fun place =>
      if place = edges ∨ place = system then
        some fun key => if key then some loop else some other
      else none
    ∃ after, Dialogue.Plays (policy.Obeys env kind .default)
        (conduct env .base .default (removeEdges env name.bytes "k")) store (.ok ()) after ∧
      after.find edges true = none ∧ after.find edges false = some other ∧
      after.find system true = some loop := by
  intro name edges system policy env kind loop other store
  let key : LegalKey := ⟨"k", by decide, by decide, fun byte member =>
    Or.inl (List.all_eq_true.mp (show (text "k").all isKeyByte = true from rfl) byte member)⟩
  obtain ⟨grants, loses⟩ := removeEdges_loses understands_oneMember parsesExamples_oneMember kind
    .default store name key (Or.inl rfl)
  have all : ListsAll kind store [(kind edges).entry edges, (kind system).entry system] := by
    intro entry
    rw [List.mem_pair]
    constructor
    · rintro (rfl | rfl)
      · exact ⟨edges, rfl, rfl⟩
      · exact ⟨system, rfl, rfl⟩
    · rintro ⟨place, there, rfl⟩
      have held : place = edges ∨ place = system := by
        by_contra absent
        have missing : store place = none := if_neg absent
        rw [missing] at there
        cases there
      exact held.imp (fun same => by rw [same]) fun same => by rw [same]
  obtain ⟨after, plays⟩ := grants ⟨_, all⟩
  obtain ⟨_, lost⟩ := loses _ after plays
  refine ⟨after, plays, ?_, (lost.documents edges false _).mpr ⟨rfl, ?_⟩,
    (lost.documents system true _).mpr ⟨rfl, ?_⟩⟩
  · cases found : after.find edges true with
    | none => rfl
    | some document =>
      obtain ⟨stored, stays⟩ := (lost.documents edges true document).mp found
      have same : document = loop := Option.some.inj (stored.symm.trans rfl)
      rw [same] at stays
      exact absurd ⟨⟨by decide, rfl⟩, Or.inl rfl⟩ stays
  · rintro ⟨_, touches⟩
    have apart : ∀ id : Bytes, id ≠ "c/k" →
        (Except.ok (Slice.string id) : Except VpackException Slice) ≠ .ok (.string "c/k") := by
      intro id differs same
      injection same with same
      injection same with same
      exact differs same
    exact touches.elim (apart "c/kk" (by decide)) (apart "c/a" (by decide))
  · intro both
    exact absurd both.1.1 (by decide)

end ArangoCpp
