/-
This file describes a server as far as the operations on documents see it: what requests it
knows, how it reads them off what is sent, and how it answers them out of its documents.

The server knows a document by the name of its collection and by its key, and it reads both off
the URL. It is free in what ArangoDB is free in: what it adds to a document before it keeps it,
which key it makes up for a document without one, which of two statuses it reports a success
with, in which format and with which further members it sends a value, and what it says about
an error. A document that it sends is read by the client as a value alike.
-/

import ArangoCpp.Catalogue
import ArangoCpp.Handles
import ArangoCpp.Names
import ArangoCpp.Rejections
import ArangoCpp.Values

namespace ArangoCpp

/-! ### Identifiers and handles -/

/-- Names and keys have no other than ASCII characters. -/
theorem CollectionName.complete (name : CollectionName) : Complete name.bytes := by
  have ascii : ∀ byte, isNameByte byte = true → byte < 0x80 := forall_byte (by decide +kernel)
  exact complete_of_ascii fun byte listed => ascii byte (name.legal byte listed)

theorem DocumentKey.complete (key : DocumentKey) : Complete key.bytes := by
  have ascii : ∀ byte, isKeyByte byte = true → byte < 0x80 := forall_byte (by decide +kernel)
  exact complete_of_ascii fun byte listed => ascii byte (key.legal byte listed)

theorem CollectionName.slash_notMem (name : CollectionName) : slash ∉ name.bytes := by
  intro member
  have legal := name.legal slash member
  revert legal
  decide

theorem DocumentKey.slash_notMem (key : DocumentKey) : slash ∉ key.bytes := by
  intro member
  have legal := key.legal slash member
  revert legal
  decide

/-- The identifier of a document. -/
def identifier (name : CollectionName) (key : DocumentKey) : Bytes :=
  name.bytes ++ slash :: key.bytes

theorem identifier_inj {name other : CollectionName} {key another : DocumentKey}
    (same : identifier name key = identifier other another) : name = other ∧ key = another := by
  obtain ⟨names, keys⟩ := id_inj name.slash_notMem key.slash_notMem same
  exact ⟨CollectionName.ext names, DocumentKey.ext keys⟩

/-- A handle of a document of the collection that is asked for: its key or its identifier. -/
inductive Handle : Type where
  | bare (key : DocumentKey)
  | full (key : DocumentKey)

namespace Handle

def key : Handle → DocumentKey
  | bare key | full key => key

def bytes (name : CollectionName) : Handle → Bytes
  | bare key => key.bytes
  | full key => identifier name key

end Handle

/-- Both spellings of a handle make the identifier. -/
theorem getId_handle (name : CollectionName) (handle : Handle) :
    getId name.bytes (handle.bytes name) = identifier name handle.key := by
  cases handle with
  | bare key => exact getId_of_key key.slash_notMem
  | full key =>
    refine getId_of_infix ?_
    exact ⟨[], key.bytes, by simp [Handle.bytes, identifier]⟩

/-- Both spellings of a handle make the key. -/
theorem getKey_handle (name : CollectionName) (handle : Handle) :
    getKey name.bytes (handle.bytes name) = handle.key.bytes := by
  have head : name.bytes ++ text "/" = name.bytes ++ [slash] := rfl
  unfold getKey
  dsimp only
  rw [head]
  cases handle with
  | bare key =>
    have absent := (Text.find_eq_none_iff (name.bytes ++ [slash]) key.bytes).mpr
      (Text.not_infix_of_separator key.slash_notMem)
    rw [Handle.bytes, absent]
    rfl
  | full key =>
    have occurs : name.bytes ++ [slash] <:+: identifier name key :=
      ⟨[], key.bytes, by simp [identifier]⟩
    rw [Handle.bytes, if_pos ((Text.find_isSome_iff _ _).mpr occurs)]
    have split : identifier name key = (name.bytes ++ [slash]) ++ key.bytes := by
      simp [identifier]
    rw [split, List.drop_left]
    rfl

/-! ### Documents -/

/-- A value that a JSON text has. -/
abbrev JsonValue := {value : Slice // value.Json}

/-- The documents of a server. -/
abbrev Documents := Catalogue CollectionName DocumentKey JsonValue

/-- A posted document asks for a key, or leaves the key to the server. -/
def AsksFor (data : Slice) (key : DocumentKey) : Prop :=
  ∃ members, data = .object members ∧
    ((text "_key", .string key.bytes) ∈ members ∨ text "_key" ∉ members.map Prod.fst)

/-- What is read of a posted document asks for no other key than what is sent. -/
theorem AsksFor.of_alike {data seen : Slice} {key : DocumentKey} (alike : data.Alike seen)
    (asks : AsksFor seen key) : AsksFor data key := by
  obtain ⟨others, rfl, asked⟩ := asks
  obtain ⟨members, rfl, reads⟩ := alike.sent
  refine ⟨members, rfl, asked.imp (fun listed => ?_) fun absent present => ?_⟩
  · obtain ⟨member, sent, called, same⟩ := reads.each _ listed
    have whole : member = (text "_key", .string key.bytes) :=
      Prod.ext called (Slice.alike_string_iff.mp same)
    rwa [whole] at sent
  · exact absent ((reads.names _).mpr present)

/-- It asks for the same keys when no name stands twice. -/
theorem asksFor_alike_iff {data seen : Slice} {key : DocumentKey} (alike : data.Alike seen)
    (fit : ¬ data.Unfit) : AsksFor seen key ↔ AsksFor data key := by
  refine ⟨.of_alike alike, ?_⟩
  rintro ⟨members, rfl, asked⟩
  obtain ⟨others, rfl, reads⟩ := alike.members
  have distinct : (members.map Prod.fst).Nodup := by
    by_contra twice
    exact fit (.twice twice)
  refine ⟨others, rfl, asked.imp (fun listed => ?_) fun absent present => ?_⟩
  · obtain ⟨read, present, same⟩ := reads.exists_of_mem distinct listed
    rwa [Slice.rigid_string _ _ same] at present
  · exact absent ((reads.names _).mp present)

/-- A posted document can be created under a key. -/
def Documents.Admits (documents : Documents) (name : CollectionName) (data : Slice)
    (key : DocumentKey) : Prop :=
  (documents name).isSome = true ∧ AsksFor data key ∧ documents.find name key = none

theorem Documents.Admits.of_alike {documents : Documents} {name : CollectionName}
    {data seen : Slice} {key : DocumentKey} (alike : data.Alike seen)
    (admits : documents.Admits name seen key) : documents.Admits name data key :=
  ⟨admits.1, .of_alike alike admits.2.1, admits.2.2⟩

/-- A document that cannot be created as it is read cannot be created as it is sent, if it is
fit. -/
theorem not_admits_of_alike {documents : Documents} {name : CollectionName} {data seen : Slice}
    (alike : data.Alike seen)
    (refused : seen.Unfit ∨ ∀ key, ¬ documents.Admits name seen key) :
    data.Unfit ∨ ∀ key, ¬ documents.Admits name data key := by
  by_cases unfit : data.Unfit
  · exact Or.inl unfit
  refine Or.inr fun key admits => ?_
  have fit : ¬ seen.Unfit := fun bad => unfit (alike.unfit bad)
  exact refused.resolve_left fit key
    ⟨admits.1, (asksFor_alike_iff alike unfit).mpr admits.2.1, admits.2.2⟩

/-! ### Requests -/

/-- The requests for documents. -/
inductive DocumentRequest : Type where
  | get (name : CollectionName) (key : DocumentKey)
  | head (name : CollectionName) (key : DocumentKey)
  | post (name : CollectionName) (data : Slice)
  | put (name : CollectionName) (key : DocumentKey) (data : Slice)
  | delete (name : CollectionName) (key : DocumentKey)
  | removeByKeys (name : CollectionName) (keys : List DocumentKey)

namespace DocumentRequest

def verb : DocumentRequest → RestVerb
  | get _ _ => .get
  | head _ _ => .head
  | post _ _ => .post
  | put _ _ _ | removeByKeys _ _ => .put
  | delete _ _ => .delete

def path : DocumentRequest → Bytes
  | get name key | head name key | put name key _ | delete name key =>
    "/_api/document/" ++ identifier name key
  | post name _ => "/_api/document/" ++ name.bytes
  | removeByKeys _ _ => "/_api/simple/remove-by-keys"

/-- What the value in the body of a request says. -/
def Says (value : Slice) : DocumentRequest → Prop
  | post _ data | put _ _ data => value = data
  | removeByKeys name keys => value.get "collection" = .ok (.string name.bytes) ∧
    value.get "keys" = .ok (.array (keys.map fun key => .string key.bytes))
  | _ => True

end DocumentRequest

/-- How a server reads the values of bodies, in the format of the client, and what it may keep of a
document that it is sent. -/
structure Policy where
  read : Bytes → Option Slice
  keeps : CollectionName → DocumentKey → Slice → JsonValue → Prop

/-- The request that a server reads off what is sent. -/
structure Policy.Sees (policy : Policy) (connectData : ArangoDBConnection) (sent : Transmission)
    (request : DocumentRequest) : Prop where
  method : sent.method = request.verb.method
  url : sent.url = connectData.fullURL request.path
  body : request.verb = .post ∨ request.verb = .put →
    ∃ body value, sent.body = some (some body) ∧ policy.read body = some value ∧
      request.Says value

theorem path_document_ne (rest : Bytes) :
    text "/_api/document/" ++ rest ≠ text "/_api/simple/remove-by-keys" := by
  intro same
  have sixth := congrArg (List.head? ∘ List.drop 6) same
  rw [Function.comp, List.drop_append_of_le_length (by decide)] at sixth
  revert sixth
  exact of_decide_eq_false rfl

theorem method_injective {first second : DocumentRequest}
    (same : first.verb.method = second.verb.method) : first.verb = second.verb := by
  cases first <;> cases second <;> first
    | rfl
    | exact absurd same (by simp only [DocumentRequest.verb]; decide)

theorem keys_injective : Function.Injective fun key : DocumentKey => Slice.string key.bytes := by
  intro first second same
  injection same with same
  exact DocumentKey.ext same

/-- A request is known by its verb, its path and the value in its body. -/
theorem DocumentRequest.eq_of_path {first second : DocumentRequest}
    (verbs : first.verb = second.verb) (paths : first.path = second.path)
    (bodies : first.verb = .post ∨ first.verb = .put →
      ∃ value, first.Says value ∧ second.Says value) : first = second := by
  have document : ∀ {left right : Bytes}, text "/_api/document/" ++ left =
      text "/_api/document/" ++ right → left = right := fun same => List.append_cancel_left same
  cases first with
  | get name key =>
    cases second <;> try cases verbs
    obtain ⟨rfl, rfl⟩ := identifier_inj (document paths)
    rfl
  | head name key =>
    cases second <;> try cases verbs
    obtain ⟨rfl, rfl⟩ := identifier_inj (document paths)
    rfl
  | delete name key =>
    cases second <;> try cases verbs
    obtain ⟨rfl, rfl⟩ := identifier_inj (document paths)
    rfl
  | post name data =>
    obtain ⟨value, rfl, second'⟩ := bodies (Or.inl rfl)
    cases second <;> try cases verbs
    rw [CollectionName.ext (document paths), second']
  | put name key data =>
    obtain ⟨value, rfl, second'⟩ := bodies (Or.inr rfl)
    cases second <;> try cases verbs
    · obtain ⟨rfl, rfl⟩ := identifier_inj (document paths)
      rw [second']
    · exact absurd paths (path_document_ne _)
  | removeByKeys name keys =>
    obtain ⟨value, ⟨collection, listed⟩, second'⟩ := bodies (Or.inr rfl)
    cases second <;> try cases verbs
    · exact absurd paths.symm (path_document_ne _)
    · obtain ⟨collection', listed'⟩ := second'
      have names := collection.symm.trans collection'
      have lists := listed.symm.trans listed'
      injection names with names
      injection names with names
      injection lists with lists
      injection lists with lists
      rw [CollectionName.ext names, List.map_injective_iff.mpr keys_injective lists]

/-- The server reads one request off what is sent. -/
theorem Policy.Sees.unique {policy : Policy} {connectData : ArangoDBConnection}
    {sent : Transmission} {first second : DocumentRequest}
    (sees : policy.Sees connectData sent first) (other : policy.Sees connectData sent second) :
    first = second := by
  have verbs := method_injective (sees.method.symm.trans other.method)
  refine DocumentRequest.eq_of_path verbs ?_ ?_
  · exact List.append_cancel_left (sees.url.symm.trans other.url)
  · intro loaded
    obtain ⟨body, value, carried, read, stated⟩ := sees.body loaded
    obtain ⟨body', value', carried', read', stated'⟩ := other.body (verbs ▸ loaded)
    cases carried.symm.trans carried'
    cases read.symm.trans read'
    exact ⟨value, stated, stated'⟩

/-! ### Replies -/

/-- A value that explains an error. -/
structure Slice.Explains (value : Slice) : Prop where
  error : value.get "error" = .ok (.bool true)
  errorNum : ∃ number, (value.get "errorNum" >>= Slice.getInt) = .ok number
  errorMessage : ∃ message, (value.get "errorMessage" >>= Slice.copyString) = .ok message

/-- The requests that are refused, and the status that says so. -/
inductive Documents.Refuses (documents : Documents) : DocumentRequest → StatusCode → Prop where
  | get {name : CollectionName} {key : DocumentKey} (missing : documents.find name key = none) :
      Refuses documents (.get name key) 404
  | put {name : CollectionName} {key : DocumentKey} {data : Slice}
      (missing : documents.find name key = none) : Refuses documents (.put name key data) 404
  | delete {name : CollectionName} {key : DocumentKey}
      (missing : documents.find name key = none) : Refuses documents (.delete name key) 404
  | post {name : CollectionName} {data : Slice} (missing : documents name = none) :
      Refuses documents (.post name data) 404
  | removeByKeys {name : CollectionName} {keys : List DocumentKey}
      (missing : documents name = none) : Refuses documents (.removeByKeys name keys) 404
  | conflict {name : CollectionName} {data : Slice} (asked : ∃ key, AsksFor data key)
      (taken : ∀ key, AsksFor data key → documents.find name key ≠ none) :
      Refuses documents (.post name data) 409
  | badPost {name : CollectionName} {data : Slice} (malformed : ∀ key, ¬ AsksFor data key) :
      Refuses documents (.post name data) 400
  | badPut {name : CollectionName} {key : DocumentKey} {data : Slice}
      (malformed : data.isObject = false) : Refuses documents (.put name key data) 400
  | unfitPost {name : CollectionName} {data : Slice} {status : StatusCode} (unfit : data.Unfit)
      (bad : badRequest status = true) : Refuses documents (.post name data) status
  | unfitPut {name : CollectionName} {key : DocumentKey} {data : Slice} {status : StatusCode}
      (unfit : data.Unfit) (bad : badRequest status = true) :
      Refuses documents (.put name key data) status

/-- How a server answers a request, and the documents that it has then. -/
inductive Policy.Serves (env : Env) (policy : Policy) (documents : Documents) :
    DocumentRequest → Transfer → Documents → Prop where
  | found {name : CollectionName} {key : DocumentKey} {document shown : JsonValue}
      {reply : Transfer} (stored : documents.find name key = some document)
      (alike : document.1.Alike shown) (status : reply.responseCode = 200)
      (holds : reply.Holds env shown) :
      Serves env policy documents (.get name key) reply documents
  | present {name : CollectionName} {key : DocumentKey} {reply : Transfer}
      (stored : (documents.find name key).isSome = true) (status : reply.responseCode = 200)
      (empty : reply.body.flatten = []) :
      Serves env policy documents (.head name key) reply documents
  | absent {name : CollectionName} {key : DocumentKey} {reply : Transfer}
      (missing : documents.find name key = none) (status : reply.responseCode = 404)
      (empty : reply.body.flatten = []) :
      Serves env policy documents (.head name key) reply documents
  | created {name : CollectionName} {data : Slice} {key : DocumentKey}
      {document value : JsonValue} {reply : Transfer} (admits : documents.Admits name data key)
      (keeps : policy.keeps name key data document)
      (status : reply.responseCode = 201 ∨ reply.responseCode = 202)
      (holds : reply.Holds env value)
      (called : value.1.get "_id" = .ok (.string (identifier name key))) :
      Serves env policy documents (.post name data) reply (documents.put name key document)
  | replaced {name : CollectionName} {key : DocumentKey} {data : Slice}
      {document value : JsonValue} {reply : Transfer}
      (stored : (documents.find name key).isSome = true) (object : data.isObject = true)
      (keeps : policy.keeps name key data document)
      (status : reply.responseCode = 201 ∨ reply.responseCode = 202)
      (holds : reply.Holds env value)
      (called : value.1.get "_id" = .ok (.string (identifier name key))) :
      Serves env policy documents (.put name key data) reply (documents.put name key document)
  | deleted {name : CollectionName} {key : DocumentKey} {reply : Transfer}
      (stored : (documents.find name key).isSome = true)
      (status : reply.responseCode = 200 ∨ reply.responseCode = 202)
      (holds : reply.body.flatten = [] ∨ ∃ value : JsonValue, reply.Holds env value) :
      Serves env policy documents (.delete name key) reply (documents.erase name key)
  | removed {name : CollectionName} {keys : List DocumentKey} {value : JsonValue}
      {reply : Transfer} {after : Documents} {erased absent : Nat}
      (collection : (documents name).isSome = true)
      (erases : documents.eraseEach name keys = (after, erased, absent))
      (status : reply.responseCode = 200) (holds : reply.Holds env value)
      (removed : (value.1.get "removed" >>= Slice.getInt) = .ok (erased : Int))
      (ignored : (value.1.get "ignored" >>= Slice.getInt) = .ok (absent : Int)) :
      Serves env policy documents (.removeByKeys name keys) reply after
  | refused {request : DocumentRequest} {value : JsonValue} {reply : Transfer}
      (refuses : documents.Refuses request reply.responseCode) (holds : reply.Holds env value)
      (explains : value.1.Explains) : Serves env policy documents request reply documents

/-- How a server answers what is sent. What it does not read as one of the requests, it may answer
in any way, and do anything. -/
inductive Policy.Responds (env : Env) (policy : Policy) (connectData : ArangoDBConnection)
    (documents : Documents) (sent : Transmission) : Transfer → Documents → Prop where
  | served {request : DocumentRequest} {reply : Transfer} {after : Documents}
      (sees : policy.Sees connectData sent request)
      (serves : policy.Serves env documents request reply after) :
      Responds env policy connectData documents sent reply after
  | strange (reply : Transfer) (after : Documents)
      (unseen : ∀ request, ¬ policy.Sees connectData sent request) :
      Responds env policy connectData documents sent reply after

theorem Policy.Sees.responds_iff {env : Env} {policy : Policy} {connectData : ArangoDBConnection}
    {sent : Transmission} {request : DocumentRequest}
    (sees : policy.Sees connectData sent request) {documents after : Documents} {reply : Transfer} :
    policy.Responds env connectData documents sent reply after ↔
      policy.Serves env documents request reply after := by
  constructor
  · intro responds
    cases responds with
    | served other serves => exact sees.unique other ▸ serves
    | strange _ _ unseen => exact absurd sees (unseen request)
  · exact fun serves => .served sees serves

/-- The statuses of refusals. -/
theorem Documents.Refuses.badRequest {documents : Documents} {request : DocumentRequest}
    {status : StatusCode} (refuses : documents.Refuses request status) :
    badRequest status = true := by
  cases refuses with
  | unfitPost _ bad => exact bad
  | unfitPut _ bad => exact bad
  | _ => rfl

/-- What explains an error can be reported. -/
theorem Slice.Explains.reportable {value : Slice} (explains : value.Explains) :
    value.Reportable := by
  obtain ⟨_, numbered⟩ := explains.errorNum
  obtain ⟨_, worded⟩ := explains.errorMessage
  exact .explained explains.error numbered worded

/-! ### Why requests are refused -/

section

variable {documents : Documents} {name : CollectionName} {key : DocumentKey}
  {status : StatusCode}

theorem refuses_get (refuses : documents.Refuses (.get name key) status) :
    documents.find name key = none := by
  cases refuses with
  | get missing => exact missing

theorem not_refuses_head : ¬ documents.Refuses (.head name key) status := by
  intro refuses
  cases refuses

theorem refuses_delete (refuses : documents.Refuses (.delete name key) status) :
    documents.find name key = none := by
  cases refuses with
  | delete missing => exact missing

theorem refuses_removeByKeys {keys : List DocumentKey}
    (refuses : documents.Refuses (.removeByKeys name keys) status) : documents name = none := by
  cases refuses with
  | removeByKeys missing => exact missing

theorem refuses_put {data : Slice} (refuses : documents.Refuses (.put name key data) status) :
    data.Unfit ∨ data.isObject = false ∨ documents.find name key = none := by
  cases refuses with
  | put missing => exact Or.inr (Or.inr missing)
  | badPut malformed => exact Or.inr (Or.inl malformed)
  | unfitPut unfit => exact Or.inl unfit

/-- A posted document that is fit is refused only when it can be created under no key. -/
theorem refuses_post {data : Slice} (refuses : documents.Refuses (.post name data) status) :
    data.Unfit ∨ ∀ key, ¬ documents.Admits name data key := by
  by_cases unfit : data.Unfit
  · exact Or.inl unfit
  refine Or.inr ?_
  rintro key ⟨collection, asks, free⟩
  cases refuses with
  | post missing =>
    rw [missing] at collection
    cases collection
  | conflict asked taken => exact taken key asks free
  | badPost malformed => exact malformed key asks
  | unfitPost bad => exact unfit bad

end

end ArangoCpp
