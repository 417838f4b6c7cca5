/-
This file says what the operations on collections do, among operations of other clients.

A server has collections with their documents, and knows of each whether it is a system collection
and whether it is for edges. The operations that create and drop a collection ask first whether it
exists, and send a second request when there is something to do. Between the two another client
may have done it; the second request is then refused, and the operation throws although the
collection is as it should be. That is the only thing that goes wrong: each operation takes effect
in one instant, and it throws only when another client has been there in between.
-/

import ArangoCpp.Edges
import ArangoCpp.Interface

namespace ArangoCpp

open Dialogue

/-- The collections of a server with their documents, and what it knows of them besides. -/
@[ext] structure Store where
  documents : Documents
  kind : CollectionName → CollectionKind

namespace Store

/-- The collection is there. -/
def Has (store : Store) (name : CollectionName) : Prop := (store.documents name).isSome = true

instance (store : Store) (name : CollectionName) : Decidable (store.Has name) :=
  inferInstanceAs (Decidable (_ = _))

/-- A new collection is empty. -/
def create (name : CollectionName) (isEdge : Bool) (store : Store) : Store where
  documents := Function.update store.documents name (some fun _ => none)
  kind := Function.update store.kind name ⟨false, isEdge⟩

def drop (name : CollectionName) (store : Store) : Store :=
  { store with documents := Function.update store.documents name none }

variable (store : Store) (name : CollectionName)

theorem has_create (other : CollectionName) (isEdge : Bool) :
    (store.create name isEdge).Has other ↔ other = name ∨ store.Has other := by
  unfold Has create
  dsimp only
  by_cases same : other = name
  · rw [same, Function.update_self]
    exact iff_of_true rfl (Or.inl rfl)
  · rw [Function.update_of_ne same]
    exact (or_iff_right same).symm

theorem has_drop (other : CollectionName) :
    (store.drop name).Has other ↔ other ≠ name ∧ store.Has other := by
  unfold Has drop
  dsimp only
  by_cases same : other = name
  · rw [same, Function.update_self]
    exact iff_of_false Bool.false_ne_true fun both => both.1 rfl
  · rw [Function.update_of_ne same]
    exact (and_iff_right same).symm

end Store

/-! ### Requests -/

/-- The requests for collections. -/
inductive CollectionRequest : Type where
  | get (name : CollectionName)
  | create (name : CollectionName) (isEdge : Bool)
  | drop (name : CollectionName)
  | list

/-- How the requests for collections are sent. A collection for edges has the type 3. -/
def collectionInterface : Interface CollectionRequest where
  dispatch := .base
  verb
    | .get _ | .list => .get
    | .create _ _ => .post
    | .drop _ => .delete
  path
    | .get name | .drop name => "/_api/collection/" ++ name.bytes
    | .create _ _ | .list => "/_api/collection"
  body
    | .create name isEdge => some fun value => value.get "name" = .ok (.string name.bytes) ∧
        value.get "type" = .ok (if isEdge then .int 3 else .none)
    | _ => none

/-- The server reads one request for a collection off what is sent. -/
theorem distinct_collectionInterface : collectionInterface.Distinct := by
  have longer (name : CollectionName) : text "/_api/collection/" ++ name.bytes ≠
      text "/_api/collection" := by
    intro same
    have lengths := congrArg List.length same
    rw [List.length_append] at lengths
    have short : (text "/_api/collection").length < (text "/_api/collection/").length := by decide
    omega
  intro first second verbs paths bodies
  cases first <;> cases second <;> first
    | rfl
    | exact absurd verbs (by simp only [collectionInterface]; decide)
    | skip
  case get.get name other =>
    rw [CollectionName.ext (List.append_cancel_left paths)]
  case drop.drop name other =>
    rw [CollectionName.ext (List.append_cancel_left paths)]
  case get.list name => exact absurd paths (longer name)
  case list.get name => exact absurd paths.symm (longer name)
  case create.create name isEdge other another =>
    obtain ⟨value, ⟨named, typed⟩, namedToo, typedToo⟩ := bodies _ _ rfl rfl
    have names : name = other := by
      have same := named.symm.trans namedToo
      injection same with same
      injection same with same
      exact CollectionName.ext same
    have types : isEdge = another := by
      have same := typed.symm.trans typedToo
      cases isEdge <;> cases another <;> first
        | rfl
        | cases same
    rw [names, types]

/-- How a server answers a request, and what it has then. A collection that has been deleted may be
shown with the status 5. -/
inductive Store.Serves (env : Env) (store : Store) :
    CollectionRequest → Transfer → Store → Prop where
  | present {name : CollectionName} {value : JsonValue} {reply : Transfer} {number : Int}
      (has : store.Has name) (status : reply.responseCode = 200) (holds : reply.Holds env value)
      (shown : (value.1.get "status" >>= Slice.getInt) = .ok number)
      (alive : toInt32 number ≠ 5) : Serves env store (.get name) reply store
  | absent {name : CollectionName} {reply : Transfer} (missing : ¬ store.Has name)
      (status : reply.responseCode = 404) (plain : reply.Plain env) :
      Serves env store (.get name) reply store
  | deleted {name : CollectionName} {value : JsonValue} {reply : Transfer}
      (missing : ¬ store.Has name) (status : reply.responseCode = 200)
      (holds : reply.Holds env value)
      (shown : (value.1.get "status" >>= Slice.getInt) = .ok 5) :
      Serves env store (.get name) reply store
  | created {name : CollectionName} {isEdge : Bool} {reply : Transfer} (missing : ¬ store.Has name)
      (status : reply.responseCode = 200) (plain : reply.Plain env) :
      Serves env store (.create name isEdge) reply (store.create name isEdge)
  | conflict {name : CollectionName} {isEdge : Bool} {value : JsonValue} {reply : Transfer}
      (has : store.Has name) (bad : badRequest reply.responseCode = true)
      (holds : reply.Holds env value) (explains : value.1.Explains) :
      Serves env store (.create name isEdge) reply store
  | dropped {name : CollectionName} {reply : Transfer} (has : store.Has name)
      (status : reply.responseCode = 200) (plain : reply.Plain env) :
      Serves env store (.drop name) reply (store.drop name)
  | unknown {name : CollectionName} {value : JsonValue} {reply : Transfer}
      (missing : ¬ store.Has name) (bad : badRequest reply.responseCode = true)
      (holds : reply.Holds env value) (explains : value.1.Explains) :
      Serves env store (.drop name) reply store
  | forbidden {name : CollectionName} {value : JsonValue} {reply : Transfer} (has : store.Has name)
      (system : (store.kind name).isSystem = true) (bad : badRequest reply.responseCode = true)
      (holds : reply.Holds env value) (explains : value.1.Explains) :
      Serves env store (.drop name) reply store
  | listed {value : JsonValue} {reply : Transfer} {entries : List Listed} {items : List Slice}
      (all : ListsAll store.kind store.documents entries)
      (shown : List.Forall₂ Listed.Shown entries items) (status : reply.responseCode = 200)
      (holds : reply.Holds env value) (result : value.1.get "result" = .ok (.array items)) :
      Serves env store .list reply store

/-- A server answers what it reads as a request for a collection out of its collections. -/
def Store.Answers (env : Env) (policy : Policy) (connectData : ArangoDBConnection) (store : Store)
    (sent : Transmission) (reply : Transfer) (after : Store) : Prop :=
  ∀ request, collectionInterface.Sees policy.read connectData sent request →
    store.Serves env request reply after

/-! ### Calls and what the collections say about them -/

/-- The calls of the operations on collections. -/
inductive CollectionCall : Type where
  | existCollection (name : CollectionName)
  | createCollection (name : CollectionName) (ctype : Bytes)
  | dropCollection (name : CollectionName)
  | collectionNames (ctype : CollectionTypes)

/-- What the operations return. -/
inductive CollectionReturned : Type where
  | flag (value : Bool)
  | nothing
  | names (names : StringSet)

/-- The program of a call. -/
def CollectionCall.program (env : Env) : CollectionCall → Api CollectionReturned
  | existCollection name =>
    (ArangoDBCollectionAPI.existCollection env name.bytes).bind fun exist => .done (.flag exist)
  | createCollection name ctype =>
    (ArangoDBCollectionAPI.createCollection env name.bytes ctype).bind fun _ => .done .nothing
  | dropCollection name =>
    (ArangoDBCollectionAPI.dropCollection env name.bytes).bind fun _ => .done .nothing
  | collectionNames ctype =>
    (ArangoDBCollectionAPI.collectionNames env ctype).bind fun names => .done (.names names)

/-- What a call is answered. -/
inductive CollectionAnswer : Type where
  | flag (value : Bool)
  | done
  | refused
  | names (listed : CollectionName → Prop)

/-- What a call does to the collections, and what it is answered. A call that finds its work done
may be refused when clients can get in between. A system collection may be kept. -/
def CollectionCall.Does (races : Prop) :
    CollectionCall → Store → CollectionAnswer → Store → Prop
  | existCollection name, store, answer, after =>
    answer = .flag (decide (store.Has name)) ∧ after = store
  | createCollection name ctype, store, answer, after =>
    if store.Has name then (answer = .done ∨ races ∧ answer = .refused) ∧ after = store
    else answer = .done ∧ after = store.create name (ctype = "edge")
  | dropCollection name, store, answer, after =>
    if store.Has name then answer = .done ∧ after = store.drop name ∨
      (store.kind name).isSystem = true ∧ answer = .refused ∧ after = store
    else (answer = .done ∨ races ∧ answer = .refused) ∧ after = store
  | collectionNames ctype, store, answer, after =>
    answer = .names (fun name => store.Has name ∧ ((store.kind name).entry name).Selected ctype) ∧
      after = store

/-- What a call returns or throws when it is answered so. -/
inductive CollectionAnswer.Agrees : CollectionAnswer → Except Fault CollectionReturned → Prop where
  | flag (value : Bool) : Agrees (.flag value) (.ok (.flag value))
  | done : Agrees .done (.ok .nothing)
  | refused (exception : ArangoException) : Agrees .refused (.error (.arango exception))
  | names {listed : CollectionName → Prop} {names : StringSet}
      (exact : ∀ bytes, bytes ∈ names ↔ ∃ name : CollectionName, name.bytes = bytes ∧ listed name) :
      Agrees (.names listed) (.ok (.names names))

/-- The requests that a call may send. -/
inductive CollectionCall.Sends : CollectionCall → CollectionRequest → Prop where
  | exist (name : CollectionName) : Sends (.existCollection name) (.get name)
  | ask (name : CollectionName) (ctype : Bytes) : Sends (.createCollection name ctype) (.get name)
  | create (name : CollectionName) (ctype : Bytes) :
      Sends (.createCollection name ctype) (.create name (ctype = "edge"))
  | askFirst (name : CollectionName) : Sends (.dropCollection name) (.get name)
  | drop (name : CollectionName) : Sends (.dropCollection name) (.drop name)
  | list (ctype : CollectionTypes) : Sends (.collectionNames ctype) .list

/-- The collection that a call may create or drop. -/
def CollectionCall.changes : CollectionCall → Option CollectionName
  | createCollection name _ | dropCollection name => some name
  | _ => none

/-- A call creates and drops no other collection than the one that it is about. -/
theorem Store.Serves.keeps {env : Env} {store after : Store} {request : CollectionRequest}
    {reply : Transfer} (serves : store.Serves env request reply after) {call : CollectionCall}
    (sends : call.Sends request) {name : CollectionName} (apart : call.changes ≠ some name) :
    (after.Has name ↔ store.Has name) ∧ after.kind name = store.kind name := by
  cases serves <;> first
    | exact ⟨Iff.rfl, rfl⟩
    | skip
  case created missing status plain =>
    cases sends
    have differ : name ≠ _ := fun same => apart (congrArg some same.symm)
    exact ⟨(store.has_create _ name _).trans (or_iff_right differ),
      Function.update_of_ne differ _ _⟩
  case dropped has status plain =>
    cases sends
    exact ⟨(store.has_drop _ name).trans (and_iff_right fun same =>
      apart (congrArg some same.symm)), rfl⟩

/-! ### What the operations are told -/

section

variable {env : Env} {policy : Policy} {connectData : ArangoDBConnection} {store after : Store}
  {name : CollectionName}

theorem carried_get (env : Env) (policy : Policy) (name : CollectionName) :
    collectionInterface.Carried env policy (.get name)
      (createREQUEST env .get ("/_api/collection/" ++ name.bytes)) :=
  @Interface.Carried.bare _ collectionInterface env policy (.get name) (Or.inl rfl) rfl

theorem carried_drop (env : Env) (policy : Policy) (name : CollectionName) :
    collectionInterface.Carried env policy (.drop name)
      (createREQUEST env .delete ("/_api/collection/" ++ name.bytes)) :=
  @Interface.Carried.bare _ collectionInterface env policy (.drop name)
    (Or.inr (Or.inr (Or.inl rfl))) rfl

theorem carried_list (env : Env) (policy : Policy) :
    collectionInterface.Carried env policy .list (createREQUEST env .get "/_api/collection") :=
  @Interface.Carried.bare _ collectionInterface env policy .list (Or.inl rfl) rfl

variable (understands : policy.Understands env)

include understands

theorem carried_create (name : CollectionName) (isEdge : Bool) :
    collectionInterface.Carried env policy (.create name isEdge)
      (createREQUESTWith env .post "/_api/collection" (.object (("name", .string name.bytes) ::
        if isEdge then [("type", .int 3)] else []))) := by
  let members : List (Bytes × Slice) :=
    ("name", .string name.bytes) :: if isEdge then [("type", .int 3)] else []
  have json : (Slice.object members).Json := by
    cases isEdge <;> simp +decide [members, name.complete, IsWord]
  have distinct : (members.map Prod.fst).Nodup := by
    cases isEdge <;> simp +decide [members]
  have alike := understands.alike ⟨.object members, json⟩
  refine @Interface.carried_createREQUESTWith _ collectionInterface env policy understands.lawful
    (.create name isEdge) _ (Or.inl rfl) json fun fits stated => ?_
  cases stated
  refine ⟨alike.get_eq distinct "name" (Slice.rigid_string _) rfl, ?_⟩
  cases isEdge with
  | true => exact alike.get_eq distinct "type" (Slice.rigid_int 3) rfl
  | false => exact alike.get_eq distinct "type" Slice.rigid_none rfl

/-- The reply to the question whether a collection exists is read as it is meant. -/
theorem existCollection_eq (connectData : ArangoDBConnection) (name : CollectionName) :
    ∃ read, ArangoDBCollectionAPI.existCollection env name.bytes =
        .exchange (createREQUEST env .get ("/_api/collection/" ++ name.bytes)) read ∧
      ∀ store reply after, Store.Serves env store (.get name) reply after → after = store ∧
        told env .base connectData (createREQUEST env .get ("/_api/collection/" ++ name.bytes)) read
          reply = .ok (decide (store.Has name)) := by
  refine ⟨_, rfl, fun store reply after serves => ?_⟩
  cases serves with
  | @present _ value _ number has status holds shown alive =>
    obtain ⟨response, reads, same, takes⟩ := understands.told_holds .base
      (createREQUEST env .get ("/_api/collection/" ++ name.bytes)) _ holds
      (by rw [status]; decide)
    have found : ¬ response.statusCode = statusNotFound := by
      rw [same, status]
      decide
    refine ⟨rfl, (takes.trans (if_neg found)).trans ?_⟩
    rw [reads.front, ok_bind, shown, ofVpack_ok, ok_bind, decide_eq_true has,
      bne_iff_ne.mpr alive]
    rfl
  | @absent _ _ missing status plain =>
    obtain ⟨response, same, takes⟩ := understands.told_plain .base
      (createREQUEST env .get ("/_api/collection/" ++ name.bytes)) _ plain (by rw [status]; decide)
    have gone : response.statusCode = statusNotFound := same.trans status
    refine ⟨rfl, (takes.trans (if_pos gone)).trans ?_⟩
    rw [decide_eq_false missing]
    rfl
  | @deleted _ value _ missing status holds shown =>
    obtain ⟨response, reads, same, takes⟩ := understands.told_holds .base
      (createREQUEST env .get ("/_api/collection/" ++ name.bytes)) _ holds
      (by rw [status]; decide)
    have found : ¬ response.statusCode = statusNotFound := by
      rw [same, status]
      decide
    refine ⟨rfl, (takes.trans (if_neg found)).trans ?_⟩
    rw [reads.front, ok_bind, shown, ofVpack_ok, ok_bind, decide_eq_false missing]
    rfl

end

/-! ### Each call takes effect in one instant -/

section

variable {env : Env} {policy : Policy} {connectData : ArangoDBConnection} {races : Prop}
  {rely guarantee : Store → Store → Prop} (understands : policy.Understands env)

include understands

/-- A call takes effect in one instant. A call that asks first is not refused when it can rely on
nobody else creating or dropping its collection. -/
theorem atomic_createCollection (name : CollectionName) (ctype : Bytes)
    (keeps : ¬ races → ∀ now later, rely now later → (later.Has name ↔ now.Has name))
    (guarantees : ∀ request, (CollectionCall.createCollection name ctype).Sends request →
      ∀ now reply after, Store.Serves env now request reply after → guarantee now after)
    (store : Store) :
    (conduct env .base connectData (ArangoDBCollectionAPI.createCollection env name.bytes
      ctype)).Atomic (Store.Answers env policy connectData) id rely guarantee
      ((CollectionCall.createCollection name ctype).Does races)
      (fun answer result => answer.Agrees (result.map fun _ => .nothing)) store := by
  obtain ⟨read, asks, reads⟩ := existCollection_eq understands connectData name
  have shape : ArangoDBCollectionAPI.createCollection env name.bytes ctype =
      .bind (.exchange (createREQUEST env .get ("/_api/collection/" ++ name.bytes)) read)
        fun exist => if exist = true then .done () else
          exchangeQuery env .post "/_api/collection" (.object (("name", .string name.bytes) ::
            if ctype = "edge" then [("type", .int 3)] else []))
            (demand env notOK "Error when create collection: ") := by
    rw [← asks]
    rfl
  rw [shape]
  refine (carried_get env policy name).atomic_bind understands
    (fun now sent reply after sees answers => answers _ sees) fun now reply after _ serves => ?_
  obtain ⟨rfl, heard⟩ := reads now reply after serves
  refine ⟨guarantees _ (.ask name ctype) _ _ _ serves, Or.inl ⟨_, heard, ?_⟩⟩
  by_cases has : after.Has name
  · refine Or.inl ⟨.done, ?_, ?_⟩
    · rw [CollectionCall.Does, if_pos (show (id after).Has name from has)]
      exact ⟨Or.inl rfl, rfl⟩
    · rw [decide_eq_true has, if_pos rfl]
      exact .done
  · refine Or.inr ⟨rfl, ?_⟩
    rw [decide_eq_false has, if_neg Bool.false_ne_true, exchangeQuery_eq]
    have carried := carried_create understands name (ctype = "edge")
    simp only [decide_eq_true_eq] at carried
    refine carried.atomic understands (fun now sent reply after sees answers => answers _ sees)
      fun later reply final borne serves => ?_
    refine ⟨guarantees _ (.create name ctype) _ _ _ serves, ?_⟩
    cases serves with
    | created missing status plain =>
      refine ⟨.done, ?_, ?_⟩
      · rw [CollectionCall.Does, if_neg (show ¬ (id later).Has name from missing)]
        exact ⟨rfl, rfl⟩
      · rw [understands.told_demand collectionInterface.dispatch _ (by rw [status]; rfl)
          (by rw [status]; decide) plain]
        exact .done
    | conflict there bad holds explains =>
      have raced : races := by
        by_contra alone
        exact has ((keeps alone _ _ borne).mp there)
      obtain ⟨exception, thrown⟩ := understands.told_refused collectionInterface.dispatch _
        (refuses_demand notOK_of_badRequest _) bad holds explains
      refine ⟨.refused, ?_, ?_⟩
      · rw [CollectionCall.Does, if_pos (show (id later).Has name from there)]
        exact ⟨Or.inr ⟨raced, rfl⟩, rfl⟩
      · rw [thrown]
        exact .refused exception

theorem atomic_dropCollection (name : CollectionName)
    (keeps : ¬ races → ∀ now later, rely now later → (later.Has name ↔ now.Has name))
    (guarantees : ∀ request, (CollectionCall.dropCollection name).Sends request →
      ∀ now reply after, Store.Serves env now request reply after → guarantee now after)
    (store : Store) :
    (conduct env .base connectData (ArangoDBCollectionAPI.dropCollection env name.bytes)).Atomic
      (Store.Answers env policy connectData) id rely guarantee
      ((CollectionCall.dropCollection name).Does races)
      (fun answer result => answer.Agrees (result.map fun _ => .nothing)) store := by
  obtain ⟨read, asks, reads⟩ := existCollection_eq understands connectData name
  have shape : ArangoDBCollectionAPI.dropCollection env name.bytes =
      .bind (.exchange (createREQUEST env .get ("/_api/collection/" ++ name.bytes)) read)
        fun exist => if !exist then .done () else
          .exchange (createREQUEST env .delete ("/_api/collection/" ++ name.bytes))
            (demand env notOK "Error when try drop collection: ") := by
    rw [← asks]
    rfl
  rw [shape]
  refine (carried_get env policy name).atomic_bind understands
    (fun now sent reply after sees answers => answers _ sees) fun now reply after _ serves => ?_
  obtain ⟨rfl, heard⟩ := reads now reply after serves
  refine ⟨guarantees _ (.askFirst name) _ _ _ serves, Or.inl ⟨_, heard, ?_⟩⟩
  by_cases has : after.Has name
  · refine Or.inr ⟨rfl, ?_⟩
    rw [decide_eq_true has, Bool.not_true, if_neg Bool.false_ne_true]
    refine (carried_drop env policy name).atomic understands
      (fun now sent reply after sees answers => answers _ sees)
      fun later reply final borne serves => ?_
    refine ⟨guarantees _ (.drop name) _ _ _ serves, ?_⟩
    cases serves with
    | dropped there status plain =>
      refine ⟨.done, ?_, ?_⟩
      · rw [CollectionCall.Does, if_pos (show (id later).Has name from there)]
        exact Or.inl ⟨rfl, rfl⟩
      · rw [understands.told_demand collectionInterface.dispatch _ (by rw [status]; rfl)
          (by rw [status]; decide) plain]
        exact .done
    | unknown missing bad holds explains =>
      have raced : races := by
        by_contra alone
        exact missing ((keeps alone _ _ borne).mpr has)
      obtain ⟨exception, thrown⟩ := understands.told_refused collectionInterface.dispatch _
        (refuses_demand notOK_of_badRequest _) bad holds explains
      refine ⟨.refused, ?_, ?_⟩
      · rw [CollectionCall.Does, if_neg (show ¬ (id later).Has name from missing)]
        exact ⟨Or.inr ⟨raced, rfl⟩, rfl⟩
      · rw [thrown]
        exact .refused exception
    | forbidden there system bad holds explains =>
      obtain ⟨exception, thrown⟩ := understands.told_refused collectionInterface.dispatch _
        (refuses_demand notOK_of_badRequest _) bad holds explains
      refine ⟨.refused, ?_, ?_⟩
      · rw [CollectionCall.Does, if_pos (show (id later).Has name from there)]
        exact Or.inr ⟨system, rfl, rfl⟩
      · rw [thrown]
        exact .refused exception
  · refine Or.inl ⟨.done, ?_, ?_⟩
    · rw [CollectionCall.Does, if_neg (show ¬ (id after).Has name from has)]
      exact ⟨Or.inl rfl, rfl⟩
    · rw [decide_eq_false has, Bool.not_false, if_pos rfl]
      exact .done

theorem atomic_existCollection (name : CollectionName)
    (guarantees : ∀ request, (CollectionCall.existCollection name).Sends request →
      ∀ now reply after, Store.Serves env now request reply after → guarantee now after)
    (store : Store) :
    (conduct env .base connectData (ArangoDBCollectionAPI.existCollection env name.bytes)).Atomic
      (Store.Answers env policy connectData) id rely guarantee
      ((CollectionCall.existCollection name).Does races)
      (fun answer result => answer.Agrees (result.map .flag)) store := by
  obtain ⟨read, asks, reads⟩ := existCollection_eq understands connectData name
  rw [asks]
  refine (carried_get env policy name).atomic understands
    (fun now sent reply after sees answers => answers _ sees) fun now reply after _ serves => ?_
  obtain ⟨rfl, heard⟩ := reads now reply after serves
  refine ⟨guarantees _ (.exist name) _ _ _ serves, .flag _, ⟨rfl, rfl⟩, ?_⟩
  have same : told env collectionInterface.dispatch connectData
      (createREQUEST env .get ("/_api/collection/" ++ name.bytes)) read reply = _ := heard
  rw [same]
  exact .flag _

theorem atomic_collectionNames (ctype : CollectionTypes)
    (guarantees : ∀ request, (CollectionCall.collectionNames ctype).Sends request →
      ∀ now reply after, Store.Serves env now request reply after → guarantee now after)
    (store : Store) :
    (conduct env .base connectData (ArangoDBCollectionAPI.collectionNames env ctype)).Atomic
      (Store.Answers env policy connectData) id rely guarantee
      ((CollectionCall.collectionNames ctype).Does races)
      (fun answer result => answer.Agrees (result.map .names)) store := by
  obtain ⟨read, asks, reads⟩ := ArangoDBCollectionAPI.collectionNames_eq env ctype
  rw [asks]
  refine (carried_list env policy).atomic understands
    (fun now sent reply after sees answers => answers _ sees) fun now reply after _ serves => ?_
  refine ⟨guarantees _ (.list ctype) _ _ _ serves, ?_⟩
  cases serves with
  | @listed value _ entries items all shown status holds result =>
    obtain ⟨response, taken, same, heard⟩ := understands.told_holds .base
      (createREQUEST env .get "/_api/collection") read holds (by rw [status]; decide)
    obtain ⟨names, found, exact_⟩ := reads response entries
      ⟨same.trans status, value, items, taken.front, result, shown⟩
    refine ⟨.names _, ⟨rfl, rfl⟩, ?_⟩
    have told_ : told env collectionInterface.dispatch connectData
        (createREQUEST env .get "/_api/collection") read reply = .ok names := heard.trans found
    rw [told_]
    refine .names fun bytes => (exact_ bytes).trans ⟨?_, ?_⟩
    · rintro ⟨entry, member, selected, rfl⟩
      obtain ⟨name, has, rfl⟩ := (all entry).mp member
      exact ⟨name, rfl, has, selected⟩
    · rintro ⟨name, rfl, has, selected⟩
      exact ⟨_, (all _).mpr ⟨name, has, rfl⟩, selected, rfl⟩

/-- Every message of a call is one for a collection. -/
theorem carries_collectionCall (call : CollectionCall) :
    (call.program env).Asks fun rq =>
      ∃ request, collectionInterface.Carried env policy request rq := by
  cases call with
  | existCollection name => exact ((carried_get env policy name).asks _).bind fun _ => trivial
  | createCollection name ctype =>
    refine (((carried_get env policy name).asks _).bind fun exist => ?_).bind fun _ => trivial
    cases exist with
    | true => trivial
    | false =>
      have carried := carried_create understands name (ctype = "edge")
      simp only [decide_eq_true_eq] at carried
      rw [if_neg Bool.false_ne_true, exchangeQuery_eq]
      exact carried.asks _
  | dropCollection name =>
    refine (((carried_get env policy name).asks _).bind fun exist => ?_).bind fun _ => trivial
    cases exist with
    | true => exact (carried_drop env policy name).asks _
    | false => trivial
  | collectionNames ctype => exact ((carried_list env policy).asks _).bind fun _ => trivial

/-- Everything that a call sends is read by the server. -/
theorem asks_collectionCall (call : CollectionCall) :
    (conduct env .base connectData (call.program env)).Asks fun sent =>
      ∃ request, collectionInterface.Sees policy.read connectData sent request :=
  collectionInterface.asks_conduct understands connectData (carries_collectionCall understands call)

/-- Every call takes effect in one instant. It is not refused for what others have done when it can
rely on nobody else creating or dropping its collection. -/
theorem atomic_collectionCall (call : CollectionCall)
    (keeps : ¬ races → ∀ name, call.changes = some name →
      ∀ now later, rely now later → (later.Has name ↔ now.Has name))
    (guarantees : ∀ request, call.Sends request → ∀ now reply after,
      Store.Serves env now request reply after → guarantee now after) (store : Store) :
    (conduct env .base connectData (call.program env)).Atomic (Store.Answers env policy connectData)
      id rely guarantee (call.Does races) CollectionAnswer.Agrees store := by
  cases call with
  | existCollection name =>
    exact atomic_bind_done (atomic_existCollection understands name guarantees store)
  | createCollection name ctype =>
    exact atomic_bind_done (atomic_createCollection understands name ctype
      (fun alone => keeps alone name rfl) guarantees store)
  | dropCollection name =>
    exact atomic_bind_done (atomic_dropCollection understands name
      (fun alone => keeps alone name rfl) guarantees store)
  | collectionNames ctype =>
    exact atomic_bind_done (atomic_collectionNames understands ctype guarantees store)

end

end ArangoCpp
