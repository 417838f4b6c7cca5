/-
This file lets any number of clients use the documents of one server at the same time.

Each client calls one operation on documents after the other, and the requests of the clients
reach the server in any order. An operation sends one request at most, so that it takes effect
when the server answers, and in no other instant. The operations are therefore linearizable:
whatever the clients see, they could have seen it if each call had done at once what the map
says. Clients that keep to collections of their own see what they would see if they were alone.
-/

import ArangoCpp.Concurrency
import ArangoCpp.Documents

namespace ArangoCpp

open Dialogue

variable {env : Env} {policy : Policy} {connectData : ArangoDBConnection}

/-! ### The map and its collections -/

namespace Call

/-- The collection that a call is about. -/
def name : Call → CollectionName
  | createDocument name _ | readDocument name _ | updateDocument name _ _ | deleteDocument name _
  | existsDocument name _ | removeByKeys name _ => name

end Call

section

variable {documents another : Documents} {name : CollectionName}
  (same : another name = documents name)

include same

theorem find_congr (key : DocumentKey) : another.find name key = documents.find name key := by
  rw [Catalogue.find, Catalogue.find, same]

theorem change_congr
    (revised : (DocumentKey → Option JsonValue) → DocumentKey → Option JsonValue) :
    another.change name revised name = documents.change name revised name := by
  rw [Catalogue.change, Catalogue.change, Function.update_self, Function.update_self, same]

theorem held_congr (keys : List DocumentKey) :
    another.held name keys = documents.held name keys := by
  simp only [Catalogue.held, find_congr same]

end

theorem change_other {documents : Documents} {name other : CollectionName} (apart : other ≠ name)
    (revised : (DocumentKey → Option JsonValue) → DocumentKey → Option JsonValue) :
    documents.change name revised other = documents other :=
  Function.update_of_ne apart _ _

/-- What a call does in a collection it does in any other map with the same collection. -/
theorem Call.Does.depends {call : Call} {documents after another : Documents} {answer : Answer}
    (does : call.Does env policy documents answer after)
    (same : another call.name = documents call.name) :
    ∃ next : Documents, call.Does env policy another answer next ∧
      next call.name = after call.name := by
  cases call with
  | createDocument name jsonrec =>
    change another name = documents name at same
    rcases does with ⟨data, key, document, parsed, ⟨collection, asks, free⟩, keeps, answered,
      rfl⟩ | ⟨refuses, answered, rfl⟩
    · refine ⟨another.put name key document, Or.inl ⟨data, key, document, parsed,
        ⟨?_, asks, ?_⟩, keeps, answered, rfl⟩, change_congr same _⟩
      · exact (congrArg Option.isSome same).trans collection
      · exact (find_congr same key).trans free
    · refine ⟨another, Or.inr ⟨fun data parsed => (refuses data parsed).imp_right
        fun refused key admits => ?_, answered, rfl⟩, same⟩
      obtain ⟨collection, asks, free⟩ := admits
      exact refused key ⟨(congrArg Option.isSome same).symm.trans collection, asks,
        (find_congr same key).symm.trans free⟩
  | readDocument name handle =>
    change another name = documents name at same
    obtain ⟨answered, rfl⟩ := does
    exact ⟨another, ⟨by rw [find_congr same]; exact answered, rfl⟩, same⟩
  | updateDocument name handle jsonrec =>
    change another name = documents name at same
    rcases does with ⟨data, document, parsed, object, stored, keeps, answered, rfl⟩ |
      ⟨refuses, answered, rfl⟩
    · exact ⟨another.put name handle.key document, Or.inl ⟨data, document, parsed, object,
        by rw [find_congr same]; exact stored, keeps, answered, rfl⟩, change_congr same _⟩
    · exact ⟨another, Or.inr ⟨by rw [find_congr same]; exact refuses, answered, rfl⟩, same⟩
  | deleteDocument name handle =>
    change another name = documents name at same
    by_cases stored : (documents.find name handle.key).isSome = true
    · rw [Call.Does, if_pos stored] at does
      obtain ⟨answered, rfl⟩ := does
      refine ⟨another.erase name handle.key, ?_, change_congr same _⟩
      rw [Call.Does, find_congr same, if_pos stored]
      exact ⟨answered, rfl⟩
    · rw [Call.Does, if_neg stored] at does
      obtain ⟨answered, rfl⟩ := does
      refine ⟨another, ?_, same⟩
      rw [Call.Does, find_congr same, if_neg stored]
      exact ⟨answered, rfl⟩
  | existsDocument name handle =>
    change another name = documents name at same
    obtain ⟨answered, rfl⟩ := does
    exact ⟨another, ⟨by rw [find_congr same]; exact answered, rfl⟩, same⟩
  | removeByKeys name handles =>
    change another name = documents name at same
    by_cases collection : (documents name).isSome = true
    · simp only [Call.Does, if_pos collection] at does
      obtain ⟨answered, rfl⟩ := does
      refine ⟨another.eraseAll name (handles.map Handle.key), ?_, change_congr same _⟩
      simp only [Call.Does, same, if_pos collection, held_congr same]
      exact ⟨answered, trivial⟩
    · simp only [Call.Does, if_neg collection] at does
      obtain ⟨answered, rfl⟩ := does
      refine ⟨another, ?_, same⟩
      simp only [Call.Does, same, if_neg collection]
      exact ⟨answered, trivial⟩

/-- A call depends on one collection, and changes no other. -/
theorem local_does (env : Env) (policy : Policy) : Local (Call.Does env policy) Call.name where
  keeps call documents answer after does other apart := by
    cases call with
    | createDocument name jsonrec =>
      rcases does with ⟨_, _, _, _, _, _, _, rfl⟩ | ⟨_, _, rfl⟩
      · exact change_other apart _
      · rfl
    | readDocument name handle =>
      obtain ⟨_, rfl⟩ := does
      rfl
    | updateDocument name handle jsonrec =>
      rcases does with ⟨_, _, _, _, _, _, _, rfl⟩ | ⟨_, _, rfl⟩
      · exact change_other apart _
      · rfl
    | deleteDocument name handle =>
      simp only [Call.Does] at does
      split at does
      · obtain ⟨_, rfl⟩ := does
        exact change_other apart _
      · obtain ⟨_, rfl⟩ := does
        rfl
    | existsDocument name handle =>
      obtain ⟨_, rfl⟩ := does
      rfl
    | removeByKeys name handles =>
      simp only [Call.Does] at does
      split at does
      · obtain ⟨_, rfl⟩ := does
        exact change_other apart _
      · obtain ⟨_, rfl⟩ := does
        rfl
  depends _ _ _ _ does _ same := does.depends same

/-! ### Calls send one request at most -/

theorem atMost_catchVelocypack {Value : Type} {title : Bytes} {id : Int} {program : Api Value}
    {bound : Nat} (few : program.AtMost bound) :
    (catchVelocypack env title id program).AtMost bound := by
  refine few.rescue fun fault => ?_
  cases fault <;> trivial

theorem atMost_writeDocument (title : Bytes) (id : Int) (verb : RestVerb)
    (path jsonrec errorText : Bytes) (identifier : Slice → Except VpackException Bytes) :
    (writeDocument env title id verb path jsonrec errorText identifier).AtMost 1 := by
  rw [writeDocument_eq]
  refine atMost_catchVelocypack ?_
  cases env.vpack.fromJson parseOptions jsonrec with
  | error exception => exact Asks.atMost (asks_raise _) 1
  | ok data => exact atMost_exchange _ _

/-- What is made of the value of a program asks nothing. -/
theorem AtMost.bind_done {Value Result : Type} {program : Api Value} {bound : Nat}
    (few : program.AtMost bound) (wrap : Value → Result) :
    (program.bind fun value => .done (wrap value)).AtMost bound :=
  few.bind fun value => Asks.atMost (asks_done (wrap value)) 0

theorem atMost_call (call : Call) : (call.program env).AtMost 1 := by
  cases call with
  | createDocument name jsonrec => exact AtMost.bind_done (atMost_writeDocument _ _ _ _ _ _ _) _
  | readDocument name handle => exact AtMost.bind_done (atMost_exchange _ _) _
  | updateDocument name handle jsonrec =>
    exact AtMost.bind_done (atMost_writeDocument _ _ _ _ _ _ _) _
  | deleteDocument name handle =>
    exact AtMost.bind_done (AtMost.bind_done (atMost_exchange _ _) fun _ => true) _
  | existsDocument name handle => exact AtMost.bind_done (atMost_exchange _ _) _
  | removeByKeys name handles =>
    rw [Call.program, ArangoDBCollectionAPI.removeByKeys, exchangeQuery_eq]
    exact AtMost.bind_done (atMost_exchange _ _) _

theorem asks_call (lawful : env.vpack.Lawful) (call : Call) :
    (call.program env).Asks (HttpMessage.Issued env) := by
  cases call with
  | createDocument name jsonrec =>
    exact (orderly_writeDocument lawful _ _ _ _ _ _ (Or.inl rfl)).asks.bind fun _ => trivial
  | readDocument name handle => exact (orderly_get _ _).asks.bind fun _ => trivial
  | updateDocument name handle jsonrec =>
    exact (orderly_writeDocument lawful _ _ _ _ _ _ (Or.inr rfl)).asks.bind fun _ => trivial
  | deleteDocument name handle =>
    exact ((orderly_delete _ _).asks.bind fun _ => asks_done true).bind fun _ => asks_done _
  | existsDocument name handle =>
    exact (asks_exchange (issued_createREQUEST _ (by simp)) _).bind fun _ => trivial
  | removeByKeys name handles =>
    exact (orderly_exchangeQuery lawful _ (by simp) _ (by simp)).asks.bind fun _ => trivial

/-- A call does what the map says in the instant in which its request is answered, whatever the
other clients do. -/
theorem atomic_call (understands : policy.Understands env) (call : Call) (documents : Documents) :
    (conduct env .base connectData (call.program env)).Atomic (policy.Responds env connectData) id
      (fun _ _ => True) (fun _ _ => True) (call.Does env policy) (Answer.Agrees env) documents := by
  refine atomic_of_plays ?_ (complete_call call) fun documents result after plays =>
    ⟨trivial, agrees_call understands call documents result after plays⟩
  rw [Operation.conduct_eq_through understands.lawful (asks_call understands.lawful call)]
  exact (atMost_call call).through

/-! ### Clients that share the documents -/

/-- The clients of a server, each of which makes one call after the other. -/
abbrev Sharing (env : Env) (policy : Policy) (connectData : ArangoDBConnection) {Client : Type}
    [DecidableEq Client] (may : Client → Call → Prop) :
    Crowd Client Transmission Transfer Fault Returned Documents Call →
      List (Event Client Fault Returned Call) →
      Crowd Client Transmission Transfer Fault Returned Documents Call → Prop :=
  Crowd.Step may (fun call => conduct env .base connectData (call.program env))
    fun _ => policy.Responds env connectData

/-- The map, when every call is served in one instant. -/
abbrev SharedMap (env : Env) (policy : Policy) (Client : Type) [DecidableEq Client] :
    Object Client Documents Call Answer → List (Event Client Fault Returned Call) →
      Object Client Documents Call Answer → Prop :=
  Object.Step (Call.Does env policy) (Answer.Agrees env)

variable {Client : Type} [DecidableEq Client] {may : Client → Call → Prop}
  {documents : Documents} {history : List (Event Client Fault Returned Call)}
  {crowd : Crowd Client Transmission Transfer Fault Returned Documents Call}

section

variable (understands : policy.Understands env)

include understands

omit [DecidableEq Client] in
/-- The clients need not rely on each other. -/
theorem accord_sharing :
    Accord may (fun call => conduct env .base connectData (call.program env))
      (fun _ => policy.Responds env connectData) id (Call.Does env policy) (Answer.Agrees env)
      (fun _ _ _ => True) (fun _ _ _ => True) where
  refl _ _ := trivial
  trans _ _ _ _ _ _ := trivial
  bears _ _ _ _ _ _ := trivial
  atomic _ call _ documents := atomic_call understands call documents

/-- What any number of clients see of the documents that they share, they could see if each call
were served in one instant between its start and its end. The calls in the order in which they are
served do what the map says, and lead to the documents that the server has. -/
theorem documents_linearizable
    (run : Unfolds (Sharing env policy connectData may) (.start documents) history crowd) :
    ∃ object, Unfolds (SharedMap env policy Client) (.start documents) history object ∧
      DoesAll (Call.Does env policy) ((object.log.map Prod.snd).map Prod.fst) documents
        ((object.log.map Prod.snd).map Prod.snd) crowd.state ∧
      ∀ client, crowd.activity client = .idle →
        callsOf client history = (servedTo client object.log).map Prod.fst ∧
        List.Forall₂ (Answer.Agrees env) ((servedTo client object.log).map Prod.snd)
          (resultsOf client history) :=
  (accord_sharing understands).tallies run

/-- Clients that keep to collections of their own see what they would see if they were alone, and
find their collections as they have left them. -/
theorem documents_isolated {mine : Client → CollectionName → Bool}
    (apart : ∀ client other name, mine client name = true → mine other name = true →
      client = other)
    (run : Unfolds (Sharing env policy connectData fun client call => mine client call.name = true)
      (.start documents) history crowd)
    {client : Client} (idle : crowd.activity client = .idle) :
    ∃ answers final, DoesAll (Call.Does env policy) (callsOf client history) documents answers
        final ∧
      List.Forall₂ (Answer.Agrees env) answers (resultsOf client history) ∧
      (∀ name, mine client name = true → final name = crowd.state name) ∧
      ∀ name, mine client name = false → final name = documents name := by
  obtain ⟨object, served, followed⟩ := (accord_sharing understands).linearizes run
  obtain ⟨answers, final, done, agree, kept, others⟩ := object.isolated (local_does env policy)
    served (Crowd.callsOf_may run) apart ((followed.idle_iff client).mp idle)
  refine ⟨answers, final, done, agree, fun name listed => ?_, others⟩
  rw [kept name listed, followed.state]
  rfl

end

/-- No client is ever stuck: whatever the others do, a call that is under way can end. -/
theorem documents_can_return {peer : Documents → Transmission → Transfer → Documents → Prop}
    (responsive : ∀ documents sent, ∃ reply after, peer documents sent reply after)
    (run : Unfolds (Crowd.Step may (fun call : Call => conduct env .base connectData
      (call.program env)) fun _ => peer) (.start documents) history crowd) {client : Client}
    {call : Call} {rest : Wire Returned} (busy : crowd.activity client = .busy call rest) :
    ∃ result after, Unfolds (Crowd.Step may (fun call : Call => conduct env .base connectData
        (call.program env)) fun _ => peer) crowd [.returned client result] after ∧
      after.activity = Function.update crowd.activity client .idle :=
  Crowd.can_return complete_call (fun _ => responsive) run busy

/-! ### Two clients -/

/-- A server that has one document under every key of every collection. -/
theorem plays_deleted_probed (name other : CollectionName) (key : DocumentKey) :
    let env : Env := ⟨.printing [], true, true, [], false⟩
    let policy : Policy := ⟨fun body => some ((Velocypack.printing []).sliceAt body),
      fun _ _ _ _ => True⟩
    let documents : Documents := fun _ => some fun _ => some ⟨.null, .null⟩
    Dialogue.Plays (policy.Responds env .default) (conduct env .base .default
        ((Call.existsDocument other (.full key)).program env)) documents (.ok (.flag true))
        documents ∧
      Dialogue.Plays (policy.Responds env .default) (conduct env .base .default
        ((Call.deleteDocument name (.bare key)).program env)) documents (.ok (.flag true))
        (documents.erase name key) := by
  intro env policy documents
  have understands : policy.Understands env := understands_printing fun entry listed =>
    absurd listed List.not_mem_nil
  constructor
  · exact (plays_existsDocument_iff understands other (.full key)).mpr
      ⟨⟨0, 200, [], []⟩, .present rfl rfl rfl, rfl⟩
  · refine (plays_deleteDocument_iff understands name (.bare key)).mpr
      ⟨⟨0, 200, [], []⟩, .deleted rfl (Or.inl rfl) (Or.inl rfl), ?_⟩
    rw [understands.demanded _ (Or.inl rfl) (Or.inl rfl)]
    rfl

/-- One client deletes a document of its collection while another one asks for one of its own. -/
theorem documents_isolated_two :
    let name : CollectionName := ⟨"c", by decide, List.all_eq_true.mp rfl⟩
    let other : CollectionName := ⟨"d", by decide, List.all_eq_true.mp rfl⟩
    let key : DocumentKey := ⟨"k", by decide, List.all_eq_true.mp rfl, by decide, by decide⟩
    let env : Env := ⟨.printing [], true, true, [], false⟩
    let policy : Policy := ⟨fun body => some ((Velocypack.printing []).sliceAt body),
      fun _ _ _ _ => True⟩
    let documents : Documents := fun _ => some fun _ => some ⟨.null, .null⟩
    let mine : Bool → CollectionName → Bool := fun client here =>
      if client = true then decide (here = name) else decide (here = other)
    let deletes : Call := .deleteDocument name (.bare key)
    let probes : Call := .existsDocument other (.full key)
    let history : List (Event Bool Fault Returned Call) := [.called true deletes,
      .called false probes, .returned false (.ok (.flag true)), .returned true (.ok (.flag true))]
    ∃ crowd answers final,
      Unfolds (Sharing env policy .default fun client call => mine client call.name = true)
        (.start documents) history crowd ∧
      DoesAll (Call.Does env policy) [deletes] documents answers final ∧
      List.Forall₂ (Answer.Agrees env) answers [.ok (.flag true)] ∧
      final name = crowd.state name := by
  intro name other key env policy documents mine deletes probes history
  have understands : policy.Understands env := understands_printing fun entry listed =>
    absurd listed List.not_mem_nil
  have differ : name ≠ other := fun same => absurd (congrArg CollectionName.bytes same) (by decide)
  have apart : ∀ client another here, mine client here = true → mine another here = true →
      client = another := by
    intro client another here listed listed'
    cases client <;> cases another <;> first
      | rfl
      | exact absurd ((of_decide_eq_true listed).symm.trans (of_decide_eq_true listed')) differ
      | exact absurd ((of_decide_eq_true listed').symm.trans (of_decide_eq_true listed)) differ
  have own : mine true deletes.name = true := decide_eq_true (rfl : name = name)
  have ownToo : mine false probes.name = true := decide_eq_true (rfl : other = other)
  obtain ⟨probed, deleted⟩ := plays_deleted_probed name other key
  obtain ⟨crowd, run, _, idle⟩ := Crowd.exists_overlapping
    (fun client (call : Call) => mine client call.name = true)
    (fun call : Call => conduct env .base .default (call.program env))
    (fun _ => policy.Responds env .default) (Bool.noConfusion : true ≠ false) own ownToo probed
    deleted
  obtain ⟨answers, final, done, agree, kept, _⟩ :=
    documents_isolated understands apart run (idle true)
  exact ⟨crowd, answers, final, run, done, agree, kept name own⟩

end ArangoCpp
