/-
This file says which exception an operation throws at a reply that has an error status and
holds a value.

`ARANGO_ERROR_THROW` reads the number and the text of the error when the value says that there
is an error. Where they are missing or of another type, an exception of the VelocyPack library
is thrown instead. The operations that parse a text of the caller's handle these exceptions;
the others let them through. The question for a collection reads the status out of the value
whatever the status of the reply is, so that it throws such an exception or returns.
-/

import ArangoCpp.Operation

namespace ArangoCpp

variable {env : Env}

/-! ### Values that can be reported -/

/-- The values that `ARANGO_ERROR_THROW` can report. -/
inductive Slice.Reportable (slice : Slice) : Prop where
  | plain (plain : slice.isObject = false)
  | unsaid (unsaid : slice.get "error" = .ok .none)
  | denied (denied : slice.get "error" = .ok (.bool false))
  | explained {number : Int} {lastError : Bytes} (said : slice.get "error" = .ok (.bool true))
      (numbered : (slice.get "errorNum" >>= Slice.getInt) = .ok number)
      (worded : (slice.get "errorMessage" >>= Slice.copyString) = .ok lastError)

theorem Slice.isObject_of_get {slice member : Slice} {name : Bytes}
    (found : slice.get name = .ok member) : slice.isObject = true := by
  cases slice <;> first | rfl | cases found

/-- The exception is one of the client exactly when the value can be reported. -/
theorem errorThrow_arango_iff {Value : Type} {result : HttpMessage} {value : Slice}
    (reads : result.Reads env value) (text : Bytes) :
    (∃ exception, (result.errorThrow env text : Except Fault Value) = .error (.arango exception)) ↔
      value.Reportable := by
  rw [HttpMessage.errorThrow, reads.slices, ok_bind]
  simp only [arangoErrorThrow, reads.value]
  constructor
  · rintro ⟨exception, thrown⟩
    by_cases object : value.isObject = true
    · obtain ⟨error, said⟩ := value.exists_get object "error"
      rw [if_pos object] at thrown
      simp only [Slice.hasKey, said, ok_bind, pure, Except.pure, ofVpack_ok] at thrown
      cases error with
      | none => exact .unsaid said
      | bool error =>
        cases error with
        | false => exact .denied said
        | true =>
          obtain ⟨_, numbered⟩ | ⟨_, numbered⟩ :=
            ofVpack_cases (value.get "errorNum" >>= Slice.getInt)
          · obtain ⟨_, worded⟩ | ⟨_, worded⟩ :=
              ofVpack_cases (value.get "errorMessage" >>= Slice.copyString)
            · exact .explained said (ofVpack_eq_ok_iff.mp numbered) (ofVpack_eq_ok_iff.mp worded)
            · simp [Slice.isNone, Slice.getBool, numbered, worded] at thrown
          · simp [Slice.isNone, Slice.getBool, numbered] at thrown
      | _ => simp [Slice.isNone, Slice.getBool] at thrown
    · exact .plain (Bool.eq_false_iff.mpr object)
  · intro reportable
    cases reportable with
    | plain plain =>
      rw [if_neg (by rw [plain]; exact Bool.false_ne_true)]
      exact ⟨_, rfl⟩
    | unsaid unsaid =>
      rw [if_pos (Slice.isObject_of_get unsaid), Slice.hasKey, unsaid]
      exact ⟨_, rfl⟩
    | denied denied =>
      rw [if_pos (Slice.isObject_of_get denied), Slice.hasKey, denied]
      exact ⟨_, rfl⟩
    | explained said numbered worded =>
      rw [if_pos (Slice.isObject_of_get said), Slice.hasKey, said, numbered, worded]
      exact ⟨_, rfl⟩

/-! ### Programs that reject a response -/

/-- A program that asks once, and refuses a response with an error status by reporting it. -/
structure Rejects (env : Env) {Value : Type} (program : Api Value) : Prop where
  few : program.AtMost 1
  failed : ∀ fault replies, (program.run (.error fault :: replies)).outcome = .raised fault
  refused : ∀ {response : HttpMessage} {value : Slice}, response.Reads env value →
    badRequest response.statusCode = true → ∀ replies, ∃ fault : Fault,
      (program.run (.ok response :: replies)).outcome = .raised fault ∧ fault.Thrown ∧
        ((∃ exception, fault = .arango exception) ↔ value.Reportable)

/-- A way to read a response that reports an error status. -/
def Refuses (env : Env) {Value : Type} (read : HttpMessage → Except Fault Value) : Prop :=
  ∀ response : HttpMessage, badRequest response.statusCode = true →
    ∀ value, response.Reads env value → ∃ text, read response = response.errorThrow env text

/-- A program that asks once, and throws an exception of the client at every error. -/
structure Catches (env : Env) {Value : Type} (program : Api Value) : Prop where
  few : program.AtMost 1
  failed : ∀ exception replies, ∃ thrown : ArangoException,
    (program.run (.error (.velocypack exception) :: replies)).outcome = .raised (.arango thrown)
  refused : ∀ {response : HttpMessage} {value : Slice}, response.Reads env value →
    badRequest response.statusCode = true → ∀ replies, ∃ thrown : ArangoException,
      (program.run (.ok response :: replies)).outcome = .raised (.arango thrown)

section

variable {Value Result : Type}

theorem rejects_exchange (request : HttpMessage) {read : HttpMessage → Except Fault Value}
    (refuses : Refuses env read) : Rejects env (.exchange request read) where
  few := Dialogue.atMost_exchange request read
  failed fault replies := by
    rw [← Dialogue.bind_done (Dialogue.exchange request read),
      Dialogue.run_exchange_bind_of_failure]
  refused {response value} reads bad replies := by
    obtain ⟨text, reports⟩ := refuses response bad value reads
    have throws : ∃ fault, read response = .error fault ∧ fault.Thrown := by
      rw [reports, HttpMessage.errorThrow, reads.slices, ok_bind]
      exact arangoErrorThrow_error _ text
    obtain ⟨fault, raised, thrown⟩ := throws
    refine ⟨fault, ?_, thrown, ?_⟩
    · rw [← Dialogue.bind_done (Dialogue.exchange request read),
        Dialogue.run_exchange_bind_of_error raised]
    · rw [← @errorThrow_arango_iff env Value response value reads text, ← reports, raised]
      simp only [Except.error.injEq]

theorem Rejects.bind_done {program : Api Value} (rejects : Rejects env program)
    (result : Value → Result) : Rejects env (program.bind fun value => .done (result value)) where
  few := rejects.few.bind fun _ => (Dialogue.asks_done _).atMost 0
  failed fault replies := Dialogue.outcome_bind_of_raised (rejects.failed fault replies) _
  refused reads bad replies := by
    obtain ⟨fault, raised, thrown⟩ := rejects.refused reads bad replies
    exact ⟨fault, Dialogue.outcome_bind_of_raised raised _, thrown⟩

theorem Catches.bind_done {program : Api Value} (catches : Catches env program)
    (result : Value → Result) : Catches env (program.bind fun value => .done (result value)) where
  few := catches.few.bind fun _ => (Dialogue.asks_done _).atMost 0
  failed exception replies := by
    obtain ⟨thrown, raised⟩ := catches.failed exception replies
    exact ⟨thrown, Dialogue.outcome_bind_of_raised raised _⟩
  refused reads bad replies := by
    obtain ⟨thrown, raised⟩ := catches.refused reads bad replies
    exact ⟨thrown, Dialogue.outcome_bind_of_raised raised _⟩

/-- What an operation throws becomes an exception of the client. -/
theorem outcome_catchVelocypack {title : Bytes} {id : Int} {program : Api Value}
    {replies : List (Except Fault HttpMessage)} {fault : Fault}
    (raised : (program.run replies).outcome = .raised fault) (thrown : fault.Thrown) :
    ∃ exception : ArangoException,
      ((catchVelocypack env title id program).run replies).outcome =
        .raised (.arango exception) := by
  cases fault with
  | arango exception => exact ⟨exception, Dialogue.outcome_rescue_of_raised raised rfl⟩
  | velocypack exception => exact ⟨_, Dialogue.outcome_rescue_of_raised raised rfl⟩
  | emptyFront => exact thrown.elim
  | endless => exact thrown.elim

/-- A program that rejects, behind the parsing of a text, inside of a handler. -/
theorem catches_catchVelocypack {Data : Type} {next : Data → Api Value}
    (rejects : ∀ data, Rejects env (next data)) (title : Bytes) (id : Int)
    (parsed : Except VpackException Data) :
    Catches env (catchVelocypack env title id (.bind (.ofExcept (ofVpack parsed)) next)) where
  few := by
    refine Dialogue.AtMost.rescue ?_ fun fault => by cases fault <;> trivial
    exact ((Dialogue.asks_ofExcept _).atMost 0).bind fun data => (rejects data).few
  failed exception replies := by
    cases parsed with
    | error other => exact outcome_catchVelocypack rfl trivial
    | ok data => exact outcome_catchVelocypack ((rejects data).failed _ replies) trivial
  refused reads bad replies := by
    cases parsed with
    | error other => exact outcome_catchVelocypack rfl trivial
    | ok data =>
      obtain ⟨fault, raised, thrown, _⟩ := (rejects data).refused reads bad replies
      exact outcome_catchVelocypack raised thrown

end

theorem refuses_demand {refused : StatusCode → Bool}
    (refuses : ∀ status, badRequest status = true → refused status = true) (text : Bytes) :
    Refuses env (demand env refused text) :=
  fun _ bad _ _ => ⟨text, if_pos (refuses _ bad)⟩

theorem refuses_takeValue {Value : Type} {refused : StatusCode → Bool}
    (refuses : ∀ status, badRequest status = true → refused status = true) (text : Bytes)
    (read : Slice → Except VpackException Value) :
    Refuses env (takeValue env refused text read) := by
  intro response bad value reads
  refine ⟨text, ?_⟩
  rw [takeValue, reads.front, ok_bind, if_pos (refuses _ bad)]

theorem rejects_exchangeQuery {Value : Type} {read : HttpMessage → Except Fault Value}
    (refuses : Refuses env read) (verb : RestVerb) (path : Bytes) (query : Slice) :
    Rejects env (exchangeQuery env verb path query read) := by
  rw [exchangeQuery_eq]
  exact rejects_exchange _ refuses

theorem catches_writeDocument (title : Bytes) (id : Int) (verb : RestVerb)
    (path jsonrec errorText : Bytes) (identifier : Slice → Except VpackException Bytes) :
    Catches env (writeDocument env title id verb path jsonrec errorText identifier) := by
  rw [writeDocument_eq]
  exact catches_catchVelocypack
    (fun _ => rejects_exchange _ (refuses_takeValue (fun _ bad => bad) _ _)) title id _

theorem received_of_badRequest {status : StatusCode} (bad : badRequest status = true) :
    status ≠ 0 := by
  have large : status ≥ statusBadRequest := of_decide_eq_true bad
  exact fun same => absurd (same ▸ large) (by decide)

theorem notOK_of_badRequest (status : StatusCode) (bad : badRequest status = true) :
    notOK status = true := by
  have large : status ≥ statusBadRequest := of_decide_eq_true bad
  have different : status ≠ statusOK := fun same => absurd (same ▸ large) (by decide)
  exact bne_iff_ne.mpr different

/-! ### What is told of a reply that holds a value -/

/-- The debug log can show a value, if it is written at all. -/
def Env.Shows (env : Env) (value : Slice) : Prop :=
  env.debug = true → ∃ json, env.vpack.toJson dumpOptions value = .ok json

/-- A program is told the response, unless the debug log cannot show it. -/
theorem Transfer.Holds.tells (lawful : env.vpack.Lawful) {transfer : Transfer} {value : Slice}
    (holds : transfer.Holds env value) (received : transfer.responseCode ≠ 0)
    {told : Except Fault HttpMessage} (tells : transfer.Tells env told) :
    (env.Shows value ∧ ∃ response : HttpMessage, told = .ok response ∧ response.Reads env value ∧
        response.statusCode = transfer.responseCode) ∨
      (¬ env.Shows value ∧ ∃ exception, told = .error (.velocypack exception)) := by
  by_cases shows : env.Shows value
  · obtain ⟨response, accepted, reads⟩ := holds.accepted lawful received shows
    exact Or.inl ⟨shows, response, tells.eq_ok accepted, reads, accepted.status⟩
  · refine Or.inr ⟨shows, ?_⟩
    obtain ⟨debug, unshown⟩ := Classical.not_imp.mp shows
    obtain ⟨response, responds, reads, status⟩ := holds.respond lawful
    have dumped : logged env response = ofVpack (env.vpack.toJson dumpOptions value) := by
      rw [logged, if_pos debug, reads.payloadAsString]
    have failed : ∃ exception, logged env response = .error (.velocypack exception) := by
      rw [dumped]
      rcases ofVpack_cases (env.vpack.toJson dumpOptions value) with ⟨json, same⟩ | thrown
      · exact absurd ⟨json, ofVpack_eq_ok_iff.mp same⟩ unshown
      · exact thrown
    obtain ⟨exception, fails⟩ := failed
    refine ⟨exception, ?_⟩
    cases tells with
    | @accepted other accepted =>
      obtain ⟨line, shown⟩ := accepted.shown
      have same := responds.symm.trans accepted.responds
      cases same
      cases fails.symm.trans shown
    | refused refused =>
      cases refused with
      | malformed malformed => cases responds.symm.trans malformed
      | unshown other shown =>
        have same := responds.symm.trans other
        cases same
        rw [fails] at shown
        cases shown
        rfl
      | unreceived other none =>
        have same := responds.symm.trans other
        cases same
        exact absurd (status.symm.trans none) received

/-! ### The operations -/

/-- The operations that are to report an error, with the statuses that they have for it. -/
def Operation.Rejected : Operation → StatusCode → Prop
  | existCollection _, status | createCollection _ _, status =>
    badRequest status = true ∧ status ≠ statusNotFound
  | readDocument _ _, status | createDocument _ _, status | updateDocument _ _ _, status
  | deleteDocument _ _, status | removeByTemplate _ _, status | removeByKeys _ _, status
  | readRecord _ _ _ _, status | createRecord _ _ _ _, status | updateRecord _ _ _ _ _, status
  | deleteRecord _ _ _ _, status | addVertexGraph _ _, status | addEdgeGraph _ _, status =>
    badRequest status = true
  | _, _ => False

/-- When an operation throws an exception of the client at a reply that holds a value, behind
earlier replies. The question for a collection never does; the operations that handle the
exceptions of the library always do; for the others the value has to be one that can be shown and
reported. -/
def Operation.Translates (env : Env) (earlier : List Transfer) (value : Slice) : Operation → Prop
  | existCollection _ => False
  | createCollection _ _ => earlier ≠ [] ∧ env.Shows value ∧ value.Reportable
  | readDocument _ _ | deleteDocument _ _ | removeByKeys _ _ | readRecord _ _ _ _
  | deleteRecord _ _ _ _ | addVertexGraph _ _ => env.Shows value ∧ value.Reportable
  | _ => True

/-- A program that rejects throws an exception of the client exactly when the value can be shown
and reported. -/
theorem Rejects.arango_iff (lawful : env.vpack.Lawful) {Value : Type} {program : Api Value}
    (rejects : Rejects env program) {transfer : Transfer} {value : Slice}
    (holds : transfer.Holds env value) (bad : badRequest transfer.responseCode = true)
    {told : Except Fault HttpMessage} (tells : transfer.Tells env told)
    (replies : List (Except Fault HttpMessage)) :
    (∃ exception, (program.run (told :: replies)).outcome = .raised (.arango exception)) ↔
      env.Shows value ∧ value.Reportable := by
  rcases holds.tells lawful (received_of_badRequest bad) tells with
    ⟨shows, response, rfl, reads, status⟩ | ⟨unshown, exception, rfl⟩
  · obtain ⟨fault, raised, _, reportable⟩ := rejects.refused reads (status ▸ bad) replies
    rw [raised, ← reportable]
    simp only [Dialogue.Outcome.raised.injEq]
    exact (and_iff_right shows).symm
  · rw [rejects.failed]
    refine iff_of_false ?_ fun reported => unshown reported.1
    rintro ⟨exception, same⟩
    cases same

theorem Catches.arango (lawful : env.vpack.Lawful) {Value : Type} {program : Api Value}
    (catches : Catches env program) {transfer : Transfer} {value : Slice}
    (holds : transfer.Holds env value) (bad : badRequest transfer.responseCode = true)
    {told : Except Fault HttpMessage} (tells : transfer.Tells env told)
    (replies : List (Except Fault HttpMessage)) :
    ∃ exception, (program.run (told :: replies)).outcome = .raised (.arango exception) := by
  rcases holds.tells lawful (received_of_badRequest bad) tells with
    ⟨_, response, rfl, reads, status⟩ | ⟨_, exception, rfl⟩
  · exact catches.refused reads (status ▸ bad) replies
  · exact catches.failed exception replies

/-- The question for a collection throws an exception of the library, or it is answered. -/
theorem existCollection_ne_arango (lawful : env.vpack.Lawful) {transfer : Transfer} {value : Slice}
    (holds : transfer.Holds env value) (received : transfer.responseCode ≠ 0)
    (found : transfer.responseCode ≠ statusNotFound) {told : Except Fault HttpMessage}
    (tells : transfer.Tells env told) (collname : Bytes) {next : Bool → Api Unit}
    {replies : List (Except Fault HttpMessage)}
    (later : ∀ exist exception, ((next exist).run replies).outcome ≠ .raised (.arango exception))
    (exception : ArangoException) :
    (((ArangoDBCollectionAPI.existCollection env collname).bind next).run
      (told :: replies)).outcome ≠ .raised (.arango exception) := by
  rcases holds.tells lawful received tells with
    ⟨_, response, rfl, reads, status⟩ | ⟨_, thrown, rfl⟩
  · rcases ofVpack_cases (value.get "status" >>= Slice.getInt) with
      ⟨number, same⟩ | ⟨thrown, same⟩
    · rw [ArangoDBCollectionAPI.existCollection, Dialogue.run_exchange_bind
        (by rw [if_neg (status ▸ found), reads.front, ok_bind, same, ok_bind]; rfl)]
      exact later _ exception
    · rw [ArangoDBCollectionAPI.existCollection, Dialogue.run_exchange_bind_of_error
        (by rw [if_neg (status ▸ found), reads.front, ok_bind, same]; rfl)]
      intro same
      cases same
  · rw [ArangoDBCollectionAPI.existCollection, Dialogue.run_exchange_bind_of_failure]
    intro same
    cases same

namespace Operation

/-- An operation throws an exception of the client. -/
def ThrowsArango (env : Env) (dispatch : Dispatch) (connectData : ArangoDBConnection)
    (batchSize : Int32) (turns : Nat) (operation : Operation) (transfers : List Transfer) : Prop :=
  ∃ exception, ((conduct env dispatch connectData (operation.program env batchSize turns)).run
    transfers).outcome = .raised (.arango exception)

/-- The operations other than those on collections reject or catch. -/
theorem rejects_or_catches (batchSize : Int32) (turns : Nat) {operation : Operation}
    {status : StatusCode} (rejected : operation.Rejected status) :
    (∃ collname, operation = existCollection collname) ∨
      (∃ collname ctype, operation = createCollection collname ctype) ∨
      badRequest status = true ∧
        (Rejects env (operation.program env batchSize turns) ∧
            (∀ earlier value, operation.Translates env earlier value ↔
              env.Shows value ∧ value.Reportable) ∨
          Catches env (operation.program env batchSize turns) ∧
            ∀ earlier value, operation.Translates env earlier value) := by
  have written := @catches_writeDocument env
  have demanded : ∀ text : Bytes, Refuses env (demand env badRequest text) :=
    refuses_demand fun _ bad => bad
  cases operation <;> try exact rejected.elim
  case existCollection collname => exact Or.inl ⟨collname, rfl⟩
  case createCollection collname ctype => exact Or.inr (Or.inl ⟨collname, ctype, rfl⟩)
  all_goals refine Or.inr (Or.inr ⟨rejected, ?_⟩)
  case createDocument => exact Or.inr ⟨(written _ _ _ _ _ _ _).bind_done _, fun _ _ => trivial⟩
  case updateDocument => exact Or.inr ⟨(written _ _ _ _ _ _ _).bind_done _, fun _ _ => trivial⟩
  case createRecord => exact Or.inr ⟨(written _ _ _ _ _ _ _).bind_done _, fun _ _ => trivial⟩
  case updateRecord => exact Or.inr ⟨(written _ _ _ _ _ _ _).bind_done _, fun _ _ => trivial⟩
  case removeByTemplate =>
    refine Or.inr ⟨Catches.bind_done ?_ _, fun _ _ => trivial⟩
    exact catches_catchVelocypack (fun _ =>
      rejects_exchangeQuery (refuses_takeValue (fun _ bad => bad) _ _) _ _ _) _ _ _
  case addEdgeGraph =>
    exact Or.inr ⟨catches_catchVelocypack (fun _ => rejects_exchangeQuery (demanded _) _ _ _) _ _ _,
      fun _ _ => trivial⟩
  all_goals refine Or.inl ⟨?_, fun _ _ => Iff.rfl⟩
  case readDocument =>
    exact (rejects_exchange _ (refuses_takeValue notOK_of_badRequest _ _)).bind_done _
  case readRecord =>
    exact (rejects_exchange _ (refuses_takeValue notOK_of_badRequest _ _)).bind_done _
  case deleteDocument => exact ((rejects_exchange _ (demanded _)).bind_done _).bind_done _
  case deleteRecord => exact ((rejects_exchange _ (demanded _)).bind_done _).bind_done _
  case removeByKeys =>
    exact (rejects_exchangeQuery (refuses_takeValue (fun _ bad => bad) _ _) _ _ _).bind_done _
  case addVertexGraph => exact rejects_exchangeQuery (demanded _) _ _ _

/-- A program that asks once and reads every reply is told one. -/
theorem single_of_atMost {program : Api Unit} (few : program.AtMost 1)
    {before failure : List (Except Fault HttpMessage)} {told : Except Fault HttpMessage}
    (rest : (program.run (before ++ [told] ++ failure)).rest = []) :
    before = [] ∧ failure = [] := by
  have lengths := few.run (before ++ [told] ++ failure)
  rw [rest] at lengths
  simp only [List.length_append, List.length_cons, List.length_nil] at lengths
  exact ⟨List.eq_nil_of_length_eq_zero (by omega), List.eq_nil_of_length_eq_zero (by omega)⟩

/-- A program that asks for a collection, and goes on with one that rejects when there is none:
the question is never rejected. -/
theorem questioned_arango_iff (lawful : env.vpack.Lawful) {creation : Api Unit}
    (rejects : Rejects env creation) (waits : (creation.run []).outcome = .running)
    (collname : Bytes) {reply : Transfer} {value : Slice} (holds : reply.Holds env value)
    (bad : badRequest reply.responseCode = true) (found : reply.responseCode ≠ statusNotFound)
    {before failure : List (Except Fault HttpMessage)} {told : Except Fault HttpMessage}
    (tells : reply.Tells env told)
    (failed : ∀ reply ∈ failure, ∃ exception, reply = .error (.velocypack exception))
    {program : Api Unit}
    (asked : program = (ArangoDBCollectionAPI.existCollection env collname).bind fun exist =>
      if exist = true then .done () else creation)
    (rest : (program.run (before ++ [told] ++ failure)).rest = []) :
    (∃ exception, (program.run (before ++ [told] ++ failure)).outcome =
        .raised (.arango exception)) ↔ before ≠ [] ∧ env.Shows value ∧ value.Reportable := by
  have few : program.AtMost (1 + 1) := by
    rw [asked]
    refine Dialogue.AtMost.bind (Dialogue.atMost_exchange _ _) fun exist => ?_
    cases exist with
    | true => exact (Dialogue.asks_done _).atMost 1
    | false => exact rejects.few
  have lengths := few.run (before ++ [told] ++ failure)
  rw [rest] at lengths
  simp only [List.length_append, List.length_cons, List.length_nil] at lengths
  subst asked
  cases before with
  | nil =>
    refine iff_of_false ?_ fun reported => reported.1 rfl
    rintro ⟨exception, thrown⟩
    have later : ∀ exist (exception : ArangoException), ((if exist = true then .done ()
        else creation : Api Unit).run failure).outcome ≠ .raised (.arango exception) := by
      intro exist exception same
      cases exist with
      | true =>
        rw [if_pos rfl, Dialogue.run_done] at same
        cases same
      | false =>
        rw [if_neg Bool.false_ne_true] at same
        cases failure with
        | nil =>
          rw [waits] at same
          cases same
        | cons first failure =>
          obtain ⟨thrown, rfl⟩ := failed first List.mem_cons_self
          rw [rejects.failed] at same
          cases same
    exact existCollection_ne_arango lawful holds (received_of_badRequest bad) found tells collname
      later exception thrown
  | cons first before =>
    have none : before = [] ∧ failure = [] := by
      rw [List.length_cons] at lengths
      exact ⟨List.eq_nil_of_length_eq_zero (by omega), List.eq_nil_of_length_eq_zero (by omega)⟩
    obtain ⟨rfl, rfl⟩ := none
    obtain ⟨response, exist, rfl, taken⟩ := Dialogue.exists_read_of_exchange_bind rest
    rw [and_iff_right (List.cons_ne_nil _ _), ← rejects.arango_iff lawful holds bad tells []]
    let next (exist : Bool) : Api Unit := if exist = true then .done () else creation
    have run : ((ArangoDBCollectionAPI.existCollection env collname).bind next).run
        [.ok response, told] =
        ⟨createREQUEST env .get ("/_api/collection/" ++ collname) ::
            ((next exist).run [told]).asked,
          ((next exist).run [told]).rest, ((next exist).run [told]).outcome⟩ := by
      refine Dialogue.run_exchange_bind ?_ next [told]
      exact taken
    cases exist with
    | true =>
      have unread := congrArg Dialogue.Run.rest run
      simp only [next, if_true, Dialogue.run_done] at unread
      cases unread.symm.trans rest
    | false => exact iff_of_eq (congrArg (fun outcome => ∃ exception, outcome =
        Dialogue.Outcome.raised (.arango exception)) (congrArg Dialogue.Run.outcome run))

/-- At a reply that has an error status and holds a value, an operation throws an exception of the
client exactly when it translates the value. -/
theorem throws_arango_iff (lawful : env.vpack.Lawful) (dispatch : Dispatch)
    (connectData : ArangoDBConnection) (batchSize : Int32) (turns : Nat) {operation : Operation}
    {earlier : List Transfer} {reply : Transfer} {value : Slice}
    (rejected : operation.Rejected reply.responseCode) (holds : reply.Holds env value)
    (read : ((conduct env dispatch connectData (operation.program env batchSize turns)).run
      (earlier ++ [reply])).rest = []) :
    operation.ThrowsArango env dispatch connectData batchSize turns (earlier ++ [reply]) ↔
      operation.Translates env earlier value := by
  obtain ⟨replies, failure, outcome, rest, tells, failed⟩ := conduct_tells lawful
    (asks_program lawful batchSize turns operation)
    (prompt_program lawful batchSize turns operation)
    dispatch connectData read
  obtain ⟨before, told, rfl, tellsBefore, tellsLast⟩ := exists_of_forall₂_concat tells
  rw [ThrowsArango, outcome]
  rcases rejects_or_catches batchSize turns rejected with
    ⟨collname, rfl⟩ | ⟨collname, ctype, rfl⟩ |
      ⟨bad, ⟨rejects, translates⟩ | ⟨catches, translates⟩⟩
  · have few : (program env batchSize turns (existCollection collname)).AtMost 1 :=
      (Dialogue.atMost_exchange _ _).bind fun _ => (Dialogue.asks_done _).atMost 0
    obtain ⟨rfl, rfl⟩ := single_of_atMost few rest
    refine iff_of_false ?_ id
    rintro ⟨exception, thrown⟩
    refine existCollection_ne_arango lawful holds (received_of_badRequest rejected.1) rejected.2
      tellsLast collname (fun _ _ => ?_) exception thrown
    rw [Dialogue.run_done]
    intro same
    cases same
  · have behind : before ≠ [] ↔ earlier ≠ [] := by
      cases tellsBefore <;> simp
    rw [Translates, ← behind]
    refine questioned_arango_iff lawful (rejects_exchangeQuery (refuses_demand
      notOK_of_badRequest _) _ _ _) ?_ collname holds rejected.1 rejected.2 tellsLast failed rfl
      rest
    rw [exchangeQuery_eq]
    rfl
  · obtain ⟨rfl, rfl⟩ := single_of_atMost rejects.few rest
    rw [translates]
    exact rejects.arango_iff lawful holds bad tellsLast []
  · obtain ⟨rfl, rfl⟩ := single_of_atMost catches.few rest
    exact iff_of_true (catches.arango lawful holds bad tellsLast []) (translates _ _)

/-- The answer of a server that wants to know who asks. -/
def unauthorized : Slice :=
  .object [("error", .bool true), ("code", .int 401), ("errorNum", .int 11),
    ("errorMessage", .string "not authorized to execute this request")]

theorem represented_unauthorized : unauthorized.Represented := by
  simp [unauthorized, IsWord]

/-- The question for a collection reads a status that is not there. -/
theorem run_existCollection_unauthorized (lawful : env.vpack.Lawful) (quiet : env.debug = false)
    (connectData : ArangoDBConnection) (batchSize : Int32) (turns : Nat) :
    ∃ asked, (conduct env .base connectData ((existCollection "c").program env batchSize turns)).run
        [⟨0, 401, [], [env.vpack.build unauthorized]⟩] =
      ⟨asked, [], .raised (.velocypack .invalidValueType)⟩ := by
  have shows : env.Shows unauthorized := fun debug => by rw [quiet] at debug; cases debug
  obtain ⟨response, accepted, reads⟩ :=
    (holds_build lawful 0 401 represented_unauthorized).accepted lawful (Nat.succ_ne_zero _) shows
  have status : response.statusCode ≠ statusNotFound := by
    rw [accepted.status]
    exact (by decide : (401 : Nat) ≠ 404)
  have unread : (unauthorized.get "status" >>= Slice.getInt) = .error .invalidValueType := by
    decide
  rw [conduct_eq_through lawful (asks_program lawful _ _ _)]
  refine ⟨_, Dialogue.run_through_exchange_of_error
    (encode_createREQUEST lawful .base connectData (Or.inl rfl) "/_api/collection/c")
    ((decode_eq_ok_iff lawful .base connectData _).mpr accepted) ?_ _ []⟩
  rw [if_neg status, reads.front, ok_bind, unread]
  rfl

/-- The question for a collection at a server that wants to know who asks. -/
theorem throws_arango_iff_unauthorized :
    let env : Env := ⟨.simple [], true, true, [], false⟩
    let reply : Transfer := ⟨0, 401, [], [env.vpack.build unauthorized]⟩
    (existCollection "c").ThrowsArango env .base .default 500 0 ([] ++ [reply]) ↔
      (existCollection "c").Translates env [] unauthorized := by
  intro env reply
  have lawful : env.vpack.Lawful := Velocypack.simple_lawful []
  obtain ⟨asked, ran⟩ := @run_existCollection_unauthorized env lawful rfl .default 500 0
  have rejected : (existCollection "c").Rejected reply.responseCode := ⟨by decide, by decide⟩
  exact throws_arango_iff lawful .base .default 500 0 rejected
    (holds_build lawful 0 401 represented_unauthorized)
    (by rw [List.nil_append, ran])

/-- The question for a collection throws an exception of the library at such a server. -/
theorem not_throws_arango_unauthorized :
    let env : Env := ⟨.simple [], true, true, [], false⟩
    let reply : Transfer := ⟨0, 401, [], [env.vpack.build unauthorized]⟩
    badRequest reply.responseCode = true ∧ reply.responseCode ≠ statusNotFound ∧
      reply.Holds env unauthorized ∧
        ¬ (existCollection "c").ThrowsArango env .base .default 500 0 [reply] := by
  intro env reply
  have lawful : env.vpack.Lawful := Velocypack.simple_lawful []
  obtain ⟨asked, ran⟩ := @run_existCollection_unauthorized env lawful rfl .default 500 0
  refine ⟨by decide, by decide, holds_build lawful 0 401 represented_unauthorized, ?_⟩
  rintro ⟨exception, thrown⟩
  rw [ran] at thrown
  cases thrown

end Operation

end ArangoCpp
