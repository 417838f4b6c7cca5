/-
This file gathers what the operations do with a response. Some refuse it by its status and
read nothing else, some take the value of its body first and look at the status then, and
the lists read as nothing unless the status is 200. The operations that write a document
differ in the path, the texts and the place of the identifier only.
-/

import ArangoCpp.Transmit

namespace ArangoCpp

variable (env : Env)

/-! ### Reading responses -/

/-- The statuses that the operations test for. -/
def notOK (status : StatusCode) : Bool := status != statusOK

def badRequest (status : StatusCode) : Bool := status ≥ statusBadRequest

/-- Refuse a response by its status; otherwise there is nothing to read in it. -/
def demand (refused : StatusCode → Bool) (text : Bytes) (result : HttpMessage) :
    Except Fault Unit :=
  if refused result.statusCode then result.errorThrow env text else .ok ()

/-- Take the value of a response, then refuse the response by its status or read the value. -/
def takeValue {Value : Type} (refused : StatusCode → Bool) (text : Bytes)
    (read : Slice → Except VpackException Value) (result : HttpMessage) : Except Fault Value := do
  let slice ← result.front env
  if refused result.statusCode then result.errorThrow env text else ofVpack (read slice)

/-- Read the value of a response with the status 200. Any other response reads as nothing. -/
def listValue {Value : Type} (nothing : Value) (read : Slice → Except VpackException Value)
    (result : HttpMessage) : Except Fault Value :=
  if result.statusCode = statusOK then do
    let slice ← result.front env
    ofVpack (read slice)
  else .ok nothing

/-- The loop over the items of a list that inserts the name of each. -/
def insertNames (name : Slice → Except VpackException Bytes) (list : Slice) :
    Except VpackException StringSet := do
  let numb ← list.length
  (List.range numb).foldlM (fun names ii => do
    let item ← list.itemAt ii
    let found ← name item
    return names.insert found) ∅

variable {env}

/-- A fault that is an exception, and can be caught. -/
def Fault.Thrown : Fault → Prop
  | .arango _ | .velocypack _ => True
  | .emptyFront | .endless => False

theorem Fault.not_thrown_iff {fault : Fault} :
    ¬ fault.Thrown ↔ fault = .emptyFront ∨ fault = .endless := by
  cases fault <;> simp [Thrown]

/-- Reading a value succeeds or throws an exception of the library. -/
theorem ofVpack_cases {Value : Type} (read : Except VpackException Value) :
    (∃ value, ofVpack read = .ok value) ∨
      ∃ exception, ofVpack read = .error (.velocypack exception) := by
  cases read with
  | error exception => exact Or.inr ⟨exception, rfl⟩
  | ok value => exact Or.inl ⟨value, rfl⟩

theorem ofVpack_thrown {Value : Type} {read : Except VpackException Value} {fault : Fault}
    (fails : ofVpack read = .error fault) : fault.Thrown := by
  rcases ofVpack_cases read with ⟨value, same⟩ | ⟨exception, same⟩
  · rw [same] at fails
    cases fails
  · rw [same] at fails
    cases fails
    trivial

/-- `ARANGO_ERROR_THROW` always throws. -/
theorem arangoErrorThrow_error {Value : Type} (slices : List Bytes) (message : Bytes) :
    ∃ fault, (arangoErrorThrow env slices message : Except Fault Value) = .error fault ∧
      fault.Thrown := by
  cases slices with
  | nil => exact ⟨_, rfl, trivial⟩
  | cons start rest =>
    simp only [arangoErrorThrow]
    split
    · rcases ofVpack_cases ((env.vpack.sliceAt start).hasKey "error") with
        ⟨keyed, same⟩ | ⟨exception, same⟩ <;> rw [same]
      · cases keyed with
        | false => exact ⟨_, rfl, trivial⟩
        | true =>
          rcases ofVpack_cases ((env.vpack.sliceAt start).get "error" >>= Slice.getBool) with
            ⟨error, same⟩ | ⟨exception, same⟩ <;> simp only [ok_bind, if_true, same]
          · cases error with
            | false => exact ⟨_, rfl, trivial⟩
            | true =>
              rcases ofVpack_cases ((env.vpack.sliceAt start).get "errorNum" >>= Slice.getInt) with
                ⟨number, same⟩ | ⟨exception, same⟩ <;> simp only [ok_bind, if_true, same]
              · rcases ofVpack_cases ((env.vpack.sliceAt start).get "errorMessage" >>=
                  Slice.copyString) with ⟨lastError, same⟩ | ⟨exception, same⟩ <;> rw [same]
                · exact ⟨_, rfl, trivial⟩
                · exact ⟨_, rfl, trivial⟩
              · exact ⟨_, rfl, trivial⟩
          · exact ⟨_, rfl, trivial⟩
      · exact ⟨_, rfl, trivial⟩
    · exact ⟨_, rfl, trivial⟩

/-- Reporting an error never succeeds. -/
theorem errorThrow_error {Value : Type} (message : HttpMessage) (text : Bytes) :
    ∃ fault, (message.errorThrow env text : Except Fault Value) = .error fault := by
  unfold HttpMessage.errorThrow
  cases (message.slices env).1 with
  | error fault => exact ⟨fault, rfl⟩
  | ok slices =>
    obtain ⟨fault, raised, _⟩ := @arangoErrorThrow_error env Value slices text
    exact ⟨fault, raised⟩

theorem demand_eq_ok_iff {refused : StatusCode → Bool} {text : Bytes} {result : HttpMessage} :
    demand env refused text result = .ok () ↔ refused result.statusCode = false := by
  unfold demand
  split
  · rename_i refuses
    obtain ⟨fault, raised⟩ := @errorThrow_error env Unit result text
    rw [raised, refuses]
    exact iff_of_false (fun same => by cases same) (fun same => by cases same)
  · rename_i accepts
    exact iff_of_true rfl (Bool.not_eq_true _ ▸ accepts)

variable (env)

/-! ### Writing documents -/

/-- A handler of VelocyPack exceptions, which throws an exception of the client instead. -/
def catchVelocypack {Value : Type} (title : Bytes) (id : Int) (program : Api Value) : Api Value :=
  program.rescue fun
    | .velocypack exception =>
      .ofExcept (arangoThrow title id ("Velocypack error: " ++ env.vpack.what exception))
    | fault => .raise fault

/-- A request with a query, whose response is read. -/
def exchangeQuery {Value : Type} (verb : RestVerb) (path : Bytes) (query : Slice)
    (read : HttpMessage → Except Fault Value) : Api Value := do
  let request ← .ofExcept ((createREQUEST env verb path).addVPack env (env.vpack.build query))
  .exchange request read

/-- What the operations that write a document or a record have in common. The response gives the
identifier of what was written. -/
def writeDocument (title : Bytes) (id : Int) (verb : RestVerb) (path jsonrec errorText : Bytes)
    (identifier : Slice → Except VpackException Bytes) : Api Bytes :=
  catchVelocypack env title id do
    let data ← .ofExcept (ofVpack (env.vpack.fromJson parseOptions jsonrec))
    let request ← .ofExcept ((createREQUEST env verb path).addVPack env (env.vpack.build data))
    .exchange request.eraseAccept (takeValue env badRequest errorText identifier)

variable {env}

theorem exchangeQuery_eq {Value : Type} (verb : RestVerb) (path : Bytes) (query : Slice)
    (read : HttpMessage → Except Fault Value) :
    exchangeQuery env verb path query read =
      .exchange (createREQUESTWith env verb path query) read := by
  unfold exchangeQuery
  rw [addVPack_createREQUEST]
  rfl

theorem writeDocument_eq (title : Bytes) (id : Int) (verb : RestVerb)
    (path jsonrec errorText : Bytes) (identifier : Slice → Except VpackException Bytes) :
    writeDocument env title id verb path jsonrec errorText identifier =
      catchVelocypack env title id (.bind
        (.ofExcept (ofVpack (env.vpack.fromJson parseOptions jsonrec))) fun data =>
          .exchange (createREQUESTWith env verb path data).eraseAccept
            (takeValue env badRequest errorText identifier)) := by
  unfold writeDocument
  simp only [addVPack_createREQUEST, Dialogue.bind_eq, Dialogue.ofExcept_ok, Dialogue.done_bind]

theorem asks_catchVelocypack {Value : Type} {property : HttpMessage → Prop} {program : Api Value}
    (asks : program.Asks property) (title : Bytes) (id : Int) :
    (catchVelocypack env title id program).Asks property := by
  refine asks.rescue fun fault => ?_
  cases fault <;> trivial

theorem asks_writeDocument {property : HttpMessage → Prop} (title : Bytes) (id : Int)
    (verb : RestVerb) (path jsonrec errorText : Bytes)
    (identifier : Slice → Except VpackException Bytes)
    (asked : ∀ data, env.vpack.fromJson parseOptions jsonrec = .ok data →
      property (createREQUESTWith env verb path data).eraseAccept) :
    (writeDocument env title id verb path jsonrec errorText identifier).Asks property := by
  rw [writeDocument_eq]
  refine asks_catchVelocypack (Dialogue.asks_ofExcept_bind fun data parsed => ?_) _ _
  exact Dialogue.asks_exchange (asked data (ofVpack_eq_ok_iff.mp parsed)) _

/-! ### Orderly programs -/

/-- A program is orderly when the messages that it gives to `sendREQUEST` are issued ones, and
when it fails once `sendREQUEST` has failed. -/
structure Orderly (env : Env) {Value : Type} (program : Api Value) : Prop where
  asks : program.Asks (HttpMessage.Issued env)
  strict : program.Strict

section

variable {Value Result : Type}

theorem orderly_done (value : Value) : Orderly env (.done value) := ⟨trivial, trivial⟩

theorem orderly_ofExcept (result : Except Fault Value) : Orderly env (.ofExcept result) :=
  ⟨Dialogue.asks_ofExcept _, Dialogue.strict_ofExcept _⟩

theorem Orderly.bind {program : Api Value} {continuation : Value → Api Result}
    (first : Orderly env program) (second : ∀ value, Orderly env (continuation value)) :
    Orderly env (program.bind continuation) :=
  ⟨first.asks.bind fun value => (second value).asks,
    first.strict.bind fun value => (second value).strict⟩

/-- A program that goes on with what it has made. -/
theorem orderly_ofExcept_bind {made : Except Fault Value} {continuation : Value → Api Result}
    (each : ∀ value, made = .ok value → Orderly env (continuation value)) :
    Orderly env (Dialogue.bind (.ofExcept made) continuation) := by
  cases made with
  | error fault => exact ⟨trivial, trivial⟩
  | ok value => exact each value rfl

/-- A program that goes on one of two ways after a question. -/
theorem Orderly.branch {program : Api Value} {taken : Value → Bool} {yes no : Api Result}
    (first : Orderly env program) (onYes : Orderly env yes) (onNo : Orderly env no) :
    Orderly env (program.bind fun value => if taken value = true then yes else no) := by
  refine first.bind fun value => ?_
  by_cases decided : taken value = true
  · rw [if_pos decided]
    exact onYes
  · rw [if_neg decided]
    exact onNo

theorem orderly_iterate {State : Type} {body : State → Api (State ⊕ Value)}
    (each : ∀ state, Orderly env (body state)) (turns : Nat) (state : State) :
    Orderly env (Dialogue.iterate body turns state) :=
  ⟨.iterate (fun state => (each state).asks) turns state,
    .iterate (fun state => (each state).strict) turns state⟩

theorem orderly_exchange {request : HttpMessage} (issued : request.Issued env)
    (read : HttpMessage → Except Fault Value) : Orderly env (.exchange request read) :=
  ⟨Dialogue.asks_exchange issued read, Dialogue.strict_exchange request read⟩

theorem orderly_get (path : Bytes) (read : HttpMessage → Except Fault Value) :
    Orderly env (.exchange (createREQUEST env .get path) read) :=
  orderly_exchange (issued_createREQUEST path (by simp)) read

theorem orderly_delete (path : Bytes) (read : HttpMessage → Except Fault Value) :
    Orderly env (.exchange (createREQUEST env .delete path) read) :=
  orderly_exchange (issued_createREQUEST path (by simp)) read

theorem orderly_exchangeQuery (lawful : env.vpack.Lawful) {verb : RestVerb} (path : Bytes)
    {query : Slice} (represented : query.Represented) (read : HttpMessage → Except Fault Value)
    (loaded : verb = .post ∨ verb = .put ∨ verb = .patch) :
    Orderly env (exchangeQuery env verb path query read) := by
  rw [exchangeQuery_eq]
  exact orderly_exchange (issued_createREQUESTWith lawful path represented loaded) read

theorem Orderly.catchVelocypack {program : Api Value} (orderly : Orderly env program)
    (title : Bytes) (id : Int) : Orderly env (catchVelocypack env title id program) where
  asks := asks_catchVelocypack orderly.asks title id
  strict := by
    refine orderly.strict.rescue fun fault => ?_
    cases fault <;> exact ⟨_, rfl⟩

theorem orderly_writeDocument (lawful : env.vpack.Lawful) {verb : RestVerb}
    (title : Bytes) (id : Int) (path jsonrec errorText : Bytes)
    (identifier : Slice → Except VpackException Bytes) (loaded : verb = .post ∨ verb = .put) :
    Orderly env (writeDocument env title id verb path jsonrec errorText identifier) := by
  rw [writeDocument_eq]
  refine Orderly.catchVelocypack (orderly_ofExcept_bind fun data parsed => ?_) title id
  have represented := lawful.represented _ _ data (ofVpack_eq_ok_iff.mp parsed)
  exact orderly_exchange
    (issued_createREQUESTWith lawful path represented (loaded.imp_right Or.inl)).eraseAccept _

end

end ArangoCpp
