/-
This file translates the messages that go to the server and come back: the header with its
meta entries, the payload buffer with the length that is kept beside it, and `slices`, the
loop that cuts a payload into values.

The loop moves its cursor by the length that each value declares about itself. Where that
length is zero the cursor stays where it is and the loop never ends; the translation runs
out of fuel there and says `endless`. Taking `front` of no slices is what the language
leaves undefined; it is the fault `emptyFront`, which no handler of the client catches.
-/

import ArangoCpp.Velocypack
import Std.Data.TreeMap

namespace ArangoCpp

/-! ### Faults -/

/-- `arango_exception`. -/
structure ArangoException where
  title : Bytes
  id : Int
  message : Bytes
  deriving DecidableEq, Repr

/-- The ways in which an operation stops without returning. -/
inductive Fault : Type where
  | arango (exception : ArangoException)
  | velocypack (exception : VpackException)
  /-- `front()` of an empty vector: undefined behaviour. -/
  | emptyFront
  /-- A loop that makes no progress. -/
  | endless
  deriving DecidableEq, Repr

/-- `ARANGO_THROW`. -/
def arangoThrow {Value : Type} (title : Bytes) (id : Int) (message : Bytes) :
    Except Fault Value :=
  .error (.arango ⟨title, id, message⟩)

/-- An exception of the VelocyPack library leaves the expression that reads the value. -/
def ofVpack {Value : Type} : Except VpackException Value → Except Fault Value
  | .ok value => .ok value
  | .error exception => .error (.velocypack exception)

@[simp] theorem ofVpack_ok {Value : Type} (value : Value) : ofVpack (.ok value) = .ok value := rfl

@[simp] theorem ofVpack_error {Value : Type} (exception : VpackException) :
    (ofVpack (.error exception) : Except Fault Value) = .error (.velocypack exception) := rfl

theorem ofVpack_eq_ok_iff {Value : Type} {read : Except VpackException Value} {value : Value} :
    ofVpack read = .ok value ↔ read = .ok value := by
  cases read with
  | error exception => exact iff_of_false (fun same => by cases same) fun same => by cases same
  | ok read => simp only [ofVpack, Except.ok.injEq]

theorem bind_eq_ok_iff {Error Value Result : Type} {first : Except Error Value}
    {next : Value → Except Error Result} {result : Result} :
    (first >>= next) = .ok result ↔ ∃ value, first = .ok value ∧ next value = .ok result := by
  cases first with
  | error error =>
    refine iff_of_false (fun same => by cases same) ?_
    rintro ⟨value, same, _⟩
    cases same
  | ok value =>
    constructor
    · intro same
      exact ⟨value, rfl, same⟩
    · rintro ⟨_, same, final⟩
      cases same
      exact final

@[simp] theorem ok_bind {Error Value Result : Type} (value : Value)
    (next : Value → Except Error Result) : (Except.ok value >>= next) = next value := rfl

@[simp] theorem error_bind {Error Value Result : Type} (error : Error)
    (next : Value → Except Error Result) : (Except.error error >>= next) = .error error := rfl

/-! ### The settings of the process -/

/-- The process-wide settings, and the VelocyPack library the process is linked with. `debug`
is whether the logger writes debug lines, which makes the client print its messages. -/
structure Env where
  vpack : Velocypack
  useVelocypackPut : Bool
  useVelocypackGet : Bool
  fullListOfEdges : List Bytes
  debug : Bool

/-- The options `dump_options` as every API constructor sets them. -/
def dumpOptions : VpackOptions := ⟨false, true⟩

/-- The options `parse_options` as every API constructor sets them. -/
def parseOptions : VpackOptions := ⟨true, false⟩

/-! ### Headers -/

abbrev StringMap := Std.TreeMap Bytes Bytes

inductive RestVerb : Type where
  | illegal | delete | get | post | put | head | patch | options
  deriving DecidableEq, Repr

inductive MessageType : Type where
  | undefined | request | response
  deriving DecidableEq, Repr

def fuContentTypeKey : Bytes := "content-type"
def fuAcceptKey : Bytes := "accept"
def fuContentTypeVpack : Bytes := "application/x-velocypack"
def fuContentTypeJson : Bytes := "application/json"

abbrev StatusCode := Nat

def statusOK : StatusCode := 200
def statusCreated : StatusCode := 201
def statusAccepted : StatusCode := 202
def statusBadRequest : StatusCode := 400
def statusNotFound : StatusCode := 404

structure MessageHeader where
  version : Int
  type : MessageType
  responseCode : StatusCode
  restVerb : RestVerb
  path : Bytes
  parameters : StringMap
  «meta» : StringMap

namespace MessageHeader

/-- The value-initialised header; the verb of value zero is `Delete`. -/
def empty : MessageHeader := ⟨0, .undefined, 0, .delete, [], ∅, ∅⟩

def addMeta (key value : Bytes) (header : MessageHeader) : MessageHeader :=
  { header with «meta» := header.meta.insert key value }

def eraseMeta (key : Bytes) (header : MessageHeader) : MessageHeader :=
  { header with «meta» := header.meta.erase key }

/-- `metaByKey`: the empty string when there is no such entry. -/
def metaByKey (key : Bytes) (header : MessageHeader) : Bytes := (header.meta[key]?).getD []

def contentTypeString (header : MessageHeader) : Bytes := header.metaByKey fuContentTypeKey

theorem meta_addMeta (added value key : Bytes) (header : MessageHeader) :
    (header.addMeta added value).meta[key]? =
      if added = key then some value else header.meta[key]? := by
  simp only [addMeta, Std.TreeMap.getElem?_insert, Std.LawfulEqCmp.compare_eq_iff_eq]

end MessageHeader

/-! ### Buffers -/

/-- A VelocyPack buffer: the bytes it holds and the reserved memory behind them. -/
structure Buffer where
  bytes : Bytes
  spare : Bytes

namespace Buffer

variable (env : Env)

def empty : Buffer := ⟨[], env.vpack.spare []⟩

/-- `append`, which reserves new memory when the reserved memory does not suffice. -/
def append (added : Bytes) (buffer : Buffer) : Buffer :=
  ⟨buffer.bytes ++ added,
    if added.length ≤ buffer.spare.length then buffer.spare.drop added.length
    else env.vpack.spare (buffer.bytes ++ added)⟩

/-- `resetTo`: the length is set to any value within the reserved memory. -/
def resetTo (length : Nat) (buffer : Buffer) : Except Fault Buffer :=
  let memory := buffer.bytes ++ buffer.spare
  if length ≤ memory.length then .ok ⟨memory.take length, memory.drop length⟩
  else .error (.velocypack .indexOutOfBounds)

end Buffer

/-! ### Messages -/

structure HttpMessage where
  header : MessageHeader
  payload : Buffer
  payloadLength : Nat
  /-- `_slices`: where the values found by an earlier call of `slices` begin. -/
  sliceStarts : List Bytes

namespace HttpMessage

variable (env : Env)

/-- `setContentType`: every message starts as a VelocyPack message. -/
def setContentType (message : HttpMessage) : HttpMessage :=
  let header := message.header.addMeta fuContentTypeKey fuContentTypeVpack
  if env.useVelocypackGet then
    { message with header := header.addMeta fuAcceptKey fuContentTypeVpack }
  else { message with header }

/-- The constructor, given an empty header. -/
def new : HttpMessage := setContentType env ⟨MessageHeader.empty, Buffer.empty env, 0, []⟩

def isContentTypeVPack (message : HttpMessage) : Bool :=
  message.header.contentTypeString = fuContentTypeVpack || message.payloadLength != 0

def isContentTypeJson (message : HttpMessage) : Bool :=
  message.header.contentTypeString = fuContentTypeJson

def payloadSize (message : HttpMessage) : Nat := message.payloadLength

def payloadData (message : HttpMessage) : Bytes := message.payload.bytes

def statusCode (message : HttpMessage) : StatusCode := message.header.responseCode

/-- `addVPack` of a buffer: the buffer replaces the payload. -/
def addVPackBuffer (buffer : Buffer) (message : HttpMessage) : Except Fault HttpMessage := do
  let payloadLength := message.payloadLength + buffer.bytes.length
  let payload ← buffer.resetTo payloadLength
  return { message with payload, payloadLength, sliceStarts := [] }

/-- `addVPack` of a slice, given by its bytes: a builder over the payload appends them. -/
def addVPack (slice : Bytes) (message : HttpMessage) : Except Fault HttpMessage := do
  let payloadLength := message.payloadLength + slice.length
  let payload ← (message.payload.append env slice).resetTo payloadLength
  return { message with payload, payloadLength, sliceStarts := [] }

/-- The loop of `slices`: the values found so far, and how the loop ends. A value is recorded
before its length is asked for and before it is compared with what is left. -/
def slicesLoop : Nat → Bytes → List Bytes → List Bytes × Except Fault Unit
  | 0, _, found => (found, .error .endless)
  | fuel + 1, cursor, found =>
    if cursor = [] then (found, .ok ())
    else
      let found := found ++ [cursor]
      match env.vpack.byteSize cursor with
      | .error exception => (found, .error (.velocypack exception))
      | .ok sliceSize =>
        if cursor.length < sliceSize then
          (found, arangoThrow "HttpMessage" 1 "Invalid buffer")
        else slicesLoop fuel (cursor.drop sliceSize) found

/-- `slices`: the values of the payload, and the message with the values recorded. A loop that
moves at every turn needs no more turns than the payload has bytes. -/
def slices (message : HttpMessage) : Except Fault (List Bytes) × HttpMessage :=
  if message.sliceStarts = [] then
    let length := message.payload.bytes.length
    let (found, ended) := slicesLoop env (length + 1) message.payload.bytes []
    (ended.map fun _ => found, { message with sliceStarts := found })
  else (.ok message.sliceStarts, message)

/-- `slices().front()`. -/
def front (message : HttpMessage) : Except Fault Slice :=
  match (message.slices env).1 with
  | .error fault => .error fault
  | .ok [] => .error .emptyFront
  | .ok (start :: _) => .ok (env.vpack.sliceAt start)

/-- `payloadAsString`. Without the VelocyPack content type the payload is read as a C string. -/
def payloadAsString (message : HttpMessage) : Except Fault Bytes :=
  if message.payloadSize = 0 then .ok []
  else if message.isContentTypeVPack then do
    let slice ← message.front env
    ofVpack (env.vpack.toJson dumpOptions slice)
  else .ok (message.payloadData.takeWhile (· ≠ 0))

/-- `createRequest` of a verb, a path and query parameters. -/
def createRequest (verb : RestVerb) (path : Bytes) (parameters : StringMap) : HttpMessage :=
  let message := new env
  { message with header := { message.header with
      restVerb := verb, type := .request, path, parameters } }

/-- `createResponse`. -/
def createResponse : HttpMessage :=
  let message := new env
  { message with header := { message.header with type := .response } }

end HttpMessage

namespace HttpMessage

variable {env : Env}

/-! ### The entries of a new response -/

/-- A new response has no entries but the types of its bodies. -/
theorem createResponse_meta (key : Bytes) :
    (createResponse env).header.meta[key]? =
      if key = fuContentTypeKey ∨ env.useVelocypackGet = true ∧ key = fuAcceptKey then
        some fuContentTypeVpack
      else none := by
  have bare : MessageHeader.empty.meta[key]? = none := Std.TreeMap.getElem?_emptyc
  unfold createResponse new setContentType
  dsimp only
  by_cases accepts : env.useVelocypackGet = true
  · rw [if_pos accepts, MessageHeader.meta_addMeta, MessageHeader.meta_addMeta, bare]
    by_cases isContentType : fuContentTypeKey = key
    · simp [isContentType]
    · by_cases isAccept : fuAcceptKey = key
      · simp [isAccept, accepts]
      · simp [isContentType, isAccept, Ne.symm isContentType, Ne.symm isAccept]
  · rw [if_neg accepts, MessageHeader.meta_addMeta, bare]
    simp [accepts, eq_comm]

theorem createResponse_contentType :
    (createResponse env).header.meta[fuContentTypeKey]? = some fuContentTypeVpack :=
  (createResponse_meta fuContentTypeKey).trans (if_pos (Or.inl rfl))

/-! ### Messages that hold one value -/

theorem mem_append_resetTo (buffer : Buffer) (added : Bytes) :
    (buffer.append env added).resetTo (buffer.bytes.length + added.length) =
      .ok (buffer.append env added) := by
  simp only [Buffer.resetTo, Buffer.append, List.length_append]
  rw [if_pos (by omega), List.take_left' (List.length_append), List.drop_left' (List.length_append)]

/-- A message whose payload is read as one value, as long as the payload. -/
structure Reads (env : Env) (message : HttpMessage) (value : Slice) : Prop where
  nonempty : message.payload.bytes ≠ []
  complete : env.vpack.byteSize message.payload.bytes = .ok message.payload.bytes.length
  value : env.vpack.sliceAt message.payload.bytes = value
  length : message.payloadLength = message.payload.bytes.length
  starts : message.sliceStarts = []

/-- A message whose payload is the bytes that are built for a value. -/
structure Holds (env : Env) (message : HttpMessage) (value : Slice) : Prop where
  represented : value.Represented
  bytes : message.payload.bytes = env.vpack.build value
  length : message.payloadLength = (env.vpack.build value).length
  starts : message.sliceStarts = []

theorem Holds.reads (lawful : env.vpack.Lawful) {message : HttpMessage} {value : Slice}
    (holds : message.Holds env value) : message.Reads env value where
  nonempty := holds.bytes ▸ lawful.build_ne_nil value holds.represented
  complete := by
    have size := lawful.byteSize_build value holds.represented []
    rw [List.append_nil] at size
    rw [holds.bytes, size]
  value := by
    have read := lawful.sliceAt_build value holds.represented []
    rw [List.append_nil] at read
    rw [holds.bytes, read]
  length := by rw [holds.length, holds.bytes]
  starts := holds.starts

/-- The loop of `slices` over the bytes of one value finds that value. -/
theorem slicesLoop_complete {bytes : Bytes} (nonempty : bytes ≠ [])
    (complete : env.vpack.byteSize bytes = .ok bytes.length) (fuel : Nat) (found : List Bytes) :
    slicesLoop env (fuel + 2) bytes found = (found ++ [bytes], .ok ()) := by
  rw [slicesLoop, if_neg nonempty]
  simp only [complete, lt_irrefl, if_false, List.drop_length]
  rw [slicesLoop, if_pos rfl]

theorem Reads.slices {message : HttpMessage} {value : Slice} (reads : message.Reads env value) :
    (message.slices env).1 = .ok [message.payload.bytes] := by
  have positive : 0 < message.payload.bytes.length := List.length_pos_iff.mpr reads.nonempty
  obtain ⟨fuel, length⟩ := Nat.exists_eq_add_of_lt positive
  rw [HttpMessage.slices, if_pos reads.starts]
  dsimp only
  rw [show message.payload.bytes.length + 1 = fuel + 2 by omega,
    slicesLoop_complete reads.nonempty reads.complete]
  rfl

theorem Reads.front {message : HttpMessage} {value : Slice} (reads : message.Reads env value) :
    message.front env = .ok value := by
  simp only [HttpMessage.front, reads.slices, reads.value]

theorem Reads.payloadSize_ne_zero {message : HttpMessage} {value : Slice}
    (reads : message.Reads env value) : message.payloadSize ≠ 0 := by
  rw [HttpMessage.payloadSize, reads.length]
  exact fun none => reads.nonempty (List.eq_nil_of_length_eq_zero none)

end HttpMessage

/-- The body of `ARANGO_ERROR_THROW`, given the slices of a reply: the server's own error number
and message go into the exception when the reply says that there is an error. -/
def arangoErrorThrow {Value : Type} (env : Env) (slices : List Bytes) (message : Bytes) :
    Except Fault Value := do
  match slices with
  | [] => arangoThrow "ArangoDB" 0 message
  | start :: _ =>
    let slice := env.vpack.sliceAt start
    if slice.isObject then
      if ← ofVpack (slice.hasKey "error") then
        if ← ofVpack (slice.get "error" >>= Slice.getBool) then
          let arangoError ← ofVpack (slice.get "errorNum" >>= Slice.getInt)
          let lastError ← ofVpack (slice.get "errorMessage" >>= Slice.copyString)
          arangoThrow "ArangoDB" (toInt32 arangoError) (message ++ lastError)
    arangoThrow "ArangoDB" 0 message

end ArangoCpp
