/-
This file says when an operation gets to a point where the language does not define what
happens next.

There are two such points: taking the front of no values, and the walk over the values of a
payload, which does not move on from a value that declares no length. Neither is guarded
against. A reply without a body is accepted under any status and is taken for VelocyPack, so
that an operation that takes a value from it before looking at the status takes the front of
nothing; and a payload whose walk gets stuck is accepted unless it is to be shown in the debug
log, in which case the walk gets stuck there.
-/

import ArangoCpp.Operation

namespace ArangoCpp

variable {env : Env}

/-! ### The walk over the values of a payload -/

/-- The walk over the values gets stuck at one that declares no length. -/
inductive Stalls (env : Env) : Bytes → Prop where
  | here {bytes : Bytes} (nonempty : bytes ≠ []) (still : env.vpack.byteSize bytes = .ok 0) :
      Stalls env bytes
  | later {bytes : Bytes} {size : Nat} (nonempty : bytes ≠ [])
      (declared : env.vpack.byteSize bytes = .ok size) (moves : 0 < size)
      (fits : size ≤ bytes.length) (stalls : Stalls env (bytes.drop size)) : Stalls env bytes

theorem Stalls.nonempty {bytes : Bytes} (stalls : Stalls env bytes) : bytes ≠ [] := by
  cases stalls with
  | here nonempty _ => exact nonempty
  | later nonempty _ _ _ _ => exact nonempty

/-- The bytes that are built for a value do not stall the walk. -/
theorem not_stalls_build (lawful : env.vpack.Lawful) {value : Slice}
    (represented : value.Represented) : ¬ Stalls env (env.vpack.build value) := by
  have size := lawful.byteSize_build value represented []
  rw [List.append_nil] at size
  intro stalls
  cases stalls with
  | here nonempty still =>
    rw [size] at still
    injection still with none
    exact nonempty (List.eq_nil_of_length_eq_zero none)
  | later _ declared _ _ stalls =>
    rw [size] at declared
    injection declared with same
    rw [← same, List.drop_length] at stalls
    exact stalls.nonempty rfl

/-- How the walk over the values of a payload ends. -/
inductive Walk (env : Env) : Bytes → Except Fault Unit → Prop where
  | done : Walk env [] (.ok ())
  | unread {bytes : Bytes} {exception : VpackException} (nonempty : bytes ≠ [])
      (unread : env.vpack.byteSize bytes = .error exception) :
      Walk env bytes (.error (.velocypack exception))
  | short {bytes : Bytes} {size : Nat} (nonempty : bytes ≠ [])
      (declared : env.vpack.byteSize bytes = .ok size) (short : bytes.length < size) :
      Walk env bytes (arangoThrow "HttpMessage" 1 "Invalid buffer")
  | still {bytes : Bytes} (nonempty : bytes ≠ []) (still : env.vpack.byteSize bytes = .ok 0) :
      Walk env bytes (.error .endless)
  | step {bytes : Bytes} {size : Nat} {ended : Except Fault Unit} (nonempty : bytes ≠ [])
      (declared : env.vpack.byteSize bytes = .ok size) (moves : 0 < size)
      (fits : size ≤ bytes.length) (walk : Walk env (bytes.drop size) ended) : Walk env bytes ended

/-- The walk ends without an exception exactly when it gets stuck. -/
theorem Walk.stalls_iff {bytes : Bytes} {ended : Except Fault Unit} (walk : Walk env bytes ended) :
    (∃ fault, ended = .error fault ∧ ¬ fault.Thrown) ↔ Stalls env bytes := by
  induction walk with
  | done =>
    refine iff_of_false ?_ fun stalls => stalls.nonempty rfl
    rintro ⟨fault, same, _⟩
    cases same
  | unread _ unread =>
    refine iff_of_false ?_ fun stalls => ?_
    · rintro ⟨fault, same, bad⟩
      cases same
      exact bad trivial
    · cases stalls with
      | here _ still => cases unread.symm.trans still
      | later _ sized _ _ _ => cases unread.symm.trans sized
  | short _ declared short =>
    refine iff_of_false ?_ fun stalls => ?_
    · rintro ⟨fault, same, bad⟩
      cases same
      exact bad trivial
    · cases stalls with
      | here _ still =>
        cases declared.symm.trans still
        exact absurd short (Nat.not_lt_zero _)
      | later _ sized _ fits _ =>
        cases declared.symm.trans sized
        exact absurd short (Nat.not_lt.mpr fits)
  | still nonempty still => exact iff_of_true ⟨_, rfl, id⟩ (.here nonempty still)
  | step nonempty declared moves fits _ inductionHypothesis =>
    rw [inductionHypothesis]
    constructor
    · exact .later nonempty declared moves fits
    · intro stalls
      cases stalls with
      | here _ still =>
        cases declared.symm.trans still
        exact absurd moves (Nat.not_lt_zero _)
      | later _ sized _ _ stalls =>
        cases declared.symm.trans sized
        exact stalls

namespace HttpMessage

theorem slicesLoop_still {bytes : Bytes} (nonempty : bytes ≠ [])
    (still : env.vpack.byteSize bytes = .ok 0) (fuel : Nat) (found : List Bytes) :
    (slicesLoop env fuel bytes found).2 = .error .endless := by
  induction fuel generalizing found with
  | zero => rfl
  | succ fuel inductionHypothesis =>
    rw [slicesLoop, if_neg nonempty]
    simp only [still, Nat.not_lt_zero, if_false, List.drop_zero]
    exact inductionHypothesis _

/-- With a turn for every byte the loop of `slices` ends as the walk does. -/
theorem slicesLoop_walk {fuel : Nat} {cursor : Bytes} (enough : cursor.length < fuel)
    (found : List Bytes) : Walk env cursor (slicesLoop env fuel cursor found).2 := by
  induction fuel generalizing cursor found with
  | zero => exact absurd enough (Nat.not_lt_zero _)
  | succ fuel inductionHypothesis =>
    rw [slicesLoop]
    by_cases none : cursor = []
    · rw [if_pos none, none]
      exact .done
    · rw [if_neg none]
      dsimp only
      cases declared : env.vpack.byteSize cursor with
      | error exception => exact .unread none declared
      | ok size =>
        dsimp only
        by_cases short : cursor.length < size
        · rw [if_pos short]
          exact .short none declared short
        · rw [if_neg short]
          cases Nat.eq_zero_or_pos size with
          | inl still =>
            subst still
            rw [List.drop_zero, slicesLoop_still none declared]
            exact .still none declared
          | inr moves =>
            have less : (cursor.drop size).length < fuel := by
              rw [List.length_drop]
              omega
            exact .step none declared moves (Nat.not_lt.mp short) (inductionHypothesis less _)

/-- What has been found is kept. -/
theorem slicesLoop_prefix (fuel : Nat) (cursor : Bytes) (found : List Bytes) :
    found <+: (slicesLoop env fuel cursor found).1 := by
  induction fuel generalizing cursor found with
  | zero => exact List.prefix_rfl
  | succ fuel inductionHypothesis =>
    rw [slicesLoop]
    split
    · exact List.prefix_rfl
    · dsimp only
      split
      · exact List.prefix_append _ _
      · split
        · exact List.prefix_append _ _
        · exact (List.prefix_append _ _).trans (inductionHypothesis _ _)

/-- The values of a payload are found unless the walk gets stuck. -/
theorem slices_stalls_iff {message : HttpMessage} (starts : message.sliceStarts = []) :
    (∃ fault, (message.slices env).1 = .error fault ∧ ¬ fault.Thrown) ↔
      Stalls env message.payload.bytes := by
  have walk := @slicesLoop_walk env _ _ (Nat.lt_succ_self message.payload.bytes.length) []
  rw [← walk.stalls_iff, HttpMessage.slices, if_pos starts]
  dsimp only
  cases (slicesLoop env (message.payload.bytes.length + 1) message.payload.bytes []).2 with
  | error fault => simp [Except.map]
  | ok ended => simp [Except.map]

/-- What is found first is the value at the front. -/
theorem slicesLoop_first {bytes : Bytes} (nonempty : bytes ≠ []) (fuel : Nat) :
    [bytes] <+: (slicesLoop env (fuel + 1) bytes []).1 := by
  rw [slicesLoop, if_neg nonempty, List.nil_append]
  dsimp only
  split
  · exact List.prefix_rfl
  · split
    · exact List.prefix_rfl
    · exact slicesLoop_prefix _ _ _

/-- A payload that is not empty has a first value. -/
theorem slices_ne_nil {message : HttpMessage} (starts : message.sliceStarts = [])
    (nonempty : message.payload.bytes ≠ []) {found : List Bytes}
    (sliced : (message.slices env).1 = .ok found) : found ≠ [] := by
  rw [HttpMessage.slices, if_pos starts] at sliced
  dsimp only at sliced
  have first := @slicesLoop_first env _ nonempty message.payload.bytes.length
  cases ended : (slicesLoop env (message.payload.bytes.length + 1) message.payload.bytes []).2 with
  | error fault =>
    rw [ended] at sliced
    cases sliced
  | ok _ =>
    rw [ended] at sliced
    cases sliced
    intro none
    have absent : (slicesLoop env (message.payload.bytes.length + 1)
      message.payload.bytes []).1 = [] := none
    rw [absent] at first
    exact List.cons_ne_nil _ _ (List.prefix_nil.mp first)

/-- The first value is there unless there is none, or the walk gets stuck. -/
theorem front_undefined_iff {message : HttpMessage} (starts : message.sliceStarts = []) :
    (∃ fault, message.front env = .error fault ∧ ¬ fault.Thrown) ↔
      message.payload.bytes = [] ∨ Stalls env message.payload.bytes := by
  by_cases empty : message.payload.bytes = []
  · refine iff_of_true ⟨.emptyFront, ?_, id⟩ (Or.inl empty)
    rw [HttpMessage.front, HttpMessage.slices, if_pos starts, empty]
    rfl
  · rw [or_iff_right empty, ← slices_stalls_iff starts, HttpMessage.front]
    cases sliced : (message.slices env).1 with
    | error fault => simp
    | ok found =>
      cases found with
      | nil => exact absurd rfl (slices_ne_nil starts empty sliced)
      | cons start rest => simp

end HttpMessage

/-! ### Computations that can only throw -/

/-- A computation that fails with an exception, if it fails. -/
def Throws {Value : Type} (result : Except Fault Value) : Prop :=
  ∀ fault, result = .error fault → fault.Thrown

section

variable {Value Result : Type}

theorem throws_ok (value : Value) : Throws (.ok value) := by
  intro fault raised
  cases raised

theorem throws_ofVpack (read : Except VpackException Value) : Throws (ofVpack read) :=
  fun _ raised => ofVpack_thrown raised

theorem throws_arangoThrow (title : Bytes) (id : Int) (message : Bytes) :
    Throws (arangoThrow title id message : Except Fault Value) := by
  intro fault raised
  cases raised
  trivial

theorem Throws.bind {first : Except Fault Value} {next : Value → Except Fault Result}
    (throws : Throws first) (later : ∀ value, Throws (next value)) : Throws (first >>= next) := by
  cases first with
  | error fault =>
    intro other raised
    rw [error_bind] at raised
    cases raised
    exact throws fault rfl
  | ok value => exact later value

theorem throws_arangoErrorThrow (slices : List Bytes) (message : Bytes) :
    Throws (arangoErrorThrow env slices message : Except Fault Value) := by
  intro fault raised
  obtain ⟨other, same, thrown⟩ := @arangoErrorThrow_error env Value slices message
  rw [same] at raised
  cases raised
  exact thrown

end

/-! ### What is done with a response -/

/-- What an operation does with a response: it does not look into it, it reports the error in it,
or it takes a value from it. -/
inductive Use : Type where
  | ignored
  | reported
  | taken
  deriving DecidableEq, Repr

/-- The responses that are harmful to a use. -/
def Use.Harms (env : Env) (response : HttpMessage) : Use → Prop
  | ignored => False
  | reported => ∃ fault, (response.slices env).1 = .error fault ∧ ¬ fault.Thrown
  | taken => ∃ fault, response.front env = .error fault ∧ ¬ fault.Thrown

/-- A way to read a response uses it as told, depending on the status. -/
def UsedAs (env : Env) {Value : Type} (read : HttpMessage → Except Fault Value)
    (use : StatusCode → Use) : Prop :=
  ∀ response, (use response.statusCode).Harms env response ↔
    ∃ fault, read response = .error fault ∧ ¬ fault.Thrown

/-- The statuses that are refused are reported. -/
def reportedIf (refused : StatusCode → Bool) (status : StatusCode) : Use :=
  if refused status then .reported else .ignored

/-- The value is taken under some statuses. -/
def takenIf (read : StatusCode → Bool) (status : StatusCode) : Use :=
  if read status then .taken else .ignored

/-- A list is taken when the status is 200. -/
def listed : StatusCode → Use := takenIf (· == statusOK)

/-- A batch is taken unless the status is an error. -/
def batched : StatusCode → Use := takenIf fun status => !badRequest status

section

variable {Value : Type}

theorem errorThrow_undefined_iff (response : HttpMessage) (text : Bytes) :
    (∃ fault, (response.slices env).1 = .error fault ∧ ¬ fault.Thrown) ↔
      ∃ fault, (response.errorThrow env text : Except Fault Value) = .error fault ∧
        ¬ fault.Thrown := by
  rw [HttpMessage.errorThrow]
  cases (response.slices env).1 with
  | error fault => simp only [error_bind, Except.error.injEq]
  | ok slices =>
    refine iff_of_false ?_ ?_
    · rintro ⟨fault, same, _⟩
      cases same
    · rintro ⟨fault, raised, bad⟩
      exact bad (throws_arangoErrorThrow slices text fault raised)

theorem usedAs_ignored {read : HttpMessage → Except Fault Value}
    (throws : ∀ response, Throws (read response)) : UsedAs env read fun _ => .ignored := by
  intro response
  refine iff_of_false id ?_
  rintro ⟨fault, raised, bad⟩
  exact bad (throws response fault raised)

theorem usedAs_demand (refused : StatusCode → Bool) (text : Bytes) :
    UsedAs env (demand env refused text) (reportedIf refused) := by
  intro response
  unfold demand reportedIf
  split
  · exact errorThrow_undefined_iff response text
  · refine iff_of_false id ?_
    rintro ⟨fault, raised, _⟩
    cases raised

/-- A value that is taken, and then read in a way that can only throw. -/
theorem front_bind_undefined_iff {response : HttpMessage} {next : Slice → Except Fault Value}
    (throws : ∀ slice, response.front env = .ok slice → Throws (next slice)) :
    (∃ fault, response.front env = .error fault ∧ ¬ fault.Thrown) ↔
      ∃ fault, (response.front env >>= next) = .error fault ∧ ¬ fault.Thrown := by
  cases front : response.front env with
  | error fault => simp only [error_bind, Except.error.injEq]
  | ok slice =>
    refine iff_of_false ?_ ?_
    · rintro ⟨fault, same, _⟩
      cases same
    · rintro ⟨fault, raised, bad⟩
      exact bad (throws slice front fault raised)

/-- Once there is a first value, an error is reported by an exception. -/
theorem throws_errorThrow {response : HttpMessage} {slice : Slice}
    (front : response.front env = .ok slice) (text : Bytes) :
    Throws (response.errorThrow env text : Except Fault Value) := by
  rw [HttpMessage.front] at front
  rw [HttpMessage.errorThrow]
  cases sliced : (response.slices env).1 with
  | error other =>
    rw [sliced] at front
    cases front
  | ok slices => exact throws_arangoErrorThrow slices text

theorem usedAs_takeValue (refused : StatusCode → Bool) (text : Bytes)
    (read : Slice → Except VpackException Value) :
    UsedAs env (takeValue env refused text read) fun _ => .taken := by
  intro response
  refine front_bind_undefined_iff fun slice front => ?_
  split
  · exact throws_errorThrow front text
  · exact throws_ofVpack _

/-- A value that is taken under some statuses only. -/
theorem usedAs_takenIf {read : HttpMessage → Except Fault Value} {accepted : StatusCode → Bool}
    (next : Slice → Except Fault Value)
    (reads : ∀ response : HttpMessage, accepted response.statusCode = true →
      read response = response.front env >>= next)
    (ignores : ∀ response : HttpMessage, accepted response.statusCode = false →
      ∃ value, read response = .ok value)
    (throws : ∀ slice, Throws (next slice)) : UsedAs env read (takenIf accepted) := by
  intro response
  unfold takenIf
  by_cases accept : accepted response.statusCode = true
  · rw [if_pos accept, reads response accept]
    exact front_bind_undefined_iff fun slice _ => throws slice
  · rw [if_neg accept]
    obtain ⟨value, same⟩ := ignores response (Bool.eq_false_iff.mpr accept)
    refine iff_of_false id ?_
    rintro ⟨fault, raised, _⟩
    rw [same] at raised
    cases raised

theorem usedAs_listValue (nothing : Value) (read : Slice → Except VpackException Value) :
    UsedAs env (listValue env nothing read) listed := by
  refine usedAs_takenIf (fun slice => ofVpack (read slice)) (fun response accept => ?_)
    (fun response refuse => ?_) fun slice => throws_ofVpack _
  · exact if_pos (beq_iff_eq.mp accept)
  · exact ⟨nothing, if_neg fun same => by simp [same] at refuse⟩

end

/-! ### Programs that use responses -/

/-- The replies that are harmful, given how the response at every place is used. -/
def harms (env : Env) (uses : Nat → StatusCode → Use) (place : Nat) :
    Except Fault HttpMessage → Prop
  | .error fault => ¬ fault.Thrown
  | .ok response => (uses place response.statusCode).Harms env response

/-- A program stops without an exception exactly at the replies that are harmful, given how it uses
them. -/
def Consumes (env : Env) (uses : Nat → StatusCode → Use) {Value : Type} (program : Api Value) :
    Prop :=
  program.FailsAt (fun fault => ¬ fault.Thrown) (harms env uses)

/-- One use for the first response, and others behind it. -/
def firstThen (first : StatusCode → Use) (later : Nat → StatusCode → Use) :
    Nat → StatusCode → Use
  | 0 => first
  | place + 1 => later place

section

variable {Value Result : Type} {uses : Nat → StatusCode → Use}

theorem consumes_exchange_bind {read : HttpMessage → Except Fault Value} {use : StatusCode → Use}
    {continuation : Value → Api Result} (used : UsedAs env read use)
    (later : ∀ value, Consumes env uses (continuation value)) (question : HttpMessage) :
    Consumes env (firstThen use uses) (.bind (.exchange question read) continuation) := by
  refine Dialogue.failsAt_exchange_bind ?_ ?_ ?_ question
  · exact fun fault => Iff.rfl
  · exact used
  · exact later

/-- A program that goes on one of two ways after a question. -/
theorem consumes_branch {read : HttpMessage → Except Fault Value} {use : StatusCode → Use}
    {taken : Value → Bool} {yes no : Api Result} (used : UsedAs env read use)
    (onYes : Consumes env uses yes) (onNo : Consumes env uses no) (question : HttpMessage) :
    Consumes env (firstThen use uses) (.bind (.exchange question read) fun value =>
      if taken value = true then yes else no) := by
  refine consumes_exchange_bind used (fun value => ?_) question
  by_cases decided : taken value = true
  · rw [if_pos decided]
    exact onYes
  · rw [if_neg decided]
    exact onNo

theorem consumes_exchange {read : HttpMessage → Except Fault Value} {use : StatusCode → Use}
    (used : UsedAs env read use) (question : HttpMessage) :
    Consumes env (fun _ => use) (.exchange question read) := by
  rw [← Dialogue.bind_done (Dialogue.exchange question read)]
  refine Dialogue.failsAt_exchange_bind ?_ ?_ ?_ question
  · exact fun fault => Iff.rfl
  · exact used
  · exact fun value => trivial

theorem consumes_exchangeQuery {read : HttpMessage → Except Fault Value} {use : StatusCode → Use}
    (used : UsedAs env read use) (verb : RestVerb) (path : Bytes) (query : Slice) :
    Consumes env (fun _ => use) (exchangeQuery env verb path query read) := by
  rw [exchangeQuery_eq]
  exact consumes_exchange used _

theorem Consumes.discard {program : Api Value} (consumes : Consumes env uses program) :
    Consumes env uses (Operation.discard program) :=
  consumes.bind_silent fun _ _ => trivial

/-- A text of the caller's that is parsed first. -/
theorem consumes_parsed {parsed : Except VpackException Value} {next : Value → Api Result}
    (consumes : ∀ value, Consumes env uses (next value)) :
    Consumes env uses (.bind (.ofExcept (ofVpack parsed)) next) :=
  Dialogue.FailsAt.ofExcept_bind (fun _ raised => not_not_intro (ofVpack_thrown raised))
    fun value _ => consumes value

theorem Consumes.catchVelocypack {program : Api Value} (consumes : Consumes env uses program)
    (title : Bytes) (id : Int) : Consumes env uses (catchVelocypack env title id program) := by
  refine Dialogue.FailsAt.rescue consumes (fun fault bad => ?_) fun fault thrown harms => ?_
  · rcases Fault.not_thrown_iff.mp bad with rfl | rfl
    · exact ⟨.emptyFront, rfl, bad⟩
    · exact ⟨.endless, rfl, bad⟩
  · cases fault with
    | arango exception => exact thrown
    | velocypack exception => exact not_not_intro trivial
    | emptyFront => exact thrown
    | endless => exact thrown

theorem consumes_writeDocument (title : Bytes) (id : Int) (verb : RestVerb)
    (path jsonrec errorText : Bytes) (identifier : Slice → Except VpackException Bytes) :
    Consumes env (fun _ _ => .taken)
      (writeDocument env title id verb path jsonrec errorText identifier) := by
  rw [writeDocument_eq]
  refine Consumes.catchVelocypack (consumes_parsed fun data => ?_) title id
  exact consumes_exchange (usedAs_takeValue _ _ _) _

end

namespace ArangoDBCollectionAPI

/-- The question for a collection takes a value unless the status is 404. -/
theorem usedAs_existCollection :
    UsedAs env (fun result => do
      if result.statusCode = statusNotFound then return false
      else
        let slice ← result.front env
        let status ← ofVpack (slice.get "status" >>= Slice.getInt)
        return toInt32 status != 5) (takenIf (· != statusNotFound)) := by
  refine usedAs_takenIf (fun slice => do
    let status ← ofVpack (slice.get "status" >>= Slice.getInt)
    return toInt32 status != 5) (fun response found => if_neg (bne_iff_ne.mp found))
    (fun response missing => ?_) fun slice => (throws_ofVpack _).bind fun _ => throws_ok _
  have same : response.statusCode = statusNotFound := by simpa using missing
  exact ⟨false, if_pos same⟩

variable {State : Type}

theorem usedAs_nextBatch (extract : State → Slice → Except VpackException State) (state : State) :
    UsedAs env (nextBatch env extract state) batched := by
  refine usedAs_takenIf (fun slice => do
    let hasMore ← ofVpack (slice.get "hasMore" >>= Slice.getBool)
    let queryResult ← ofVpack (slice.get "result")
    let state ← ofVpack (extract state queryResult)
    return .inl ⟨slice, hasMore, state⟩) (fun response fine => ?_) (fun response bad => ?_)
    fun slice => ?_
  · have good : badRequest response.statusCode = false := by simpa using fine
    simp only [nextBatch, readBatch, good, Bool.false_eq_true, if_false, bind_assoc, pure_bind]
  · have refused : badRequest response.statusCode = true := by simpa using bad
    exact ⟨.inr state, if_pos refused⟩
  · exact (throws_ofVpack _).bind fun _ => (throws_ofVpack _).bind fun _ =>
      (throws_ofVpack _).bind fun _ => throws_ok _

/-- A cursor is read to its end in batches. -/
theorem consumes_readCursor (turns : Nat) (extract : State → Slice → Except VpackException State)
    (state : State) (request : HttpMessage) :
    Consumes env (fun _ => batched) (readCursor env turns extract state request) := by
  refine Dialogue.FailsAt.bind (consumes_exchange (usedAs_nextBatch extract state) request)
    fun read => ?_
  cases read with
  | inr state => trivial
  | inl cursor =>
    refine Dialogue.FailsAt.iterate (fun cursor => ?_) turns cursor
    unfold cursorLoop
    split
    · exact consumes_parsed fun id => consumes_exchange (usedAs_nextBatch extract cursor.state) _
    · trivial

/-- The edge collections are listed first when none are named. -/
def edgesFirst (edgeCollections : Bytes) (uses : Nat → StatusCode → Use) :
    Nat → StatusCode → Use :=
  if edgeCollections = [] then firstThen listed uses else uses

/-- The edge collections and the text of the query come before what is done with the query. -/
theorem consumes_queryEdgesToFrom {Result : Type} {uses : Nat → StatusCode → Use}
    {continuation : ArangoDBQuery → Api Result}
    (later : ∀ query, Consumes env uses (continuation query)) (atype : QueryType)
    (startVertex edgeCollections : Bytes) :
    Consumes env (edgesFirst edgeCollections uses)
      (.bind (queryEdgesToFrom env atype startVertex edgeCollections) continuation) := by
  have keyword : Throws (direction atype) := by
    cases atype <;> first | exact throws_ok _ | exact throws_arangoThrow _ _ _
  have formed : ∀ make : Bytes → ArangoDBQuery, Consumes env uses
      (.bind (.ofExcept (direction atype)) fun keyword => continuation (make keyword)) :=
    fun make => Dialogue.FailsAt.ofExcept_bind
      (fun fault raised => not_not_intro (keyword fault raised)) fun _ _ => later _
  unfold queryEdgesToFrom edgeCollectionsOr edgesFirst
  simp only [Dialogue.bind_eq, Dialogue.pure_eq_done]
  split
  · simp only [Dialogue.bind_assoc, Dialogue.done_bind]
    exact consumes_exchange_bind (usedAs_listValue _ _) (fun edges => formed _) _
  · simp only [Dialogue.bind_assoc, Dialogue.done_bind]
    exact formed _

/-- An edge query that names no collections. -/
def listsEdges (env : Env) (query : ArangoDBQuery) : Bool :=
  match edgeQuery env query with
  | .ok (_, edgeCollections) => edgeCollections = []
  | .error _ => false

theorem throws_throwVelocypack {Value : Type} {result : Except Fault Value}
    (throws : Throws result) : Throws (throwVelocypack env result) := by
  intro fault raised
  unfold throwVelocypack at raised
  split at raised
  · exact throws_arangoThrow _ _ _ fault raised
  · exact throws fault raised

theorem throws_createAQLRequest (batchSize : Int32) (query : ArangoDBQuery) :
    Throws (createAQLRequest env batchSize query) := by
  refine throws_throwVelocypack
    ((throws_ofVpack _).bind fun _ => (throws_ofVpack _).bind fun _ => ?_)
  rw [addVPack_createREQUEST]
  exact throws_ok _

/-- What a query does with the responses. -/
def selectUses (env : Env) (query : ArangoDBQuery) : Nat → StatusCode → Use :=
  match query.queryType with
  | .edgesAll | .edgesFrom | .edgesTo =>
    if listsEdges env query then firstThen listed fun _ => batched else fun _ => batched
  | _ => fun _ => batched

theorem throws_createSimpleAllRequest (batchSize : Int32) (collname : Bytes) :
    Throws (createSimpleAllRequest env batchSize collname) := by
  rw [createSimpleAllRequest, addVPack_createREQUEST]
  exact throws_ok _

theorem consumes_createEdgeRequest {Result : Type} {continuation : HttpMessage → Api Result}
    (later : ∀ request, Consumes env (fun _ => batched) (continuation request)) (batchSize : Int32)
    (query : ArangoDBQuery) :
    Consumes env (if listsEdges env query then firstThen listed fun _ => batched
        else fun _ => batched)
      (.bind (createEdgeRequest env batchSize query) continuation) := by
  unfold createEdgeRequest listsEdges
  cases found : edgeQuery env query with
  | error fault =>
    have thrown : fault.Thrown := throws_throwVelocypack (throws_ofVpack _) fault found
    exact not_not_intro thrown
  | ok named =>
    obtain ⟨startVertex, edgeCollections⟩ := named
    simp only [Dialogue.bind_eq, Dialogue.ofExcept_ok, Dialogue.done_bind, Dialogue.bind_assoc,
      decide_eq_true_eq]
    refine consumes_queryEdgesToFrom (fun query => ?_) query.queryType startVertex edgeCollections
    exact Dialogue.FailsAt.ofExcept_bind (fun fault raised =>
      not_not_intro (throws_createAQLRequest batchSize query fault raised)) fun request _ =>
        later request

theorem consumes_selectQuery (batchSize : Int32) (turns : Nat) (collname : Bytes)
    (query : ArangoDBQuery) (setfnc : State → Bytes → State) (state : State) :
    Consumes env (selectUses env query)
      (selectQuery env batchSize turns collname query setfnc state) := by
  have read := @consumes_readCursor env State turns (extractData env setfnc) state
  have plain : ∀ {request : Except Fault HttpMessage}, Throws request →
      Consumes env (fun _ => batched) (.bind (.ofExcept request)
        (readCursor env turns (extractData env setfnc) state)) := fun throws =>
    Dialogue.FailsAt.ofExcept_bind (fun fault raised => not_not_intro (throws fault raised))
      fun request _ => read request
  unfold selectQuery selectRequest selectUses
  cases query.queryType with
  | undef => exact plain (throws_arangoThrow _ _ _)
  | template =>
    refine plain (throws_throwVelocypack ((throws_ofVpack _).bind fun _ => ?_))
    rw [addVPack_createREQUEST]
    exact throws_ok _
  | all => exact plain (throws_createSimpleAllRequest _ _)
  | edgesAll => exact consumes_createEdgeRequest read batchSize query
  | edgesFrom => exact consumes_createEdgeRequest read batchSize query
  | edgesTo => exact consumes_createEdgeRequest read batchSize query
  | aql => exact plain (throws_createAQLRequest _ _)

theorem consumes_collectQuery (batchSize : Int32) (turns : Nat) (collname fpath : Bytes)
    (values : List Bytes) :
    Consumes env (fun _ => batched) (collectQuery env batchSize turns collname fpath values) :=
  consumes_selectQuery batchSize turns collname
    (.new ("FOR doc IN " ++ collname ++ " RETURN DISTINCT doc." ++ fpath) .aql) _ values

theorem consumes_selectAll (batchSize : Int32) (turns : Nat) (collname : Bytes)
    (queryFields : QueryFields) (setfnc : State → Bytes → Bytes → State) (state : State) :
    Consumes env (fun _ => batched)
      (selectAll env batchSize turns collname queryFields setfnc state) := by
  have throws : Throws (selectAllRequest env batchSize collname queryFields) := by
    unfold selectAllRequest
    split
    · exact throws_createSimpleAllRequest _ _
    · exact throws_createAQLRequest _ _
  exact Dialogue.FailsAt.ofExcept_bind (fun fault raised => not_not_intro (throws fault raised))
    fun request _ => consumes_readCursor turns _ state request

theorem consumes_removeByTemplate (collname jsontempl : Bytes) :
    Consumes env (fun _ _ => .taken) (removeByTemplate env collname jsontempl) :=
  Consumes.catchVelocypack (consumes_parsed fun _ =>
    consumes_exchangeQuery (usedAs_takeValue _ _ _) _ _ _) title 11

/-- The edge collections are listed, and a value is taken from every response behind. -/
theorem consumes_removeEdges (collname vertexkey : Bytes) :
    Consumes env (firstThen listed fun _ _ => .taken) (removeEdges env collname vertexkey) := by
  refine consumes_exchange_bind (usedAs_listValue _ _) (fun edges => ?_) _
  generalize edges.toList = remaining
  induction remaining with
  | nil => trivial
  | cons edgecoll remaining inductionHypothesis =>
    refine Dialogue.FailsAt.bind ?_ fun _ => inductionHypothesis
    exact Dialogue.FailsAt.bind (consumes_removeByTemplate _ _) fun _ =>
      Dialogue.FailsAt.bind (consumes_removeByTemplate _ _) fun _ => trivial

theorem usedAs_lookupByKeys (setfnc : State → Bytes → State) (state : State) :
    UsedAs env (fun result =>
      if badRequest result.statusCode then .ok state
      else do
        let slice ← result.front env
        ofVpack (slice.get "documents" >>= extractData env setfnc state)) batched := by
  refine usedAs_takenIf (fun slice => ofVpack (slice.get "documents" >>=
    extractData env setfnc state)) (fun response fine => ?_) (fun response bad => ?_)
    fun slice => throws_ofVpack _
  · have good : badRequest response.statusCode = false := by simpa using fine
    exact if_neg (by rw [good]; exact Bool.false_ne_true)
  · have refused : badRequest response.statusCode = true := by simpa using bad
    exact ⟨state, if_pos refused⟩

end ArangoDBCollectionAPI

/-! ### The operations -/

namespace Operation

/-- How an operation uses the response at every place. -/
def uses (env : Env) : Operation → Nat → StatusCode → Use
  | testConnection => fun _ status => if status ≠ statusOK then .reported else .taken
  | existCollection _ => fun _ => takenIf (· != statusNotFound)
  | createCollection _ _ | dropCollection _ =>
    firstThen (takenIf (· != statusNotFound)) fun _ => reportedIf notOK
  | collectionNames _ | graphNames | graphCollectionNames _ _ | databaseNames
  | databaseNamesOf _ | userNames => fun _ => listed
  | readDocument _ _ | createDocument _ _ | updateDocument _ _ _ | removeByTemplate _ _
  | removeByKeys _ _ | readRecord _ _ _ _ | createRecord _ _ _ _ | updateRecord _ _ _ _ _ =>
    fun _ _ => .taken
  | deleteDocument _ _ | deleteRecord _ _ _ _ | addVertexGraph _ _ | addEdgeGraph _ _ =>
    fun _ => reportedIf badRequest
  | existsDocument _ _ | existGraph _ | existDatabase _ | existUser _ => fun _ _ => .ignored
  | createGraph _ _ => firstThen (fun _ => .ignored) fun _ _ => .ignored
  | queryEdgesToFrom _ _ edgeCollections =>
    ArangoDBCollectionAPI.edgesFirst edgeCollections fun _ _ => .ignored
  | selectQuery _ query => ArangoDBCollectionAPI.selectUses env query
  | selectAll _ _ | lookupByKeys _ _ | collectQuery _ _ => fun _ => batched
  | removeEdges _ _ => firstThen listed fun _ _ => .taken
  | removeGraph _ _ =>
    firstThen (fun _ => .ignored) fun _ => reportedIf ArangoDBGraphAPI.notAccepted
  | createDatabase _ _ => firstThen (fun _ => .ignored) fun _ => reportedIf (· != statusCreated)
  | removeDatabase _ => firstThen (fun _ => .ignored) fun _ => reportedIf notOK
  | createUser _ => fun _ => reportedIf (· != statusCreated)
  | updateUser _ | grantUserToDataBase _ _ _ => fun _ => reportedIf notOK
  | removeUser _ => fun _ => reportedIf (· != statusAccepted)

theorem consumes_testConnection :
    Consumes env (fun _ status => if status ≠ statusOK then .reported else .taken)
      (ArangoCpp.testConnection env) := by
  have exchanged : Consumes env (fun _ status => if status ≠ statusOK then .reported else .taken)
      (Dialogue.exchange (createREQUEST env .get "/_api/version") fun result =>
        if result.statusCode ≠ statusOK then
          result.errorThrow env "An error occurs in ArangoDB server: "
        else do
          let slice ← result.front env
          let version ← ofVpack (slice.get "version" >>= Slice.copyString)
          let server ← ofVpack (slice.get "server" >>= Slice.copyString)
          return (true,
            "The client is connected to the " ++ server ++ " server version " ++ version)) := by
    refine consumes_exchange (fun response => ?_) _
    by_cases fine : response.statusCode = statusOK
    · simp only [fine, ne_eq, not_true, if_false]
      exact front_bind_undefined_iff fun slice _ =>
        (throws_ofVpack _).bind fun _ => (throws_ofVpack _).bind fun _ => throws_ok _
    · simp only [fine, ne_eq, not_false_eq_true, if_true]
      exact errorThrow_undefined_iff response _
  refine Dialogue.FailsAt.rescue exchanged (fun fault bad => ?_) fun fault thrown harms => ?_
  · rcases Fault.not_thrown_iff.mp bad with rfl | rfl
    · exact ⟨.emptyFront, rfl, bad⟩
    · exact ⟨.endless, rfl, bad⟩
  · cases fault with
    | arango exception => trivial
    | velocypack exception => trivial
    | emptyFront => exact thrown
    | endless => exact thrown

/-- Every operation uses the responses as told. -/
theorem consumes_program (batchSize : Int32) (turns : Nat) (operation : Operation) :
    Consumes env (operation.uses env) (operation.program env batchSize turns) := by
  have listing : ∀ {Value : Type} (request : HttpMessage) (nothing : Value)
      (read : Slice → Except VpackException Value),
      Consumes env (fun _ => listed) (.exchange request (listValue env nothing read)) :=
    fun request nothing read => consumes_exchange (usedAs_listValue nothing read) request
  have taking : ∀ {Value : Type} (request : HttpMessage) (refused : StatusCode → Bool)
      (text : Bytes) (read : Slice → Except VpackException Value),
      Consumes env (fun _ _ => .taken) (.exchange request (takeValue env refused text read)) :=
    fun request refused text read => consumes_exchange (usedAs_takeValue refused text read) request
  have demanding : ∀ (request : HttpMessage) (refused : StatusCode → Bool) (text : Bytes),
      Consumes env (fun _ => reportedIf refused)
        (.exchange request (demand env refused text)) :=
    fun request refused text => consumes_exchange (usedAs_demand refused text) request
  have loading : ∀ (verb : RestVerb) (path : Bytes) (query : Slice) (refused : StatusCode → Bool)
      (text : Bytes), Consumes env (fun _ => reportedIf refused)
        (exchangeQuery env verb path query (demand env refused text)) :=
    fun verb path query refused text =>
      consumes_exchangeQuery (usedAs_demand refused text) verb path query
  have ignoring : ∀ {Value : Type} (answer : HttpMessage → Value),
      UsedAs env (fun result => .ok (answer result)) fun _ => .ignored :=
    fun answer => usedAs_ignored fun response => throws_ok (answer response)
  have returned : ∀ {uses : Nat → StatusCode → Use}, Consumes env uses (.done ()) := trivial
  cases operation with
  | testConnection => exact consumes_testConnection.discard
  | existCollection =>
    exact (consumes_exchange ArangoDBCollectionAPI.usedAs_existCollection _).discard
  | createCollection =>
    exact consumes_branch ArangoDBCollectionAPI.usedAs_existCollection returned
      (loading _ _ _ _ _) _
  | dropCollection =>
    exact consumes_branch ArangoDBCollectionAPI.usedAs_existCollection returned (demanding _ _ _) _
  | collectionNames => exact (listing _ _ _).discard
  | readDocument => exact (taking _ _ _ _).discard
  | createDocument => exact (consumes_writeDocument _ _ _ _ _ _ _).discard
  | updateDocument => exact (consumes_writeDocument _ _ _ _ _ _ _).discard
  | deleteDocument =>
    refine Consumes.discard (Dialogue.FailsAt.bind (demanding _ _ _) ?_)
    exact fun _ => trivial
  | existsDocument => exact (consumes_exchange (ignoring _) _).discard
  | queryEdgesToFrom =>
    refine ArangoDBCollectionAPI.consumes_queryEdgesToFrom ?_ _ _ _
    exact fun _ => trivial
  | selectQuery => exact (ArangoDBCollectionAPI.consumes_selectQuery _ _ _ _ _ _).discard
  | selectAll => exact (ArangoDBCollectionAPI.consumes_selectAll _ _ _ _ _ _).discard
  | lookupByKeys =>
    exact (consumes_exchangeQuery (ArangoDBCollectionAPI.usedAs_lookupByKeys _ _) _ _ _).discard
  | collectQuery => exact (ArangoDBCollectionAPI.consumes_collectQuery _ _ _ _ _).discard
  | removeByTemplate => exact (ArangoDBCollectionAPI.consumes_removeByTemplate _ _).discard
  | removeEdges => exact ArangoDBCollectionAPI.consumes_removeEdges _ _
  | removeByKeys => exact (consumes_exchangeQuery (usedAs_takeValue _ _ _) _ _ _).discard
  | existGraph => exact (consumes_exchange (ignoring _) _).discard
  | graphNames => exact (listing _ _ _).discard
  | createGraph =>
    refine consumes_branch (ignoring _) returned (Consumes.catchVelocypack (consumes_parsed fun _ =>
      consumes_exchangeQuery (usedAs_ignored fun response => ?_) _ _ _) _ _) _
    split
    · exact throws_arangoThrow _ _ _
    · exact throws_ok _
  | removeGraph =>
    exact consumes_branch (ignoring _) returned (demanding _ _ _) _
  | graphCollectionNames => exact (listing _ _ _).discard
  | addVertexGraph => exact loading _ _ _ _ _
  | addEdgeGraph =>
    exact Consumes.catchVelocypack (consumes_parsed fun _ => loading _ _ _ _ _) _ _
  | readRecord => exact (taking _ _ _ _).discard
  | createRecord => exact (consumes_writeDocument _ _ _ _ _ _ _).discard
  | updateRecord => exact (consumes_writeDocument _ _ _ _ _ _ _).discard
  | deleteRecord =>
    refine Consumes.discard (Dialogue.FailsAt.bind (demanding _ _ _) ?_)
    exact fun _ => trivial
  | databaseNames => exact (listing _ _ _).discard
  | databaseNamesOf => exact (listing _ _ _).discard
  | existDatabase => exact (consumes_exchange (ignoring _) _).discard
  | createDatabase =>
    refine consumes_branch (ignoring _) returned ?_ _
    exact Consumes.catchVelocypack (consumes_parsed fun _ => loading _ _ _ _ _) _ _
  | removeDatabase =>
    exact consumes_branch (ignoring _) returned (demanding _ _ _) _
  | existUser => exact (consumes_exchange (ignoring _) _).discard
  | createUser =>
    exact Consumes.catchVelocypack (consumes_parsed fun _ => loading _ _ _ _ _) _ _
  | updateUser =>
    exact Consumes.catchVelocypack (consumes_parsed fun _ => loading _ _ _ _ _) _ _
  | removeUser => exact demanding _ _ _
  | grantUserToDataBase => exact loading _ _ _ _ _
  | userNames => exact (listing _ _ _).discard

end Operation

/-! ### What a reply does -/

/-- The body of a reply stalls the walk over its values, unless it is parsed as JSON. -/
def Transfer.Stalls (env : Env) (transfer : Transfer) : Prop :=
  (transfer.headed env).isContentTypeJson = false ∧ ArangoCpp.Stalls env transfer.body.flatten

/-- The replies that damage an operation that uses them so. -/
def Use.Damages (env : Env) (transfer : Transfer) : Use → Prop
  | ignored => env.debug = true ∧ transfer.Stalls env
  | reported => transfer.Stalls env
  | taken => transfer.body.flatten = [] ∨ transfer.Stalls env

theorem payload_eq_nil_iff (lawful : env.vpack.Lawful) {transfer : Transfer}
    {response : HttpMessage} (responds : RequestCurlObject.respond env transfer = .ok response) :
    response.payload.bytes = [] ↔ transfer.body.flatten = [] := by
  have answers := RequestCurlObject.answers_of_respond responds
  refine ⟨fun none => ?_, answers.empty⟩
  rcases answers.payload with same | ⟨data, parsed, built⟩
  · exact same.symm.trans none
  · exact absurd (built.symm.trans none)
      (lawful.build_ne_nil data (lawful.represented _ _ data parsed))

/-- The body stalls the walk over the payload of the response. -/
theorem stalls_payload_iff (lawful : env.vpack.Lawful) {transfer : Transfer}
    {response : HttpMessage} (responds : RequestCurlObject.respond env transfer = .ok response) :
    Stalls env response.payload.bytes ↔ transfer.Stalls env := by
  by_cases empty : transfer.body.flatten = []
  · exact iff_of_false
      (fun stalls => stalls.nonempty ((payload_eq_nil_iff lawful responds).mpr empty))
      fun stalls => stalls.2.nonempty empty
  · cases type : (transfer.headed env).isContentTypeJson with
    | true =>
      refine iff_of_false ?_ fun stalls => by rw [stalls.1] at type; cases type
      cases parsed : env.vpack.fromJson ⟨false, false⟩ transfer.body.flatten with
      | error exception =>
        rw [transfer.respond_eq empty, if_pos type, parsed] at responds
        cases responds
      | ok data =>
        obtain ⟨other, same, built⟩ := Transfer.respond_json type empty parsed
        cases same.symm.trans responds
        rw [built]
        exact not_stalls_build lawful (lawful.represented _ _ data parsed)
    | false =>
      obtain ⟨other, same, exact⟩ := Transfer.respond_vpack type empty
      cases same.symm.trans responds
      rw [exact]
      exact (and_iff_right type).symm

/-- The debug log cannot show a response that stalls the walk, and can show an empty one. -/
theorem logged_undefined_iff (lawful : env.vpack.Lawful) {transfer : Transfer}
    {response : HttpMessage} (responds : RequestCurlObject.respond env transfer = .ok response) :
    (∃ fault, logged env response = .error fault ∧ ¬ fault.Thrown) ↔
      env.debug = true ∧ transfer.Stalls env := by
  have answers := RequestCurlObject.answers_of_respond responds
  rw [← stalls_payload_iff lawful responds]
  unfold logged
  by_cases debug : env.debug = true
  · rw [if_pos debug, and_iff_right debug]
    by_cases empty : response.payload.bytes = []
    · have bare : response.payloadSize = 0 := by
        rw [HttpMessage.payloadSize, answers.length, empty, List.length_nil]
      rw [HttpMessage.payloadAsString, if_pos bare]
      refine iff_of_false ?_ fun stalls => stalls.nonempty empty
      rintro ⟨fault, same, _⟩
      cases same
    · have full : response.payloadSize ≠ 0 := by
        rw [HttpMessage.payloadSize, answers.length]
        exact fun none => empty (List.eq_nil_of_length_eq_zero none)
      rw [HttpMessage.payloadAsString, if_neg full,
        if_pos (isContentTypeVPack_of_respond lawful responds),
        ← front_bind_undefined_iff fun slice _ => throws_ofVpack _,
        HttpMessage.front_undefined_iff answers.starts, or_iff_right empty]
  · rw [if_neg debug]
    refine iff_of_false ?_ fun stalls => debug stalls.1
    rintro ⟨fault, same, _⟩
    cases same

/-- What cannot be shown in the debug log has a body. -/
theorem body_ne_nil_of_unshown {transfer : Transfer} {response : HttpMessage}
    (responds : RequestCurlObject.respond env transfer = .ok response) {fault : Fault}
    (unshown : logged env response = .error fault) : transfer.body.flatten ≠ [] := by
  intro empty
  have answers := RequestCurlObject.answers_of_respond responds
  have bare : response.payloadSize = 0 := by
    rw [HttpMessage.payloadSize, answers.length, answers.empty empty, List.length_nil]
  rw [logged, HttpMessage.payloadAsString, if_pos bare, ite_self] at unshown
  cases unshown

/-- A body that no response can be made of is a JSON text that cannot be parsed. -/
theorem malformed_body {transfer : Transfer} {fault : Fault}
    (malformed : RequestCurlObject.respond env transfer = .error fault) :
    transfer.body.flatten ≠ [] ∧ (transfer.headed env).isContentTypeJson = true ∧
      fault.Thrown := by
  have nonempty : transfer.body.flatten ≠ [] := by
    intro empty
    obtain ⟨response, responds, _⟩ := @RequestCurlObject.respond_of_empty env transfer empty
    cases responds.symm.trans malformed
  refine ⟨nonempty, ?_⟩
  cases type : (transfer.headed env).isContentTypeJson with
  | false =>
    obtain ⟨response, responds, _⟩ := Transfer.respond_vpack type nonempty
    cases responds.symm.trans malformed
  | true =>
    cases parsed : env.vpack.fromJson ⟨false, false⟩ transfer.body.flatten with
    | ok data =>
      obtain ⟨response, responds, _⟩ := Transfer.respond_json type nonempty parsed
      cases responds.symm.trans malformed
    | error exception =>
      rw [transfer.respond_eq nonempty, if_pos type, parsed] at malformed
      cases malformed
      exact ⟨rfl, trivial⟩

/-- A reply with a status is harmful to a program exactly when it damages the use that is made of
it. -/
theorem harms_told_iff (lawful : env.vpack.Lawful) {transfer : Transfer}
    (received : transfer.responseCode ≠ 0) {told : Except Fault HttpMessage}
    (tells : transfer.Tells env told) (uses : Nat → StatusCode → Use) (place : Nat) :
    harms env uses place told ↔ (uses place transfer.responseCode).Damages env transfer := by
  cases tells with
  | @accepted response accepted =>
    have answers := RequestCurlObject.answers_of_respond accepted.responds
    have unstuck : ¬ (env.debug = true ∧ transfer.Stalls env) := by
      rw [← logged_undefined_iff lawful accepted.responds]
      rintro ⟨fault, fails, _⟩
      obtain ⟨line, shown⟩ := accepted.shown
      cases shown.symm.trans fails
    rw [harms, accepted.status]
    cases uses place transfer.responseCode with
    | ignored => exact iff_of_false id unstuck
    | reported =>
      rw [Use.Harms, Use.Damages, HttpMessage.slices_stalls_iff answers.starts,
        stalls_payload_iff lawful accepted.responds]
    | taken =>
      rw [Use.Harms, Use.Damages, HttpMessage.front_undefined_iff answers.starts,
        stalls_payload_iff lawful accepted.responds, payload_eq_nil_iff lawful accepted.responds]
  | @refused fault refused =>
    rw [harms]
    cases refused with
    | malformed malformed =>
      obtain ⟨nonempty, type, thrown⟩ := malformed_body malformed
      have unstuck : ¬ transfer.Stalls env := fun stalls => by cases type.symm.trans stalls.1
      refine iff_of_false (not_not_intro thrown) ?_
      cases uses place transfer.responseCode with
      | ignored => exact fun damages => unstuck damages.2
      | reported => exact unstuck
      | taken => exact not_or_intro nonempty unstuck
    | @unshown response _ responds shown =>
      have nonempty := body_ne_nil_of_unshown responds shown
      have debug : env.debug = true := by
        by_contra quiet
        rw [logged, if_neg quiet] at shown
        cases shown
      have stuck := logged_undefined_iff lawful responds
      rw [shown] at stuck
      simp only [Except.error.injEq, exists_eq_left', and_iff_right debug] at stuck
      rw [stuck]
      cases uses place transfer.responseCode with
      | ignored => exact (and_iff_right debug).symm
      | reported => exact Iff.rfl
      | taken => exact (or_iff_right nonempty).symm
    | unreceived responds status =>
      have answers := RequestCurlObject.answers_of_respond responds
      exact absurd (answers.status.symm.trans status) received

/-! ### When an operation is defined -/

/-- An operation does not stop but by returning or by throwing an exception. -/
def Operation.Defined (env : Env) (dispatch : Dispatch) (connectData : ArangoDBConnection)
    (batchSize : Int32) (turns : Nat) (operation : Operation) (transfers : List Transfer) : Prop :=
  ∀ fault, ((conduct env dispatch connectData (operation.program env batchSize turns)).run
    transfers).outcome = .raised fault → fault.Thrown

/-- The elements of related lists are related place by place. -/
theorem getElem?_of_forall₂ {First Second : Type} {relation : First → Second → Prop}
    {firsts : List First} {seconds : List Second} (related : List.Forall₂ relation firsts seconds)
    {place : Nat} {first : First} (found : firsts[place]? = some first) :
    ∃ second, seconds[place]? = some second ∧ relation first second := by
  obtain ⟨within, same⟩ := List.getElem?_eq_some_iff.mp found
  have also : place < seconds.length := related.length_eq ▸ within
  refine ⟨seconds[place], List.getElem?_eq_getElem also, ?_⟩
  exact same ▸ related.get within also

/-- An operation is defined exactly when no reply damages the use that the operation makes of it. -/
theorem Operation.defined_iff (lawful : env.vpack.Lawful) (dispatch : Dispatch)
    (connectData : ArangoDBConnection) (batchSize : Int32) (turns : Nat) (operation : Operation)
    {transfers : List Transfer} (received : ∀ transfer ∈ transfers, transfer.responseCode ≠ 0)
    (read : ((conduct env dispatch connectData
      (operation.program env batchSize turns)).run transfers).rest = []) :
    operation.Defined env dispatch connectData batchSize turns transfers ↔
      ∀ place transfer, transfers[place]? = some transfer →
        ¬ (operation.uses env place transfer.responseCode).Damages env transfer := by
  obtain ⟨replies, failure, outcome, rest, tells, failed⟩ := conduct_tells lawful
    (asks_program lawful batchSize turns operation)
    (prompt_program lawful batchSize turns operation)
    dispatch connectData read
  have harmful := Dialogue.FailsAt.run (@consumes_program env batchSize turns operation) rest
  have defined : operation.Defined env dispatch connectData batchSize turns transfers ↔
      ¬ ∃ place reply, (replies ++ failure)[place]? = some reply ∧
        harms env (operation.uses env) place reply := by
    rw [← harmful, Defined, outcome]
    simp only [not_exists, not_and, not_not]
  rw [defined, not_exists]
  refine forall_congr' fun place => ?_
  constructor
  · intro harmless transfer found damages
    obtain ⟨reply, told, tells⟩ := getElem?_of_forall₂ tells found
    refine harmless
      ⟨reply, List.getElem?_append_left (List.getElem?_eq_some_iff.mp told).1 ▸ told, ?_⟩
    exact (harms_told_iff lawful (received transfer (List.mem_of_getElem? found)) tells _ _).mpr
      damages
  · rintro harmless ⟨reply, told, harm⟩
    by_cases within : place < replies.length
    · rw [List.getElem?_append_left within] at told
      obtain ⟨transfer, found, tells⟩ := getElem?_of_forall₂ tells.flip told
      exact harmless transfer found
        ((harms_told_iff lawful (received transfer (List.mem_of_getElem? found)) tells _ _).mp harm)
    · rw [List.getElem?_append_right (Nat.not_lt.mp within)] at told
      obtain ⟨exception, rfl⟩ := failed reply (List.mem_of_getElem? told)
      exact harm trivial

namespace Operation

/-- A document that is answered without a body. -/
theorem run_readDocument_empty (lawful : env.vpack.Lawful) (connectData : ArangoDBConnection)
    (batchSize : Int32) (turns : Nat) :
    ∃ asked,
      (conduct env .base connectData ((readDocument "c" "k").program env batchSize turns)).run
        [⟨0, 200, [], []⟩] = ⟨asked, [], .raised .emptyFront⟩ := by
  obtain ⟨response, accepted, empty, starts⟩ :=
    @accepted_of_empty env ⟨0, 200, [], []⟩ rfl (Nat.succ_ne_zero _)
  have front : response.front env = .error .emptyFront := by
    rw [HttpMessage.front, HttpMessage.slices, if_pos starts, empty]
    rfl
  rw [conduct_eq_through lawful (asks_program lawful _ _ _)]
  refine ⟨_, Dialogue.run_through_exchange_of_error
    (encode_createREQUEST lawful .base connectData (Or.inl rfl) "/_api/document/c/k")
    ((decode_eq_ok_iff lawful .base connectData _).mpr accepted) ?_ _ []⟩
  rw [takeValue, front]
  rfl

/-- A document that is answered without a body. -/
theorem defined_iff_empty :
    let env : Env := ⟨.simple [], true, true, [], false⟩
    (readDocument "c" "k").Defined env .base .default 500 0 [⟨0, 200, [], []⟩] ↔
      ∀ place transfer, [(⟨0, 200, [], []⟩ : Transfer)][place]? = some transfer →
        ¬ ((readDocument "c" "k").uses env place transfer.responseCode).Damages env transfer := by
  intro env
  have lawful : env.vpack.Lawful := Velocypack.simple_lawful []
  obtain ⟨asked, ran⟩ := @run_readDocument_empty env lawful .default 500 0
  refine defined_iff lawful .base .default 500 0 (readDocument "c" "k") ?_ (by rw [ran])
  exact List.forall_mem_singleton.mpr (by decide)

/-- The front of no values is taken for a document that is answered without a body. -/
theorem not_defined_empty :
    let env : Env := ⟨.simple [], true, true, [], false⟩
    ¬ (readDocument "c" "k").Defined env .base .default 500 0 [⟨0, 200, [], []⟩] := by
  intro env defined
  have lawful : env.vpack.Lawful := Velocypack.simple_lawful []
  obtain ⟨asked, ran⟩ := @run_readDocument_empty env lawful .default 500 0
  exact defined .emptyFront (by rw [ran])

end Operation

end ArangoCpp
