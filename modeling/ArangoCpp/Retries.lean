/-
This file says what a message is after `slices` has thrown.

The loop of `slices` records where a value begins before it compares the length of the value with
what is left, and a message with recorded values is not gone over again. So the call that finds a
value too long throws, and the next one returns what has been recorded, that value included.
-/

import ArangoCpp.Payloads

namespace ArangoCpp

variable {env : Env}

/-! ### Values that are too long -/

/-- A value declares more bytes than there are from its beginning to the end of the payload. -/
def ReachesPast (env : Env) (start : Bytes) : Prop :=
  ∃ size, env.vpack.byteSize start = .ok size ∧ start.length < size

/-- The walk over the values gets to one that reaches past the end. -/
inductive RunsShort (env : Env) : Bytes → Prop where
  | here {bytes : Bytes} (nonempty : bytes ≠ []) (short : ReachesPast env bytes) :
      RunsShort env bytes
  | later {bytes : Bytes} {size : Nat} (nonempty : bytes ≠ [])
      (declared : env.vpack.byteSize bytes = .ok size) (moves : 0 < size)
      (fits : size ≤ bytes.length) (later : RunsShort env (bytes.drop size)) : RunsShort env bytes

/-- The fault of the loop that finds such a value. -/
def invalidBuffer : Fault := .arango ⟨"HttpMessage", 1, "Invalid buffer"⟩

/-- A walk that ends with this fault has got to such a value. -/
theorem Walk.runsShort {bytes : Bytes} {ended : Except Fault Unit} (walk : Walk env bytes ended)
    (invalid : ended = .error invalidBuffer) : RunsShort env bytes := by
  induction walk with
  | done => cases invalid
  | unread nonempty unread => cases invalid
  | short nonempty declared short => exact .here nonempty ⟨_, declared, short⟩
  | still nonempty still => cases invalid
  | step nonempty declared moves fits _ inductionHypothesis =>
    exact .later nonempty declared moves fits (inductionHypothesis invalid)

namespace HttpMessage

/-- The loop throws when it has recorded such a value. -/
theorem slicesLoop_of_runsShort {fuel : Nat} {cursor : Bytes} (short : RunsShort env cursor)
    (enough : cursor.length < fuel) (found : List Bytes) :
    (slicesLoop env fuel cursor found).2 = .error invalidBuffer ∧
      ∃ start ∈ (slicesLoop env fuel cursor found).1, ReachesPast env start := by
  induction short generalizing fuel found with
  | @here bytes nonempty short =>
    obtain ⟨fuel, rfl⟩ : ∃ left, fuel = left + 1 := ⟨fuel - 1, by omega⟩
    obtain ⟨size, declared, less⟩ := short
    rw [slicesLoop, if_neg nonempty]
    simp only [declared, if_pos less]
    exact ⟨rfl, bytes, List.mem_append_right _ (List.mem_singleton_self bytes), size, declared,
      less⟩
  | @later bytes size nonempty declared moves fits _ inductionHypothesis =>
    obtain ⟨fuel, rfl⟩ : ∃ left, fuel = left + 1 := ⟨fuel - 1, by omega⟩
    have less : (bytes.drop size).length < fuel := by
      rw [List.length_drop]
      omega
    rw [slicesLoop, if_neg nonempty]
    simp only [declared, if_neg (Nat.not_lt.mpr fits)]
    exact inductionHypothesis less (found ++ [bytes])

variable {message : HttpMessage}

/-- `slices` throws when nothing has been recorded and the walk gets to a value that is too long. -/
theorem slices_eq_invalidBuffer_iff :
    (message.slices env).1 = .error invalidBuffer ↔
      message.sliceStarts = [] ∧ RunsShort env message.payload.bytes := by
  by_cases starts : message.sliceStarts = []
  · have enough := Nat.lt_succ_self message.payload.bytes.length
    rw [slices, if_pos starts, and_iff_right starts]
    dsimp only
    constructor
    · intro thrown
      refine (@slicesLoop_walk env _ _ enough []).runsShort ?_
      cases ended : (slicesLoop env (message.payload.bytes.length + 1)
          message.payload.bytes []).2 with
      | error fault =>
        rw [ended] at thrown
        exact congrArg Except.error (Except.error.inj thrown)
      | ok _ =>
        rw [ended] at thrown
        cases thrown
    · intro short
      rw [(slicesLoop_of_runsShort short enough []).1]
      rfl
  · rw [slices, if_neg starts]
    exact iff_of_false (fun thrown => by cases thrown) fun both => starts both.1

/-- The call after the one that throws returns the values recorded so far. -/
theorem slices_again (starts : message.sliceStarts = [])
    (short : RunsShort env message.payload.bytes) :
    ∃ recorded, ((message.slices env).2.slices env).1 = .ok recorded ∧
      ∃ start ∈ recorded, ReachesPast env start := by
  have recorded := (slicesLoop_of_runsShort short
    (Nat.lt_succ_self message.payload.bytes.length) []).2
  obtain ⟨start, member, past⟩ := recorded
  have after : (message.slices env).2 = { message with
      sliceStarts := (slicesLoop env (message.payload.bytes.length + 1)
        message.payload.bytes []).1 } := by
    rw [slices, if_pos starts]
  rw [after, slices, if_neg (List.ne_nil_of_mem member)]
  exact ⟨_, rfl, start, member, past⟩

end HttpMessage

/-! ### Later calls -/

/-- A call that looks at the payload. -/
inductive Look : Type where
  | slices | payloadAsString
  deriving DecidableEq, Repr

namespace Look

/-- What a call returns: where values begin, or a text. -/
def result (env : Env) (message : HttpMessage) : Look → Except Fault (List Bytes ⊕ Bytes)
  | slices => (message.slices env).1.map .inl
  | payloadAsString => (message.payloadAsString env).map .inr

/-- The message behind a call. `payloadAsString` calls `slices` when there is VelocyPack to show. -/
def after (env : Env) (message : HttpMessage) : Look → HttpMessage
  | slices => (message.slices env).2
  | payloadAsString =>
    if message.payloadSize = 0 then message
    else if message.isContentTypeVPack then (message.slices env).2
    else message

/-- The message behind some calls. -/
def afterAll (env : Env) (message : HttpMessage) (looks : List Look) : HttpMessage :=
  looks.foldl (fun message look => look.after env message) message

end Look

/-- A message that is as it was before: later calls throw, whatever other calls are in between, and
none returns a value that reaches past the end of the payload. -/
structure AsItWas (env : Env) (before message : HttpMessage) : Prop where
  unchanged : message = before
  throws : ∀ looks (look : Look), ∃ fault,
    look.result env (Look.afterAll env message looks) = .error fault ∧ fault.Thrown
  inside : ∀ looks starts, Look.slices.result env (Look.afterAll env message looks) =
    .ok (.inl starts) → ∀ start ∈ starts, ¬ ReachesPast env start

/-- A call of `slices` that throws 'Invalid buffer' leaves the message as it was. -/
def LeftAsItWas (env : Env) (message : HttpMessage) : Prop :=
  (message.slices env).1 = .error invalidBuffer → AsItWas env message (message.slices env).2

/-- No call that throws leaves the message as it was: this holds exactly of messages whose values
have been recorded before, or that have no value that reaches past the end on their walk. -/
theorem leftAsItWas_iff (env : Env) (message : HttpMessage) :
    LeftAsItWas env message ↔
      message.sliceStarts ≠ [] ∨ ¬ RunsShort env message.payload.bytes := by
  rw [LeftAsItWas, HttpMessage.slices_eq_invalidBuffer_iff]
  constructor
  · intro kept
    by_contra bad
    obtain ⟨starts, short⟩ := not_or.mp bad
    obtain ⟨recorded, returned, _⟩ :=
      HttpMessage.slices_again (not_not.mp starts) (not_not.mp short)
    obtain ⟨fault, thrown, _⟩ := (kept ⟨not_not.mp starts, not_not.mp short⟩).throws [] .slices
    have same : Look.slices.result env (Look.afterAll env (message.slices env).2 []) =
        .ok (.inl recorded) := congrArg (Except.map Sum.inl) returned
    cases same.symm.trans thrown
  · rintro (recorded | fits) ⟨starts, short⟩
    · exact absurd starts recorded
    · exact absurd short fits

/-- An array that declares five bytes, of which there are two. -/
theorem not_forall_leftAsItWas :
    ¬ ∀ (env : Env) (message : HttpMessage), LeftAsItWas env message := by
  intro kept
  let env : Env := ⟨.measuring, false, false, [], false⟩
  let message : HttpMessage :=
    { HttpMessage.new env with payload := ⟨[0x02, 0x05], []⟩, payloadLength := 2 }
  have short : RunsShort env message.payload.bytes :=
    .here (List.cons_ne_nil _ _) ⟨5, rfl, by decide⟩
  have starts : message.sliceStarts = [] := rfl
  have asItWas := kept env message (HttpMessage.slices_eq_invalidBuffer_iff.mpr ⟨starts, short⟩)
  obtain ⟨recorded, returned, start, member, past⟩ := HttpMessage.slices_again starts short
  exact asItWas.inside [] recorded (congrArg (Except.map Sum.inl) returned) start member past

end ArangoCpp
