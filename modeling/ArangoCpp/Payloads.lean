/-
This file says what `slices` finds in a payload: in one that came from anywhere, and in one that
was put together from values and buffers by the two forms of `addVPack`.

The loop of `slices` trusts the length that a value declares about itself only as far as not to
leave the payload. What it returns partitions the payload; but a value that declares no length
holds it forever. A buffer that is moved into a message replaces the payload while its length is
added to the length kept beside it, so that the two agree only while nothing had been added.
-/

import ArangoCpp.Fronts
import ArangoCpp.Layout
import Mathlib.Algebra.Ring.Nat

namespace ArangoCpp

variable {env : Env}

/-! ### Byte ranges -/

/-- The values that begin at these places, with ranges of these sizes, partition the payload. Every
range is as long as its value declares, and not empty; it begins where those before it end, and
together they are as long as the payload. -/
structure Partitions (env : Env) (sizes : List Nat) (payload : Bytes) (starts : List Bytes) :
    Prop where
  declared : starts.map env.vpack.byteSize = sizes.map .ok
  positive : ∀ size ∈ sizes, 0 < size
  placed : starts = (List.range sizes.length).map fun index => payload.drop (sizes.take index).sum
  total : sizes.sum = payload.length

namespace Partitions

theorem nil : Partitions env [] [] [] := by
  constructor
  · rfl
  · exact fun size listed => absurd listed List.not_mem_nil
  · rfl
  · rfl

theorem cons {payload : Bytes} {size : Nat} {sizes : List Nat} {starts : List Bytes}
    (declared : env.vpack.byteSize payload = .ok size) (moves : 0 < size)
    (fits : size ≤ payload.length)
    (partitions : Partitions env sizes (payload.drop size) starts) :
    Partitions env (size :: sizes) payload (payload :: starts) where
  declared := by rw [List.map_cons, List.map_cons, declared, partitions.declared]
  positive := List.forall_mem_cons.mpr ⟨moves, partitions.positive⟩
  placed := by
    rw [List.length_cons, List.range_succ_eq_map, List.map_cons, List.map_map]
    congr 1
    rw [partitions.placed]
    congr 1
    funext index
    show (payload.drop size).drop (sizes.take index).sum =
      payload.drop ((size :: sizes).take (index + 1)).sum
    rw [List.take_succ_cons, List.sum_cons, List.drop_drop]
  total := by
    rw [List.sum_cons, partitions.total, List.length_drop]
    omega

end Partitions

namespace HttpMessage

/-- When the loop of `slices` comes to the end, what it found partitions what it went over. -/
theorem slicesLoop_partitions {fuel : Nat} {cursor : Bytes} {found : List Bytes}
    (ended : (slicesLoop env fuel cursor found).2 = .ok ()) :
    ∃ sizes starts, (slicesLoop env fuel cursor found).1 = found ++ starts ∧
      Partitions env sizes cursor starts := by
  induction fuel generalizing cursor found with
  | zero => cases ended
  | succ fuel inductionHypothesis =>
    rw [slicesLoop] at ended ⊢
    by_cases none : cursor = []
    · rw [if_pos none, none]
      exact ⟨[], [], (List.append_nil _).symm, .nil⟩
    · rw [if_neg none] at ended ⊢
      dsimp only at ended ⊢
      cases declared : env.vpack.byteSize cursor with
      | error exception =>
        rw [declared] at ended
        cases ended
      | ok size =>
        rw [declared] at ended
        dsimp only at ended ⊢
        by_cases short : cursor.length < size
        · rw [if_pos short] at ended
          cases ended
        · rw [if_neg short] at ended ⊢
          have moves : 0 < size := by
            by_contra still
            rw [Nat.eq_zero_of_not_pos still] at declared ended
            rw [List.drop_zero, slicesLoop_still none declared] at ended
            cases ended
          obtain ⟨sizes, starts, same, partitions⟩ := inductionHypothesis ended
          refine ⟨size :: sizes, cursor :: starts, ?_, ?_⟩
          · rw [same, List.append_assoc]
            rfl
          · exact .cons declared moves (Nat.not_lt.mp short) partitions

/-- What `slices` returns partitions the payload. -/
theorem slices_partitions {message : HttpMessage} (starts : message.sliceStarts = [])
    {found : List Bytes} (sliced : (message.slices env).1 = .ok found) :
    ∃ sizes, Partitions env sizes message.payload.bytes found := by
  rw [HttpMessage.slices, if_pos starts] at sliced
  dsimp only at sliced
  cases ended : (slicesLoop env (message.payload.bytes.length + 1) message.payload.bytes []).2 with
  | error fault =>
    rw [ended] at sliced
    cases sliced
  | ok _ =>
    obtain ⟨sizes, all, same, partitions⟩ := slicesLoop_partitions ended
    rw [ended, same] at sliced
    cases sliced
    exact ⟨sizes, partitions⟩

/-- A buffer becomes the payload of a message that has none. -/
theorem addVPackBuffer_of_fresh {message : HttpMessage} (fresh : message.payloadLength = 0)
    (buffer : Buffer) :
    message.addVPackBuffer buffer = .ok { message with
      payload := buffer, payloadLength := buffer.bytes.length, sliceStarts := [] } := by
  have resets : buffer.resetTo buffer.bytes.length = .ok buffer := by
    rw [Buffer.resetTo, if_pos (by rw [List.length_append]; omega), List.take_left, List.drop_left]
  rw [addVPackBuffer, fresh, Nat.zero_add, resets]
  rfl

/-- `slices` throws, or it returns values whose byte ranges partition the payload. -/
def CutsOrThrows (env : Env) (payload : Bytes) (message : HttpMessage) : Prop :=
  (∃ fault, (message.slices env).1 = .error fault ∧ fault.Thrown) ∨
    ∃ starts sizes, (message.slices env).1 = .ok starts ∧ Partitions env sizes payload starts

/-- A payload that came from anywhere is cut, or an exception is thrown, unless the walk over its
values gets to one that declares no length. -/
theorem new_addVPackBuffer_cutsOrThrows_iff (env : Env) (buffer : Buffer) :
    ∃ message, (HttpMessage.new env).addVPackBuffer buffer = .ok message ∧
      (message.CutsOrThrows env buffer.bytes ↔ ¬ Stalls env buffer.bytes) := by
  have fresh : (HttpMessage.new env).payloadLength = 0 := by
    unfold HttpMessage.new HttpMessage.setContentType
    split <;> rfl
  refine ⟨_, addVPackBuffer_of_fresh fresh buffer, ?_⟩
  generalize installed : ({ HttpMessage.new env with
    payload := buffer, payloadLength := buffer.bytes.length, sliceStarts := [] } : HttpMessage) =
      message
  have starts : message.sliceStarts = [] := by rw [← installed]
  have payload : message.payload.bytes = buffer.bytes := by rw [← installed]
  rw [← payload, ← slices_stalls_iff starts]
  constructor
  · intro sound stuck
    obtain ⟨fault, raised, bad⟩ := stuck
    cases sound with
    | inl thrown =>
      obtain ⟨other, same, thrown⟩ := thrown
      cases raised.symm.trans same
      exact bad thrown
    | inr cut =>
      obtain ⟨_, _, returned, _⟩ := cut
      cases raised.symm.trans returned
  · intro moves
    cases sliced : (message.slices env).1 with
    | error fault =>
      refine Or.inl ⟨fault, sliced, ?_⟩
      by_contra bad
      exact moves ⟨fault, sliced, bad⟩
    | ok found =>
      obtain ⟨sizes, partitions⟩ := slices_partitions starts sliced
      exact Or.inr ⟨found, sizes, sliced, partitions⟩

end HttpMessage

/-- A library that takes the length of a value with the head byte 2 from the byte behind it. -/
def Velocypack.measuring : Velocypack :=
  { simple [] with byteSize := fun bytes => match bytes with
      | 0x02 :: size :: _ => .ok size.toNat
      | _ => (simple []).byteSize bytes }

theorem not_forall_cutsOrThrows : ¬ ∀ (env : Env) (buffer : Buffer),
    ∃ message, (HttpMessage.new env).addVPackBuffer buffer = .ok message ∧
      message.CutsOrThrows env buffer.bytes := by
  intro sound
  have stalls : Stalls ⟨.measuring, false, false, [], false⟩ [0x02, 0x00] :=
    .here (List.cons_ne_nil _ _) rfl
  have fresh : (HttpMessage.new ⟨.measuring, false, false, [], false⟩).payloadLength = 0 := rfl
  obtain ⟨message, added, cut⟩ := sound ⟨.measuring, false, false, [], false⟩ ⟨[0x02, 0x00], []⟩
  rw [HttpMessage.addVPackBuffer_of_fresh fresh] at added
  have starts : message.sliceStarts = [] := by
    cases added
    rfl
  have payload : message.payload.bytes = [0x02, 0x00] := by
    cases added
    rfl
  obtain ⟨fault, raised, bad⟩ := (HttpMessage.slices_stalls_iff starts).mpr (payload ▸ stalls)
  cases cut with
  | inl thrown =>
    obtain ⟨other, same, thrown⟩ := thrown
    cases raised.symm.trans same
    exact bad thrown
  | inr cut =>
    obtain ⟨_, _, returned, _⟩ := cut
    cases raised.symm.trans returned

/-! ### Messages that are put together -/

/-- The bytes encode the value, whatever follows them. -/
structure Encodes (env : Env) (bytes : Bytes) (value : Slice) : Prop where
  nonempty : bytes ≠ []
  sliceAt : ∀ rest, env.vpack.sliceAt (bytes ++ rest) = value
  byteSize : ∀ rest, env.vpack.byteSize (bytes ++ rest) = .ok bytes.length

/-- A value together with bytes that encode it. -/
structure Encoded (env : Env) where
  bytes : Bytes
  value : Slice
  encodes : Encodes env bytes value

/-- A value as it is built. -/
def Encoded.built (lawful : env.vpack.Lawful) {value : Slice} (represented : value.Represented) :
    Encoded env where
  bytes := env.vpack.build value
  value := value
  encodes := ⟨lawful.build_ne_nil value represented, lawful.sliceAt_build value represented,
    lawful.byteSize_build value represented⟩

/-- A call on a message: the bytes of a value are added, a buffer that holds values is moved in, or
the values are asked for. -/
inductive MessageCall (env : Env) : Type where
  | addVPack (part : Encoded env)
  | addVPackBuffer (contents : List (Encoded env)) (spare : Bytes)
  | slices

namespace MessageCall

/-- What a call makes of a message. -/
def perform (message : HttpMessage) : MessageCall env → Except Fault HttpMessage
  | addVPack part => message.addVPack env part.bytes
  | addVPackBuffer contents spare => message.addVPackBuffer ⟨contents.flatMap Encoded.bytes, spare⟩
  | slices => (message.slices env).1.map fun _ => (message.slices env).2

/-- The values that a call adds. -/
def values : MessageCall env → List Slice
  | addVPack part => [part.value]
  | addVPackBuffer contents _ => contents.map Encoded.value
  | slices => []

/-- The bytes that a call adds. -/
def bytes : MessageCall env → Bytes
  | addVPack part => part.bytes
  | addVPackBuffer contents _ => contents.flatMap Encoded.bytes
  | slices => []

/-- A buffer is moved in only where nothing has been added. -/
def Proper (message : HttpMessage) : MessageCall env → Prop
  | addVPackBuffer _ _ => message.payloadSize = 0
  | _ => True

/-- The encoded values that a call adds. -/
def parts : MessageCall env → List (Encoded env)
  | addVPack part => [part]
  | addVPackBuffer contents _ => contents
  | slices => []

theorem map_value_parts (call : MessageCall env) :
    call.parts.map Encoded.value = call.values := by
  cases call <;> rfl

theorem flatMap_bytes_parts (call : MessageCall env) :
    call.parts.flatMap Encoded.bytes = call.bytes := by
  cases call with
  | addVPack part => exact List.append_nil _
  | addVPackBuffer contents spare => rfl
  | slices => rfl

end MessageCall

/-- The message after a sequence of calls on a new one. -/
def assemble (env : Env) (calls : List (MessageCall env)) : Except Fault HttpMessage :=
  calls.foldlM (fun message call => call.perform message) (HttpMessage.new env)

/-- The length that is kept is the length of the payload, and the payload and the values found in
it are what the calls have added, in order. -/
structure HttpMessage.Keeps (message : HttpMessage) (calls : List (MessageCall env)) : Prop where
  size : message.payloadSize = message.payload.bytes.length
  bytes : message.payload.bytes = calls.flatMap MessageCall.bytes
  values : ∃ starts, (message.slices env).1 = .ok starts ∧
    starts.map env.vpack.sliceAt = calls.flatMap MessageCall.values

/-- After every call the message keeps what has been added so far. -/
def KeepsValues (env : Env) (calls : List (MessageCall env)) : Prop :=
  ∀ before, before <+: calls → ∃ message, assemble env before = .ok message ∧ message.Keeps before

/-! ### What a call preserves -/

/-- Where the values begin. -/
def places : List (Encoded env) → List Bytes
  | [] => []
  | part :: parts => (part :: parts).flatMap Encoded.bytes :: places parts

theorem map_sliceAt_places (parts : List (Encoded env)) :
    (places parts).map env.vpack.sliceAt = parts.map Encoded.value := by
  induction parts with
  | nil => rfl
  | cons part parts inductionHypothesis =>
    rw [places, List.map_cons, List.map_cons, inductionHypothesis, List.flatMap_cons,
      part.encodes.sliceAt]

theorem flatMap_bytes_eq_nil_iff (parts : List (Encoded env)) :
    parts.flatMap Encoded.bytes = [] ↔ parts = [] := by
  cases parts with
  | nil => exact iff_of_true rfl rfl
  | cons part parts =>
    refine iff_of_false ?_ (List.cons_ne_nil _ _)
    rw [List.flatMap_cons, List.append_eq_nil_iff]
    exact fun both => part.encodes.nonempty both.1

/-- The loop of `slices` finds the values where they begin. -/
theorem HttpMessage.slicesLoop_places (parts : List (Encoded env)) (fuel : Nat)
    (enough : (parts.flatMap Encoded.bytes).length < fuel) (found : List Bytes) :
    slicesLoop env fuel (parts.flatMap Encoded.bytes) found = (found ++ places parts, .ok ()) := by
  induction parts generalizing fuel found with
  | nil =>
    cases fuel with
    | zero => exact absurd enough (Nat.not_lt_zero _)
    | succ fuel => exact congrArg (·, _) (List.append_nil _).symm
  | cons part parts inductionHypothesis =>
    have positive : 0 < part.bytes.length := List.length_pos_iff.mpr part.encodes.nonempty
    cases fuel with
    | zero => exact absurd enough (Nat.not_lt_zero _)
    | succ fuel =>
      have nonempty : (part :: parts).flatMap Encoded.bytes ≠ [] := fun none =>
        List.cons_ne_nil _ _ ((flatMap_bytes_eq_nil_iff _).mp none)
      rw [slicesLoop, if_neg nonempty]
      dsimp only
      rw [List.flatMap_cons, List.length_append] at enough
      have room : ¬ (part.bytes ++ parts.flatMap Encoded.bytes).length < part.bytes.length := by
        rw [List.length_append]
        omega
      rw [List.flatMap_cons, part.encodes.byteSize]
      dsimp only
      rw [if_neg room, List.drop_left, inductionHypothesis fuel (by omega), places,
        List.flatMap_cons, List.append_assoc]
      rfl

/-- The message is put together from these values. -/
structure HttpMessage.Assembled (parts : List (Encoded env)) (message : HttpMessage) : Prop where
  size : message.payloadLength = message.payload.bytes.length
  bytes : message.payload.bytes = parts.flatMap Encoded.bytes
  starts : message.sliceStarts = [] ∨ message.sliceStarts = places parts

namespace HttpMessage.Assembled

variable {parts : List (Encoded env)} {message : HttpMessage}

theorem slices_eq (assembled : message.Assembled parts) :
    message.slices env = (.ok (places parts), { message with sliceStarts := places parts }) := by
  have loop := HttpMessage.slicesLoop_places parts (message.payload.bytes.length + 1)
    (by rw [assembled.bytes]; exact Nat.lt_succ_self _) []
  rw [HttpMessage.slices]
  by_cases empty : message.sliceStarts = []
  · rw [if_pos empty, assembled.bytes] at *
    dsimp only
    rw [loop]
    rfl
  · rw [if_neg empty]
    have cached := assembled.starts.resolve_left empty
    rw [← cached]

theorem addVPack (assembled : message.Assembled parts) (part : Encoded env) :
    ∃ next, message.addVPack env part.bytes = .ok next ∧ next.Assembled (parts ++ [part]) := by
  have reset := @HttpMessage.mem_append_resetTo env message.payload part.bytes
  rw [HttpMessage.addVPack, assembled.size, reset]
  refine ⟨_, rfl, ?_⟩
  constructor
  · rw [Buffer.append, List.length_append]
  · rw [Buffer.append, assembled.bytes, List.flatMap_append, List.flatMap_singleton]
  · exact Or.inl rfl

theorem addVPackBuffer (assembled : message.Assembled parts) (fresh : message.payloadSize = 0)
    (contents : List (Encoded env)) (spare : Bytes) :
    ∃ next, message.addVPackBuffer ⟨contents.flatMap Encoded.bytes, spare⟩ = .ok next ∧
      next.Assembled (parts ++ contents) := by
  have none : parts = [] := by
    rw [← flatMap_bytes_eq_nil_iff, ← assembled.bytes]
    exact List.eq_nil_of_length_eq_zero (assembled.size.symm.trans fresh)
  refine ⟨_, HttpMessage.addVPackBuffer_of_fresh fresh _, ?_⟩
  rw [none]
  constructor
  · rfl
  · rfl
  · exact Or.inl rfl

theorem slices (assembled : message.Assembled parts) :
    ((message.slices env).2).Assembled parts := by
  rw [assembled.slices_eq]
  exact ⟨assembled.size, assembled.bytes, Or.inr rfl⟩

/-- A proper call adds its values. -/
theorem perform (assembled : message.Assembled parts) (call : MessageCall env)
    (proper : call.Proper message) :
    ∃ next, call.perform message = .ok next ∧ next.Assembled (parts ++ call.parts) := by
  cases call with
  | addVPack part => exact assembled.addVPack part
  | addVPackBuffer contents spare => exact assembled.addVPackBuffer proper contents spare
  | slices =>
    refine ⟨(message.slices env).2, ?_, ?_⟩
    · rw [MessageCall.perform, assembled.slices_eq]
      rfl
    · rw [MessageCall.parts, List.append_nil]
      exact assembled.slices

end HttpMessage.Assembled

/-- After proper calls the message is put together from what they have added. -/
theorem assemble_assembled (calls : List (MessageCall env))
    (proper : ∀ before call after, calls = before ++ call :: after →
      ∀ message, assemble env before = .ok message → call.Proper message) :
    ∃ message, assemble env calls = .ok message ∧
      message.Assembled (calls.flatMap MessageCall.parts) := by
  induction calls using List.reverseRecOn with
  | nil =>
    refine ⟨HttpMessage.new env, rfl, ?_⟩
    unfold HttpMessage.new HttpMessage.setContentType
    split <;> exact ⟨rfl, rfl, Or.inl rfl⟩
  | append_singleton calls call inductionHypothesis =>
    have earlier : ∀ before other after, calls = before ++ other :: after →
        ∀ message, assemble env before = .ok message → other.Proper message := by
      intro before other after same
      exact proper before other (after ++ [call]) (by rw [same]; simp)
    obtain ⟨message, run, assembled⟩ := inductionHypothesis earlier
    obtain ⟨next, performed, extended⟩ :=
      assembled.perform call (proper calls call [] rfl message run)
    refine ⟨next, ?_, ?_⟩
    · rw [assemble, List.foldlM_append, ← assemble, run]
      show (call.perform message >>= pure) = _
      rw [performed]
      rfl
    · rw [List.flatMap_append, List.flatMap_singleton]
      exact extended

/-- A message keeps every value when buffers are moved in only before anything is added. -/
theorem keepsValues_of_proper (calls : List (MessageCall env))
    (proper : ∀ before call after, calls = before ++ call :: after →
      ∀ message, assemble env before = .ok message → call.Proper message) :
    KeepsValues env calls := by
  intro before initial
  obtain ⟨rest, same⟩ := initial
  have earlier : ∀ first call after, before = first ++ call :: after →
      ∀ message, assemble env first = .ok message → call.Proper message := by
    intro first call after here
    exact proper first call (after ++ rest) (by rw [← same, here]; simp)
  obtain ⟨message, run, assembled⟩ := assemble_assembled before earlier
  refine ⟨message, run, ?_⟩
  constructor
  · exact assembled.size
  · rw [assembled.bytes, List.flatMap_assoc]
    simp only [MessageCall.flatMap_bytes_parts]
  · refine ⟨_, congrArg Prod.fst assembled.slices_eq, ?_⟩
    rw [map_sliceAt_places, List.map_flatMap]
    simp only [MessageCall.map_value_parts]

/-- A buffer is moved in, a value is added, and the values are asked for. -/
theorem keepsValues_buffer_value_slices : KeepsValues ⟨.simple [], false, false, [], false⟩
    [.addVPackBuffer [.built (Velocypack.simple_lawful []) .null] [],
      .addVPack (.built (Velocypack.simple_lawful []) (.bool true)), .slices] := by
  refine keepsValues_of_proper _ ?_
  intro before call after same message run
  match before with
  | [] =>
    cases same
    cases run
    rfl
  | [_] =>
    cases same
    trivial
  | [_, _] =>
    cases same
    trivial
  | _ :: _ :: _ :: before => simp at same

theorem not_forall_keepsValues :
    ¬ ∀ env : Env, env.vpack.Lawful → ∀ calls, KeepsValues env calls := by
  intro keep
  obtain ⟨message, run, keeps⟩ := keep ⟨.simple [], false, false, [], false⟩
    (Velocypack.simple_lawful []) [.addVPack (.built (Velocypack.simple_lawful []) .null),
      .addVPackBuffer [.built (Velocypack.simple_lawful []) (.bool false)] [0x00]] _ List.prefix_rfl
  have replaced : message.payload.bytes = [0x19, 0x00] := by
    cases run
    rfl
  have kept : message.payload.bytes = [0x18, 0x19] := keeps.bytes
  exact absurd (replaced.symm.trans kept) (by decide)

end ArangoCpp
