/-
This file lets any number of clients converse with one peer at the same time. It knows nothing
of what is said, of what the clients call for, and of the state of the peer.

A client is idle, or busy with a call, of whose program a part is left. In one step some client
calls, or has its next question answered, or is returned the result; whose turn it is is not
said. What is seen from outside are the calls and the results.

Against this stands an object that serves each call in one instant, somewhere between the call
and the return, as a description of the call says. A program is `Atomic` when it does what is
described at one of its questions, or when it ends, and changes nothing before and after that. It
may rely on what the other clients leave alone, and has to guarantee what they rely on. When the
clients are in such an `Accord`, every history of theirs is a history of the object, however
their questions are mixed: the calls are linearizable. The served calls, in the order in which
they are served, are then calls that are made one after the other.
-/

import ArangoCpp.Dialogue

/-! ### Systems and what is seen of them -/

/-- A system takes steps one after the other. The events of a run are those of its steps. -/
inductive Unfolds {World Event : Type} (step : World → List Event → World → Prop) :
    World → List Event → World → Prop where
  | refl (world : World) : Unfolds step world [] world
  | cons {first second third : World} {events more : List Event}
      (taken : step first events second) (later : Unfolds step second more third) :
      Unfolds step first (events ++ more) third

namespace Unfolds

variable {World Other Event : Type} {step : World → List Event → World → Prop}
  {first second third : World} {events more : List Event}

theorem single (taken : step first events second) : Unfolds step first events second := by
  have run := Unfolds.cons taken (.refl second)
  rwa [List.append_nil] at run

theorem trans (run : Unfolds step first events second) (later : Unfolds step second more third) :
    Unfolds step first (events ++ more) third := by
  induction run with
  | refl world => exact later
  | cons taken _ inductionHypothesis =>
    rw [List.append_assoc]
    exact .cons taken (inductionHypothesis later)

/-- What holds at first and is kept by every step holds throughout, also of what has been seen. -/
theorem invariant (holds : List Event → World → Prop)
    (keeps : ∀ seen world events after, holds seen world → step world events after →
      holds (seen ++ events) after)
    (run : Unfolds step first events second) (start : holds [] first) : holds events second := by
  have from_ : ∀ seen, holds seen first → holds (seen ++ events) second := by
    clear start
    induction run with
    | refl world =>
      intro seen held
      rw [List.append_nil]
      exact held
    | cons taken _ inductionHypothesis =>
      intro seen held
      rw [← List.append_assoc]
      exact inductionHypothesis _ (keeps _ _ _ _ held taken)
  exact from_ [] start

/-- When every step of a system is followed by steps of another one that show the same, every run
is followed by a run. -/
theorem simulates {other : Other → List Event → Other → Prop} {related : World → Other → Prop}
    (each : ∀ world events after partner, related world partner → step world events after →
      ∃ next, Unfolds other partner events next ∧ related after next)
    (run : Unfolds step first events second) {partner : Other} (start : related first partner) :
    ∃ next, Unfolds other partner events next ∧ related second next := by
  induction run generalizing partner with
  | refl world => exact ⟨partner, .refl partner, start⟩
  | cons taken _ inductionHypothesis =>
    obtain ⟨between, followed, kept⟩ := each _ _ _ _ start taken
    obtain ⟨next, rest, final⟩ := inductionHypothesis kept
    exact ⟨next, followed.trans rest, final⟩

end Unfolds

namespace Dialogue

variable {Client Question Reply Fault Value State Abstract Call Answer : Type}

/-! ### Clients that share a peer -/

/-- What a client does: nothing, or a call, of whose program a part is left. -/
inductive Activity (Question Reply Fault Value Call : Type) : Type where
  | idle
  | busy (call : Call) (rest : Dialogue Question Reply Fault Value)

/-- What is seen of the clients. -/
inductive Event (Client Fault Value Call : Type) : Type where
  | called (client : Client) (call : Call)
  | returned (client : Client) (result : Except Fault Value)

/-- The clients and the peer that they share. -/
structure Crowd (Client Question Reply Fault Value State Call : Type) where
  activity : Client → Activity Question Reply Fault Value Call
  state : State

/-- Nobody has called yet. -/
def Crowd.start (state : State) : Crowd Client Question Reply Fault Value State Call :=
  ⟨fun _ => .idle, state⟩

variable [DecidableEq Client]

/-- Some client calls what it may, or is answered a question, or is returned the result. -/
inductive Crowd.Step (may : Client → Call → Prop)
    (program : Call → Dialogue Question Reply Fault Value)
    (peer : Client → State → Question → Reply → State → Prop) :
    Crowd Client Question Reply Fault Value State Call → List (Event Client Fault Value Call) →
      Crowd Client Question Reply Fault Value State Call → Prop where
  | called {crowd : Crowd Client Question Reply Fault Value State Call} {client : Client}
      {call : Call} (idle : crowd.activity client = .idle) (allowed : may client call) :
      Step may program peer crowd [.called client call]
        ⟨Function.update crowd.activity client (.busy call (program call)), crowd.state⟩
  | answered {crowd : Crowd Client Question Reply Fault Value State Call} {client : Client}
      {call : Call} {question : Question} {next : Reply → Dialogue Question Reply Fault Value}
      {reply : Reply} {after : State}
      (busy : crowd.activity client = .busy call (ask question next))
      (answers : peer client crowd.state question reply after) :
      Step may program peer crowd []
        ⟨Function.update crowd.activity client (.busy call (next reply)), after⟩
  | returned {crowd : Crowd Client Question Reply Fault Value State Call} {client : Client}
      {call : Call} {result : Except Fault Value}
      (ended : crowd.activity client = .busy call (ofExcept result)) :
      Step may program peer crowd [.returned client result]
        ⟨Function.update crowd.activity client .idle, crowd.state⟩

/-! ### An object that serves each call in one instant -/

/-- How far the call of a client has got. -/
inductive Standing (Call Answer : Type) : Type where
  | idle
  | pending (call : Call)
  | served (call : Call) (answer : Answer)

/-- An object with the calls that it has served, in order. -/
structure Object (Client Abstract Call Answer : Type) where
  standing : Client → Standing Call Answer
  state : Abstract
  log : List (Client × Call × Answer)

def Object.start (state : Abstract) : Object Client Abstract Call Answer :=
  ⟨fun _ => .idle, state, []⟩

/-- Some client calls, or is served, or is returned what agrees with the answer. -/
inductive Object.Step (does : Call → Abstract → Answer → Abstract → Prop)
    (agrees : Answer → Except Fault Value → Prop) :
    Object Client Abstract Call Answer → List (Event Client Fault Value Call) →
      Object Client Abstract Call Answer → Prop where
  | called {object : Object Client Abstract Call Answer} {client : Client} (call : Call)
      (idle : object.standing client = .idle) :
      Step does agrees object [.called client call]
        ⟨Function.update object.standing client (.pending call), object.state, object.log⟩
  | served {object : Object Client Abstract Call Answer} {client : Client} {call : Call}
      {answer : Answer} {after : Abstract} (pending : object.standing client = .pending call)
      (serves : does call object.state answer after) :
      Step does agrees object []
        ⟨Function.update object.standing client (.served call answer), after,
          object.log ++ [(client, call, answer)]⟩
  | returned {object : Object Client Abstract Call Answer} {client : Client} {call : Call}
      {answer : Answer} {result : Except Fault Value}
      (served : object.standing client = .served call answer) (agreed : agrees answer result) :
      Step does agrees object [.returned client result]
        ⟨Function.update object.standing client .idle, object.state, object.log⟩

/-- A call that is served just before it returns. -/
theorem unfolds_served_returned {does : Call → Abstract → Answer → Abstract → Prop}
    {agrees : Answer → Except Fault Value → Prop} {object : Object Client Abstract Call Answer}
    {client : Client} {call : Call} {answer : Answer} {after : Abstract}
    {result : Except Fault Value} (pending : object.standing client = .pending call)
    (serves : does call object.state answer after) (agreed : agrees answer result) :
    Unfolds (Object.Step does agrees) object [.returned client result]
      ⟨Function.update object.standing client .idle, after,
        object.log ++ [(client, call, answer)]⟩ := by
  have first : Object.Step does agrees object ([] : List (Event Client Fault Value Call)) _ :=
    .served pending serves
  have answered : Function.update object.standing client (.served call answer) client =
    .served call answer := Function.update_self _ _ _
  have second : Object.Step does agrees
      ⟨Function.update object.standing client (.served call answer), after,
        object.log ++ [(client, call, answer)]⟩ [.returned client result] _ :=
    .returned answered agreed
  rw [Function.update_idem] at second
  exact (Unfolds.single first).trans (.single second)

/-! ### Programs that take effect in one instant -/

section

variable (peer : State → Question → Reply → State → Prop) (view : State → Abstract)
  (rely guarantee : State → State → Prop)

/-- What is left of a program changes nothing of what is viewed, and ends as it should. -/
def Settled (agrees : Except Fault Value → Prop) :
    Dialogue Question Reply Fault Value → State → Prop
  | done value, _ => agrees (.ok value)
  | raise fault, _ => agrees (.error fault)
  | ask question next, state => ∀ now reply after, rely state now → peer now question reply after →
      guarantee now after ∧ view after = view now ∧ (next reply).Settled agrees after
  | cut, _ => True

/-- A program does what a description says, in the instant in which one of its questions is
answered, or when it ends; before and after that it changes nothing. From one question to the next
the others change the state as the program can bear, and so does the program. -/
def Atomic (does : Abstract → Answer → Abstract → Prop)
    (agrees : Answer → Except Fault Value → Prop) :
    Dialogue Question Reply Fault Value → State → Prop
  | done value, state => ∀ now, rely state now →
      ∃ answer, does (view now) answer (view now) ∧ agrees answer (.ok value)
  | raise fault, state => ∀ now, rely state now →
      ∃ answer, does (view now) answer (view now) ∧ agrees answer (.error fault)
  | ask question next, state => ∀ now reply after, rely state now → peer now question reply after →
      guarantee now after ∧ ((∃ answer, does (view now) answer (view after) ∧
          (next reply).Settled peer view rely guarantee (agrees answer) after) ∨
        (view after = view now ∧ (next reply).Atomic does agrees after))
  | cut, _ => True

end

section

variable {peer : State → Question → Reply → State → Prop} {view : State → Abstract}
  {rely guarantee : State → State → Prop} {state : State}

theorem settled_ofExcept_iff {agrees : Except Fault Value → Prop} {result : Except Fault Value} :
    (ofExcept result : Dialogue Question Reply Fault Value).Settled peer view rely guarantee agrees
      state ↔ agrees result := by
  cases result <;> exact Iff.rfl

variable {does : Abstract → Answer → Abstract → Prop} {agrees : Answer → Except Fault Value → Prop}

theorem atomic_ofExcept_iff {result : Except Fault Value} :
    (ofExcept result : Dialogue Question Reply Fault Value).Atomic peer view rely guarantee does
      agrees state ↔
      ∀ now, rely state now → ∃ answer, does (view now) answer (view now) ∧
        agrees answer result := by
  cases result <;> exact Iff.rfl

/-- A program that asks at most once has ended, or ends when its question is answered. -/
theorem AtMost.plays_cases {program : Dialogue Question Reply Fault Value}
    (few : program.AtMost 1) {asked : Question → Prop} (asks : program.Asks asked) {final : State}
    {result : Except Fault Value} (plays : Plays peer program state result final) :
    (final = state ∧ program = ofExcept result) ∨
      ∃ question reply next, program = ask question next ∧ asked question ∧
        peer state question reply final ∧ next reply = ofExcept result := by
  cases plays with
  | done value => exact Or.inl ⟨rfl, rfl⟩
  | raise fault => exact Or.inl ⟨rfl, rfl⟩
  | @ask question next reply _ _ _ _ answers rest =>
    have silent := few reply
    refine Or.inr ⟨question, reply, next, rfl, asks.1, ?_⟩
    cases left : next reply with
    | done value =>
      rw [left] at rest
      obtain ⟨rfl, rfl⟩ := plays_done_iff.mp rest
      exact ⟨answers, rfl⟩
    | raise fault =>
      rw [left] at rest
      obtain ⟨rfl, rfl⟩ := plays_raise_iff.mp rest
      exact ⟨answers, rfl⟩
    | cut =>
      rw [left] at rest
      cases rest
    | ask question next => exact absurd silent (by rw [left]; exact id)

/-- A program that asks at most once is atomic when it does what is said with nobody else there. -/
theorem atomic_of_plays {program : Dialogue Question Reply Fault Value} (few : program.AtMost 1)
    (complete : program.Complete)
    (each : ∀ state result final, Plays peer program state result final →
      guarantee state final ∧
        ∃ answer, does (view state) answer (view final) ∧ agrees answer result) :
    program.Atomic peer view rely guarantee does agrees state := by
  cases program with
  | done value => exact fun now _ => (each now _ now (.done value now)).2
  | raise fault => exact fun now _ => (each now _ now (.raise fault now)).2
  | cut => trivial
  | ask question next =>
    intro now reply after _ answers
    have ends : ∃ result, next reply = ofExcept result := by
      have silent := few reply
      have ending := complete reply
      cases rest : next reply with
      | done value => exact ⟨.ok value, rfl⟩
      | raise fault => exact ⟨.error fault, rfl⟩
      | cut => exact absurd ending (by rw [rest]; exact id)
      | ask question next => exact absurd silent (by rw [rest]; exact id)
    obtain ⟨result, rest⟩ := ends
    obtain ⟨guaranteed, answer, done, agreed⟩ := each now result after
      (.ask answers (by rw [rest]; exact plays_ofExcept_iff.mpr ⟨rfl, rfl⟩))
    refine ⟨guaranteed, Or.inl ⟨answer, done, ?_⟩⟩
    rw [rest]
    exact settled_ofExcept_iff.mpr agreed

theorem Settled.mono {ends endsToo : Except Fault Value → Prop}
    (implies : ∀ result, ends result → endsToo result)
    {program : Dialogue Question Reply Fault Value}
    (settled : program.Settled peer view rely guarantee ends state) :
    program.Settled peer view rely guarantee endsToo state := by
  induction program generalizing state with
  | done value => exact implies _ settled
  | raise fault => exact implies _ settled
  | cut => trivial
  | ask question next inductionHypothesis =>
    intro now reply after borne answers
    obtain ⟨guaranteed, same, later⟩ := settled now reply after borne answers
    exact ⟨guaranteed, same, inductionHypothesis reply later⟩

/-- What a program does may be described in other words. -/
theorem Atomic.mono {Other : Type} {doesToo : Abstract → Other → Abstract → Prop}
    {agreesToo : Other → Except Fault Value → Prop}
    (implies : ∀ before answer after, does before answer after → ∃ other,
      doesToo before other after ∧ ∀ result, agrees answer result → agreesToo other result)
    {program : Dialogue Question Reply Fault Value}
    (atomic : program.Atomic peer view rely guarantee does agrees state) :
    program.Atomic peer view rely guarantee doesToo agreesToo state := by
  induction program generalizing state with
  | done value =>
    intro now borne
    obtain ⟨answer, done, agreed⟩ := atomic now borne
    obtain ⟨other, doneToo, agreedToo⟩ := implies _ _ _ done
    exact ⟨other, doneToo, agreedToo _ agreed⟩
  | raise fault =>
    intro now borne
    obtain ⟨answer, done, agreed⟩ := atomic now borne
    obtain ⟨other, doneToo, agreedToo⟩ := implies _ _ _ done
    exact ⟨other, doneToo, agreedToo _ agreed⟩
  | cut => trivial
  | ask question next inductionHypothesis =>
    intro now reply after borne answers
    obtain ⟨guaranteed, ⟨answer, done, settled⟩ | ⟨same, later⟩⟩ :=
      atomic now reply after borne answers
    · obtain ⟨other, doneToo, agreedToo⟩ := implies _ _ _ done
      exact ⟨guaranteed, Or.inl ⟨other, doneToo, settled.mono agreedToo⟩⟩
    · exact ⟨guaranteed, Or.inr ⟨same, inductionHypothesis reply later⟩⟩

/-- What is made of the result of a program makes no difference to the state. -/
theorem Settled.bind_ofExcept {Result : Type} {compute : Value → Except Fault Result}
    {ends : Except Fault Value → Prop} {endsToo : Except Fault Result → Prop}
    (each : ∀ result, ends result → endsToo (result >>= compute))
    {program : Dialogue Question Reply Fault Value}
    (settled : program.Settled peer view rely guarantee ends state) :
    (program.bind fun value => ofExcept (compute value)).Settled peer view rely guarantee endsToo
      state := by
  induction program generalizing state with
  | done value => exact settled_ofExcept_iff.mpr (each _ settled)
  | raise fault => exact each _ settled
  | cut => trivial
  | ask question next inductionHypothesis =>
    intro now reply after borne answers
    obtain ⟨guaranteed, same, later⟩ := settled now reply after borne answers
    exact ⟨guaranteed, same, inductionHypothesis reply later⟩

theorem Atomic.bind_ofExcept {Result : Type} {compute : Value → Except Fault Result}
    {agreesToo : Answer → Except Fault Result → Prop}
    (each : ∀ answer result, agrees answer result → agreesToo answer (result >>= compute))
    {program : Dialogue Question Reply Fault Value}
    (atomic : program.Atomic peer view rely guarantee does agrees state) :
    (program.bind fun value => ofExcept (compute value)).Atomic peer view rely guarantee does
      agreesToo state := by
  induction program generalizing state with
  | done value =>
    refine atomic_ofExcept_iff.mpr fun now borne => ?_
    obtain ⟨answer, done, agreed⟩ := atomic now borne
    exact ⟨answer, done, each answer _ agreed⟩
  | raise fault =>
    intro now borne
    obtain ⟨answer, done, agreed⟩ := atomic now borne
    exact ⟨answer, done, each answer _ agreed⟩
  | cut => trivial
  | ask question next inductionHypothesis =>
    intro now reply after borne answers
    obtain ⟨guaranteed, ⟨answer, done, settled⟩ | ⟨same, later⟩⟩ :=
      atomic now reply after borne answers
    · exact ⟨guaranteed, Or.inl ⟨answer, done, settled.bind_ofExcept (each answer)⟩⟩
    · exact ⟨guaranteed, Or.inr ⟨same, inductionHypothesis reply later⟩⟩

/-- Nor does a handler that asks nothing. -/
theorem Settled.rescue_ofExcept {handle : Fault → Except Fault Value}
    {ends endsToo : Except Fault Value → Prop}
    (each : ∀ result : Except Fault Value, ends result → endsToo (result.tryCatch handle))
    {program : Dialogue Question Reply Fault Value}
    (settled : program.Settled peer view rely guarantee ends state) :
    (program.rescue fun fault => ofExcept (handle fault)).Settled peer view rely guarantee endsToo
      state := by
  induction program generalizing state with
  | done value => exact each _ settled
  | raise fault => exact settled_ofExcept_iff.mpr (each _ settled)
  | cut => trivial
  | ask question next inductionHypothesis =>
    intro now reply after borne answers
    obtain ⟨guaranteed, same, later⟩ := settled now reply after borne answers
    exact ⟨guaranteed, same, inductionHypothesis reply later⟩

theorem Atomic.rescue_ofExcept {handle : Fault → Except Fault Value}
    {agreesToo : Answer → Except Fault Value → Prop}
    (each : ∀ answer (result : Except Fault Value), agrees answer result →
      agreesToo answer (result.tryCatch handle))
    {program : Dialogue Question Reply Fault Value}
    (atomic : program.Atomic peer view rely guarantee does agrees state) :
    (program.rescue fun fault => ofExcept (handle fault)).Atomic peer view rely guarantee does
      agreesToo state := by
  induction program generalizing state with
  | done value =>
    intro now borne
    obtain ⟨answer, done, agreed⟩ := atomic now borne
    exact ⟨answer, done, each answer _ agreed⟩
  | raise fault =>
    refine atomic_ofExcept_iff.mpr fun now borne => ?_
    obtain ⟨answer, done, agreed⟩ := atomic now borne
    exact ⟨answer, done, each answer _ agreed⟩
  | cut => trivial
  | ask question next inductionHypothesis =>
    intro now reply after borne answers
    obtain ⟨guaranteed, ⟨answer, done, settled⟩ | ⟨same, later⟩⟩ :=
      atomic now reply after borne answers
    · exact ⟨guaranteed, Or.inl ⟨answer, done, settled.rescue_ofExcept (each answer)⟩⟩
    · exact ⟨guaranteed, Or.inr ⟨same, inductionHypothesis reply later⟩⟩

/-- A peer whose state has the state of another one as a part, and which treats the questions that
are asked as the other one does. -/
structure Embeds {Whole AbstractToo : Type} (peer : State → Question → Reply → State → Prop)
    (view : State → Abstract) (rely guarantee : State → State → Prop)
    (does : Abstract → Answer → Abstract → Prop) (part : Whole → State) (asked : Question → Prop)
    (peerToo : Whole → Question → Reply → Whole → Prop) (viewToo : Whole → AbstractToo)
    (relyToo guaranteeToo : Whole → Whole → Prop)
    (doesToo : AbstractToo → Answer → AbstractToo → Prop) : Prop where
  answers : ∀ now question reply after, asked question → peerToo now question reply after →
    peer (part now) question reply (part after)
  relies : ∀ now after, relyToo now after → rely (part now) (part after)
  guarantees : ∀ now question reply after, asked question → peerToo now question reply after →
    guarantee (part now) (part after) → guaranteeToo now after
  views : ∀ now question reply after, asked question → peerToo now question reply after →
    view (part after) = view (part now) → viewToo after = viewToo now
  serves : ∀ now question reply after answer, asked question → peerToo now question reply after →
    does (view (part now)) answer (view (part after)) → doesToo (viewToo now) answer (viewToo after)
  stays : ∀ now answer, does (view (part now)) answer (view (part now)) →
    doesToo (viewToo now) answer (viewToo now)

section

variable {Whole AbstractToo : Type} {part : Whole → State} {asked : Question → Prop}
  {peerToo : Whole → Question → Reply → Whole → Prop} {viewToo : Whole → AbstractToo}
  {relyToo guaranteeToo : Whole → Whole → Prop}
  {doesToo : AbstractToo → Answer → AbstractToo → Prop}
  (embeds : Embeds peer view rely guarantee does part asked peerToo viewToo relyToo guaranteeToo
    doesToo)

include embeds

theorem Embeds.settled {ends : Except Fault Value → Prop}
    {program : Dialogue Question Reply Fault Value} (asks : program.Asks asked) {whole : Whole}
    (settled : program.Settled peer view rely guarantee ends (part whole)) :
    program.Settled peerToo viewToo relyToo guaranteeToo ends whole := by
  induction program generalizing whole with
  | done value => exact settled
  | raise fault => exact settled
  | cut => trivial
  | ask question next inductionHypothesis =>
    intro now reply after borne answered
    obtain ⟨guaranteed, same, later⟩ := settled (part now) reply (part after)
      (embeds.relies _ _ borne) (embeds.answers _ _ _ _ asks.1 answered)
    exact ⟨embeds.guarantees _ _ _ _ asks.1 answered guaranteed,
      embeds.views _ _ _ _ asks.1 answered same, inductionHypothesis reply (asks.2 reply) later⟩

/-- What is atomic with the part is atomic with the whole. -/
theorem Embeds.atomic {program : Dialogue Question Reply Fault Value} (asks : program.Asks asked)
    {whole : Whole} (atomic : program.Atomic peer view rely guarantee does agrees (part whole)) :
    program.Atomic peerToo viewToo relyToo guaranteeToo doesToo agrees whole := by
  induction program generalizing whole with
  | done value =>
    intro now borne
    obtain ⟨answer, done, agreed⟩ := atomic (part now) (embeds.relies _ _ borne)
    exact ⟨answer, embeds.stays _ _ done, agreed⟩
  | raise fault =>
    intro now borne
    obtain ⟨answer, done, agreed⟩ := atomic (part now) (embeds.relies _ _ borne)
    exact ⟨answer, embeds.stays _ _ done, agreed⟩
  | cut => trivial
  | ask question next inductionHypothesis =>
    intro now reply after borne answered
    obtain ⟨guaranteed, taken⟩ := atomic (part now) reply (part after) (embeds.relies _ _ borne)
      (embeds.answers _ _ _ _ asks.1 answered)
    refine ⟨embeds.guarantees _ _ _ _ asks.1 answered guaranteed, ?_⟩
    rcases taken with ⟨answer, done, settled⟩ | ⟨same, later⟩
    · exact Or.inl ⟨answer, embeds.serves _ _ _ _ answer asks.1 answered done,
        embeds.settled (asks.2 reply) settled⟩
    · exact Or.inr ⟨embeds.views _ _ _ _ asks.1 answered same,
        inductionHypothesis reply (asks.2 reply) later⟩

end

theorem Settled.agrees_of_plays (refl : ∀ state, rely state state)
    {ends : Except Fault Value → Prop}
    {program : Dialogue Question Reply Fault Value} {final : State} {result : Except Fault Value}
    (settled : program.Settled peer view rely guarantee ends state)
    (plays : Plays peer program state result final) : view final = view state ∧ ends result := by
  induction plays with
  | done value state => exact ⟨rfl, settled⟩
  | raise fault state => exact ⟨rfl, settled⟩
  | @ask question next reply state between final result answers _ inductionHypothesis =>
    obtain ⟨_, same, later⟩ := settled state reply between (refl state) answers
    obtain ⟨kept, ended⟩ := inductionHypothesis later
    exact ⟨kept.trans same, ended⟩

/-- An atomic program does what is said when nobody else is there. -/
theorem Atomic.exists_of_plays (refl : ∀ state, rely state state)
    {program : Dialogue Question Reply Fault Value} {final : State} {result : Except Fault Value}
    (atomic : program.Atomic peer view rely guarantee does agrees state)
    (plays : Plays peer program state result final) :
    ∃ answer, does (view state) answer (view final) ∧ agrees answer result := by
  induction plays with
  | done value state => exact atomic state (refl state)
  | raise fault state => exact atomic state (refl state)
  | @ask question next reply state between final result answers rest inductionHypothesis =>
    obtain ⟨_, ⟨answer, done, settled⟩ | ⟨same, later⟩⟩ :=
      atomic state reply between (refl state) answers
    · obtain ⟨kept, ended⟩ := settled.agrees_of_plays refl rest
      exact ⟨answer, kept ▸ done, ended⟩
    · obtain ⟨answer, done, agreed⟩ := inductionHypothesis later
      exact ⟨answer, same ▸ done, agreed⟩

end

/-! ### Histories of the clients are histories of the object -/

section

variable {may : Client → Call → Prop} {program : Call → Dialogue Question Reply Fault Value}
  {peer : Client → State → Question → Reply → State → Prop} {view : State → Abstract}
  {does : Call → Abstract → Answer → Abstract → Prop} {agrees : Answer → Except Fault Value → Prop}
  {rely guarantee : Client → State → State → Prop}

/-- The programs that the clients may call are atomic, and every client guarantees what the others
rely on. -/
structure Accord (may : Client → Call → Prop)
    (program : Call → Dialogue Question Reply Fault Value)
    (peer : Client → State → Question → Reply → State → Prop) (view : State → Abstract)
    (does : Call → Abstract → Answer → Abstract → Prop)
    (agrees : Answer → Except Fault Value → Prop)
    (rely guarantee : Client → State → State → Prop) : Prop where
  refl : ∀ client state, rely client state state
  trans : ∀ client first second third, rely client first second → rely client second third →
    rely client first third
  bears : ∀ client other, client ≠ other → ∀ state after, guarantee other state after →
    rely client state after
  atomic : ∀ client call, may client call → ∀ state, (program call).Atomic (peer client) view
    (rely client) (guarantee client) (does call) agrees state

/-- How far a client has got in its program, and how far the object with its call, while the peer
is in some state. -/
inductive Follows (peer : State → Question → Reply → State → Prop) (view : State → Abstract)
    (does : Call → Abstract → Answer → Abstract → Prop)
    (agrees : Answer → Except Fault Value → Prop) (rely guarantee : State → State → Prop)
    (now : State) :
    Activity Question Reply Fault Value Call → Standing Call Answer → Prop where
  | idle : Follows peer view does agrees rely guarantee now .idle .idle
  | pending {call : Call} {rest : Dialogue Question Reply Fault Value} {earlier : State}
      (borne : rely earlier now)
      (atomic : rest.Atomic peer view rely guarantee (does call) agrees earlier) :
      Follows peer view does agrees rely guarantee now (.busy call rest) (.pending call)
  | served {call : Call} {rest : Dialogue Question Reply Fault Value} {answer : Answer}
      {earlier : State} (borne : rely earlier now)
      (settled : rest.Settled peer view rely guarantee (agrees answer) earlier) :
      Follows peer view does agrees rely guarantee now (.busy call rest) (.served call answer)

/-- The object has got as far as the clients. -/
structure Crowd.Followed (peer : Client → State → Question → Reply → State → Prop)
    (view : State → Abstract) (does : Call → Abstract → Answer → Abstract → Prop)
    (agrees : Answer → Except Fault Value → Prop) (rely guarantee : Client → State → State → Prop)
    (crowd : Crowd Client Question Reply Fault Value State Call)
    (object : Object Client Abstract Call Answer) : Prop where
  clients : ∀ client, Follows (peer client) view does agrees (rely client) (guarantee client)
    crowd.state (crowd.activity client) (object.standing client)
  state : object.state = view crowd.state

omit [DecidableEq Client] in
theorem Follows.standing_idle {client : Client} {now : State} {standing : Standing Call Answer}
    (follows : Follows (peer client) view does agrees (rely client) (guarantee client) now .idle
      standing) : standing = .idle := by
  cases follows
  rfl

omit [DecidableEq Client] in
theorem Follows.standing_busy {client : Client} {now : State} {call : Call}
    {rest : Dialogue Question Reply Fault Value} {standing : Standing Call Answer}
    (follows : Follows (peer client) view does agrees (rely client) (guarantee client) now
      (.busy call rest) standing) :
    ∃ earlier, rely client earlier now ∧
      (standing = .pending call ∧ rest.Atomic (peer client) view (rely client) (guarantee client)
          (does call) agrees earlier ∨
        ∃ answer, standing = .served call answer ∧ rest.Settled (peer client) view (rely client)
          (guarantee client) (agrees answer) earlier) := by
  cases follows with
  | pending borne atomic => exact ⟨_, borne, Or.inl ⟨rfl, atomic⟩⟩
  | served borne settled => exact ⟨_, borne, Or.inr ⟨_, rfl, settled⟩⟩

omit [DecidableEq Client] in
theorem Follows.bear {client : Client} {now after : State}
    {activity : Activity Question Reply Fault Value Call} {standing : Standing Call Answer}
    (follows : Follows (peer client) view does agrees (rely client) (guarantee client) now activity
      standing)
    (trans : ∀ {first second third}, rely client first second → rely client second third →
      rely client first third) (bears : rely client now after) :
    Follows (peer client) view does agrees (rely client) (guarantee client) after activity
      standing := by
  cases follows with
  | idle => exact .idle
  | pending borne atomic => exact .pending (trans borne bears) atomic
  | served borne settled => exact .served (trans borne bears) settled

variable (accord : Accord may program peer view does agrees rely guarantee)

include accord

/-- When one client goes on and the others bear the new state, all are followed. -/
theorem Accord.follows_update {activity : Client → Activity Question Reply Fault Value Call}
    {standing : Client → Standing Call Answer} {now after : State}
    (clients : ∀ client, Follows (peer client) view does agrees (rely client) (guarantee client) now
      (activity client) (standing client))
    {client : Client} (bears : ∀ other, other ≠ client → rely other now after)
    {next : Activity Question Reply Fault Value Call} {reached : Standing Call Answer}
    (follows : Follows (peer client) view does agrees (rely client) (guarantee client) after next
      reached) (other : Client) :
    Follows (peer other) view does agrees (rely other) (guarantee other) after
      (Function.update activity client next other)
      (Function.update standing client reached other) := by
  by_cases same : other = client
  · rw [same, Function.update_self, Function.update_self]
    exact follows
  · rw [Function.update_of_ne same, Function.update_of_ne same]
    exact (clients other).bear (fun first second => accord.trans other _ _ _ first second)
      (bears other same)

/-- A client that goes on with what its standing already says. -/
theorem Accord.follows_update_left {activity : Client → Activity Question Reply Fault Value Call}
    {standing : Client → Standing Call Answer} {now after : State}
    (clients : ∀ client, Follows (peer client) view does agrees (rely client) (guarantee client) now
      (activity client) (standing client))
    {client : Client} (bears : ∀ other, other ≠ client → rely other now after)
    {next : Activity Question Reply Fault Value Call}
    (follows : Follows (peer client) view does agrees (rely client) (guarantee client) after next
      (standing client)) (other : Client) :
    Follows (peer other) view does agrees (rely other) (guarantee other) after
      (Function.update activity client next other) (standing other) := by
  have kept := accord.follows_update clients bears follows other
  rwa [Function.update_eq_self] at kept

/-- Every step of the clients is followed by the object, in at most two steps. -/
theorem Accord.step {crowd after : Crowd Client Question Reply Fault Value State Call}
    {events : List (Event Client Fault Value Call)} {object : Object Client Abstract Call Answer}
    (followed : crowd.Followed peer view does agrees rely guarantee object)
    (taken : Crowd.Step may program peer crowd events after) :
    ∃ next, Unfolds (Object.Step does agrees) object events next ∧
      after.Followed peer view does agrees rely guarantee next := by
  obtain ⟨clients, state⟩ := followed
  have stays : ∀ client other, other ≠ client → rely other crowd.state crowd.state :=
    fun _ other _ => accord.refl other crowd.state
  cases taken with
  | @called client call idle allowed =>
    have standing := (idle ▸ clients client).standing_idle
    refine ⟨_, .single (.called call standing), ?_, state⟩
    exact accord.follows_update clients (stays client)
      (.pending (accord.refl client crowd.state) (accord.atomic client call allowed crowd.state))
  | @answered client call question next reply after busy answers =>
    obtain ⟨earlier, borne, ⟨standing, ready⟩ | ⟨answer, standing, settled⟩⟩ :=
      (busy ▸ clients client).standing_busy
    · obtain ⟨guaranteed, taken⟩ := ready _ _ _ borne answers
      have bears : ∀ other, other ≠ client → rely other crowd.state after :=
        fun other apart => accord.bears other client apart _ _ guaranteed
      rcases taken with ⟨answer, done, settled⟩ | ⟨same, later⟩
      · rw [← state] at done
        exact ⟨_, .single (.served standing done), accord.follows_update clients bears
          (.served (accord.refl client after) settled), rfl⟩
      · exact ⟨object, .refl object, accord.follows_update_left clients bears
          (standing ▸ .pending (accord.refl client after) later), state.trans same.symm⟩
    · obtain ⟨guaranteed, same, later⟩ := settled _ _ _ borne answers
      exact ⟨object, .refl object, accord.follows_update_left clients
        (fun other apart => accord.bears other client apart _ _ guaranteed)
        (standing ▸ .served (accord.refl client after) later), state.trans same.symm⟩
  | @returned client call result ended =>
    obtain ⟨earlier, borne, ⟨standing, ready⟩ | ⟨answer, standing, settled⟩⟩ :=
      (ended ▸ clients client).standing_busy
    · obtain ⟨answer, done, agreed⟩ := atomic_ofExcept_iff.mp ready crowd.state borne
      rw [← state] at done
      exact ⟨_, unfolds_served_returned standing done agreed,
        accord.follows_update clients (stays client) .idle, state⟩
    · exact ⟨_, .single (.returned standing (settled_ofExcept_iff.mp settled)),
        accord.follows_update clients (stays client) .idle, state⟩

/-- Every history of clients in accord is one of the object, and the object has got as far as the
clients. -/
theorem Accord.linearizes {state : State} {events : List (Event Client Fault Value Call)}
    {crowd : Crowd Client Question Reply Fault Value State Call}
    (run : Unfolds (Crowd.Step may program peer) (.start state) events crowd) :
    ∃ object, Unfolds (Object.Step does agrees) (.start (view state)) events object ∧
      crowd.Followed peer view does agrees rely guarantee object :=
  run.simulates (fun _ _ _ _ followed taken => accord.step followed taken) ⟨fun _ => .idle, rfl⟩

omit accord [DecidableEq Client] in
theorem Crowd.Followed.idle_iff {crowd : Crowd Client Question Reply Fault Value State Call}
    {object : Object Client Abstract Call Answer}
    (followed : crowd.Followed peer view does agrees rely guarantee object) (client : Client) :
    crowd.activity client = .idle ↔ object.standing client = .idle := by
  have follows := followed.clients client
  generalize crowd.activity client = activity, object.standing client = standing at follows
  cases follows with
  | idle => exact iff_of_true rfl rfl
  | pending => exact iff_of_false (fun same => by cases same) fun same => by cases same
  | served => exact iff_of_false (fun same => by cases same) fun same => by cases same

end

/-! ### What the object has served -/

section

variable {does : Call → Abstract → Answer → Abstract → Prop}
  {agrees : Answer → Except Fault Value → Prop}

omit [DecidableEq Client] in
theorem DoesAll.append {calls more : List Call} {answers further : List Answer}
    {state between final : Abstract} (first : DoesAll does calls state answers between)
    (later : DoesAll does more between further final) :
    DoesAll does (calls ++ more) state (answers ++ further) final := by
  induction first with
  | nil state => exact later
  | cons done _ inductionHypothesis => exact .cons done (inductionHypothesis later)

/-- The calls that the object has served do what their description says, one after the other. -/
theorem Object.doesAll_log {state : Abstract} {events : List (Event Client Fault Value Call)}
    {object : Object Client Abstract Call Answer}
    (run : Unfolds (Object.Step does agrees) (.start state) events object) :
    DoesAll does ((object.log.map Prod.snd).map Prod.fst) state
      ((object.log.map Prod.snd).map Prod.snd) object.state := by
  refine run.invariant (fun _ object => DoesAll does ((object.log.map Prod.snd).map Prod.fst) state
    ((object.log.map Prod.snd).map Prod.snd) object.state) ?_ (.nil state)
  intro _ object _ after held taken
  cases taken with
  | called => exact held
  | served pending serves =>
    rw [List.map_append, List.map_append, List.map_append]
    exact held.append (.cons serves (.nil _))
  | returned => exact held

/-- The calls of a client in a history. -/
def callsOf (client : Client) (history : List (Event Client Fault Value Call)) : List Call :=
  history.filterMap fun
    | .called other call => if other = client then some call else none
    | .returned _ _ => none

/-- What a client is returned in a history. -/
def resultsOf (client : Client) (history : List (Event Client Fault Value Call)) :
    List (Except Fault Value) :=
  history.filterMap fun
    | .called _ _ => none
    | .returned other result => if other = client then some result else none

/-- The calls of a client in a log, with the answers. -/
def servedTo (client : Client) (log : List (Client × Call × Answer)) : List (Call × Answer) :=
  (log.filter fun entry => entry.1 = client).map Prod.snd

/-- What is called for is what is served, and what is returned agrees with the answers, but for the
call that is under way. -/
def Standing.Tallies (agrees : Answer → Except Fault Value → Prop) (calls : List Call)
    (served : List (Call × Answer)) (results : List (Except Fault Value)) :
    Standing Call Answer → Prop
  | idle => calls = served.map Prod.fst ∧ List.Forall₂ agrees (served.map Prod.snd) results
  | pending call =>
    calls = served.map Prod.fst ++ [call] ∧ List.Forall₂ agrees (served.map Prod.snd) results
  | .served call answer => ∃ earlier, served = earlier ++ [(call, answer)] ∧
      calls = served.map Prod.fst ∧ List.Forall₂ agrees (earlier.map Prod.snd) results

theorem callsOf_append (client : Client) (history more : List (Event Client Fault Value Call)) :
    callsOf client (history ++ more) = callsOf client history ++ callsOf client more :=
  List.filterMap_append

theorem resultsOf_append (client : Client) (history more : List (Event Client Fault Value Call)) :
    resultsOf client (history ++ more) = resultsOf client history ++ resultsOf client more :=
  List.filterMap_append

@[simp] theorem callsOf_called (client other : Client) (call : Call) :
    callsOf client [(.called other call : Event Client Fault Value Call)] =
      if other = client then [call] else [] := by
  by_cases same : other = client <;> simp [callsOf, same]

@[simp] theorem callsOf_returned (client other : Client) (result : Except Fault Value) :
    callsOf client [(.returned other result : Event Client Fault Value Call)] = [] := rfl

@[simp] theorem resultsOf_called (client other : Client) (call : Call) :
    resultsOf client [(.called other call : Event Client Fault Value Call)] = [] := rfl

@[simp] theorem resultsOf_returned (client other : Client) (result : Except Fault Value) :
    resultsOf client [(.returned other result : Event Client Fault Value Call)] =
      if other = client then [result] else [] := by
  by_cases same : other = client <;> simp [resultsOf, same]

theorem servedTo_append (client other : Client) (log : List (Client × Call × Answer)) (call : Call)
    (answer : Answer) :
    servedTo client (log ++ [(other, call, answer)]) =
      servedTo client log ++ if other = client then [(call, answer)] else [] := by
  by_cases same : other = client <;> simp [servedTo, same]

/-- Every client is served its own calls in order, and is returned what agrees with the answers. -/
theorem Object.tallies {state : Abstract} {history : List (Event Client Fault Value Call)}
    {object : Object Client Abstract Call Answer}
    (run : Unfolds (Object.Step does agrees) (.start state) history object) (client : Client) :
    (object.standing client).Tallies agrees (callsOf client history) (servedTo client object.log)
      (resultsOf client history) := by
  refine run.invariant (fun history object => (object.standing client).Tallies agrees
    (callsOf client history) (servedTo client object.log) (resultsOf client history)) ?_
    ⟨rfl, .nil⟩
  intro seen object events after held taken
  cases taken with
  | @called other call idle =>
    rw [callsOf_append, resultsOf_append, callsOf_called, resultsOf_called, List.append_nil]
    dsimp only
    by_cases same : other = client
    · subst same
      rw [idle] at held
      rw [Function.update_self, if_pos rfl]
      exact ⟨congrArg (· ++ [call]) held.1, held.2⟩
    · rw [Function.update_of_ne (Ne.symm same), if_neg same, List.append_nil]
      exact held
  | @served other call answer after pending serves =>
    rw [List.append_nil, servedTo_append]
    dsimp only
    by_cases same : other = client
    · subst same
      rw [pending] at held
      rw [Function.update_self, if_pos rfl]
      refine ⟨_, rfl, ?_, held.2⟩
      rw [List.map_append]
      exact held.1
    · rw [Function.update_of_ne (Ne.symm same), if_neg same, List.append_nil]
      exact held
  | @returned other call answer result served agreed =>
    rw [callsOf_append, resultsOf_append, callsOf_returned, resultsOf_returned, List.append_nil]
    dsimp only
    by_cases same : other = client
    · subst same
      rw [served] at held
      obtain ⟨earlier, listed, called, agree⟩ := held
      rw [Function.update_self, if_pos rfl]
      refine ⟨called, ?_⟩
      rw [listed, List.map_append]
      exact List.rel_append agree (.cons agreed .nil)
    · rw [Function.update_of_ne (Ne.symm same), if_neg same, List.append_nil]
      exact held

/-- A client that is idle has been served all its calls, and returned what agrees with the
answers. -/
theorem Object.tallies_idle {state : Abstract} {history : List (Event Client Fault Value Call)}
    {object : Object Client Abstract Call Answer}
    (run : Unfolds (Object.Step does agrees) (.start state) history object) {client : Client}
    (idle : object.standing client = .idle) :
    callsOf client history = (servedTo client object.log).map Prod.fst ∧
      List.Forall₂ agrees ((servedTo client object.log).map Prod.snd)
        (resultsOf client history) := by
  have tallies := object.tallies run client
  rwa [idle] at tallies

end

/-- What the clients in accord see, they could see if each call were served in one instant between
its start and its end. The calls in the order in which they are served do what is said, and lead to
the state that the peer has. -/
theorem Accord.tallies {may : Client → Call → Prop}
    {program : Call → Dialogue Question Reply Fault Value}
    {peer : Client → State → Question → Reply → State → Prop} {view : State → Abstract}
    {does : Call → Abstract → Answer → Abstract → Prop}
    {agrees : Answer → Except Fault Value → Prop} {rely guarantee : Client → State → State → Prop}
    (accord : Accord may program peer view does agrees rely guarantee) {state : State}
    {history : List (Event Client Fault Value Call)}
    {crowd : Crowd Client Question Reply Fault Value State Call}
    (run : Unfolds (Crowd.Step may program peer) (.start state) history crowd) :
    ∃ object, Unfolds (Object.Step does agrees) (.start (view state)) history object ∧
      DoesAll does ((object.log.map Prod.snd).map Prod.fst) (view state)
        ((object.log.map Prod.snd).map Prod.snd) (view crowd.state) ∧
      ∀ client, crowd.activity client = .idle →
        callsOf client history = (servedTo client object.log).map Prod.fst ∧
        List.Forall₂ agrees ((servedTo client object.log).map Prod.snd)
          (resultsOf client history) := by
  obtain ⟨object, served, followed⟩ := accord.linearizes run
  refine ⟨object, served, ?_, fun client idle => ?_⟩
  · have all := object.doesAll_log served
    rwa [followed.state] at all
  · exact object.tallies_idle served ((followed.idle_iff client).mp idle)

/-! ### Clients that do not meet -/

section

variable {Place Part : Type} {does : Call → (Place → Part) → Answer → (Place → Part) → Prop}
  {place : Call → Place}

/-- What a call does depends on one part of the state, and changes no other. -/
structure Local (does : Call → (Place → Part) → Answer → (Place → Part) → Prop)
    (place : Call → Place) : Prop where
  keeps : ∀ call state answer after, does call state answer after →
    ∀ other, other ≠ place call → after other = state other
  depends : ∀ call state answer after, does call state answer after →
    ∀ another : Place → Part, another (place call) = state (place call) →
      ∃ next, does call another answer next ∧ next (place call) = after (place call)

omit [DecidableEq Client] in
/-- The calls at some places do among themselves what they do among all. -/
theorem DoesAll.filter (locally : Local does place) (mine : Place → Bool)
    {entries : List (Call × Answer)} {state final : Place → Part}
    (all : DoesAll does (entries.map Prod.fst) state (entries.map Prod.snd) final)
    {another : Place → Part} (same : ∀ here, mine here = true → another here = state here) :
    ∃ next, DoesAll does ((entries.filter fun entry => mine (place entry.1)).map Prod.fst) another
        ((entries.filter fun entry => mine (place entry.1)).map Prod.snd) next ∧
      (∀ here, mine here = true → next here = final here) ∧
      ∀ here, mine here = false → next here = another here := by
  induction entries generalizing state another with
  | nil =>
    cases all
    exact ⟨another, .nil another, same, fun _ _ => rfl⟩
  | cons entry entries inductionHypothesis =>
    cases all with
    | @cons _ _ _ between _ _ _ first later =>
      have keeps := locally.keeps _ _ _ _ first
      by_cases own : mine (place entry.1) = true
      · obtain ⟨next, done, reached⟩ := locally.depends _ _ _ _ first another (same _ own)
        have kept := locally.keeps _ _ _ _ done
        have agreeing : ∀ here, mine here = true → next here = between here := by
          intro here listed
          by_cases there : here = place entry.1
          · rw [there]
            exact reached
          · rw [kept here there, keeps here there]
            exact same here listed
        obtain ⟨final', rest, agree, others⟩ := inductionHypothesis later agreeing
        rw [List.filter_cons_of_pos (by exact own)]
        refine ⟨final', .cons done rest, agree, fun here away => ?_⟩
        rw [others here away]
        exact kept here fun there => by rw [there, own] at away; cases away
      · have agreeing : ∀ here, mine here = true → another here = between here := by
          intro here listed
          rw [keeps here fun there => own (there ▸ listed)]
          exact same here listed
        rw [List.filter_cons_of_neg (by exact own)]
        exact inductionHypothesis later agreeing

/-- Clients that keep to places of their own are returned what they would be if each were alone. -/
theorem Object.isolated (locally : Local does place) {agrees : Answer → Except Fault Value → Prop}
    {state : Place → Part} {history : List (Event Client Fault Value Call)}
    {object : Object Client (Place → Part) Call Answer}
    (run : Unfolds (Object.Step does agrees) (.start state) history object)
    {mine : Client → Place → Bool}
    (own : ∀ client, ∀ call ∈ callsOf client history, mine client (place call) = true)
    (apart : ∀ client other here, mine client here = true → mine other here = true →
      client = other)
    {client : Client} (idle : object.standing client = .idle) :
    ∃ answers final, DoesAll does (callsOf client history) state answers final ∧
      List.Forall₂ agrees answers (resultsOf client history) ∧
      (∀ here, mine client here = true → final here = object.state here) ∧
      ∀ here, mine client here = false → final here = state here := by
  have listed : ∀ entry ∈ object.log, mine entry.1 (place entry.2.1) = true := by
    intro entry member
    refine own entry.1 entry.2.1 ?_
    have served : entry.2.1 ∈ (servedTo entry.1 object.log).map Prod.fst :=
      List.mem_map_of_mem (List.mem_map_of_mem (List.mem_filter.mpr ⟨member, decide_eq_true rfl⟩))
    have tallies := object.tallies run entry.1
    cases reached : object.standing entry.1 with
    | idle =>
      rw [reached] at tallies
      exact tallies.1 ▸ served
    | pending call =>
      rw [reached] at tallies
      exact tallies.1 ▸ List.mem_append_left _ served
    | served call answer =>
      rw [reached] at tallies
      obtain ⟨_, _, called, _⟩ := tallies
      exact called ▸ served
  have chosen : servedTo client object.log =
      (object.log.map Prod.snd).filter fun entry => mine client (place entry.1) := by
    rw [servedTo, List.filter_map]
    refine congrArg (List.map Prod.snd) (List.filter_congr fun entry member => ?_)
    by_cases same : entry.1 = client
    · rw [decide_eq_true same, Function.comp, ← same]
      exact (listed entry member).symm
    · rw [decide_eq_false same, Function.comp]
      refine (Bool.eq_false_iff.mpr fun taken => same ?_).symm
      exact (apart client entry.1 _ taken (listed entry member)).symm
  obtain ⟨final, done, kept, others⟩ := DoesAll.filter locally (mine client)
    (object.doesAll_log run) fun _ _ => rfl
  obtain ⟨called, returned⟩ := object.tallies_idle run idle
  rw [← chosen] at done
  rw [called]
  exact ⟨_, final, done, returned, kept, others⟩

end

/-! ### Runs of the clients -/

section

variable {may : Client → Call → Prop} {program : Call → Dialogue Question Reply Fault Value}
  {peer : Client → State → Question → Reply → State → Prop}

/-- The clients call what they may. -/
theorem Crowd.callsOf_may {state : State} {history : List (Event Client Fault Value Call)}
    {crowd : Crowd Client Question Reply Fault Value State Call}
    (run : Unfolds (Crowd.Step may program peer) (.start state) history crowd) (client : Client) :
    ∀ call ∈ callsOf client history, may client call := by
  refine run.invariant (fun history _ => ∀ call ∈ callsOf client history, may client call) ?_
    (fun _ member => by cases member)
  intro seen crowd events after held taken call member
  rw [callsOf_append] at member
  rcases List.mem_append.mp member with earlier | now
  · exact held call earlier
  · cases taken with
    | @called other call' idle allowed =>
      rw [callsOf_called] at now
      by_cases same : other = client
      · rw [if_pos same, List.mem_singleton] at now
        rw [now, ← same]
        exact allowed
      · rw [if_neg same] at now
        cases now
    | answered => cases now
    | returned => cases now

/-- What is left of a program may be played to its end while the others wait. -/
theorem Plays.unfolds {client : Client} {rest : Dialogue Question Reply Fault Value}
    {state final : State} {result : Except Fault Value}
    (plays : Plays (peer client) rest state result final)
    {activity : Client → Activity Question Reply Fault Value Call} {call : Call}
    (busy : activity client = .busy call rest) :
    Unfolds (Crowd.Step may program peer) ⟨activity, state⟩ [.returned client result]
      ⟨Function.update activity client .idle, final⟩ := by
  induction plays generalizing activity with
  | done value state =>
    have ended : activity client = .busy call (ofExcept (.ok value)) := busy
    exact .single (.returned ended)
  | raise fault state =>
    have ended : activity client = .busy call (ofExcept (.error fault)) := busy
    exact .single (.returned ended)
  | @ask question next reply state between final result answers _ inductionHypothesis =>
    have taken : Crowd.Step may program peer ⟨activity, state⟩ []
        ⟨Function.update activity client (.busy call (next reply)), between⟩ :=
      .answered busy answers
    have later := inductionHypothesis
      (Function.update_self client (.busy call (next reply)) activity)
    rw [Function.update_idem] at later
    exact .cons taken later

/-- A call that is made and returned while another one is under way. -/
theorem Crowd.exists_overlapping (may : Client → Call → Prop)
    (program : Call → Dialogue Question Reply Fault Value)
    (peer : Client → State → Question → Reply → State → Prop) {first second : Client}
    (apart : first ≠ second) {outer inner : Call}
    (allowed : may first outer) (allowedToo : may second inner) {state between final : State}
    {early late : Except Fault Value}
    (plays : Plays (peer second) (program inner) state early between)
    (playsToo : Plays (peer first) (program outer) between late final) :
    ∃ crowd, Unfolds (Crowd.Step may program peer) (.start state)
        [.called first outer, .called second inner, .returned second early, .returned first late]
        crowd ∧
      crowd.state = final ∧ ∀ client, crowd.activity client = .idle := by
  let quiet : Client → Activity Question Reply Fault Value Call := fun _ => .idle
  let calling := Function.update quiet first (.busy outer (program outer))
  let both := Function.update calling second (.busy inner (program inner))
  have called : Crowd.Step may program peer (.start state) [.called first outer]
    ⟨calling, state⟩ := .called rfl allowed
  have idle : calling second = .idle := Function.update_of_ne apart.symm _ _
  have calledToo : Crowd.Step may program peer ⟨calling, state⟩ [.called second inner]
    ⟨both, state⟩ := .called idle allowedToo
  have there : both second = .busy inner (program inner) := Function.update_self _ _ _
  have returned : Unfolds (Crowd.Step may program peer) ⟨both, state⟩ [.returned second early]
      ⟨Function.update both second .idle, between⟩ := plays.unfolds there
  have back : Function.update both second .idle first = .busy outer (program outer) :=
    (Function.update_of_ne apart _ _).trans
      ((Function.update_of_ne apart _ _).trans (Function.update_self _ _ _))
  have returnedToo : Unfolds (Crowd.Step may program peer)
      ⟨Function.update both second .idle, between⟩ [.returned first late] _ :=
    playsToo.unfolds back
  refine ⟨_, .cons called (.cons calledToo (returned.trans returnedToo)), rfl, fun client => ?_⟩
  dsimp only
  by_cases same : client = first
  · rw [same, Function.update_self]
  · rw [Function.update_of_ne same]
    by_cases other : client = second
    · rw [other, Function.update_self]
    · have elsewhere : both client = .idle :=
        (Function.update_of_ne other _ _).trans (Function.update_of_ne same _ _)
      rw [Function.update_of_ne other, elsewhere]

/-- Whenever a client is busy, its call can return, when the programs end and the peer answers. -/
theorem Crowd.can_return (complete : ∀ call, (program call).Complete)
    (responsive : ∀ client state question, ∃ reply after, peer client state question reply after)
    {state : State} {history : List (Event Client Fault Value Call)}
    {crowd : Crowd Client Question Reply Fault Value State Call}
    (run : Unfolds (Crowd.Step may program peer) (.start state) history crowd) {client : Client}
    {call : Call} {rest : Dialogue Question Reply Fault Value}
    (busy : crowd.activity client = .busy call rest) :
    ∃ result after, Unfolds (Crowd.Step may program peer) crowd [.returned client result] after ∧
      after.activity = Function.update crowd.activity client .idle := by
  have ending : ∀ client call rest, crowd.activity client = .busy call rest → rest.Complete := by
    refine run.invariant (fun _ crowd => ∀ client call rest,
      crowd.activity client = .busy call rest → rest.Complete) ?_ (fun _ _ _ same => by cases same)
    intro _ crowd _ after held taken client call rest busy
    have elsewhere : ∀ {other : Client} {next : Activity Question Reply Fault Value Call},
        other ≠ client → Function.update crowd.activity other next client = .busy call rest →
        rest.Complete := by
      intro other next away same
      rw [Function.update_of_ne (Ne.symm away)] at same
      exact held client call rest same
    cases taken with
    | @called other call' idle allowed =>
      by_cases same : other = client
      · subst same
        dsimp only at busy
        rw [Function.update_self] at busy
        cases busy
        exact complete call
      · exact elsewhere same busy
    | @answered other call' question next reply after asked answers =>
      by_cases same : other = client
      · subst same
        dsimp only at busy
        rw [Function.update_self] at busy
        cases busy
        exact held other call _ asked reply
      · exact elsewhere same busy
    | @returned other call' result ended =>
      by_cases same : other = client
      · subst same
        dsimp only at busy
        rw [Function.update_self] at busy
        cases busy
      · exact elsewhere same busy
  obtain ⟨result, final, plays⟩ :=
    (ending client call rest busy).plays (responsive client) crowd.state
  exact ⟨result, _, plays.unfolds busy, rfl⟩

end

/-! ### What holds whenever a client is idle -/

section

variable (peer : State → Question → Reply → State → Prop) (rely guarantee : State → State → Prop)

/-- A program does only what the others can bear, and something holds when it ends, whatever the
others do that the program can bear. -/
def Secures (ends : Except Fault Value → State → Prop) :
    Dialogue Question Reply Fault Value → State → Prop
  | done value, state => ∀ now, rely state now → ends (.ok value) now
  | raise fault, state => ∀ now, rely state now → ends (.error fault) now
  | ask question next, state => ∀ now reply after, rely state now → peer now question reply after →
      guarantee now after ∧ (next reply).Secures ends after
  | cut, _ => True

end

section

variable {peer : State → Question → Reply → State → Prop} {rely guarantee : State → State → Prop}
  {ends : Except Fault Value → State → Prop} {state : State}
  {program : Dialogue Question Reply Fault Value}

theorem secures_ofExcept_iff {result : Except Fault Value} :
    (ofExcept result : Dialogue Question Reply Fault Value).Secures peer rely guarantee ends state ↔
      ∀ now, rely state now → ends result now := by
  cases result <;> exact Iff.rfl

theorem Secures.mono {endsToo : Except Fault Value → State → Prop}
    (implies : ∀ result state, ends result state → endsToo result state)
    (secures : program.Secures peer rely guarantee ends state) :
    program.Secures peer rely guarantee endsToo state := by
  induction program generalizing state with
  | done value => exact fun now borne => implies _ now (secures now borne)
  | raise fault => exact fun now borne => implies _ now (secures now borne)
  | cut => trivial
  | ask question next inductionHypothesis =>
    intro now reply after borne answers
    obtain ⟨guaranteed, later⟩ := secures now reply after borne answers
    exact ⟨guaranteed, inductionHypothesis reply later⟩

/-- The second part goes on from what holds when the first one ends. -/
theorem Secures.bind {Result : Type} {endsToo : Except Fault Result → State → Prop}
    {continuation : Value → Dialogue Question Reply Fault Result}
    (refl : ∀ state, rely state state)
    (first : program.Secures peer rely guarantee ends state)
    (second : ∀ value state, ends (.ok value) state →
      (continuation value).Secures peer rely guarantee endsToo state)
    (fails : ∀ fault state, ends (.error fault) state → endsToo (.error fault) state) :
    (program.bind continuation).Secures peer rely guarantee endsToo state := by
  induction program generalizing state with
  | done value => exact second value state (first state (refl state))
  | raise fault => exact fun now borne => fails fault now (first now borne)
  | cut => trivial
  | ask question next inductionHypothesis =>
    intro now reply after borne answers
    obtain ⟨guaranteed, later⟩ := first now reply after borne answers
    exact ⟨guaranteed, inductionHypothesis reply later⟩

/-- What holds when a turn of a loop ends: the loop goes on, or ends, or fails. -/
def turnEnds {Position : Type} (holds : Position → State → Prop)
    (ends : Except Fault Value → State → Prop) : Except Fault (Position ⊕ Value) → State → Prop
  | .ok (.inl next) => holds next
  | .ok (.inr value) => ends (.ok value)
  | .error fault => ends (.error fault)

/-- A loop, of which something holds before every turn. -/
theorem Secures.iterate {Position : Type}
    {body : Position → Dialogue Question Reply Fault (Position ⊕ Value)}
    (refl : ∀ state, rely state state) (holds : Position → State → Prop)
    (each : ∀ position state, holds position state →
      (body position).Secures peer rely guarantee (turnEnds holds ends) state)
    (stable : ∀ value now after, ends (.ok value) now → rely now after → ends (.ok value) after)
    (turns : Nat) {position : Position} (start : holds position state) :
    (Dialogue.iterate body turns position).Secures peer rely guarantee ends state := by
  induction turns generalizing position state with
  | zero => trivial
  | succ turns inductionHypothesis =>
    refine (each position state start).bind refl (fun next state held => ?_) fun _ _ => id
    cases next with
    | inl next => exact inductionHypothesis held
    | inr value => exact fun now borne => stable value state now held borne

/-- What is settled guarantees what it has to, with whatever is known of its end. -/
theorem Settled.secures {view : State → Abstract} {agrees : Except Fault Value → Prop}
    (settled : program.Settled peer view rely guarantee agrees state)
    (secures : program.Secures peer rely (fun _ _ => True) ends state) :
    program.Secures peer rely guarantee ends state := by
  induction program generalizing state with
  | done value => exact secures
  | raise fault => exact secures
  | cut => trivial
  | ask question next inductionHypothesis =>
    intro now reply after borne answers
    obtain ⟨guaranteed, _, later⟩ := settled now reply after borne answers
    exact ⟨guaranteed, inductionHypothesis reply later (secures now reply after borne answers).2⟩

/-- What is atomic guarantees what it has to, with whatever is known of its end. -/
theorem Atomic.secures {view : State → Abstract} {does : Abstract → Answer → Abstract → Prop}
    {agrees : Answer → Except Fault Value → Prop}
    (atomic : program.Atomic peer view rely guarantee does agrees state)
    (secures : program.Secures peer rely (fun _ _ => True) ends state) :
    program.Secures peer rely guarantee ends state := by
  induction program generalizing state with
  | done value => exact secures
  | raise fault => exact secures
  | cut => trivial
  | ask question next inductionHypothesis =>
    intro now reply after borne answers
    obtain ⟨guaranteed, taken⟩ := atomic now reply after borne answers
    have rest := (secures now reply after borne answers).2
    refine ⟨guaranteed, ?_⟩
    rcases taken with ⟨_, _, settled⟩ | ⟨_, later⟩
    · exact settled.secures rest
    · exact inductionHypothesis reply later rest

end

/-- A client is idle and something holds, or what is left of its program secures that. -/
def Activity.Secured (peer : State → Question → Reply → State → Prop)
    (rely guarantee : State → State → Prop) (holds : State → Prop) (now : State) :
    Activity Question Reply Fault Value Call → Prop
  | .idle => holds now
  | .busy _ rest => ∃ earlier, rely earlier now ∧
      rest.Secures peer rely guarantee (fun _ => holds) earlier

/-- When every program starts where something holds of its client and ends where it does again,
it holds of every client that is idle, however the questions are mixed. -/
theorem Crowd.secures {may : Client → Call → Prop}
    {program : Call → Dialogue Question Reply Fault Value}
    {peer : Client → State → Question → Reply → State → Prop}
    {rely guarantee : Client → State → State → Prop} {holds : Client → State → Prop}
    (refl : ∀ client state, rely client state state)
    (trans : ∀ client first second third, rely client first second → rely client second third →
      rely client first third)
    (bears : ∀ client other, client ≠ other → ∀ state after, guarantee other state after →
      rely client state after)
    (stable : ∀ client now after, holds client now → rely client now after → holds client after)
    (secures : ∀ client call, may client call → ∀ state, holds client state →
      (program call).Secures (peer client) (rely client) (guarantee client)
        (fun _ => holds client) state)
    {state : State} (start : ∀ client, holds client state)
    {history : List (Event Client Fault Value Call)}
    {crowd : Crowd Client Question Reply Fault Value State Call}
    (run : Unfolds (Crowd.Step may program peer) (.start state) history crowd) {client : Client}
    (idle : crowd.activity client = .idle) : holds client crowd.state := by
  let secured (crowd : Crowd Client Question Reply Fault Value State Call) : Prop :=
    ∀ client, (crowd.activity client).Secured (peer client) (rely client) (guarantee client)
      (holds client) crowd.state
  have all : secured crowd := by
    refine run.invariant (fun _ => secured) (fun _ crowd _ after held step client => ?_) start
    cases step with
    | @called acting call idle allowed =>
      dsimp only
      by_cases same : client = acting
      · subst same
        have before := held client
        rw [idle] at before
        rw [Function.update_self]
        exact ⟨crowd.state, refl client crowd.state, secures client call allowed _ before⟩
      · rw [Function.update_of_ne same]
        exact held client
    | @answered acting call question next reply after busy answers =>
      have acts := held acting
      rw [busy] at acts
      obtain ⟨earlier, borne, left⟩ := acts
      obtain ⟨guaranteed, later⟩ := left crowd.state reply after borne answers
      dsimp only
      by_cases same : client = acting
      · subst same
        rw [Function.update_self]
        exact ⟨after, refl client after, later⟩
      · have borneToo := bears client acting same _ _ guaranteed
        have before := held client
        rw [Function.update_of_ne same]
        cases activity : crowd.activity client with
        | idle =>
          rw [activity] at before
          exact stable client _ _ before borneToo
        | busy call rest =>
          rw [activity] at before
          obtain ⟨earlier, borne, left⟩ := before
          exact ⟨earlier, trans client _ _ _ borne borneToo, left⟩
    | @returned acting call result ended =>
      dsimp only
      by_cases same : client = acting
      · subst same
        have before := held client
        rw [ended] at before
        obtain ⟨earlier, borne, left⟩ := before
        rw [Function.update_self]
        exact secures_ofExcept_iff.mp left _ borne
      · rw [Function.update_of_ne same]
        exact held client
  have here := all client
  rw [idle] at here
  exact here

end Dialogue
