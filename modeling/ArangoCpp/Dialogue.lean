/-
This file builds the programs that converse with a peer, and the rules for reasoning
about them. It knows nothing of what is said: questions, replies, faults and values are
arbitrary types.

A dialogue is a tree. A node either stops with a value, stops with a fault, or puts one
question and continues with whatever reply arrives. A loop whose length the peer decides
is unrolled a given number of times; where the unrolling stops the tree is `cut`, and a
run that gets there is still under way.

A tree is read in two ways. `run` plays it against a script, the replies that arrive one
after the other: what may happen whatever the peer says. `Plays` plays it against a peer
with a state of its own, which answers each question in some allowed way: what happens
when the peer behaves. `Asks` bounds what a tree can ask, whatever it is told.
-/

import Mathlib.Logic.Basic
import Mathlib.Data.List.Basic
import Mathlib.Data.List.Forall2

/-- A program that puts questions to a peer and continues with the replies. -/
inductive Dialogue (Question Reply Fault Value : Type) : Type where
  /-- The program has returned. -/
  | done (value : Value)
  /-- The program has stopped with a fault. -/
  | raise (fault : Fault)
  /-- The program puts a question and waits for the reply. -/
  | ask (question : Question) (next : Reply → Dialogue Question Reply Fault Value)
  /-- A loop that is not unrolled any further. -/
  | cut

namespace Dialogue

variable {Question Reply Fault Value Result : Type}

/-! ### Sequencing -/

/-- Run a dialogue and continue with the value it returns. -/
def bind : Dialogue Question Reply Fault Value →
    (Value → Dialogue Question Reply Fault Result) → Dialogue Question Reply Fault Result
  | done value, continuation => continuation value
  | raise fault, _ => raise fault
  | ask question next, continuation => ask question fun reply => (next reply).bind continuation
  | cut, _ => cut

instance : Monad (Dialogue Question Reply Fault) where
  pure := done
  bind := bind

/-- Run a dialogue, and a handler when it stops with a fault. -/
def rescue (handler : Fault → Dialogue Question Reply Fault Value) :
    Dialogue Question Reply Fault Value → Dialogue Question Reply Fault Value
  | done value => done value
  | raise fault => handler fault
  | ask question next => ask question fun reply => (next reply).rescue handler
  | cut => cut

/-- A computation that asks nothing. -/
def ofExcept : Except Fault Value → Dialogue Question Reply Fault Value
  | .ok value => done value
  | .error fault => raise fault

/-- Repeat a body until it yields a result, unrolling at most `turns` repetitions. -/
def iterate {State : Type} (body : State → Dialogue Question Reply Fault (State ⊕ Value)) :
    Nat → State → Dialogue Question Reply Fault Value
  | 0, _ => cut
  | turns + 1, state => (body state).bind fun
      | .inl next => iterate body turns next
      | .inr value => done value

@[simp] theorem pure_eq_done (value : Value) :
    (pure value : Dialogue Question Reply Fault Value) = done value := rfl

@[simp] theorem bind_eq (dialogue : Dialogue Question Reply Fault Value)
    (continuation : Value → Dialogue Question Reply Fault Result) :
    (dialogue >>= continuation) = dialogue.bind continuation := rfl

@[simp] theorem done_bind (value : Value)
    (continuation : Value → Dialogue Question Reply Fault Result) :
    (done value).bind continuation = continuation value := rfl

@[simp] theorem raise_bind (fault : Fault)
    (continuation : Value → Dialogue Question Reply Fault Result) :
    (raise fault : Dialogue Question Reply Fault Value).bind continuation = raise fault := rfl

@[simp] theorem ask_bind (question : Question)
    (next : Reply → Dialogue Question Reply Fault Value)
    (continuation : Value → Dialogue Question Reply Fault Result) :
    (ask question next).bind continuation =
      ask question fun reply => (next reply).bind continuation := rfl

@[simp] theorem cut_bind (continuation : Value → Dialogue Question Reply Fault Result) :
    (cut : Dialogue Question Reply Fault Value).bind continuation = cut := rfl

@[simp] theorem rescue_done (handler : Fault → Dialogue Question Reply Fault Value)
    (value : Value) : (done value).rescue handler = done value := rfl

@[simp] theorem rescue_raise (handler : Fault → Dialogue Question Reply Fault Value)
    (fault : Fault) : (raise fault).rescue handler = handler fault := rfl

@[simp] theorem rescue_ask (handler : Fault → Dialogue Question Reply Fault Value)
    (question : Question) (next : Reply → Dialogue Question Reply Fault Value) :
    (ask question next).rescue handler =
      ask question fun reply => (next reply).rescue handler := rfl

@[simp] theorem ofExcept_ok (value : Value) :
    (ofExcept (.ok value) : Dialogue Question Reply Fault Value) = done value := rfl

@[simp] theorem ofExcept_error (fault : Fault) :
    (ofExcept (.error fault) : Dialogue Question Reply Fault Value) = raise fault := rfl

theorem bind_done (dialogue : Dialogue Question Reply Fault Value) :
    dialogue.bind done = dialogue := by
  induction dialogue with
  | done value => rfl
  | raise fault => rfl
  | ask question next inductionHypothesis =>
    rw [ask_bind]
    exact congrArg (ask question) (funext inductionHypothesis)
  | cut => rfl

theorem bind_assoc {Final : Type} (dialogue : Dialogue Question Reply Fault Value)
    (first : Value → Dialogue Question Reply Fault Result)
    (second : Result → Dialogue Question Reply Fault Final) :
    (dialogue.bind first).bind second = dialogue.bind fun value => (first value).bind second := by
  induction dialogue with
  | done value => rfl
  | raise fault => rfl
  | ask question next inductionHypothesis =>
    rw [ask_bind, ask_bind, ask_bind]
    exact congrArg (ask question) (funext inductionHypothesis)
  | cut => rfl

instance : LawfulMonad (Dialogue Question Reply Fault) :=
  LawfulMonad.mk' _ (fun dialogue => bind_done dialogue) (fun _ _ => rfl) bind_assoc

/-! ### Playing a script -/

/-- How a run ends, or that it has not ended yet. -/
inductive Outcome (Fault Value : Type) : Type where
  | returned (value : Value)
  | raised (fault : Fault)
  | running

/-- What a run shows: the questions put, the replies left unread, and how it ended. -/
structure Run (Question Reply Fault Value : Type) : Type where
  asked : List Question
  rest : List Reply
  outcome : Outcome Fault Value

/-- Play a dialogue against a script of replies. -/
def run : Dialogue Question Reply Fault Value → List Reply → Run Question Reply Fault Value
  | done value, replies => ⟨[], replies, .returned value⟩
  | raise fault, replies => ⟨[], replies, .raised fault⟩
  | ask question _, [] => ⟨[question], [], .running⟩
  | ask question next, reply :: replies =>
    let after := (next reply).run replies
    ⟨question :: after.asked, after.rest, after.outcome⟩
  | cut, replies => ⟨[], replies, .running⟩

/-- The dialogue reads the whole script and nothing more, and ends in the given way. -/
def Ends (dialogue : Dialogue Question Reply Fault Value) (replies : List Reply)
    (outcome : Outcome Fault Value) : Prop :=
  (dialogue.run replies).rest = [] ∧ (dialogue.run replies).outcome = outcome

@[simp] theorem run_done (value : Value) (replies : List Reply) :
    (done value : Dialogue Question Reply Fault Value).run replies =
      ⟨[], replies, .returned value⟩ := by
  cases replies <;> rfl

@[simp] theorem run_raise (fault : Fault) (replies : List Reply) :
    (raise fault : Dialogue Question Reply Fault Value).run replies =
      ⟨[], replies, .raised fault⟩ := by
  cases replies <;> rfl

@[simp] theorem run_cut (replies : List Reply) :
    (cut : Dialogue Question Reply Fault Value).run replies = ⟨[], replies, .running⟩ := by
  cases replies <;> rfl

@[simp] theorem run_ask_nil (question : Question)
    (next : Reply → Dialogue Question Reply Fault Value) :
    (ask question next).run [] = ⟨[question], [], .running⟩ := rfl

@[simp] theorem run_ask_cons (question : Question)
    (next : Reply → Dialogue Question Reply Fault Value) (reply : Reply)
    (replies : List Reply) :
    (ask question next).run (reply :: replies) =
      ⟨question :: ((next reply).run replies).asked, ((next reply).run replies).rest,
        ((next reply).run replies).outcome⟩ := rfl

/-- How a computation ends that asks nothing. -/
def Outcome.ofExcept : Except Fault Value → Outcome Fault Value
  | .ok value => .returned value
  | .error fault => .raised fault

theorem Outcome.ofExcept_eq_returned_iff {result : Except Fault Value} {value : Value} :
    Outcome.ofExcept result = .returned value ↔ result = .ok value := by
  cases result <;> simp [Outcome.ofExcept]

theorem Outcome.ofExcept_eq_raised_iff {result : Except Fault Value} {fault : Fault} :
    Outcome.ofExcept result = .raised fault ↔ result = .error fault := by
  cases result <;> simp [Outcome.ofExcept]

@[simp] theorem run_ofExcept (result : Except Fault Value) (replies : List Reply) :
    (ofExcept result : Dialogue Question Reply Fault Value).run replies =
      ⟨[], replies, .ofExcept result⟩ := by
  cases result with
  | error fault => exact run_raise fault replies
  | ok value => exact run_done value replies

theorem ends_done_iff {value result : Value} {replies : List Reply} :
    (done value : Dialogue Question Reply Fault Value).Ends replies (.returned result) ↔
      replies = [] ∧ value = result := by
  rw [Ends, run_done]
  simp

theorem not_ends_raise {fault : Fault} {result : Value} {replies : List Reply} :
    ¬ (raise fault : Dialogue Question Reply Fault Value).Ends replies (.returned result) := by
  rw [Ends, run_raise]
  simp

/-- A run of a sequence is a run of its first part, and then of the second if it returns. -/
theorem run_bind (dialogue : Dialogue Question Reply Fault Value)
    (continuation : Value → Dialogue Question Reply Fault Result) (replies : List Reply) :
    (dialogue.bind continuation).run replies =
      match dialogue.run replies with
      | ⟨asked, rest, .returned value⟩ =>
        ⟨asked ++ ((continuation value).run rest).asked, ((continuation value).run rest).rest,
          ((continuation value).run rest).outcome⟩
      | ⟨asked, rest, .raised fault⟩ => ⟨asked, rest, .raised fault⟩
      | ⟨asked, rest, .running⟩ => ⟨asked, rest, .running⟩ := by
  induction dialogue generalizing replies with
  | done value => simp
  | raise fault => simp
  | cut => simp
  | ask question next inductionHypothesis =>
    cases replies with
    | nil => rfl
    | cons reply replies =>
      rw [ask_bind, run_ask_cons, run_ask_cons, inductionHypothesis]
      rcases (next reply).run replies with ⟨asked, rest, _ | _ | _⟩ <;> rfl

/-- A run of a program with a handler is a run of the program, and then of the handler. -/
theorem run_rescue (dialogue : Dialogue Question Reply Fault Value)
    (handler : Fault → Dialogue Question Reply Fault Value) (replies : List Reply) :
    (dialogue.rescue handler).run replies =
      match dialogue.run replies with
      | ⟨asked, rest, .raised fault⟩ =>
        ⟨asked ++ ((handler fault).run rest).asked, ((handler fault).run rest).rest,
          ((handler fault).run rest).outcome⟩
      | ran => ran := by
  induction dialogue generalizing replies with
  | done value => simp
  | raise fault => simp
  | cut => simp [rescue]
  | ask question next inductionHypothesis =>
    cases replies with
    | nil => rfl
    | cons reply replies =>
      rw [rescue_ask, run_ask_cons, run_ask_cons, inductionHypothesis]
      rcases (next reply).run replies with ⟨asked, rest, _ | _ | _⟩ <;> rfl

/-- A fault of the first part of a sequence is a fault of the sequence. -/
theorem outcome_bind_of_raised {dialogue : Dialogue Question Reply Fault Value}
    {replies : List Reply} {fault : Fault}
    (raised : (dialogue.run replies).outcome = .raised fault)
    (continuation : Value → Dialogue Question Reply Fault Result) :
    ((dialogue.bind continuation).run replies).outcome = .raised fault := by
  rw [run_bind]
  generalize dialogue.run replies = ran at raised
  obtain ⟨asked, rest, outcome⟩ := ran
  cases raised
  rfl

/-- A fault that the handler turns into another one. -/
theorem outcome_rescue_of_raised {dialogue : Dialogue Question Reply Fault Value}
    {replies : List Reply} {fault final : Fault}
    (raised : (dialogue.run replies).outcome = .raised fault)
    {handler : Fault → Dialogue Question Reply Fault Value}
    (handled : handler fault = raise final) :
    ((dialogue.rescue handler).run replies).outcome = .raised final := by
  rw [run_rescue]
  generalize dialogue.run replies = ran at raised
  obtain ⟨asked, rest, outcome⟩ := ran
  cases raised
  simp only [handled, run_raise]

/-- A run that has returned leaves further replies unread. -/
theorem run_append {dialogue : Dialogue Question Reply Fault Value} {replies rest : List Reply}
    {asked : List Question} {value : Value}
    (ran : dialogue.run replies = ⟨asked, rest, .returned value⟩) (more : List Reply) :
    dialogue.run (replies ++ more) = ⟨asked, rest ++ more, .returned value⟩ := by
  induction dialogue generalizing replies asked with
  | done other =>
    rw [run_done] at ran ⊢
    cases ran
    rfl
  | raise fault =>
    rw [run_raise] at ran
    cases ran
  | cut =>
    rw [run_cut] at ran
    cases ran
  | ask question next inductionHypothesis =>
    cases replies with
    | nil => cases ran
    | cons reply replies =>
      rw [run_ask_cons] at ran
      rw [List.cons_append, run_ask_cons]
      have later : (next reply).run replies =
          ⟨((next reply).run replies).asked, rest, .returned value⟩ := by
        injection ran with _ left ended
        rw [← left, ← ended]
      rw [inductionHypothesis reply later]
      injection ran with first
      rw [← first]

theorem Ends.outcome_append {dialogue : Dialogue Question Reply Fault Value}
    {replies : List Reply} {value : Value} (ends : dialogue.Ends replies (.returned value))
    (more : List Reply) : (dialogue.run (replies ++ more)).outcome = .returned value := by
  obtain ⟨rest, outcome⟩ := ends
  have ran : dialogue.run replies = ⟨(dialogue.run replies).asked, [], .returned value⟩ := by
    rw [← rest, ← outcome]
  rw [run_append ran]

/-! ### What is asked -/

/-- Every question that can be put has a property. -/
def Asks (property : Question → Prop) : Dialogue Question Reply Fault Value → Prop
  | ask question next => property question ∧ ∀ reply, (next reply).Asks property
  | _ => True

/-- Nothing is asked. -/
abbrev Silent (dialogue : Dialogue Question Reply Fault Value) : Prop :=
  dialogue.Asks fun _ => False

variable {property : Question → Prop}

@[simp] theorem asks_done (value : Value) :
    (done value : Dialogue Question Reply Fault Value).Asks property := trivial

@[simp] theorem asks_raise (fault : Fault) :
    (raise fault : Dialogue Question Reply Fault Value).Asks property := trivial

@[simp] theorem asks_cut : (cut : Dialogue Question Reply Fault Value).Asks property := trivial

@[simp] theorem asks_ofExcept (result : Except Fault Value) :
    (ofExcept result : Dialogue Question Reply Fault Value).Asks property := by
  cases result <;> trivial

/-- A program that goes on with what it has made. -/
theorem asks_ofExcept_bind {made : Except Fault Value}
    {continuation : Value → Dialogue Question Reply Fault Result}
    (each : ∀ value, made = .ok value → (continuation value).Asks property) :
    ((ofExcept made : Dialogue Question Reply Fault Value).bind continuation).Asks property := by
  cases made with
  | error fault => trivial
  | ok value => exact each value rfl

theorem Asks.bind {dialogue : Dialogue Question Reply Fault Value}
    {continuation : Value → Dialogue Question Reply Fault Result}
    (first : dialogue.Asks property) (second : ∀ value, (continuation value).Asks property) :
    (dialogue.bind continuation).Asks property := by
  induction dialogue with
  | done value => exact second value
  | raise fault => trivial
  | cut => trivial
  | ask question next inductionHypothesis =>
    exact ⟨first.1, fun reply => inductionHypothesis reply (first.2 reply)⟩

theorem Asks.of_bind {dialogue : Dialogue Question Reply Fault Value}
    {continuation : Value → Dialogue Question Reply Fault Result}
    (asks : (dialogue.bind continuation).Asks property) : dialogue.Asks property := by
  induction dialogue with
  | ask question next inductionHypothesis =>
    exact ⟨asks.1, fun reply => inductionHypothesis reply (asks.2 reply)⟩
  | _ => trivial

theorem Asks.rescue {dialogue : Dialogue Question Reply Fault Value}
    {handler : Fault → Dialogue Question Reply Fault Value}
    (first : dialogue.Asks property) (second : ∀ fault, (handler fault).Asks property) :
    (dialogue.rescue handler).Asks property := by
  induction dialogue with
  | done value => trivial
  | raise fault => exact second fault
  | cut => trivial
  | ask question next inductionHypothesis =>
    exact ⟨first.1, fun reply => inductionHypothesis reply (first.2 reply)⟩

/-- What holds of a body in front of dialogues of which it holds, holds of its repetitions. -/
theorem iterate_induction {State : Type}
    {body : State → Dialogue Question Reply Fault (State ⊕ Value)}
    {holds : Dialogue Question Reply Fault Value → Prop} (cuts : holds cut)
    (ends : ∀ value, holds (done value))
    (keeps : ∀ state continuation, (∀ ended, holds (continuation ended)) →
      holds ((body state).bind continuation)) (turns : Nat) (state : State) :
    holds (Dialogue.iterate body turns state) := by
  induction turns generalizing state with
  | zero => exact cuts
  | succ turns inductionHypothesis =>
    refine keeps state _ fun ended => ?_
    cases ended with
    | inl next => exact inductionHypothesis next
    | inr value => exact ends value

theorem Asks.iterate {State : Type}
    {body : State → Dialogue Question Reply Fault (State ⊕ Value)}
    (each : ∀ state, (body state).Asks property) (turns : Nat) (state : State) :
    (Dialogue.iterate body turns state).Asks property := by
  refine iterate_induction trivial (fun value => trivial) (fun state _ later => ?_) turns state
  exact (each state).bind later

theorem Asks.mono {weaker : Question → Prop} {dialogue : Dialogue Question Reply Fault Value}
    (asks : dialogue.Asks property) (implies : ∀ question, property question → weaker question) :
    dialogue.Asks weaker := by
  induction dialogue with
  | ask question next inductionHypothesis =>
    exact ⟨implies question asks.1, fun reply => inductionHypothesis reply (asks.2 reply)⟩
  | _ => trivial

/-- What a run asks has the property, whatever the script. -/
theorem Asks.run {dialogue : Dialogue Question Reply Fault Value} (asks : dialogue.Asks property)
    (replies : List Reply) : ∀ question ∈ (dialogue.run replies).asked, property question := by
  induction dialogue generalizing replies with
  | done value => simp
  | raise fault => simp
  | cut => simp
  | ask question next inductionHypothesis =>
    intro asked member
    cases replies with
    | nil =>
      cases List.mem_singleton.mp member
      exact asks.1
    | cons reply replies =>
      rcases List.mem_cons.mp member with rfl | member
      · exact asks.1
      · exact inductionHypothesis reply (asks.2 reply) replies asked member

/-- At most so many questions are asked. -/
def AtMost : Nat → Dialogue Question Reply Fault Value → Prop
  | 0, ask _ _ => False
  | bound + 1, ask _ next => ∀ reply, (next reply).AtMost bound
  | _, _ => True

theorem Asks.atMost {dialogue : Dialogue Question Reply Fault Value} (silent : dialogue.Silent)
    (bound : Nat) : dialogue.AtMost bound := by
  cases dialogue with
  | ask question next => exact silent.1.elim
  | _ => cases bound <;> trivial

theorem AtMost.add {dialogue : Dialogue Question Reply Fault Value} {bound : Nat}
    (few : dialogue.AtMost bound) (more : Nat) : dialogue.AtMost (more + bound) := by
  induction dialogue generalizing bound with
  | ask question next inductionHypothesis =>
    cases bound with
    | zero => exact few.elim
    | succ bound => exact fun reply => inductionHypothesis reply (few reply)
  | _ => cases more + bound <;> trivial

theorem AtMost.bind {dialogue : Dialogue Question Reply Fault Value}
    {continuation : Value → Dialogue Question Reply Fault Result} {bound more : Nat}
    (first : dialogue.AtMost bound) (second : ∀ value, (continuation value).AtMost more) :
    (dialogue.bind continuation).AtMost (bound + more) := by
  induction dialogue generalizing bound with
  | done value => exact (second value).add bound
  | raise fault => exact (asks_raise fault).atMost _
  | cut => exact asks_cut.atMost _
  | ask question next inductionHypothesis =>
    cases bound with
    | zero => exact first.elim
    | succ bound =>
      rw [Nat.succ_add]
      exact fun reply => inductionHypothesis reply (first reply)

theorem AtMost.rescue {dialogue : Dialogue Question Reply Fault Value}
    {handler : Fault → Dialogue Question Reply Fault Value} {bound : Nat}
    (few : dialogue.AtMost bound) (silent : ∀ fault, (handler fault).Silent) :
    (dialogue.rescue handler).AtMost bound := by
  induction dialogue generalizing bound with
  | raise fault => exact (silent fault).atMost bound
  | ask question next inductionHypothesis =>
    cases bound with
    | zero => exact few.elim
    | succ bound => exact fun reply => inductionHypothesis reply (few reply)
  | _ => exact few

/-- A run reads no more replies than questions are asked. -/
theorem AtMost.run {dialogue : Dialogue Question Reply Fault Value} {bound : Nat}
    (few : dialogue.AtMost bound) (replies : List Reply) :
    replies.length ≤ bound + (dialogue.run replies).rest.length := by
  induction dialogue generalizing bound replies with
  | ask question next inductionHypothesis =>
    cases bound with
    | zero => exact few.elim
    | succ bound =>
      cases replies with
      | nil => exact Nat.zero_le _
      | cons reply replies =>
        rw [run_ask_cons, List.length_cons, Nat.succ_add]
        exact Nat.succ_le_succ (inductionHypothesis reply (few reply) replies)
  | _ => simp

/-! ### What is returned -/

/-- Every value that can be returned has a property. -/
def Returns (property : Value → Prop) : Dialogue Question Reply Fault Value → Prop
  | done value => property value
  | ask _ next => ∀ reply, (next reply).Returns property
  | _ => True

theorem returns_ofExcept {returned : Value → Prop} {result : Except Fault Value}
    (each : ∀ value, result = .ok value → returned value) :
    (ofExcept result : Dialogue Question Reply Fault Value).Returns returned := by
  cases result with
  | error fault => trivial
  | ok value => exact each value rfl

theorem Returns.bind (between : Value → Prop) {returned : Result → Prop}
    {dialogue : Dialogue Question Reply Fault Value}
    {continuation : Value → Dialogue Question Reply Fault Result}
    (first : dialogue.Returns between)
    (second : ∀ value, between value → (continuation value).Returns returned) :
    (dialogue.bind continuation).Returns returned := by
  induction dialogue with
  | done value => exact second value first
  | raise fault => trivial
  | cut => trivial
  | ask question next inductionHypothesis =>
    exact fun reply => inductionHypothesis reply (first reply)

theorem Returns.mono {stronger weaker : Value → Prop}
    {dialogue : Dialogue Question Reply Fault Value} (returns : dialogue.Returns stronger)
    (implies : ∀ value, stronger value → weaker value) : dialogue.Returns weaker := by
  induction dialogue with
  | done value => exact implies value returns
  | ask question next inductionHypothesis =>
    exact fun reply => inductionHypothesis reply (returns reply)
  | _ => trivial

theorem returns_of_forall {returned : Value → Prop} (each : ∀ value, returned value)
    (dialogue : Dialogue Question Reply Fault Value) : dialogue.Returns returned := by
  induction dialogue with
  | done value => exact each value
  | ask question next inductionHypothesis => exact inductionHypothesis
  | _ => trivial

/-- Some replies lead to a return. -/
def CanReturn : Dialogue Question Reply Fault Value → Prop
  | done _ => True
  | ask _ next => ∃ reply, (next reply).CanReturn
  | _ => False

theorem CanReturn.bind {dialogue : Dialogue Question Reply Fault Value}
    {continuation : Value → Dialogue Question Reply Fault Result} (first : dialogue.CanReturn)
    (second : ∀ value, (continuation value).CanReturn) :
    (dialogue.bind continuation).CanReturn := by
  induction dialogue with
  | done value => exact second value
  | raise fault => exact first.elim
  | cut => exact first.elim
  | ask question next inductionHypothesis =>
    obtain ⟨reply, returns⟩ := first
    exact ⟨reply, inductionHypothesis reply returns⟩

/-- A value that can be returned has everything that all of them have. -/
theorem CanReturn.exists {dialogue : Dialogue Question Reply Fault Value}
    (can : dialogue.CanReturn) {first second : Value → Prop} (returns : dialogue.Returns first)
    (returnsToo : dialogue.Returns second) : ∃ value, first value ∧ second value := by
  induction dialogue with
  | done value => exact ⟨value, returns, returnsToo⟩
  | raise fault => exact can.elim
  | cut => exact can.elim
  | ask question next inductionHypothesis =>
    obtain ⟨reply, can⟩ := can
    exact inductionHypothesis reply can (returns reply) (returnsToo reply)

/-- What the second part asks may depend on what the first one returns. -/
theorem Asks.bind_of_returns {between : Value → Prop}
    {dialogue : Dialogue Question Reply Fault Value}
    {continuation : Value → Dialogue Question Reply Fault Result}
    (first : dialogue.Asks property) (returns : dialogue.Returns between)
    (second : ∀ value, between value → (continuation value).Asks property) :
    (dialogue.bind continuation).Asks property := by
  induction dialogue with
  | done value => exact second value returns
  | raise fault => trivial
  | cut => trivial
  | ask question next inductionHypothesis =>
    exact ⟨first.1, fun reply => inductionHypothesis reply (first.2 reply) (returns reply)⟩

/-! ### Replies that do harm -/

/-- A reply that does harm at its place makes the program stop with a fault of the kind, and
nothing else does. -/
def FailsAt (kind : Fault → Prop) :
    (Nat → Reply → Prop) → Dialogue Question Reply Fault Value → Prop
  | harms, ask _ next => ∀ reply,
    (harms 0 reply → ∃ fault, next reply = raise fault ∧ kind fault) ∧
      (¬ harms 0 reply → (next reply).FailsAt kind fun place => harms (place + 1))
  | _, raise fault => ¬ kind fault
  | _, _ => True

section

variable {kind : Fault → Prop} {harms : Nat → Reply → Prop}

/-- Behind a computation that does no harm. -/
theorem FailsAt.ofExcept_bind {result : Except Fault Value}
    {continuation : Value → Dialogue Question Reply Fault Result}
    (harmless : ∀ fault, result = .error fault → ¬ kind fault)
    (later : ∀ value, result = .ok value → (continuation value).FailsAt kind harms) :
    ((ofExcept result).bind continuation).FailsAt kind harms := by
  cases result with
  | error fault => exact harmless fault rfl
  | ok value => exact later value rfl

/-- The places of a sequence's second part are counted from where its first part ends. -/
theorem FailsAt.bind_shifted {dialogue : Dialogue Question Reply Fault Value}
    {continuation : Value → Dialogue Question Reply Fault Result}
    (fails : dialogue.FailsAt kind harms)
    (later : ∀ value asked, (continuation value).FailsAt kind fun place => harms (place + asked)) :
    (dialogue.bind continuation).FailsAt kind harms := by
  induction dialogue generalizing harms with
  | done value => exact later value 0
  | raise fault => exact fails
  | cut => trivial
  | ask question next inductionHypothesis =>
    intro reply
    obtain ⟨harmful, harmless⟩ := fails reply
    refine ⟨fun harm => ?_, fun harm => inductionHypothesis reply (harmless harm)
      fun value asked => later value (asked + 1)⟩
    obtain ⟨fault, raised, bad⟩ := harmful harm
    exact ⟨fault, congrArg (Dialogue.bind · continuation) raised, bad⟩

/-- A program that asks nothing behind it. -/
theorem FailsAt.bind_silent {dialogue : Dialogue Question Reply Fault Value}
    {continuation : Value → Dialogue Question Reply Fault Result}
    (fails : dialogue.FailsAt kind harms)
    (later : ∀ value harms, (continuation value).FailsAt kind harms) :
    (dialogue.bind continuation).FailsAt kind harms :=
  fails.bind_shifted fun value _ => later value _

/-- Where every place is alike, the parts of a sequence may be looked at one by one. -/
theorem FailsAt.bind {harm : Reply → Prop} {dialogue : Dialogue Question Reply Fault Value}
    {continuation : Value → Dialogue Question Reply Fault Result}
    (fails : dialogue.FailsAt kind fun _ => harm)
    (later : ∀ value, (continuation value).FailsAt kind fun _ => harm) :
    (dialogue.bind continuation).FailsAt kind fun _ => harm :=
  fails.bind_shifted fun value _ => later value

theorem FailsAt.iterate {State : Type} {harm : Reply → Prop}
    {body : State → Dialogue Question Reply Fault (State ⊕ Value)}
    (each : ∀ state, (body state).FailsAt kind fun _ => harm) (turns : Nat) (state : State) :
    (Dialogue.iterate body turns state).FailsAt kind fun _ => harm := by
  refine iterate_induction trivial (fun value => trivial) (fun state _ later => ?_) turns state
  exact (each state).bind later

/-- A handler that neither makes nor mends a fault of the kind. -/
theorem FailsAt.rescue {handler : Fault → Dialogue Question Reply Fault Value}
    {dialogue : Dialogue Question Reply Fault Value} (fails : dialogue.FailsAt kind harms)
    (keeps : ∀ fault, kind fault → ∃ final, handler fault = raise final ∧ kind final)
    (mends : ∀ fault, ¬ kind fault → ∀ harms, (handler fault).FailsAt kind harms) :
    (dialogue.rescue handler).FailsAt kind harms := by
  induction dialogue generalizing harms with
  | done value => trivial
  | raise fault => exact mends fault fails harms
  | cut => trivial
  | ask question next inductionHypothesis =>
    intro reply
    obtain ⟨harmful, harmless⟩ := fails reply
    refine ⟨fun harm => ?_, fun harm => inductionHypothesis reply (harmless harm)⟩
    obtain ⟨fault, raised, bad⟩ := harmful harm
    obtain ⟨final, handled, still⟩ := keeps fault bad
    exact ⟨final, (congrArg (Dialogue.rescue handler) raised).trans handled, still⟩

/-- A run over a whole script stops with a fault of the kind exactly when some reply does harm at
its place. -/
theorem FailsAt.run {dialogue : Dialogue Question Reply Fault Value}
    (fails : dialogue.FailsAt kind harms) {replies : List Reply}
    (read : (dialogue.run replies).rest = []) :
    (∃ fault, (dialogue.run replies).outcome = .raised fault ∧ kind fault) ↔
      ∃ place reply, replies[place]? = some reply ∧ harms place reply := by
  induction dialogue generalizing harms replies with
  | ask question next inductionHypothesis =>
    cases replies with
    | nil => simp
    | cons reply replies =>
      obtain ⟨harmful, harmless⟩ := fails reply
      rw [run_ask_cons] at read ⊢
      by_cases harm : harms 0 reply
      · obtain ⟨fault, raised, bad⟩ := harmful harm
        exact iff_of_true ⟨fault, by rw [raised, run_raise], bad⟩ ⟨0, reply, rfl, harm⟩
      · rw [inductionHypothesis reply (harmless harm) read]
        constructor
        · rintro ⟨place, other, found, harms⟩
          exact ⟨place + 1, other, found, harms⟩
        · rintro ⟨place, other, found, harms⟩
          cases place with
          | zero =>
            cases found
            exact absurd harms harm
          | succ place => exact ⟨place, other, found, harms⟩
  | raise fault =>
    rw [run_raise] at read ⊢
    subst read
    refine iff_of_false ?_ (by simp)
    rintro ⟨other, same, bad⟩
    cases same
    exact fails bad
  | done value =>
    rw [run_done] at read ⊢
    subst read
    simp
  | cut =>
    rw [run_cut] at read ⊢
    subst read
    simp

end

/-! ### Dialogues that end -/

/-- The dialogue ends, whatever it is replied. -/
def Complete : Dialogue Question Reply Fault Value → Prop
  | done _ | raise _ => True
  | ask _ next => ∀ reply, (next reply).Complete
  | cut => False

theorem complete_ofExcept (result : Except Fault Value) :
    (ofExcept result : Dialogue Question Reply Fault Value).Complete := by
  cases result <;> trivial

theorem Complete.bind {dialogue : Dialogue Question Reply Fault Value}
    {continuation : Value → Dialogue Question Reply Fault Result} (first : dialogue.Complete)
    (second : ∀ value, (continuation value).Complete) : (dialogue.bind continuation).Complete := by
  induction dialogue with
  | done value => exact second value
  | raise fault => trivial
  | cut => exact first.elim
  | ask question next inductionHypothesis =>
    exact fun reply => inductionHypothesis reply (first reply)

theorem Complete.bind_done {dialogue : Dialogue Question Reply Fault Value}
    (complete : dialogue.Complete) (wrap : Value → Result) :
    (dialogue.bind fun value => done (wrap value)).Complete :=
  complete.bind fun value => complete_ofExcept (Except.ok (wrap value))

theorem Complete.rescue {dialogue : Dialogue Question Reply Fault Value}
    {handler : Fault → Dialogue Question Reply Fault Value} (first : dialogue.Complete)
    (handles : ∀ fault, (handler fault).Complete) : (dialogue.rescue handler).Complete := by
  induction dialogue with
  | done value => trivial
  | raise fault => exact handles fault
  | cut => exact first.elim
  | ask question next inductionHypothesis =>
    exact fun reply => inductionHypothesis reply (first reply)

/-! ### Playing against a peer -/

/-- A dialogue can be played against a peer that answers a question in one of the ways its
state allows, and the dialogue ends. -/
inductive Plays {State : Type} (peer : State → Question → Reply → State → Prop) :
    Dialogue Question Reply Fault Value → State → Except Fault Value → State → Prop where
  | done (value : Value) (state : State) : Plays peer (.done value) state (.ok value) state
  | raise (fault : Fault) (state : State) : Plays peer (.raise fault) state (.error fault) state
  | ask {question : Question} {next : Reply → Dialogue Question Reply Fault Value} {reply : Reply}
      {state between final : State} {result : Except Fault Value}
      (answers : peer state question reply between)
      (rest : Plays peer (next reply) between result final) :
      Plays peer (.ask question next) state result final

section

variable {State : Type} {peer : State → Question → Reply → State → Prop} {state final : State}

theorem plays_done_iff {value : Value} {result : Except Fault Value} :
    Plays peer (done value) state result final ↔ result = .ok value ∧ final = state := by
  constructor
  · rintro ⟨⟩
    exact ⟨rfl, rfl⟩
  · rintro ⟨rfl, rfl⟩
    exact .done value final

theorem plays_raise_iff {fault : Fault} {result : Except Fault Value} :
    Plays peer (raise fault) state result final ↔ result = .error fault ∧ final = state := by
  constructor
  · rintro ⟨⟩
    exact ⟨rfl, rfl⟩
  · rintro ⟨rfl, rfl⟩
    exact .raise fault final

theorem plays_ask_iff {question : Question} {next : Reply → Dialogue Question Reply Fault Value}
    {result : Except Fault Value} :
    Plays peer (ask question next) state result final ↔
      ∃ reply between, peer state question reply between ∧
        Plays peer (next reply) between result final := by
  constructor
  · rintro ⟨⟩
    exact ⟨_, _, ‹_›, ‹_›⟩
  · rintro ⟨reply, between, answers, rest⟩
    exact .ask answers rest

theorem plays_ofExcept_iff {computed result : Except Fault Value} :
    Plays peer (ofExcept computed) state result final ↔ result = computed ∧ final = state := by
  cases computed with
  | error fault => exact plays_raise_iff
  | ok value => exact plays_done_iff

/-- A sequence is played when its first part is, and then the second if the first returns. -/
theorem plays_bind_iff {dialogue : Dialogue Question Reply Fault Value}
    {continuation : Value → Dialogue Question Reply Fault Result} {result : Except Fault Result} :
    Plays peer (dialogue.bind continuation) state result final ↔
      (∃ value between, Plays peer dialogue state (.ok value) between ∧
        Plays peer (continuation value) between result final) ∨
      ∃ fault, Plays peer dialogue state (.error fault) final ∧ result = .error fault := by
  induction dialogue generalizing state with
  | done value =>
    rw [done_bind]
    simp only [plays_done_iff]
    constructor
    · exact fun plays => Or.inl ⟨value, state, ⟨rfl, rfl⟩, plays⟩
    · rintro (⟨_, _, ⟨same, rfl⟩, plays⟩ | ⟨_, ⟨same, _⟩, _⟩)
      · cases same
        exact plays
      · cases same
  | raise fault =>
    rw [raise_bind]
    simp only [plays_raise_iff]
    constructor
    · rintro ⟨rfl, rfl⟩
      exact Or.inr ⟨fault, ⟨rfl, rfl⟩, rfl⟩
    · rintro (⟨_, _, ⟨same, _⟩, _⟩ | ⟨_, ⟨same, rfl⟩, rfl⟩)
      · cases same
      · cases same
        exact ⟨rfl, rfl⟩
  | ask question next inductionHypothesis =>
    simp only [ask_bind, plays_ask_iff, inductionHypothesis]
    constructor
    · rintro ⟨reply, between, answers, ⟨value, later, first, rest⟩ | ⟨fault, first, same⟩⟩
      · exact Or.inl ⟨value, later, ⟨reply, between, answers, first⟩, rest⟩
      · exact Or.inr ⟨fault, ⟨reply, between, answers, first⟩, same⟩
    · rintro (⟨value, later, ⟨reply, between, answers, first⟩, rest⟩ |
        ⟨fault, ⟨reply, between, answers, first⟩, same⟩)
      · exact ⟨reply, between, answers, Or.inl ⟨value, later, first, rest⟩⟩
      · exact ⟨reply, between, answers, Or.inr ⟨fault, first, same⟩⟩
  | cut =>
    refine iff_of_false (fun plays => by cases plays) ?_
    rintro (⟨_, _, plays, _⟩ | ⟨_, plays, _⟩) <;> cases plays

/-- A computation behind a dialogue. -/
theorem plays_bind_ofExcept_iff {dialogue : Dialogue Question Reply Fault Value}
    {compute : Value → Except Fault Result} {result : Except Fault Result} :
    Plays peer (dialogue.bind fun value => ofExcept (compute value)) state result final ↔
      ∃ first, Plays peer dialogue state first final ∧ result = first >>= compute := by
  rw [plays_bind_iff]
  simp only [plays_ofExcept_iff]
  constructor
  · rintro (⟨value, between, first, same, rfl⟩ | ⟨fault, first, same⟩)
    · exact ⟨.ok value, first, same⟩
    · exact ⟨.error fault, first, same⟩
  · rintro ⟨first, plays, same⟩
    cases first with
    | ok value => exact Or.inl ⟨value, final, plays, same, rfl⟩
    | error fault => exact Or.inr ⟨fault, plays, same⟩

/-- A handler that asks nothing around a dialogue. -/
theorem plays_rescue_ofExcept_iff {dialogue : Dialogue Question Reply Fault Value}
    {handle : Fault → Except Fault Value} {result : Except Fault Value} :
    Plays peer (dialogue.rescue fun fault => ofExcept (handle fault)) state result final ↔
      ∃ first, Plays peer dialogue state first final ∧ result = first.tryCatch handle := by
  induction dialogue generalizing state with
  | done value =>
    rw [rescue_done]
    simp only [plays_done_iff]
    constructor
    · rintro ⟨rfl, rfl⟩
      exact ⟨.ok value, ⟨rfl, rfl⟩, rfl⟩
    · rintro ⟨_, ⟨rfl, rfl⟩, rfl⟩
      exact ⟨rfl, rfl⟩
  | raise fault =>
    rw [rescue_raise, plays_ofExcept_iff]
    simp only [plays_raise_iff]
    constructor
    · rintro ⟨rfl, rfl⟩
      exact ⟨.error fault, ⟨rfl, rfl⟩, rfl⟩
    · rintro ⟨_, ⟨rfl, rfl⟩, rfl⟩
      exact ⟨rfl, rfl⟩
  | ask question next inductionHypothesis =>
    simp only [rescue_ask, plays_ask_iff, inductionHypothesis]
    constructor
    · rintro ⟨reply, between, answers, first, rest, same⟩
      exact ⟨first, ⟨reply, between, answers, rest⟩, same⟩
    · rintro ⟨first, ⟨reply, between, answers, rest⟩, same⟩
      exact ⟨reply, between, answers, first, rest, same⟩
  | cut =>
    refine iff_of_false (fun plays => by cases plays) ?_
    rintro ⟨_, plays, _⟩
    cases plays

/-- A dialogue that ends is played to its end against a peer that always answers. -/
theorem Complete.plays {dialogue : Dialogue Question Reply Fault Value}
    (complete : dialogue.Complete)
    (responsive : ∀ state question, ∃ reply between, peer state question reply between)
    (state : State) : ∃ result final, Plays peer dialogue state result final := by
  induction dialogue generalizing state with
  | done value => exact ⟨_, _, .done value state⟩
  | raise fault => exact ⟨_, _, .raise fault state⟩
  | cut => exact complete.elim
  | ask question next inductionHypothesis =>
    obtain ⟨reply, between, answers⟩ := responsive state question
    obtain ⟨result, final, rest⟩ := inductionHypothesis reply (complete reply) between
    exact ⟨result, final, .ask answers rest⟩

/-- Programs that are played one after the other against the same peer. -/
inductive PlaysAll (peer : State → Question → Reply → State → Prop) :
    List (Dialogue Question Reply Fault Value) → State → List (Except Fault Value) → State →
      Prop where
  | nil (state : State) : PlaysAll peer [] state [] state
  | cons {program : Dialogue Question Reply Fault Value}
      {programs : List (Dialogue Question Reply Fault Value)} {state between final : State}
      {result : Except Fault Value} {results : List (Except Fault Value)}
      (first : Plays peer program state result between)
      (later : PlaysAll peer programs between results final) :
      PlaysAll peer (program :: programs) state (result :: results) final

/-- So are all of them. -/
theorem exists_playsAll {programs : List (Dialogue Question Reply Fault Value)}
    (complete : ∀ program ∈ programs, program.Complete)
    (responsive : ∀ state question, ∃ reply between, peer state question reply between)
    (state : State) : ∃ results final, PlaysAll peer programs state results final := by
  induction programs generalizing state with
  | nil => exact ⟨[], state, .nil state⟩
  | cons program programs inductionHypothesis =>
    obtain ⟨result, between, first⟩ :=
      (complete program List.mem_cons_self).plays responsive state
    obtain ⟨results, final, later⟩ := inductionHypothesis
      (fun program member => complete program (List.mem_cons_of_mem _ member)) between
    exact ⟨result :: results, final, .cons first later⟩

/-- Calls that are made one after the other, as a description of the calls has it. -/
inductive DoesAll {Call Answer : Type} (does : Call → State → Answer → State → Prop) :
    List Call → State → List Answer → State → Prop where
  | nil (state : State) : DoesAll does [] state [] state
  | cons {call : Call} {calls : List Call} {state between final : State} {answer : Answer}
      {answers : List Answer} (first : does call state answer between)
      (later : DoesAll does calls between answers final) :
      DoesAll does (call :: calls) state (answer :: answers) final

/-- When every program does what the description of its call says, all of them do, one after the
other. -/
theorem PlaysAll.refines {Call Answer : Type} {program : Call → Dialogue Question Reply Fault Value}
    {does : Call → State → Answer → State → Prop} {agrees : Answer → Except Fault Value → Prop}
    (each : ∀ call state result final, Plays peer (program call) state result final →
      ∃ answer, does call state answer final ∧ agrees answer result)
    {calls : List Call} {results : List (Except Fault Value)}
    (plays : PlaysAll peer (calls.map program) state results final) :
    ∃ answers, DoesAll does calls state answers final ∧ List.Forall₂ agrees answers results := by
  induction calls generalizing state results with
  | nil =>
    cases plays
    exact ⟨[], .nil final, .nil⟩
  | cons call calls inductionHypothesis =>
    cases plays with
    | cons first later =>
      obtain ⟨answer, does, agrees⟩ := each call _ _ _ first
      obtain ⟨answers, doesAll, agreesAll⟩ := inductionHypothesis later
      exact ⟨answer :: answers, .cons does doesAll, .cons agrees agreesAll⟩

end

/-! ### Programs that put the same questions -/

/-- Two programs put the same questions, whatever the replies are, and return the same value. With
which fault they stop does not matter. -/
def Alike : Dialogue Question Reply Fault Value → Dialogue Question Reply Fault Value → Prop
  | done first, done second => first = second
  | raise _, raise _ => True
  | ask first next, ask second other => first = second ∧ ∀ reply, (next reply).Alike (other reply)
  | cut, cut => True
  | _, _ => False

theorem alike_refl (program : Dialogue Question Reply Fault Value) : program.Alike program := by
  induction program with
  | done value => rfl
  | raise fault => trivial
  | ask question next inductionHypothesis => exact ⟨rfl, inductionHypothesis⟩
  | cut => trivial

theorem alike_ofExcept_iff (first second : Except Fault Value) :
    (ofExcept first : Dialogue Question Reply Fault Value).Alike (ofExcept second) ↔
      first.toOption = second.toOption := by
  cases first with
  | error fault =>
    cases second with
    | error other => exact iff_of_true trivial rfl
    | ok value => exact iff_of_false id fun same => by cases same
  | ok value =>
    cases second with
    | error fault => exact iff_of_false id fun same => by cases same
    | ok other => exact (Option.some_inj).symm

end Dialogue
