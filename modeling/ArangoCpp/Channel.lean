/-
This file builds programs over a channel that may fail, and carries what is known of a
program over to what goes through the channel.

A program puts its questions to a channel and is told the reply or a fault. The channel
turns a question into a signal, or fails at that, and reads a reply out of the echo of the
signal, or fails at that. `through` puts a program on a channel; what is left is a dialogue of
signals and echoes.

A program on a channel runs like the program itself on what it hears. Most programs are
`Prompt`: once the channel has failed they ask nothing more. What a prompt program hears is
then what the channel makes of the echoes, one by one, and at most one failure to send
behind them.
-/

import ArangoCpp.Dialogue

namespace Dialogue

variable {Question Reply Signal Echo Fault Value Result : Type}

/-! ### Channels -/

/-- How questions become signals and echoes become replies. -/
structure Channel (Question Reply Signal Echo Fault : Type) where
  encode : Question → Except Fault Signal
  decode : Question → Echo → Except Fault Reply

/-- One use of a channel: a signal and its echo, or a failure without any. -/
def Channel.use (channel : Channel Question Reply Signal Echo Fault) (question : Question) :
    Dialogue Signal Echo Fault (Except Fault Reply) :=
  match channel.encode question with
  | .error fault => done (.error fault)
  | .ok signal => ask signal fun echo => done (channel.decode question echo)

/-- Put a question to the channel. A fault of the channel becomes a fault of the program. -/
def send (question : Question) : Dialogue Question (Except Fault Reply) Fault Reply :=
  ask question ofExcept

/-- Put a question to the channel and read the reply. -/
def exchange (question : Question) (read : Reply → Except Fault Value) :
    Dialogue Question (Except Fault Reply) Fault Value :=
  (send question).bind fun reply => ofExcept (read reply)

/-- The result of a dialogue as a value. -/
def attempt (dialogue : Dialogue Question Reply Fault Value) :
    Dialogue Question Reply Fault (Except Fault Value) :=
  (dialogue.bind fun value => done (.ok value)).rescue fun fault => done (.error fault)

@[simp] theorem attempt_ofExcept (result : Except Fault Value) :
    (ofExcept result : Dialogue Question Reply Fault Value).attempt = done result := by
  cases result <;> rfl

/-- Answer the questions of a program by a dialogue each. -/
def via (answer : Question → Dialogue Signal Echo Fault Reply) :
    Dialogue Question Reply Fault Value → Dialogue Signal Echo Fault Value
  | done value => done value
  | raise fault => raise fault
  | ask question next => (answer question).bind fun reply => (next reply).via answer
  | cut => cut

/-- Put a program on a channel. -/
def through (channel : Channel Question Reply Signal Echo Fault) :
    Dialogue Question (Except Fault Reply) Fault Value → Dialogue Signal Echo Fault Value
  | done value => done value
  | raise fault => raise fault
  | ask question next =>
    match channel.encode question with
    | .error fault => (next (.error fault)).through channel
    | .ok signal => ask signal fun echo => (next (channel.decode question echo)).through channel
  | cut => cut

variable {channel : Channel Question Reply Signal Echo Fault}

theorem ofExcept_bind_ofExcept (first : Except Fault Value)
    (second : Value → Except Fault Result) :
    ((ofExcept first : Dialogue Question Reply Fault Value).bind fun value =>
      ofExcept (second value)) = ofExcept (first >>= second) := by
  cases first <;> rfl

@[simp] theorem through_done (value : Value) :
    (done value : Dialogue Question (Except Fault Reply) Fault Value).through channel =
      done value := rfl

@[simp] theorem through_raise (fault : Fault) :
    (raise fault : Dialogue Question (Except Fault Reply) Fault Value).through channel =
      raise fault := rfl

@[simp] theorem through_cut :
    (cut : Dialogue Question (Except Fault Reply) Fault Value).through channel = cut := rfl

theorem through_ask_of_error {question : Question} {fault : Fault}
    (fails : channel.encode question = .error fault)
    (next : Except Fault Reply → Dialogue Question (Except Fault Reply) Fault Value) :
    (ask question next).through channel = (next (.error fault)).through channel := by
  simp only [through, fails]

theorem through_ask_of_ok {question : Question} {signal : Signal}
    (encoded : channel.encode question = .ok signal)
    (next : Except Fault Reply → Dialogue Question (Except Fault Reply) Fault Value) :
    (ask question next).through channel =
      ask signal fun echo => (next (channel.decode question echo)).through channel := by
  simp only [through, encoded]

theorem through_bind (program : Dialogue Question (Except Fault Reply) Fault Value)
    (continuation : Value → Dialogue Question (Except Fault Reply) Fault Result) :
    (program.bind continuation).through channel =
      (program.through channel).bind fun value => (continuation value).through channel := by
  induction program with
  | ask question next inductionHypothesis =>
    rw [ask_bind]
    cases encoded : channel.encode question with
    | error fault =>
      rw [through_ask_of_error encoded, through_ask_of_error encoded]
      exact inductionHypothesis _
    | ok signal =>
      rw [through_ask_of_ok encoded, through_ask_of_ok encoded]
      exact congrArg (ask signal) (funext fun echo => inductionHypothesis _)
  | _ => rfl

theorem through_rescue (handler : Fault → Dialogue Question (Except Fault Reply) Fault Value)
    (program : Dialogue Question (Except Fault Reply) Fault Value) :
    (program.rescue handler).through channel =
      (program.through channel).rescue fun fault => (handler fault).through channel := by
  induction program with
  | ask question next inductionHypothesis =>
    rw [rescue_ask]
    cases encoded : channel.encode question with
    | error fault =>
      rw [through_ask_of_error encoded, through_ask_of_error encoded]
      exact inductionHypothesis _
    | ok signal =>
      rw [through_ask_of_ok encoded, through_ask_of_ok encoded]
      exact congrArg (ask signal) (funext fun echo => inductionHypothesis _)
  | _ => rfl

@[simp] theorem through_ofExcept (result : Except Fault Value) :
    (ofExcept result : Dialogue Question (Except Fault Reply) Fault Value).through channel =
      ofExcept result := by
  cases result <;> rfl

theorem via_bind (answer : Question → Dialogue Signal Echo Fault Reply)
    (program : Dialogue Question Reply Fault Value)
    (continuation : Value → Dialogue Question Reply Fault Result) :
    (program.bind continuation).via answer =
      (program.via answer).bind fun value => (continuation value).via answer := by
  induction program with
  | done value => rfl
  | raise fault => rfl
  | ask question next inductionHypothesis =>
    rw [ask_bind, via, via, bind_assoc]
    exact congrArg (Dialogue.bind (answer question)) (funext inductionHypothesis)
  | cut => rfl

theorem Returns.via {returned : Value → Prop} {program : Dialogue Question Reply Fault Value}
    (returns : program.Returns returned) (answer : Question → Dialogue Signal Echo Fault Reply) :
    (program.via answer).Returns returned := by
  induction program with
  | done value => exact returns
  | raise fault => trivial
  | cut => trivial
  | ask question next inductionHypothesis =>
    exact Returns.bind (fun _ => True) (returns_of_forall (fun _ => trivial) _)
      fun reply _ => inductionHypothesis reply (returns reply)

/-- Dialogues that send one signal and read one echo make up a channel. -/
theorem via_eq_through {answer : Question → Dialogue Signal Echo Fault (Except Fault Reply)}
    {property : Question → Prop}
    (answers : ∀ question, property question → answer question = channel.use question)
    {program : Dialogue Question (Except Fault Reply) Fault Value}
    (asks : program.Asks property) : program.via answer = program.through channel := by
  induction program with
  | ask question next inductionHypothesis =>
    rw [via, answers question asks.1, Channel.use]
    cases encoded : channel.encode question with
    | error fault =>
      rw [through_ask_of_error encoded]
      exact inductionHypothesis _ (asks.2 _)
    | ok signal =>
      rw [through_ask_of_ok encoded]
      exact congrArg (ask signal) (funext fun echo => inductionHypothesis _ (asks.2 _))
  | _ => rfl

/-- A program that begins with an exchange goes on with what is read. -/
theorem run_exchange_bind {question : Question} {read : Reply → Except Fault Value} {reply : Reply}
    {value : Value} (taken : read reply = .ok value)
    (continuation : Value → Dialogue Question (Except Fault Reply) Fault Result)
    (replies : List (Except Fault Reply)) :
    ((exchange question read).bind continuation).run (.ok reply :: replies) =
      ⟨question :: ((continuation value).run replies).asked,
        ((continuation value).run replies).rest,
        ((continuation value).run replies).outcome⟩ := by
  have asked : (exchange question read).bind continuation = ask question fun reply =>
      (((ofExcept reply).bind fun reply => ofExcept (read reply)).bind continuation) := rfl
  rw [asked, run_ask_cons, ofExcept_ok, done_bind, taken, ofExcept_ok, done_bind]

/-- A program that begins with an exchange stops when the reply cannot be read. -/
theorem run_exchange_bind_of_error {question : Question} {read : Reply → Except Fault Value}
    {reply : Reply} {fault : Fault} (refused : read reply = .error fault)
    (continuation : Value → Dialogue Question (Except Fault Reply) Fault Result)
    (replies : List (Except Fault Reply)) :
    ((exchange question read).bind continuation).run (.ok reply :: replies) =
      ⟨[question], replies, .raised fault⟩ := by
  have asked : (exchange question read).bind continuation = ask question fun reply =>
      (((ofExcept reply).bind fun reply => ofExcept (read reply)).bind continuation) := rfl
  rw [asked, run_ask_cons, ofExcept_ok, done_bind, refused, ofExcept_error, raise_bind, run_raise]

/-- A program that begins with an exchange stops when the channel fails. -/
theorem run_exchange_bind_of_failure {question : Question} {read : Reply → Except Fault Value}
    (fault : Fault) (continuation : Value → Dialogue Question (Except Fault Reply) Fault Result)
    (replies : List (Except Fault Reply)) :
    ((exchange question read).bind continuation).run (.error fault :: replies) =
      ⟨[question], replies, .raised fault⟩ := by
  have asked : (exchange question read).bind continuation = ask question fun reply =>
      (((ofExcept reply).bind fun reply => ofExcept (read reply)).bind continuation) := rfl
  rw [asked, run_ask_cons, ofExcept_error, raise_bind, raise_bind, run_raise]

/-- When a program that begins with an exchange reads a second reply, it has read the first. -/
theorem exists_read_of_exchange_bind {question : Question} {read : Reply → Except Fault Value}
    {continuation : Value → Dialogue Question (Except Fault Reply) Fault Result}
    {first second : Except Fault Reply} {replies : List (Except Fault Reply)}
    (unread : (((exchange question read).bind continuation).run
      (first :: second :: replies)).rest = []) :
    ∃ reply value, first = .ok reply ∧ read reply = .ok value := by
  cases first with
  | error fault =>
    rw [run_exchange_bind_of_failure] at unread
    cases unread
  | ok reply =>
    cases taken : read reply with
    | error fault =>
      rw [run_exchange_bind_of_error taken] at unread
      cases unread
    | ok value => exact ⟨reply, value, rfl, taken⟩

/-- A program that begins with an exchange returns when the reply is read and the rest returns. -/
theorem exchange_bind_ends_iff {question : Question} {read : Reply → Except Fault Value}
    {continuation : Value → Dialogue Question (Except Fault Reply) Fault Result}
    {reply : Reply} {replies : List (Except Fault Reply)} {result : Result} :
    ((exchange question read).bind continuation).Ends (.ok reply :: replies) (.returned result) ↔
      ∃ value, read reply = .ok value ∧ (continuation value).Ends replies (.returned result) := by
  have asked : (exchange question read).bind continuation = ask question fun reply =>
      (((ofExcept reply).bind fun reply => ofExcept (read reply)).bind continuation) := rfl
  rw [asked, Ends, run_ask_cons, ofExcept_ok, done_bind]
  cases read reply with
  | error fault =>
    rw [ofExcept_error, raise_bind, run_raise]
    simp
  | ok value =>
    rw [ofExcept_ok, done_bind]
    simp [Ends]

/-- An exchange returns on one reply that can be read. -/
theorem exchange_ends_iff {question : Question} {read : Reply → Except Fault Value}
    {replies : List Reply} {value : Value} :
    (exchange question read).Ends (replies.map .ok) (.returned value) ↔
      ∃ reply, replies = [reply] ∧ read reply = .ok value := by
  rw [← bind_done (exchange question read)]
  cases replies with
  | nil =>
    refine iff_of_false (fun ⟨_, ended⟩ => by cases ended) ?_
    rintro ⟨reply, same, _⟩
    cases same
  | cons reply replies =>
    rw [List.map_cons, exchange_bind_ends_iff]
    simp only [ends_done_iff, List.map_eq_nil_iff]
    constructor
    · rintro ⟨_, taken, rfl, rfl⟩
      exact ⟨reply, rfl, taken⟩
    · rintro ⟨_, same, taken⟩
      cases same
      exact ⟨value, taken, rfl, rfl⟩

theorem not_exchange_bind_ends_nil {question : Question} {read : Reply → Except Fault Value}
    {continuation : Value → Dialogue Question (Except Fault Reply) Fault Result} {result : Result} :
    ¬ ((exchange question read).bind continuation).Ends [] (.returned result) := by
  rintro ⟨_, ended⟩
  cases ended

/-! ### What goes through the channel -/

theorem asks_exchange {property : Question → Prop} {question : Question} (asked : property question)
    (read : Reply → Except Fault Value) : (exchange question read).Asks property :=
  Asks.bind ⟨asked, fun _ => asks_ofExcept _⟩ fun _ => asks_ofExcept _

theorem atMost_exchange (question : Question) (read : Reply → Except Fault Value) :
    (exchange question read).AtMost 1 := by
  intro reply
  exact (Asks.bind (asks_ofExcept reply) fun reply => asks_ofExcept (read reply)).atMost 0

/-- What a program can ask bounds what goes through the channel. -/
theorem Asks.through {property : Question → Prop} {sent : Signal → Prop}
    {program : Dialogue Question (Except Fault Reply) Fault Value} (asks : program.Asks property)
    (encodes : ∀ question signal, property question → channel.encode question = .ok signal →
      sent signal) :
    (program.through channel).Asks sent := by
  induction program with
  | ask question next inductionHypothesis =>
    cases encoded : channel.encode question with
    | error fault =>
      rw [through_ask_of_error encoded]
      exact inductionHypothesis _ (asks.2 _)
    | ok signal =>
      rw [through_ask_of_ok encoded]
      exact ⟨encodes question signal asks.1 encoded, fun echo => inductionHypothesis _ (asks.2 _)⟩
  | _ => trivial

/-- No more signals go through the channel than questions are put to it. -/
theorem AtMost.through {program : Dialogue Question (Except Fault Reply) Fault Value} {bound : Nat}
    (few : program.AtMost bound) : (program.through channel).AtMost bound := by
  induction program generalizing bound with
  | done value => exact Asks.atMost (asks_done value) bound
  | raise fault => exact Asks.atMost (asks_raise fault) bound
  | cut => exact Asks.atMost asks_cut bound
  | ask question next inductionHypothesis =>
    cases bound with
    | zero => exact few.elim
    | succ bound =>
      cases encoded : channel.encode question with
      | error fault =>
        rw [through_ask_of_error encoded, Nat.add_comm]
        exact (inductionHypothesis _ (few _)).add 1
      | ok signal =>
        rw [through_ask_of_ok encoded]
        exact fun echo => inductionHypothesis _ (few _)

/-- What a program hears over a channel, given the echoes. -/
def heard (channel : Channel Question Reply Signal Echo Fault) :
    Dialogue Question (Except Fault Reply) Fault Value → List Echo → List (Except Fault Reply)
  | ask question next, echoes =>
    match channel.encode question with
    | .error fault => .error fault :: (next (.error fault)).heard channel echoes
    | .ok _ => match echoes with
      | [] => []
      | echo :: echoes =>
        channel.decode question echo :: (next (channel.decode question echo)).heard channel echoes
  | _, _ => []

theorem heard_ask_of_error {question : Question} {fault : Fault}
    (fails : channel.encode question = .error fault)
    (next : Except Fault Reply → Dialogue Question (Except Fault Reply) Fault Value)
    (echoes : List Echo) :
    (ask question next).heard channel echoes =
      .error fault :: (next (.error fault)).heard channel echoes := by
  rw [heard.eq_def]
  simp only [fails]

theorem heard_ask_nil {question : Question} {signal : Signal}
    (encoded : channel.encode question = .ok signal)
    (next : Except Fault Reply → Dialogue Question (Except Fault Reply) Fault Value) :
    (ask question next).heard channel [] = [] := by
  rw [heard.eq_def]
  simp only [encoded]

theorem heard_ask_cons {question : Question} {signal : Signal}
    (encoded : channel.encode question = .ok signal)
    (next : Except Fault Reply → Dialogue Question (Except Fault Reply) Fault Value)
    (echo : Echo) (echoes : List Echo) :
    (ask question next).heard channel (echo :: echoes) =
      channel.decode question echo ::
        (next (channel.decode question echo)).heard channel echoes := by
  rw [heard.eq_def]
  simp only [encoded]

/-- The signals that questions become. -/
def signals (channel : Channel Question Reply Signal Echo Fault) (questions : List Question) :
    List Signal :=
  questions.filterMap fun question => (channel.encode question).toOption

/-- A program over a channel runs like the program on what it hears. -/
theorem run_through (program : Dialogue Question (Except Fault Reply) Fault Value)
    (echoes : List Echo) :
    ((program.through channel).run echoes).outcome =
        (program.run (program.heard channel echoes)).outcome ∧
      (program.run (program.heard channel echoes)).rest = [] ∧
      ((program.through channel).run echoes).asked =
        signals channel (program.run (program.heard channel echoes)).asked := by
  induction program generalizing echoes with
  | ask question next inductionHypothesis =>
    cases encoded : channel.encode question with
    | error fault =>
      rw [through_ask_of_error encoded]
      obtain ⟨outcome, rest, asked⟩ := inductionHypothesis (.error fault) echoes
      rw [heard_ask_of_error encoded]
      refine ⟨outcome, rest, ?_⟩
      simpa [signals, encoded, Except.toOption] using asked
    | ok signal =>
      rw [through_ask_of_ok encoded]
      cases echoes with
      | nil =>
        rw [heard_ask_nil encoded]
        simp [signals, encoded, Except.toOption]
      | cons echo echoes =>
        obtain ⟨outcome, rest, asked⟩ := inductionHypothesis (channel.decode question echo) echoes
        rw [heard_ask_cons encoded]
        refine ⟨outcome, rest, ?_⟩
        simpa [signals, encoded, Except.toOption] using asked
  | _ => simp [heard, signals]

/-- An exchange over a channel sends one signal and reads one echo. -/
theorem run_through_exchange {question : Question} {signal : Signal} {echo : Echo} {reply : Reply}
    (encoded : channel.encode question = .ok signal)
    (decoded : channel.decode question echo = .ok reply) {read : Reply → Except Fault Value}
    {value : Value} (reads : read reply = .ok value) (echoes : List Echo) :
    ((exchange question read).through channel).run (echo :: echoes) =
      ⟨[signal], echoes, .returned value⟩ := by
  have asked : (exchange question read).through channel = ask signal fun echo =>
      ((ofExcept (channel.decode question echo)).bind fun reply =>
        ofExcept (read reply)).through channel := through_ask_of_ok encoded _
  rw [asked, run_ask_cons, decoded, ofExcept_ok, done_bind, reads, ofExcept_ok, through_done,
    run_done]

/-- An exchange over a channel whose reply cannot be read. -/
theorem run_through_exchange_of_error {question : Question} {signal : Signal} {echo : Echo}
    {reply : Reply} (encoded : channel.encode question = .ok signal)
    (decoded : channel.decode question echo = .ok reply) {read : Reply → Except Fault Value}
    {fault : Fault} (refused : read reply = .error fault)
    (continuation : Value → Dialogue Question (Except Fault Reply) Fault Result)
    (echoes : List Echo) :
    (((exchange question read).bind continuation).through channel).run (echo :: echoes) =
      ⟨[signal], echoes, .raised fault⟩ := by
  have asked : (exchange question read).through channel = ask signal fun echo =>
      ((ofExcept (channel.decode question echo)).bind fun reply =>
        ofExcept (read reply)).through channel := through_ask_of_ok encoded _
  rw [through_bind, asked, ask_bind, run_ask_cons, decoded, ofExcept_ok, done_bind, refused,
    ofExcept_error, through_raise, raise_bind, run_raise]

theorem complete_exchange (question : Question) (read : Reply → Except Fault Value) :
    (exchange question read).Complete := by
  intro reply
  exact (complete_ofExcept reply).bind fun _ => complete_ofExcept _

theorem Complete.attempt {dialogue : Dialogue Question Reply Fault Value}
    (complete : dialogue.Complete) : dialogue.attempt.Complete := by
  refine Complete.rescue (complete.bind_done Except.ok) fun fault => ?_
  exact complete_ofExcept (Except.ok (Except.error fault))

theorem Complete.via {answer : Question → Dialogue Signal Echo Fault Reply}
    (answers : ∀ question, (answer question).Complete)
    {program : Dialogue Question Reply Fault Value} (complete : program.Complete) :
    (program.via answer).Complete := by
  induction program with
  | done value => trivial
  | raise fault => trivial
  | cut => exact complete.elim
  | ask question next inductionHypothesis =>
    exact (answers question).bind fun reply => inductionHypothesis reply (complete reply)

/-- Over a channel a question is put to the peer as its signal, and the echo is read. -/
theorem plays_through_exchange_iff {State : Type} {peer : State → Signal → Echo → State → Prop}
    {state final : State} {question : Question} {signal : Signal}
    (encoded : channel.encode question = .ok signal) {read : Reply → Except Fault Value}
    {result : Except Fault Value} :
    Plays peer ((exchange question read).through channel) state result final ↔
      ∃ echo, peer state signal echo final ∧ result = (channel.decode question echo >>= read) := by
  have asked : (exchange question read).through channel = ask signal fun echo =>
      ((ofExcept (channel.decode question echo)).bind fun reply =>
        ofExcept (read reply)).through channel := through_ask_of_ok encoded _
  rw [asked, plays_ask_iff]
  simp only [ofExcept_bind_ofExcept, through_ofExcept, plays_ofExcept_iff]
  constructor
  · rintro ⟨echo, between, answers, same, rfl⟩
    exact ⟨echo, answers, same⟩
  · rintro ⟨echo, answers, same⟩
    exact ⟨echo, final, answers, same, rfl⟩

/-- Over a channel too, the second part of a program runs on what the first has left. -/
theorem run_through_bind {program : Dialogue Question (Except Fault Reply) Fault Value}
    {echoes rest : List Echo} {asked : List Signal} {value : Value}
    (ran : (program.through channel).run echoes = ⟨asked, rest, .returned value⟩)
    (continuation : Value → Dialogue Question (Except Fault Reply) Fault Result) :
    ((program.bind continuation).through channel).run echoes =
      ⟨asked ++ (((continuation value).through channel).run rest).asked,
        (((continuation value).through channel).run rest).rest,
        (((continuation value).through channel).run rest).outcome⟩ := by
  rw [through_bind, run_bind, ran]

/-- A handler that always stops with a fault changes nothing about when a program returns. -/
theorem rescue_ends_iff {handler : Fault → Dialogue Question Reply Fault Value}
    (raises : ∀ fault, ∃ final, handler fault = raise final)
    {program : Dialogue Question Reply Fault Value} {replies : List Reply} {value : Value} :
    (program.rescue handler).Ends replies (.returned value) ↔
      program.Ends replies (.returned value) := by
  induction program generalizing replies with
  | done other => exact Iff.rfl
  | cut => exact Iff.rfl
  | raise fault =>
    obtain ⟨final, raised⟩ := raises fault
    rw [rescue_raise, raised]
    exact iff_of_false not_ends_raise not_ends_raise
  | ask question next inductionHypothesis =>
    cases replies with
    | nil => exact iff_of_false (fun ⟨_, ended⟩ => by cases ended) fun ⟨_, ended⟩ => by cases ended
    | cons reply replies => exact inductionHypothesis reply

/-! ### Programs that stop when the channel fails -/

/-- When the channel fails, so does the program. -/
def Strict : Dialogue Question (Except Fault Reply) Fault Value → Prop
  | ask _ next =>
    (∀ fault, ∃ final, next (.error fault) = raise final) ∧ ∀ reply, (next (.ok reply)).Strict
  | _ => True

/-- Once the channel has failed, nothing more is asked. -/
def Prompt : Dialogue Question (Except Fault Reply) Fault Value → Prop
  | ask _ next => (∀ fault, (next (.error fault)).Silent) ∧ ∀ reply, (next (.ok reply)).Prompt
  | _ => True

@[simp] theorem strict_ofExcept (result : Except Fault Value) :
    (ofExcept result : Dialogue Question (Except Fault Reply) Fault Value).Strict := by
  cases result <;> trivial

theorem strict_exchange (question : Question) (read : Reply → Except Fault Value) :
    (exchange question read).Strict :=
  ⟨fun fault => ⟨fault, rfl⟩, fun _ => strict_ofExcept _⟩

/-- The second part may depend on what the first one returns. -/
theorem Strict.bind_of_returns {between : Value → Prop}
    {program : Dialogue Question (Except Fault Reply) Fault Value}
    {continuation : Value → Dialogue Question (Except Fault Reply) Fault Result}
    (first : program.Strict) (returns : program.Returns between)
    (second : ∀ value, between value → (continuation value).Strict) :
    (program.bind continuation).Strict := by
  induction program with
  | done value => exact second value returns
  | raise fault => trivial
  | cut => trivial
  | ask question next inductionHypothesis =>
    refine ⟨fun fault => ?_, fun reply => inductionHypothesis _ (first.2 reply) (returns _)⟩
    obtain ⟨final, raises⟩ := first.1 fault
    exact ⟨final, congrArg (Dialogue.bind · continuation) raises⟩

theorem Strict.bind {program : Dialogue Question (Except Fault Reply) Fault Value}
    {continuation : Value → Dialogue Question (Except Fault Reply) Fault Result}
    (first : program.Strict) (second : ∀ value, (continuation value).Strict) :
    (program.bind continuation).Strict :=
  first.bind_of_returns (returns_of_forall (fun _ => trivial) program)
    fun value (_ : True) => second value

theorem Strict.rescue {program : Dialogue Question (Except Fault Reply) Fault Value}
    {handler : Fault → Dialogue Question (Except Fault Reply) Fault Value}
    (strict : program.Strict) (raises : ∀ fault, ∃ final, handler fault = raise final) :
    (program.rescue handler).Strict := by
  induction program with
  | done value => trivial
  | raise fault =>
    obtain ⟨final, raised⟩ := raises fault
    rw [rescue_raise, raised]
    trivial
  | cut => trivial
  | ask question next inductionHypothesis =>
    refine ⟨fun fault => ?_, fun reply => inductionHypothesis _ (strict.2 reply)⟩
    obtain ⟨final, stopped⟩ := strict.1 fault
    obtain ⟨last, raised⟩ := raises final
    exact ⟨last, (congrArg (Dialogue.rescue handler) stopped).trans raised⟩

theorem Strict.iterate {State : Type}
    {body : State → Dialogue Question (Except Fault Reply) Fault (State ⊕ Value)}
    (each : ∀ state, (body state).Strict) (turns : Nat) (state : State) :
    (Dialogue.iterate body turns state).Strict := by
  refine iterate_induction trivial (fun value => trivial) (fun state _ later => ?_) turns state
  exact (each state).bind later

theorem Strict.prompt {program : Dialogue Question (Except Fault Reply) Fault Value}
    (strict : program.Strict) : program.Prompt := by
  induction program with
  | ask question next inductionHypothesis =>
    refine ⟨fun fault => ?_, fun reply => inductionHypothesis _ (strict.2 reply)⟩
    obtain ⟨final, raised⟩ := strict.1 fault
    rw [raised]
    trivial
  | _ => trivial

theorem prompt_of_silent {program : Dialogue Question (Except Fault Reply) Fault Value}
    (silent : program.Silent) : program.Prompt := by
  cases program with
  | ask question next => exact silent.1.elim
  | _ => trivial

/-- A silent handler around a strict program. -/
theorem Strict.prompt_rescue {program : Dialogue Question (Except Fault Reply) Fault Value}
    {handler : Fault → Dialogue Question (Except Fault Reply) Fault Value}
    (strict : program.Strict) (silent : ∀ fault, (handler fault).Silent) :
    (program.rescue handler).Prompt := by
  induction program with
  | done value => trivial
  | raise fault => exact prompt_of_silent (silent fault)
  | cut => trivial
  | ask question next inductionHypothesis =>
    refine ⟨fun fault => ?_, fun reply => inductionHypothesis _ (strict.2 reply)⟩
    obtain ⟨final, raised⟩ := strict.1 fault
    show (Dialogue.rescue handler (next (.error fault))).Silent
    rw [raised]
    exact silent final

/-- A silent continuation of a prompt program. -/
theorem Prompt.bind_silent {program : Dialogue Question (Except Fault Reply) Fault Value}
    {continuation : Value → Dialogue Question (Except Fault Reply) Fault Result}
    (prompt : program.Prompt) (silent : ∀ value, (continuation value).Silent) :
    (program.bind continuation).Prompt := by
  induction program with
  | done value => exact prompt_of_silent (silent value)
  | raise fault => trivial
  | cut => trivial
  | ask question next inductionHypothesis =>
    exact ⟨fun fault => (prompt.1 fault).bind silent,
      fun reply => inductionHypothesis _ (prompt.2 reply)⟩

/-- A silent program hears nothing and reads nothing. -/
theorem heard_of_silent (channel : Channel Question Reply Signal Echo Fault)
    {program : Dialogue Question (Except Fault Reply) Fault Value} (silent : program.Silent)
    (echoes : List Echo) :
    program.heard channel echoes = [] ∧ ((program.through channel).run echoes).rest = echoes := by
  cases program with
  | ask question next => exact silent.1.elim
  | _ => simp [heard]

/-- What a prompt program hears: what the channel makes of the echoes that it reads, one by one,
and at most one failure to send behind them. -/
theorem Prompt.heard {property : Question → Prop}
    {program : Dialogue Question (Except Fault Reply) Fault Value} (prompt : program.Prompt)
    (asks : program.Asks property) (echoes : List Echo)
    (read : ((program.through channel).run echoes).rest = []) :
    ∃ (questions : List Question) (failure : Option Fault), program.heard channel echoes =
        List.zipWith channel.decode questions echoes ++ (failure.map Except.error).toList ∧
      questions.length = echoes.length ∧ (∀ question ∈ questions, property question) ∧
      ∀ fault ∈ failure,
        ∃ question, property question ∧ channel.encode question = .error fault := by
  induction program generalizing echoes with
  | ask question next inductionHypothesis =>
    cases encoded : channel.encode question with
    | error fault =>
      obtain ⟨nothing, unread⟩ := heard_of_silent channel (prompt.1 fault) echoes
      rw [through_ask_of_error encoded, unread] at read
      rw [heard_ask_of_error encoded, nothing, read]
      refine ⟨[], some fault, rfl, rfl, by simp, fun other same => ?_⟩
      cases same
      exact ⟨question, asks.1, encoded⟩
    | ok signal =>
      rw [through_ask_of_ok encoded] at read
      cases echoes with
      | nil =>
        rw [heard_ask_nil encoded]
        exact ⟨[], none, rfl, rfl, by simp, by simp⟩
      | cons echo echoes =>
        rw [heard_ask_cons encoded]
        have later := asks.2 (channel.decode question echo)
        cases decoded : channel.decode question echo with
        | error fault =>
          rw [run_ask_cons, decoded] at read
          obtain ⟨nothing, unread⟩ := heard_of_silent channel (prompt.1 fault) echoes
          rw [unread] at read
          rw [nothing, read]
          refine ⟨[question], none, ?_, rfl, ?_, by simp⟩
          · simp [decoded]
          · rintro _ member
            cases List.mem_singleton.mp member
            exact asks.1
        | ok reply =>
          rw [run_ask_cons, decoded] at read
          rw [decoded] at later
          obtain ⟨questions, failure, hears, lengths, each, last⟩ :=
            inductionHypothesis (.ok reply) (prompt.2 reply) later echoes read
          refine ⟨question :: questions, failure, ?_, congrArg (· + 1) lengths, ?_, last⟩
          · rw [hears, List.zipWith_cons_cons, decoded, List.cons_append]
          · exact List.forall_mem_cons.mpr ⟨asks.1, each⟩
  | _ =>
    simp only [through_done, through_raise, through_cut, run_done, run_raise, run_cut] at read
    subst read
    exact ⟨[], none, rfl, rfl, by simp, by simp⟩

/-! ### Replies that end a program -/

/-- A reply with the property ends the program with a value of the given kind. -/
def ReturnsOn (ends : Reply → Prop) (final : Value → Prop) :
    Dialogue Question (Except Fault Reply) Fault Value → Prop
  | ask _ next =>
    (∀ reply, ends reply → ∃ value, next (.ok reply) = done value ∧ final value) ∧
      ∀ reply, (next (.ok reply)).ReturnsOn ends final
  | _ => True

section

variable {ends : Reply → Prop} {final : Value → Prop}

@[simp] theorem returnsOn_ofExcept (result : Except Fault Value) :
    (ofExcept result : Dialogue Question (Except Fault Reply) Fault Value).ReturnsOn ends
      final := by
  cases result <;> trivial

theorem returnsOn_of_silent {program : Dialogue Question (Except Fault Reply) Fault Value}
    (silent : program.Silent) : program.ReturnsOn ends final := by
  cases program with
  | ask question next => exact silent.1.elim
  | _ => trivial

theorem returnsOn_exchange (question : Question) {read : Reply → Except Fault Value}
    (reads : ∀ reply, ends reply → ∃ value, read reply = .ok value ∧ final value) :
    (exchange question read).ReturnsOn ends final := by
  refine ⟨fun reply ended => ?_, fun _ => returnsOn_ofExcept _⟩
  obtain ⟨value, returned, kind⟩ := reads reply ended
  exact ⟨value, congrArg ofExcept returned, kind⟩

theorem ReturnsOn.bind {last : Result → Prop}
    {program : Dialogue Question (Except Fault Reply) Fault Value}
    {continuation : Value → Dialogue Question (Except Fault Reply) Fault Result}
    (first : program.ReturnsOn ends final)
    (through : ∀ value, final value → ∃ result, continuation value = done result ∧ last result)
    (second : ∀ value, (continuation value).ReturnsOn ends last) :
    (program.bind continuation).ReturnsOn ends last := by
  induction program with
  | done value => exact second value
  | raise fault => trivial
  | cut => trivial
  | ask question next inductionHypothesis =>
    refine ⟨fun reply ended => ?_, fun reply => inductionHypothesis _ (first.2 reply)⟩
    obtain ⟨value, returned, kind⟩ := first.1 reply ended
    obtain ⟨result, final, lastKind⟩ := through value kind
    refine ⟨result, ?_, lastKind⟩
    show (next (.ok reply)).bind continuation = done result
    rw [returned, done_bind, final]

theorem ReturnsOn.rescue {program : Dialogue Question (Except Fault Reply) Fault Value}
    {handler : Fault → Dialogue Question (Except Fault Reply) Fault Value}
    (returnsOn : program.ReturnsOn ends final)
    (silent : ∀ fault, (handler fault).Silent) : (program.rescue handler).ReturnsOn ends final := by
  induction program with
  | done value => trivial
  | raise fault => exact returnsOn_of_silent (silent fault)
  | cut => trivial
  | ask question next inductionHypothesis =>
    refine ⟨fun reply ended => ?_, fun reply => inductionHypothesis _ (returnsOn.2 reply)⟩
    obtain ⟨value, returned, kind⟩ := returnsOn.1 reply ended
    exact ⟨value, congrArg (Dialogue.rescue handler) returned, kind⟩

/-- A loop that such a reply ends. -/
theorem ReturnsOn.iterate {State : Type}
    {body : State → Dialogue Question (Except Fault Reply) Fault (State ⊕ Value)}
    (each : ∀ state, (body state).ReturnsOn ends fun ended => ∃ value, ended = .inr value)
    (turns : Nat) (state : State) :
    (Dialogue.iterate body turns state).ReturnsOn ends fun _ => True := by
  induction turns generalizing state with
  | zero => trivial
  | succ turns inductionHypothesis =>
    refine (each state).bind ?_ fun ended => ?_
    · rintro _ ⟨value, rfl⟩
      exact ⟨value, rfl, trivial⟩
    · cases ended with
      | inl next => exact inductionHypothesis next
      | inr value => trivial

/-- A program that reads such a reply has returned. -/
theorem ReturnsOn.run {program : Dialogue Question (Except Fault Reply) Fault Value}
    (returnsOn : program.ReturnsOn ends final) (strict : program.Strict)
    {replies : List (Except Fault Reply)} (read : (program.run replies).rest = [])
    {reply : Reply} (member : .ok reply ∈ replies) (ended : ends reply) :
    ∃ value, (program.run replies).outcome = .returned value := by
  induction program generalizing replies with
  | done value => exact ⟨value, by rw [run_done]⟩
  | raise fault =>
    simp only [run_raise] at read
    subst read
    cases member
  | cut =>
    simp only [run_cut] at read
    subst read
    cases member
  | ask question next inductionHypothesis =>
    cases replies with
    | nil => cases member
    | cons first replies =>
      rw [run_ask_cons] at read ⊢
      rcases List.mem_cons.mp member with same | later
      · obtain ⟨value, returned, _⟩ := returnsOn.1 reply ended
        exact ⟨value, by rw [← same, returned, run_done]⟩
      · cases first with
        | error fault =>
          obtain ⟨final, raised⟩ := strict.1 fault
          rw [raised, run_raise] at read
          simp only at read
          rw [read] at later
          cases later
        | ok other => exact inductionHypothesis _ (returnsOn.2 other) (strict.2 other) read later

/-- Behind the first reply, such a reply ends the program. -/
theorem ReturnsOn.run_behind {question : Question} {read : Reply → Except Fault Value}
    {continuation : Value → Dialogue Question (Except Fault Reply) Fault Result}
    {last : Result → Prop} (returnsOn : ∀ value, (continuation value).ReturnsOn ends last)
    (strict : ∀ value, (continuation value).Strict) {first : Except Fault Reply}
    {replies : List (Except Fault Reply)}
    (unread : (((exchange question read).bind continuation).run (first :: replies)).rest = [])
    {reply : Reply} (member : .ok reply ∈ replies) (ended : ends reply) :
    ∃ result, (((exchange question read).bind continuation).run (first :: replies)).outcome =
      .returned result := by
  have asked : (exchange question read).bind continuation = ask question fun reply =>
      (((ofExcept reply).bind fun reply => ofExcept (read reply)).bind continuation) := rfl
  rw [asked, run_ask_cons] at unread ⊢
  cases first with
  | error fault =>
    simp only [ofExcept_error, raise_bind, run_raise] at unread
    rw [unread] at member
    cases member
  | ok first =>
    simp only [ofExcept_ok, done_bind] at unread ⊢
    cases taken : read first with
    | error fault =>
      simp only [taken, ofExcept_error, raise_bind, run_raise] at unread
      rw [unread] at member
      cases member
    | ok value =>
      simp only [taken, ofExcept_ok, done_bind] at unread ⊢
      exact (returnsOn value).run (strict value) unread member ended

end

/-- An exchange fails where the channel does, or the reading of the reply. -/
theorem failsAt_exchange_bind {kind : Fault → Prop} {harms : Nat → Except Fault Reply → Prop}
    {read : Reply → Except Fault Value}
    {continuation : Value → Dialogue Question (Except Fault Reply) Fault Result}
    (failing : ∀ fault, harms 0 (.error fault) ↔ kind fault)
    (reading : ∀ reply, harms 0 (.ok reply) ↔ ∃ fault, read reply = .error fault ∧ kind fault)
    (later : ∀ value, (continuation value).FailsAt kind fun place => harms (place + 1))
    (question : Question) :
    ((exchange question read).bind continuation).FailsAt kind harms := by
  intro told
  cases told with
  | error fault =>
    exact ⟨fun harm => ⟨fault, rfl, (failing fault).mp harm⟩,
      fun harm bad => harm ((failing fault).mpr bad)⟩
  | ok reply =>
    refine ⟨fun harm => ?_, fun harm => ?_⟩
    · obtain ⟨fault, raised, bad⟩ := (reading reply).mp harm
      refine ⟨fault, ?_, bad⟩
      exact congrArg (fun result => (ofExcept result).bind continuation) raised
    · exact FailsAt.ofExcept_bind (fun fault raised bad =>
        harm ((reading reply).mpr ⟨fault, raised, bad⟩)) fun value _ => later value

/-- A strict program that hears of a failure has failed. -/
theorem Strict.run {program : Dialogue Question (Except Fault Reply) Fault Value}
    (strict : program.Strict) {replies : List (Except Fault Reply)}
    (read : (program.run replies).rest = []) {fault : Fault} (member : .error fault ∈ replies) :
    ∃ final, (program.run replies).outcome = .raised final := by
  induction program generalizing replies with
  | done value =>
    simp only [run_done] at read
    subst read
    cases member
  | raise fault => exact ⟨fault, by rw [run_raise]⟩
  | cut =>
    simp only [run_cut] at read
    subst read
    cases member
  | ask question next inductionHypothesis =>
    cases replies with
    | nil => cases member
    | cons first replies =>
      rw [run_ask_cons] at read ⊢
      cases first with
      | error other =>
        obtain ⟨final, raised⟩ := strict.1 other
        exact ⟨final, by rw [raised, run_raise]⟩
      | ok reply =>
        rcases List.mem_cons.mp member with same | later
        · cases same
        · exact inductionHypothesis _ (strict.2 reply) read later

end Dialogue
