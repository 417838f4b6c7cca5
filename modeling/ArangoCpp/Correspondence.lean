/-
This file compares two dialogues that are about the same in other words. It knows nothing of what
is said.

Two dialogues correspond when they ask corresponding questions as long as they are told
corresponding replies, and end with corresponding values or with the same fault. The comparison goes
through the parts that dialogues are put together from, and through two channels that encode
corresponding questions as corresponding signals and decode corresponding echoes as corresponding
replies. Whatever corresponding scripts are read to two such dialogues, they put corresponding
questions and come to corresponding ends.
-/

import ArangoCpp.Channel

namespace Dialogue

variable {Question QuestionToo Reply ReplyToo Fault Value ValueToo Result ResultToo : Type}

/-- Two results are alike: the values correspond, or the fault is the same. -/
inductive Likewise (ends : Value → ValueToo → Prop) :
    Except Fault Value → Except Fault ValueToo → Prop where
  | ok {value : Value} {other : ValueToo} (same : ends value other) :
      Likewise ends (.ok value) (.ok other)
  | error (fault : Fault) : Likewise ends (.error fault) (.error fault)

theorem likewise_refl (result : Except Fault Value) : Likewise Eq result result := by
  cases result with
  | error fault => exact .error fault
  | ok value => exact .ok rfl

/-- Two dialogues ask corresponding questions as long as they are told corresponding replies, and
end alike. -/
inductive Corresponds (asks : Question → QuestionToo → Prop) (tells : Reply → ReplyToo → Prop)
    (ends : Value → ValueToo → Prop) :
    Dialogue Question Reply Fault Value → Dialogue QuestionToo ReplyToo Fault ValueToo → Prop where
  | done {value : Value} {other : ValueToo} (same : ends value other) :
      Corresponds asks tells ends (done value) (done other)
  | raise (fault : Fault) : Corresponds asks tells ends (raise fault) (raise fault)
  | ask {question : Question} {other : QuestionToo}
      {next : Reply → Dialogue Question Reply Fault Value}
      {later : ReplyToo → Dialogue QuestionToo ReplyToo Fault ValueToo}
      (asked : asks question other)
      (each : ∀ reply replyToo, tells reply replyToo →
        Corresponds asks tells ends (next reply) (later replyToo)) :
      Corresponds asks tells ends (ask question next) (ask other later)
  | cut : Corresponds asks tells ends cut cut

section

variable {asks : Question → QuestionToo → Prop} {tells : Reply → ReplyToo → Prop}
  {ends : Value → ValueToo → Prop} {program : Dialogue Question Reply Fault Value}
  {other : Dialogue QuestionToo ReplyToo Fault ValueToo}

theorem corresponds_ofExcept {result : Except Fault Value} {resultToo : Except Fault ValueToo}
    (alike : Likewise ends result resultToo) :
    Corresponds asks tells ends (ofExcept result) (ofExcept resultToo) := by
  cases alike with
  | ok same => exact .done same
  | error fault => exact .raise fault

theorem Corresponds.mono {endsToo : Value → ValueToo → Prop}
    (implies : ∀ value valueToo, ends value valueToo → endsToo value valueToo)
    (corresponds : Corresponds asks tells ends program other) :
    Corresponds asks tells endsToo program other := by
  induction corresponds with
  | done same => exact .done (implies _ _ same)
  | raise fault => exact .raise fault
  | cut => exact .cut
  | ask asked each inductionHypothesis => exact .ask asked inductionHypothesis

theorem Corresponds.bind {endsToo : Result → ResultToo → Prop}
    {continuation : Value → Dialogue Question Reply Fault Result}
    {continuationToo : ValueToo → Dialogue QuestionToo ReplyToo Fault ResultToo}
    (first : Corresponds asks tells ends program other)
    (second : ∀ value valueToo, ends value valueToo →
      Corresponds asks tells endsToo (continuation value) (continuationToo valueToo)) :
    Corresponds asks tells endsToo (program.bind continuation) (other.bind continuationToo) := by
  induction first with
  | done same => exact second _ _ same
  | raise fault => exact .raise fault
  | cut => exact .cut
  | ask asked each inductionHypothesis => exact .ask asked inductionHypothesis

theorem Corresponds.rescue {handler : Fault → Dialogue Question Reply Fault Value}
    {handlerToo : Fault → Dialogue QuestionToo ReplyToo Fault ValueToo}
    (first : Corresponds asks tells ends program other)
    (handled : ∀ fault, Corresponds asks tells ends (handler fault) (handlerToo fault)) :
    Corresponds asks tells ends (program.rescue handler) (other.rescue handlerToo) := by
  induction first with
  | done same => exact .done same
  | raise fault => exact handled fault
  | cut => exact .cut
  | ask asked each inductionHypothesis => exact .ask asked inductionHypothesis

theorem Corresponds.iterate {Position PositionToo : Type} {stands : Position → PositionToo → Prop}
    {body : Position → Dialogue Question Reply Fault (Position ⊕ Value)}
    {bodyToo : PositionToo → Dialogue QuestionToo ReplyToo Fault (PositionToo ⊕ ValueToo)}
    (each : ∀ position positionToo, stands position positionToo →
      Corresponds asks tells (Sum.LiftRel stands ends) (body position) (bodyToo positionToo))
    (turns : Nat) {position : Position} {positionToo : PositionToo}
    (start : stands position positionToo) :
    Corresponds asks tells ends (iterate body turns position)
      (iterate bodyToo turns positionToo) := by
  induction turns generalizing position positionToo with
  | zero => exact .cut
  | succ turns inductionHypothesis =>
    refine (each position positionToo start).bind fun ended endedToo same => ?_
    cases same with
    | inl next => exact inductionHypothesis next
    | inr same => exact .done same

theorem Corresponds.exchange {told : Reply → ReplyToo → Prop} {question : Question}
    {questionToo : QuestionToo} (asked : asks question questionToo)
    {read : Reply → Except Fault Value} {readToo : ReplyToo → Except Fault ValueToo}
    (each : ∀ reply replyToo, told reply replyToo → Likewise ends (read reply) (readToo replyToo)) :
    Corresponds asks (Likewise told) ends (Dialogue.exchange question read)
      (Dialogue.exchange questionToo readToo) := by
  have sent : Corresponds asks (Likewise told) told
      (send question : Dialogue Question (Except Fault Reply) Fault Reply)
      (send questionToo) := .ask asked fun _ _ alike => corresponds_ofExcept alike
  exact sent.bind fun reply replyToo same => corresponds_ofExcept (each reply replyToo same)

/-- Programs that correspond, on channels that treat what corresponds alike. -/
theorem Corresponds.through {Signal SignalToo Echo EchoToo : Type}
    {told : Reply → ReplyToo → Prop} {sends : Signal → SignalToo → Prop}
    {hears : Echo → EchoToo → Prop} {channel : Channel Question Reply Signal Echo Fault}
    {channelToo : Channel QuestionToo ReplyToo SignalToo EchoToo Fault}
    (encodes : ∀ question questionToo, asks question questionToo →
      Likewise sends (channel.encode question) (channelToo.encode questionToo))
    (decodes : ∀ question questionToo echo echoToo, asks question questionToo →
      hears echo echoToo →
        Likewise told (channel.decode question echo) (channelToo.decode questionToo echoToo))
    {program : Dialogue Question (Except Fault Reply) Fault Value}
    {other : Dialogue QuestionToo (Except Fault ReplyToo) Fault ValueToo}
    (corresponds : Corresponds asks (Likewise told) ends program other) :
    Corresponds sends hears ends (program.through channel) (other.through channelToo) := by
  induction corresponds with
  | done same => exact .done same
  | raise fault => exact .raise fault
  | cut => exact .cut
  | @ask question questionToo next later asked each inductionHypothesis =>
    have encoded := encodes question questionToo asked
    cases signals : channel.encode question with
    | error fault =>
      rw [signals] at encoded
      generalize signalsToo : channelToo.encode questionToo = sent at encoded
      cases encoded
      rw [through_ask_of_error signals, through_ask_of_error signalsToo]
      exact inductionHypothesis _ _ (.error fault)
    | ok signal =>
      rw [signals] at encoded
      generalize signalsToo : channelToo.encode questionToo = sent at encoded
      cases encoded with
      | ok same =>
        rw [through_ask_of_ok signals, through_ask_of_ok signalsToo]
        exact .ask same fun echo echoToo heard =>
          inductionHypothesis _ _ (decodes question questionToo echo echoToo asked heard)

/-- How two runs end alike. -/
inductive Outcome.Likewise (ends : Value → ValueToo → Prop) :
    Outcome Fault Value → Outcome Fault ValueToo → Prop where
  | returned {value : Value} {other : ValueToo} (same : ends value other) :
      Likewise ends (.returned value) (.returned other)
  | raised (fault : Fault) : Likewise ends (.raised fault) (.raised fault)
  | running : Likewise ends .running .running

theorem Outcome.Likewise.eq {first second : Outcome Fault Value}
    (alike : first.Likewise Eq second) : first = second := by
  cases alike with
  | returned same => exact congrArg Outcome.returned same
  | raised fault => rfl
  | running => rfl

/-- Whatever corresponding scripts are read to them, programs that correspond put corresponding
questions and come to corresponding ends. -/
theorem Corresponds.run (corresponds : Corresponds asks tells ends program other)
    {replies : List Reply} {repliesToo : List ReplyToo}
    (script : List.Forall₂ tells replies repliesToo) :
    List.Forall₂ asks (program.run replies).asked (other.run repliesToo).asked ∧
      List.Forall₂ tells (program.run replies).rest (other.run repliesToo).rest ∧
      (program.run replies).outcome.Likewise ends (other.run repliesToo).outcome := by
  induction corresponds generalizing replies repliesToo with
  | done same => exact ⟨.nil, script, .returned same⟩
  | raise fault => exact ⟨.nil, script, .raised fault⟩
  | cut => exact ⟨.nil, script, .running⟩
  | ask asked each inductionHypothesis =>
    cases script with
    | nil => exact ⟨.cons asked .nil, .nil, .running⟩
    | cons same rest =>
      obtain ⟨more, left, ended⟩ := inductionHypothesis _ _ same rest
      exact ⟨.cons asked more, left, ended⟩

end

end Dialogue
