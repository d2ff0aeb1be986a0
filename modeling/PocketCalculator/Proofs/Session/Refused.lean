import PocketCalculator.Proofs.Input
import PocketCalculator.Proofs.Session.Course
import PocketCalculator.Proofs.Session.Modes

set_option autoImplicit false

namespace PocketCalculator

def Engine.RefusesPoint (engine : Engine) (text : Text) : Prop :=
  engine.Editing ∧ '.' ∈ text ∧ ∃ held, engine.tokens.getLast? = some (.numeral held) ∧ '.' ∈ held.text

namespace Session

structure Untouched (session called : Session) : Prop where
  engine : called.engine = session.engine
  observer : called.observer = session.observer
  unheard : called.seen = []

-- What a call comes to whose notification is all that may fail.
def notified (command : Command) (session : Session) : Except Failure Unit :=
  let budget := (session.observer.map Observer.scriptLength).getD 0
  (Action.notify budget (reacted command { session with seen := [], events := [] })).1

variable (session : Session) (command : Command)

theorem step_untold (untold : ¬ (session.engine.react command).told) :
    session.step command =
      ((session.engine.react command).answer, reacted command { session with seen := [], events := [] }) := by
  rw [step, perform_reacts, conclude_untold _ _ _ untold]

theorem step_told (told : (session.engine.react command).told) (answer : Answer)
    (same : (session.engine.react command).answer = .ok answer) :
    (session.step command).1 = (session.notified command).map fun _ => answer := by
  rw [step, perform_reacts, conclude, if_pos told, same, notified]
  rcases Action.notify _ _ with ⟨outcome, after⟩
  cases outcome <;> rfl

theorem quiet_untouched (answer : Except Failure Answer) (events : List Event)
    (kept : command.observerAfter session.observer = session.observer)
    (reaction : session.engine.react command = session.engine.quiet answer events) :
    (session.step command).1 = answer ∧ session.Untouched (session.step command).2 := by
  have untold : ¬ (session.engine.react command).told := by simp [reaction, Engine.quiet]
  rw [step_untold session _ untold, reaction]
  exact ⟨rfl, congrArg Reaction.engine reaction, kept, rfl⟩

theorem input_refused (typed : Value) (invalid : ¬ typed.IsInput) :
    (∃ reason, (session.step (.numeral typed)).1 = .error (.fault (.invalidInput typed reason))) ∧
      session.Untouched (session.step (.numeral typed)).2 := by
  obtain ⟨reason, refused⟩ := Input.keystroke_refused typed invalid
  have reaction : session.engine.react (.numeral typed) =
      session.engine.quiet (.error (.fault (.invalidInput typed reason))) [] := by rw [Engine.react, refused]
  obtain ⟨answer, untouched⟩ := quiet_untouched session _ _ _ rfl reaction
  exact ⟨⟨reason, answer⟩, untouched⟩

theorem operator_refused (chosen : Value) (invalid : ¬ chosen.IsOperator) :
    (∃ reason, (session.step (.operator chosen)).1 = .error (.fault (.invalidInput chosen reason))) ∧
      session.Untouched (session.step (.operator chosen)).2 := by
  obtain ⟨reason, refused⟩ := Input.operator_refused chosen invalid
  have reaction : session.engine.react (.operator chosen) =
      session.engine.quiet (.error (.fault (.invalidInput chosen reason))) [] := by rw [Engine.react, refused]
  obtain ⟨answer, untouched⟩ := quiet_untouched session _ _ _ rfl reaction
  exact ⟨⟨reason, answer⟩, untouched⟩

theorem operator_answers (chosen : Value) (valid : chosen.IsOperator) :
    (session.step (.operator chosen)).1 = (session.notified (.operator chosen)).map fun _ => .nothing := by
  obtain ⟨o, taken⟩ := Input.operator_taken chosen valid
  have reaction : session.engine.react (.operator chosen) = session.engine.takeOperator o := by rw [Engine.react, taken]
  apply step_told
  · rw [reaction]
    rfl
  · rw [reaction]
    rfl

-- A displayed result or message goes before input is taken, so that nothing is left to refuse it.
theorem refuses_point_iff (engine : Engine) (settled : engine.Settled) (text : Text) :
    (∃ held, engine.opened.tokens.typed text = .error held) ↔ engine.RefusesPoint text := by
  rw [Expression.typed_error_iff, Engine.opened, Engine.RefusesPoint]
  cases shown : engine.resultShown with
  | false => simp [engine.settled_editing settled shown]
  | true => simp [Engine.Editing, shown, Engine.cleared]

theorem refused_reaction (engine : Engine) (settled : engine.Settled) (text : Text)
    (refuses : engine.RefusesPoint text) : ∃ held : Numeral,
    engine.takeInput text = engine.quiet (.ok (.accepted false)) [.pointRejected text held.text] := by
  obtain ⟨held, refused⟩ := (refuses_point_iff _ settled text).mpr refuses
  refine ⟨held, ?_⟩
  rw [Engine.takeInput, refused, engine.hidden_opened refuses.1.1]

theorem accepted_reaction (engine : Engine) (settled : engine.Settled) (text : Text)
    (accepts : ¬ engine.RefusesPoint text) : ∃ tokens,
    engine.opened.tokens.typed text = .ok tokens ∧ engine.takeInput text =
      (engine.opened.withTokens tokens).told (.accepted true)
        [.expressionChanged (engine.opened.withTokens tokens).text] := by
  rw [← refuses_point_iff _ settled] at accepts
  cases typed : engine.opened.tokens.typed text with
  | error held => exact absurd ⟨held, typed⟩ accepts
  | ok tokens =>
      refine ⟨tokens, rfl, ?_⟩
      rw [Engine.takeInput, typed]

theorem input_taken (engine : Engine) (text : Text) (taken : Value.IsInput (.text text)) :
    engine.react (.numeral (.text text)) = engine.takeInput text := by
  obtain ⟨_, same, valid⟩ := Input.keystroke_input _ taken
  cases same
  rw [Engine.react, valid]

theorem point_refused (text : Text) (taken : Value.IsInput (.text text)) (settled : session.engine.Settled)
    (refuses : session.engine.RefusesPoint text) :
    (session.step (.numeral (.text text))).1 = .ok (.accepted false) ∧
      session.Untouched (session.step (.numeral (.text text))).2 := by
  obtain ⟨held, reaction⟩ := refused_reaction _ settled text refuses
  exact quiet_untouched session _ _ _ rfl ((input_taken _ text taken).trans reaction)

theorem input_answers (text : Text) (taken : Value.IsInput (.text text)) (settled : session.engine.Settled)
    (accepts : ¬ session.engine.RefusesPoint text) :
    (session.step (.numeral (.text text))).1 =
      (session.notified (.numeral (.text text))).map fun _ => .accepted true := by
  obtain ⟨tokens, _, reaction⟩ := accepted_reaction _ settled text accepts
  rw [← input_taken _ text taken] at reaction
  apply step_told
  · rw [reaction]
    rfl
  · rw [reaction]
    rfl

end Session

end PocketCalculator
