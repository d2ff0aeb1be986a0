import PocketCalculator.Proofs.Engine.Answers
import PocketCalculator.Proofs.Session.Answer

set_option autoImplicit false

namespace PocketCalculator.Session

theorem reductions_answer (settings : Settings) (observer : Option Observer) (commands : List Command)
    (command : Command) :
    let fresh := Engine.initial settings
    let session := (start fresh observer).after commands
    (∀ (notify : Action Unit) (now : Session), now.engine = session.engine → (notify (now.reacted .reduce)).1 = .ok () →
        session.engine.AnswersReduce (Action.perform notify .reduce now).1) ∧
      (∀ done, done ++ [.reduce] <+: (start fresh observer).course (commands ++ [command]) →
        (fresh.after done).AnswersReduce ((fresh.after done).react .reduce).answer) ∧
      ∀ event ∈ (session.step command).2.events, event.level = .debug := by
  intro fresh session
  refine ⟨fun notify now same heard => ?_, fun done _ => ?_, fun event member => ?_⟩
  · rw [perform_reacts, conclude_answers notify _ _ heard, same, after_course]
    exact Engine.entry_answers _ (Engine.after_keyed settings _).enters
  · exact Engine.entry_answers _ (Engine.after_keyed settings done).enters
  · obtain ⟨done, next, _, reported⟩ := event_in_course (start fresh observer) commands command event member
    exact Engine.react_debug _ next (Engine.after_keyed settings done).enters event reported

theorem refused_sum_answers_no_fault :
    let keyed := (start (.initial ⟨0, 10 ^ 18, by decide⟩) none).after
      [.numeral (.text ['4']), .operator (.text ['+']), .numeral (.text ['2'])]
    ¬ keyed.engine.tokens.Incomplete ∧ ∀ fault, (keyed.step .reduce).1 ≠ .ok (.reduced fault) := by
  let sum : Chain := ⟨⟨['4']⟩, [(.addition, ⟨['2']⟩)]⟩
  intro keyed
  obtain ⟨engine, alone⟩ := after_alone [.numeral (.text ['4']), .operator (.text ['+']), .numeral (.text ['2'])]
    (start (.initial ⟨0, 10 ^ 18, by decide⟩) none) rfl (by decide)
  have tokens : keyed.engine.tokens = sum.tokens := by
    rw [engine]
    decide +kernel
  have escapes : Reduction.Escapes keyed.engine.evaluate := by
    rw [Engine.evaluate, tokens, engine, Reduction.evaluate_chain _ sum (List.cons_ne_nil _ _)]
    decide +kernel
  refine ⟨?_, fun fault => ?_⟩
  · rw [tokens, Expression.Incomplete]
    decide
  · obtain ⟨failure, failed, noFault⟩ := escapes
    rw [(step_alone .reduce keyed alone).1, Engine.reduction_failed _ failure failed]
    cases failure with
    | fault found => exact absurd rfl (noFault found)
    | wholeTooLarge => exact fun same => by cases same
    | tooManyDigits => exact fun same => by cases same
    | precisionRefused => exact fun same => by cases same
    | precisionTooLarge => exact fun same => by cases same
    | observerRefused => exact fun same => by cases same

end PocketCalculator.Session
