import PocketCalculator.Proofs.Engine.Answers
import PocketCalculator.Proofs.Reduction.Blame
import PocketCalculator.Proofs.Session.Answer

set_option autoImplicit false

namespace PocketCalculator.Session

theorem conclude_accepted (notify : Action Unit) (reaction : Reaction) (session : Session) (answer : Answer)
    (accepted : (conclude notify reaction session).1 = .ok answer) : reaction.answer = .ok answer := by
  rw [conclude] at accepted
  by_cases told : reaction.told = true
  · rw [if_pos told] at accepted
    rcases outcome : notify session with ⟨found, after⟩
    rw [outcome] at accepted
    cases found with
    | ok _ => exact accepted
    | error failure => cases accepted
  · rw [if_neg told] at accepted
    exact accepted

theorem fault_answered (notify : Action Unit) (session : Session) (fault : Fault)
    (answered : (Action.perform notify .reduce session).1 = .ok (.reduced (some fault))) :
    session.engine.evaluate = .error (.fault fault) := by
  rw [perform_reacts] at answered
  have reaction : session.engine.takeReduction.answer = .ok (.reduced (some fault)) :=
    conclude_accepted notify _ _ _ answered
  rcases session.engine.reduction_cases with ⟨result, _, done⟩ | ⟨found, failed, taken⟩ | ⟨failure, _, escaped⟩
  · rw [done] at reaction
    cases reaction
  · rw [taken, (take_fault_told session.engine found).2] at reaction
    cases reaction
    exact failed
  · rw [escaped] at reaction
    cases reaction

theorem fault_answers (notify : Action Unit) (session : Session) (fault : Fault)
    (heard : (notify (session.reacted .reduce)).1 = .ok ()) (failed : session.engine.evaluate = .error (.fault fault)) :
    (Action.perform notify .reduce session).1 = .ok (.reduced (some fault)) := by
  rw [perform_reacts, conclude_answers notify _ _ heard]
  exact session.engine.reduction_failed _ failed

theorem faults_blame_the_submitted (notify : Action Unit) (session : Session) (fault : Fault)
    (answered : (Action.perform notify .reduce session).1 = .ok (.reduced (some fault))) :
    let submitted := session.engine.tokens
    let Stops := fun turn => Reduction.FailsAt session.engine.settings submitted turn (.fault fault)
    (∀ side shown cause, fault = .operandInvalid side shown cause → ∃ turn place, Stops turn ∧
      (turn.operand side).origin = some place ∧ place % 2 = 0 ∧
      ∃ token, submitted[place]? = some token ∧ (turn.operand side).token = token ∧ token.NoNumber ∧
        shown = .text token.text) ∧
      ∀ found, fault = .unknownOperator found →
        (∃ turn place, Stops turn ∧ turn.slot.origin = some place ∧ place % 2 = 1 ∧
          ∃ n : Numeral, submitted[place]? = some (.numeral n) ∧ turn.slot.token = .numeral n ∧
            found = .text n.text) ∧
        ∀ place o, submitted[place]? = some (.operator o) → o.hasPriority = true → place % 2 = 1 := by
  intro submitted Stops
  have failed := fault_answered notify session fault answered
  rcases Reduction.evaluate_fails_at session.engine.settings submitted _ failed with ⟨_, missing⟩ | ⟨turn, fails⟩
  · cases missing
    exact ⟨fun _ _ _ same => (by cases same), fun _ same => (by cases same)⟩
  · have blames := turn.untraced.combined_blames session.engine.settings _ fails.failed
    refine ⟨fun side shown cause same => ?_, fun found same => ?_⟩
    · subst same
      cases blames with
      | operand _ _ noNumber =>
          rw [turn.operand_untraced] at noNumber ⊢
          obtain ⟨place, origin, even, there⟩ := Reduction.operand_origin turn _ fails side noNumber
          exact ⟨turn, place, fails, origin, even, _, there, rfl, noNumber, rfl⟩
      | nobody _ noOperand _ => exact absurd rfl (noOperand side shown cause)
    · subst same
      cases blames with
      | slot n held =>
          obtain ⟨place, origin, odd, there⟩ := Reduction.slot_origin turn _ fails
          have same : turn.slot.token = .numeral n := held
          rw [same] at there
          exact ⟨⟨turn, place, fails, origin, odd, n, there, same, rfl⟩,
            fun other o operator high => Reduction.slot_without_priority turn _ fails n same other o operator high⟩
      | nobody _ _ noSlot => exact absurd rfl (noSlot found)

-- Each time a product is in front by then, and what is blamed has moved.
theorem stray_numeral_and_malformed_operand_blamed :
    let stray := start (.ofText ⟨0, 5, by decide⟩ "2 * 3 4 5".toList) none
    let malformed := start (.ofText ⟨0, 5, by decide⟩ "2 * 3 + 1..".toList) none
    let reduced := fun session => (Action.perform (Action.notify 0) .reduce session).1
    reduced stray = .ok (.reduced (some (.unknownOperator (.text ['4'])))) ∧
      (∃ place n, stray.engine.tokens[place]? = some (.numeral n) ∧ place % 2 = 1 ∧ n.text = ['4']) ∧
      reduced malformed =
        .ok (.reduced (some (.operandInvalid .right (.text ['1', '.', '.']) (some ⟨['1', '.', '.']⟩)))) ∧
      ∃ place token, malformed.engine.tokens[place]? = some token ∧ place % 2 = 0 ∧ token.NoNumber ∧
        token.text = ['1', '.', '.'] := by
  intro stray malformed reduced
  have six : Reduction.combined ⟨0, 5, by decide⟩ (.numeral ⟨['2']⟩) (.operator .multiplication)
      (.numeral ⟨['3']⟩) = .ok ⟨['6']⟩ := by decide +kernel
  have strayFault : stray.engine.evaluate = .error (.fault (.unknownOperator (.text ['4']))) := by
    have product := Reduction.Scan.run_goes_on _ stray.engine.tokens ⟨[], _, _, _, _⟩ _ rfl six
    exact product.trans (Reduction.Scan.run_stops _ _ ⟨[], _, _, _, []⟩ _ rfl rfl)
  have malformedFault : malformed.engine.evaluate =
      .error (.fault (.operandInvalid .right (.text ['1', '.', '.']) (some ⟨['1', '.', '.']⟩))) := by
    have product := Reduction.Scan.run_goes_on _ malformed.engine.tokens ⟨[], _, _, _, _⟩ _ rfl six
    exact product.trans (Reduction.Scan.run_stops _ _ ⟨[], _, _, _, []⟩ _ rfl rfl)
  have first := fault_answers (Action.notify 0) stray _ rfl strayFault
  have second := fault_answers (Action.notify 0) malformed _ rfl malformedFault
  obtain ⟨_, place, _, _, odd, n, there, _, shown⟩ :=
    ((faults_blame_the_submitted (Action.notify 0) stray _ first).2 _ rfl).1
  obtain ⟨_, other, _, _, even, token, held, _, noNumber, text⟩ :=
    (faults_blame_the_submitted (Action.notify 0) malformed _ second).1 _ _ _ rfl
  exact ⟨first, ⟨place, n, there, odd, (Value.text.inj shown).symm⟩, second, other, token, held, even, noNumber,
    (Value.text.inj text).symm⟩

end PocketCalculator.Session
