import PocketCalculator.Proofs.Reduction.Outcome
import PocketCalculator.Proofs.Session.Nesting

set_option autoImplicit false

namespace PocketCalculator

theorem Engine.reduction_answers (engine : Engine)
    (within : FixedPoint.precision engine.settings ≤ FixedPoint.mostPrecision) :
    ∃ fault, engine.takeReduction.answer = .ok (.reduced fault) := by
  rcases engine.reduction_cases with
    ⟨result, _, reaction⟩ | ⟨fault, _, reaction⟩ | ⟨failure, ⟨failed, noFault⟩, _⟩
  · exact ⟨none, by rw [reaction]; rfl⟩
  · exact ⟨some fault, by rw [reaction]; exact (Session.take_fault_told engine fault).2⟩
  · obtain ⟨fault, same⟩ := Reduction.evaluate_fails engine.settings within engine.tokens failure failed
    exact absurd same (noFault fault)

namespace Session

theorem conclude_answers (notify : Action Unit) (reaction : Reaction) (session : Session)
    (heard : (notify session).1 = .ok ()) : (conclude notify reaction session).1 = reaction.answer := by
  rw [conclude]
  by_cases told : reaction.told = true
  · rw [if_pos told]
    rcases outcome : notify session with ⟨found, after⟩
    rw [outcome] at heard
    cases heard
    rfl
  · rw [if_neg told]

theorem reduce_answers (notify : Action Unit) (session : Session)
    (within : FixedPoint.precision session.engine.settings ≤ FixedPoint.mostPrecision)
    (heard : (notify (session.reacted .reduce)).1 = .ok ()) :
    (∃ fault, (Action.perform notify .reduce session).1 = .ok (.reduced fault)) ∧
      (∀ tokens cursor, cursor + 2 < List.length tokens → ∃ window start,
        Reduction.window? tokens cursor = some window ∧ Reduction.window? tokens 0 = some start) ∧
      (∀ left slot right value, Reduction.computed left slot right = .ok value →
        ∃ x : Double, x.IsFinite ∧ value = .real x) ∧
      ∀ x : Double, x.IsFinite → ∃ text, FixedPoint.written session.engine.settings (.real x) = .ok text := by
  refine ⟨?_, ?_, ?_, FixedPoint.finite_written session.engine.settings within⟩
  · rw [perform_reacts, conclude_answers notify _ _ heard]
    exact session.engine.reduction_answers within
  · intro tokens cursor inside
    obtain ⟨window, found⟩ := Reduction.Scan.window_within tokens cursor inside
    obtain ⟨start, first⟩ := Reduction.Scan.window_within tokens 0 (by omega)
    exact ⟨window, start, found, first⟩
  · intro left slot right value done
    rcases Reduction.computed_cases left slot right with ⟨fault, failed⟩ | ⟨x, computes⟩
    · rw [failed] at done
      cases done
    · rw [computes.value] at done
      cases done
      exact ⟨x, computes.finite, rfl⟩

theorem division_by_zero_answers :
    let session := start (.ofText ⟨0, 5, by decide⟩ "1 / 0.".toList) (some .recorder)
    FixedPoint.precision session.engine.settings ≤ FixedPoint.mostPrecision ∧
      (Action.notify 0 (session.reacted .reduce)).1 = .ok () ∧
      ∃ fault, (Action.perform (Action.notify 0) .reduce session).1 = .ok (.reduced fault) := by
  intro session
  have within : FixedPoint.precision session.engine.settings ≤ FixedPoint.mostPrecision := by decide
  exact ⟨within, rfl, (reduce_answers (Action.notify 0) session within rfl).1⟩

end Session

end PocketCalculator
