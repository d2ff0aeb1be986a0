import PocketCalculator.Proofs.Engine.Answers
import PocketCalculator.Proofs.Reduction.Neutral
import PocketCalculator.Proofs.Session.Course

set_option autoImplicit false

namespace PocketCalculator

open FixedPoint

theorem FixedPoint.written_iff_within (settings : Settings) (x : Double) (finite : x.IsFinite) :
    (∃ text, written settings (.real x) = .ok text) ↔ precision settings ≤ mostPrecision :=
  ⟨fun ⟨text, done⟩ => (written_of_double settings x text done).1, fun within => finite_written settings within x finite⟩

namespace Engine

theorem operator_engine (engine : Engine) (chosen : Value) (o : Operator) (valid : Input.operator chosen = .ok o) :
    (engine.react (.operator chosen)).engine = engine.continued.withTokens (engine.continued.tokens.withOperator o) := by
  rw [react, valid]
  rfl

theorem neutral_keyed (engine : Engine) (result : Numeral) (chosen : Value) (o : Operator)
    (valid : Input.operator chosen = .ok o) :
    (engine.shown.withResult result).after [.operator chosen, .numeral (.text o.neutral.text)] =
      { engine.cleared with tokens := Chain.tokens ⟨result, [(o, o.neutral)]⟩ } := by
  have placed : (engine.shown.withResult result).continued.tokens.withOperator o = [.numeral result, .operator o] := rfl
  rw [after, List.foldl_cons, operator_engine _ chosen o valid, placed]
  cases o <;> rfl

end Engine

namespace Session

theorem results_stay (settings : Settings) :
    (∀ v : Double, v.IsFinite →
      ((∃ text, written settings (.real v) = .ok text) ↔ precision settings ≤ mostPrecision) ∧
      ∀ text, written settings (.real v) = .ok text →
        ∃ w : Double, w.IsFinite ∧ Numeral.value ⟨text⟩ = .ok w ∧ written settings (.real w) = .ok text) ∧
    ∀ tokens result, Reduction.evaluate settings tokens = .ok result → ∀ o : Operator,
      Reduction.evaluate settings (Chain.tokens ⟨result, [(o, o.neutral)]⟩) = .ok result ∧
      ∀ session : Session, session.observer = none → session.engine.settings = settings →
        session.engine.tokens = tokens → ∀ chosen, Input.operator chosen = .ok o →
        let display := (session.step .reduce).2
        let again := display.after [.operator chosen, .numeral (.text o.neutral.text)]
        display.engine.text = result.text ∧ (again.step .reduce).1 = .ok (.reduced none) ∧
          (again.step .reduce).2.engine = display.engine := by
  refine ⟨fun v finite => ⟨written_iff_within settings v finite, fun text done => ?_⟩, fun tokens result done o => ?_⟩
  · obtain ⟨w, reads⟩ := written_reads_back settings v finite text done
    exact ⟨w, reads.shown.finite, reads.value, reads.text⟩
  · have neutral := Reduction.evaluate_neutral settings tokens result done o
    refine ⟨neutral, fun session alone same entered chosen valid => ?_⟩
    intro display again
    have evaluates : session.engine.evaluate = .ok result := by rw [Engine.evaluate, same, entered, done]
    obtain ⟨_, first, unwatched⟩ := step_alone .reduce session alone
    rw [Engine.reduction_engine _ result evaluates] at first
    obtain ⟨keyed, alone_again⟩ := after_alone [.operator chosen, .numeral (.text o.neutral.text)] display unwatched
      (by simp [Command.observerAfter])
    rw [first, Engine.neutral_keyed _ result chosen o valid] at keyed
    have evaluates_again : again.engine.evaluate = .ok result := by
      rw [Engine.evaluate, keyed]
      exact same ▸ neutral
    obtain ⟨answer, last, _⟩ := step_alone .reduce again alone_again
    rw [Engine.reduction_engine _ result evaluates_again, keyed] at last
    refine ⟨?_, answer.trans (Engine.reduction_done _ result evaluates_again), last.trans first.symm⟩
    rw [first]
    rfl

-- A third is displayed with five digits, which are neither its value nor that of any double.
theorem third_stays :
    let settings : Settings := ⟨0, 5, by decide⟩
    let quotient : Chain := ⟨⟨['1']⟩, [(.division, ⟨['3']⟩)]⟩
    let third : Numeral := ⟨"0.33333".toList⟩
    let display := ((start (.ofText settings "1 / 3".toList) none).step .reduce).2
    let again := display.after [.operator (.text ['*']), .numeral (.text (Operator.neutral .multiplication).text)]
    Reduction.evaluate settings quotient.tokens = .ok third ∧
      (∃ w : Double, w.IsFinite ∧ third.value = .ok w ∧ written settings (.real w) = .ok third.text) ∧
      display.engine.text = third.text ∧ (again.step .reduce).2.engine = display.engine := by
  intro settings quotient third display again
  have done : Reduction.evaluate settings quotient.tokens = .ok third := by
    rw [Reduction.evaluate_chain settings quotient (List.cons_ne_nil _ _)]
    decide +kernel
  obtain ⟨z, finite, text⟩ := Reduction.evaluate_writes settings _ third done
  obtain ⟨values, results⟩ := results_stay settings
  have entered : (start (.ofText settings "1 / 3".toList) none).engine.tokens = quotient.tokens := by decide +kernel
  have reads := (values z finite).2 third.text text
  have stays := (results quotient.tokens third done .multiplication).2
    (start (.ofText settings "1 / 3".toList) none) rfl rfl entered (.text ['*']) rfl
  refine ⟨done, reads, stays.1, ?_⟩
  rw [stays.2.2]

end Session

end PocketCalculator
