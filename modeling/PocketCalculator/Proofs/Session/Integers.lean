import PocketCalculator.Proofs.Engine.Answers
import PocketCalculator.Proofs.Reduction.Continuation
import PocketCalculator.Proofs.Reduction.Integers
import PocketCalculator.Proofs.Session.Course

set_option autoImplicit false

namespace PocketCalculator

open FixedPoint

theorem Reduction.evaluate_within (settings : Settings) (tokens : Expression) (result : Numeral)
    (done : evaluate settings tokens = .ok result) : precision settings ≤ mostPrecision := by
  obtain ⟨z, _, written⟩ := evaluate_writes settings tokens result done
  exact (written_of_double settings z result.text written).1

namespace Session

theorem integers_reduce_exactly (settings : Settings) (chain : Chain) (integers : chain.IsInteger)
    (exact : chain.StaysExact) :
    (chain.rest ≠ [] → precision settings ≤ mostPrecision →
      Reduction.evaluate settings chain.tokens = .ok ⟨wholeText settings chain.integerValue⟩ ∧
        ∀ session : Session, session.observer = none → session.engine.settings = settings →
          session.engine.tokens = chain.tokens →
          (session.step .reduce).1 = .ok (.reduced none) ∧
            (session.step .reduce).2.engine.text = wholeText settings chain.integerValue) ∧
      ∀ result, Reduction.evaluate settings chain.tokens = .ok result →
        chain.rest ≠ [] ∧ precision settings ≤ mostPrecision := by
  refine ⟨fun more within => ?_, fun result done => ⟨Reduction.reduced_chain_long settings chain result done,
    Reduction.evaluate_within settings chain.tokens result done⟩⟩
  have done := Reduction.evaluate_integers settings within chain more integers exact
  refine ⟨done, fun session alone same entered => ?_⟩
  obtain ⟨answer, engine, _⟩ := step_alone .reduce session alone
  have evaluates : session.engine.evaluate = .ok ⟨wholeText settings chain.integerValue⟩ := by
    rw [Engine.evaluate, same, entered, done]
  rw [answer, engine, Engine.reduction_engine _ _ evaluates]
  exact ⟨Engine.reduction_done _ _ evaluates, rfl⟩

theorem difference_reduced_exactly :
    let settings : Settings := ⟨2, 5, by decide⟩
    let chain : Chain := ⟨⟨"007".toList⟩, [(.subtraction, ⟨"2".toList⟩), (.multiplication, ⟨"-3".toList⟩),
      (.multiplication, ⟨"10".toList⟩), (.subtraction, ⟨"100".toList⟩)]⟩
    let session := start (.ofText settings "007 - 2 * -3 * 10 - 100".toList) none
    chain.IsInteger ∧ chain.StaysExact ∧ session.engine.tokens = chain.tokens ∧
      (session.step .reduce).1 = .ok (.reduced none) ∧ (session.step .reduce).2.engine.text = "-33.00".toList := by
  intro settings chain session
  have integers : chain.IsInteger := ⟨by decide, by decide⟩
  have exact : chain.StaysExact := ⟨by decide, by decide⟩
  have within : precision settings ≤ mostPrecision := by decide
  have entered : session.engine.tokens = chain.tokens := by decide +kernel
  obtain ⟨_, shown⟩ := (integers_reduce_exactly settings chain integers exact).1 (List.cons_ne_nil _ _) within
  obtain ⟨answer, text⟩ := shown session rfl rfl entered
  have value : wholeText settings chain.integerValue = "-33.00".toList := by decide +kernel
  exact ⟨integers, exact, entered, answer, text.trans value⟩

theorem number_alone_and_refused_sum_show_no_value :
    let alone : Chain := ⟨⟨['5']⟩, []⟩
    let sum : Chain := ⟨⟨['4']⟩, [(.addition, ⟨['2']⟩)]⟩
    let first := start (.ofText ⟨0, 5, by decide⟩ "5".toList) none
    let second := start (.ofText ⟨0, 10 ^ 18, by decide⟩ "4 + 2".toList) none
    (alone.IsInteger ∧ alone.StaysExact ∧ first.engine.tokens = alone.tokens ∧
      (first.step .reduce).1 ≠ .ok (.reduced none)) ∧
      sum.IsInteger ∧ sum.StaysExact ∧ second.engine.tokens = sum.tokens ∧
        (second.step .reduce).1 ≠ .ok (.reduced none) := by
  intro alone sum first second
  have one : first.engine.tokens = alone.tokens := by decide +kernel
  have three : second.engine.tokens = sum.tokens := by decide +kernel
  have incomplete : first.engine.tokens.Incomplete := by
    rw [one]
    exact .inl (by decide)
  have escapes : Reduction.Escapes second.engine.evaluate := by
    rw [Engine.evaluate, three, Reduction.evaluate_chain _ sum (List.cons_ne_nil _ _)]
    decide +kernel
  refine ⟨⟨⟨by decide, by decide⟩, ⟨by decide, by decide⟩, one, ?_⟩,
    ⟨by decide, by decide⟩, ⟨by decide, by decide⟩, three, ?_⟩
  · rw [(step_alone .reduce first rfl).1, Engine.reduction_failed _ _ (Reduction.evaluate_incomplete _ _ incomplete)]
    exact fun same => by cases same
  · obtain ⟨failure, failed, _⟩ := escapes
    rw [(step_alone .reduce second rfl).1, Engine.reduction_failed _ failure failed]
    cases failure <;> exact fun same => by cases same

end Session

end PocketCalculator
