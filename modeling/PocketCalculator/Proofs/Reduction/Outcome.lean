import PocketCalculator.Proofs.Reduction.Alternation

set_option autoImplicit false

namespace PocketCalculator.Reduction

variable (settings : Settings)

theorem run_writes (tokens : Expression) (result : Numeral) (done : Scan.run settings ⟨tokens, 0⟩ = .ok result) :
    tokens = [.numeral result] ∨ ∃ z : Double, z.IsFinite ∧ FixedPoint.written settings (.real z) = .ok result.text := by
  refine Scan.run_induction settings (motive := fun tokens outcome => ∀ result, outcome = .ok result →
    tokens = [.numeral result] ∨ ∃ z : Double, z.IsFinite ∧ FixedPoint.written settings (.real z) = .ok result.text)
    ?_ ?_ ?_ ?_ tokens result done
  · intro n result same
    cases same
    exact .inl rfl
  · intro tokens _ _ result impossible
    cases impossible
  · intro tokens turn failure _ _ result impossible
    cases impossible
  · intro tokens turn next outcome several found combined left result finished
    rcases left result finished with last | written
    · -- The last turn left nothing but its own numeral.
      rw [Turn.reduced] at last
      cases before : turn.before with
      | cons head tail => simp [before] at last
      | nil =>
          simp only [before, List.nil_append, List.cons.injEq, Token.numeral.injEq] at last
          obtain ⟨z, computes, text⟩ := combined_succeeds settings turn.left turn.slot turn.right next combined
          rw [last.1] at text
          exact .inr ⟨z, computes.finite, text⟩
    · exact .inr written

theorem run_fails (within : FixedPoint.precision settings ≤ FixedPoint.mostPrecision) (tokens : Expression)
    (failure : Failure) (failed : Scan.run settings ⟨tokens, 0⟩ = .error failure) :
    ∃ fault, failure = .fault fault := by
  refine Scan.run_induction settings (motive := fun _ outcome => ∀ failure, outcome = .error failure →
    ∃ fault, failure = .fault fault) ?_ ?_ ?_ ?_ tokens failure failed
  · intro n failure impossible
    cases impossible
  · intro tokens _ _ failure same
    cases same
    exact ⟨_, rfl⟩
  · intro tokens turn failure found combined other same
    cases same
    exact combined_fails settings turn.left turn.slot turn.right failure within combined
  · intro tokens turn next outcome _ _ _ left
    exact left

theorem evaluate_writes (tokens : Expression) (result : Numeral) (done : evaluate settings tokens = .ok result) :
    ∃ z : Double, z.IsFinite ∧ FixedPoint.written settings (.real z) = .ok result.text := by
  obtain ⟨valid, finished⟩ := evaluate_ok settings tokens result done
  rcases run_writes settings tokens result finished with rfl | written
  · cases valid
  · exact written

theorem evaluate_fails (within : FixedPoint.precision settings ≤ FixedPoint.mostPrecision) (tokens : Expression)
    (failure : Failure) (failed : evaluate settings tokens = .error failure) : ∃ fault, failure = .fault fault := by
  rw [evaluate, Expression.ensureValid] at failed
  split at failed
  · exact run_fails settings within tokens failure failed
  · cases failed
    exact ⟨_, rfl⟩

def Escapes (outcome : Except Failure Numeral) : Prop :=
  ∃ failure, outcome = .error failure ∧ ∀ fault, failure ≠ .fault fault

instance (outcome : Except Failure Numeral) : Decidable (Escapes outcome) :=
  match outcome with
  | .ok _ => isFalse fun ⟨_, failed, _⟩ => by cases failed
  | .error (.fault fault) => isFalse fun ⟨_, failed, noFault⟩ => by
      cases failed
      exact noFault fault rfl
  | .error .wholeTooLarge => isTrue ⟨_, rfl, fun _ => Failure.noConfusion⟩
  | .error .tooManyDigits => isTrue ⟨_, rfl, fun _ => Failure.noConfusion⟩
  | .error .precisionRefused => isTrue ⟨_, rfl, fun _ => Failure.noConfusion⟩
  | .error .precisionTooLarge => isTrue ⟨_, rfl, fun _ => Failure.noConfusion⟩
  | .error .observerRefused => isTrue ⟨_, rfl, fun _ => Failure.noConfusion⟩

theorem escapes_beyond (tokens : Expression) (escapes : Escapes (evaluate settings tokens)) :
    FixedPoint.mostPrecision < FixedPoint.precision settings := by
  obtain ⟨failure, failed, noFault⟩ := escapes
  by_cases within : FixedPoint.precision settings ≤ FixedPoint.mostPrecision
  · obtain ⟨fault, same⟩ := evaluate_fails settings within tokens failure failed
    exact absurd same (noFault fault)
  · omega

theorem evaluate_short (tokens : Expression) (short : tokens.length < 3) :
    evaluate settings tokens = .error (.fault (.missingElement (Expression.shownText tokens.rendered))) := by
  have invalid : tokens.validity = .tooFewTokens := if_pos short
  rw [evaluate, Expression.ensureValid, invalid]
  rfl

theorem escapes_long (tokens : Expression) (escapes : Escapes (evaluate settings tokens)) : 3 ≤ tokens.length := by
  obtain ⟨failure, failed, noFault⟩ := escapes
  by_cases short : tokens.length < 3
  · rw [evaluate_short settings tokens short] at failed
    cases failed
    exact absurd rfl (noFault _)
  · omega

end PocketCalculator.Reduction
