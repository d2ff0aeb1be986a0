import PocketCalculator.Proofs.Reduction.Origin

set_option autoImplicit false

namespace PocketCalculator

-- Not the number that is asked for beside an operator.
def Token.NoNumber (token : Token) : Prop :=
  (∃ o, token = .operator o) ∨ ∃ n, token = .numeral n ∧ n.wellFormed = false

theorem Numeral.unread_malformed (n : Numeral) (malformed : Malformed) (unread : n.value = .error malformed) :
    n.wellFormed = false := by
  rw [value] at unread
  rw [wellFormed]
  cases parts : n.parts? with
  | none => rfl
  | some found => simp [parts] at unread

namespace Reduction

theorem operand_refused (side : Side) (token : Token) (failure : Failure)
    (refused : operand side token = .error failure) :
    token.NoNumber ∧ ∃ cause, failure = .fault (.operandInvalid side (.text token.text) cause) := by
  cases token with
  | operator o => exact ⟨.inl ⟨o, rfl⟩, none, (Except.error.inj refused).symm⟩
  | numeral n =>
      rw [operand] at refused
      cases value : n.value with
      | ok x => simp [value] at refused
      | error malformed =>
          rw [value] at refused
          exact ⟨.inr ⟨n, rfl, n.unread_malformed malformed value⟩, some malformed, (Except.error.inj refused).symm⟩

def Turn.operand (turn : Turn) : Side → Token
  | .left => turn.left
  | .right => turn.right

theorem TracedTurn.operand_untraced (turn : TracedTurn) (side : Side) :
    turn.untraced.operand side = (turn.operand side).token := by
  cases side <;> rfl

inductive Turn.Blames (turn : Turn) : Failure → Prop where
  | operand (side : Side) (cause : Option Malformed) (noNumber : (turn.operand side).NoNumber) :
      Blames turn (.fault (.operandInvalid side (.text (turn.operand side).text) cause))
  | slot (n : Numeral) (held : turn.slot = .numeral n) : Blames turn (.fault (.unknownOperator (.text n.text)))
  | nobody (failure : Failure) (noOperand : ∀ side token cause, failure ≠ .fault (.operandInvalid side token cause))
      (noSlot : ∀ found, failure ≠ .fault (.unknownOperator found)) : Blames turn failure

theorem Turn.arithmetic_blames_nobody (turn : Turn) (o : Operator) (x y : Double) (failure : Failure)
    (failed : Arithmetic.apply (.operator o) (.number (.real x)) (.number (.real y)) = .error failure) :
    turn.Blames failure := by
  rcases Arithmetic.apply_refuses o x y failure failed with (⟨_, rfl⟩ | ⟨_, _, rfl⟩) | ⟨_, _, _, rfl⟩ <;>
    exact .nobody _ (fun _ _ _ same => by cases same) (fun _ same => by cases same)

-- An operand is read that is none, or a numeral is found for an operator, or the operation itself fails.
theorem Turn.computed_refuses (turn : Turn) (failure : Failure)
    (failed : computed turn.left turn.slot turn.right = .error failure) :
    (∃ side, Reduction.operand side (turn.operand side) = .error failure) ∨
      (∃ n : Numeral, turn.slot = .numeral n ∧ failure = .fault (.unknownOperator (.text n.text))) ∨
      ∃ o x y, turn.slot = .operator o ∧
        Arithmetic.apply (.operator o) (.number (.real x)) (.number (.real y)) = .error failure := by
  simp only [computed, bind] at failed
  cases leftRead : Reduction.operand .left turn.left with
  | error refused =>
      rw [leftRead] at failed
      cases failed
      exact .inl ⟨.left, leftRead⟩
  | ok x =>
      cases rightRead : Reduction.operand .right turn.right with
      | error refused =>
          rw [leftRead, rightRead] at failed
          cases failed
          exact .inl ⟨.right, rightRead⟩
      | ok y =>
          rw [leftRead, rightRead] at failed
          cases held : turn.slot with
          | operator o =>
              rw [held] at failed
              exact .inr (.inr ⟨o, x, y, rfl, failed⟩)
          | numeral n =>
              rw [held] at failed
              cases failed
              exact .inr (.inl ⟨n, rfl, rfl⟩)

theorem Turn.combined_refuses (settings : Settings) (turn : Turn) (failure : Failure)
    (failed : turn.combined settings = .error failure) :
    computed turn.left turn.slot turn.right = .error failure ∨
      failure = .precisionRefused ∨ failure = .precisionTooLarge := by
  rw [combined, combined_writes] at failed
  cases value : computed turn.left turn.slot turn.right with
  | error refused =>
      rw [value] at failed
      cases failed
      exact .inl rfl
  | ok result =>
      rcases computed_cases turn.left turn.slot turn.right with ⟨_, bad⟩ | ⟨z, computes⟩
      · rw [value] at bad
        cases bad
      · rw [computes.value, Except.bind] at failed
        cases written : FixedPoint.written settings (.real z) with
        | ok text =>
            rw [written] at failed
            cases failed
        | error refused =>
            rw [written] at failed
            cases failed
            exact .inr (FixedPoint.finite_refused settings z computes.finite failure written).2

theorem Turn.computed_blames (turn : Turn) (failure : Failure)
    (failed : computed turn.left turn.slot turn.right = .error failure) : turn.Blames failure := by
  rcases turn.computed_refuses failure failed with ⟨side, refused⟩ | ⟨n, held, rfl⟩ | ⟨o, x, y, _, applied⟩
  · obtain ⟨noNumber, cause, rfl⟩ := operand_refused side _ failure refused
    exact .operand side cause noNumber
  · exact .slot n held
  · exact turn.arithmetic_blames_nobody o x y failure applied

theorem Turn.combined_blames (settings : Settings) (turn : Turn) (failure : Failure)
    (failed : turn.combined settings = .error failure) : turn.Blames failure := by
  rcases turn.combined_refuses settings failure failed with computing | rfl | rfl
  · exact turn.computed_blames failure computing
  · exact .nobody _ (fun _ _ _ => Failure.noConfusion) (fun _ => Failure.noConfusion)
  · exact .nobody _ (fun _ _ _ => Failure.noConfusion) (fun _ => Failure.noConfusion)

section

variable {settings : Settings} {submitted : Expression}

-- An operator at an even place would still be left, and its turn would have come first.
theorem slot_without_priority (turn : TracedTurn) (failure : Failure)
    (fails : FailsAt settings submitted turn failure) (n : Numeral) (held : turn.slot.token = .numeral n)
    (origin : Nat) (o : Operator) (there : submitted[origin]? = some (.operator o)) (high : o.hasPriority = true) :
    origin % 2 = 1 := by
  apply (Nat.mod_two_eq_zero_or_one origin).resolve_left
  intro even
  have member := (copy_kept _ fails.reached).operators origin o there even
  have leftOver : Expression.priorityLeft (turn.copy.map (·.token)) = true :=
    List.any_eq_true.mpr ⟨.operator o, List.mem_map.mpr ⟨_, member, rfl⟩, high⟩
  have priority := turn_of_priority _ turn.untraced fails.found leftOver
  rw [TracedTurn.untraced, held] at priority
  cases priority

theorem failing_even (turn : TracedTurn) (failure : Failure) (fails : FailsAt settings submitted turn failure) :
    turn.before.length % 2 = 0 := by
  have even := (turn_tokens _ turn.untraced fails.found).2
  rwa [TracedTurn.untraced, List.length_map] at even

-- What a turn leaves behind is a numeral that can be read, at an even place, and so it is neither an operand that
-- is refused nor found where an operator belongs.
theorem operand_origin (turn : TracedTurn) (failure : Failure) (fails : FailsAt settings submitted turn failure)
    (side : Side) (noNumber : (turn.operand side).token.NoNumber) :
    ∃ origin, (turn.operand side).origin = some origin ∧ origin % 2 = 0 ∧
      submitted[origin]? = some (turn.operand side).token := by
  have even := failing_even turn failure fails
  have stands : ∃ place, place % 2 = 0 ∧ (turn.operand side).StandsAt submitted place := by
    have kept := (copy_kept _ fails.reached).stands
    obtain ⟨left, _, right⟩ := turn.window_at
    cases side with
    | left => exact ⟨_, even, kept _ _ left⟩
    | right => exact ⟨turn.before.length + 2, by omega, kept _ _ right⟩
  obtain ⟨place, evenPlace, stands⟩ := stands
  rw [Traced.StandsAt] at stands
  cases known : (turn.operand side).origin with
  | some origin =>
      rw [known] at stands
      exact ⟨origin, rfl, stands.2.trans evenPlace, stands.1⟩
  | none =>
      rw [known] at stands
      obtain ⟨_, n, same, wellFormed⟩ := stands
      rcases noNumber with ⟨o, operator⟩ | ⟨m, numeral, malformed⟩
      · rw [same] at operator
        cases operator
      · rw [same] at numeral
        cases numeral
        rw [wellFormed] at malformed
        cases malformed

theorem slot_origin (turn : TracedTurn) (failure : Failure) (fails : FailsAt settings submitted turn failure) :
    ∃ origin, turn.slot.origin = some origin ∧ origin % 2 = 1 ∧ submitted[origin]? = some turn.slot.token := by
  have even := failing_even turn failure fails
  have stands := (copy_kept _ fails.reached).stands _ _ turn.window_at.2.1
  rw [Traced.StandsAt] at stands
  cases known : turn.slot.origin with
  | some origin =>
      rw [known] at stands
      exact ⟨origin, rfl, by omega, stands.1⟩
  | none =>
      rw [known] at stands
      omega

end

theorem evaluate_fails_at (settings : Settings) (submitted : Expression) (failure : Failure)
    (failed : evaluate settings submitted = .error failure) :
    (∃ shown, failure = .fault (.missingElement shown)) ∨ ∃ turn, FailsAt settings submitted turn failure := by
  rw [evaluate, Expression.ensureValid] at failed
  split at failed
  · exact run_fails_at submitted (traced submitted) .submitted (traced_untraced submitted) failure failed
  · exact .inl ⟨_, (Except.error.inj failed).symm⟩

end Reduction

end PocketCalculator
