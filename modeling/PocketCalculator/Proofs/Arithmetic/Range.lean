import PocketCalculator.Proofs.Arithmetic.Operation
import PocketCalculator.Proofs.Double.Overflow

set_option autoImplicit false

namespace PocketCalculator

def Number.IsFinite : Number → Prop
  | .real x => x.IsFinite
  | _ => True

theorem Number.accepted_cases (a : Number) (accepted : Input.number (.number a) = .ok a) :
    (∃ n, a = .whole n) ∨ ∃ x : Double, x.IsFinite ∧ a = .real x := by
  cases a with
  | whole n => exact .inl ⟨n, rfl⟩
  | truth holds => cases accepted
  | real x =>
      cases x with
      | undefined => cases accepted
      | infinite negative => cases accepted
      | finite negative units representable => exact .inr ⟨_, ⟨negative, units, representable, rfl⟩, rfl⟩

theorem Operator.rounded_defined (o : Operator) (x y : Double) (left : x.IsFinite) (right : y.IsFinite)
    (divides : o = .division → y.isZero = false) : o.rounded x y ≠ .undefined := by
  cases o with
  | addition => exact Double.add_defined x y left right
  | subtraction => exact Double.subtract_defined x y left right
  | multiplication => exact Double.multiply_defined x y left right
  | division => exact Double.divide_defined x y left right (divides rfl)

namespace Arithmetic

open Double (overflowBound)

-- An overflow is one of the operands' values as doubles.
inductive Answered (o : Operator) (a b : Number) : Except Failure Number → Prop where
  | done (result : Number) (finite : result.IsFinite) : Answered o a b (.ok result)
  | divisionByZero (division : o = .division) (zero : b.isZero = true) :
      Answered o a b (.error (.fault (.divisionByZero (.number a))))
  | resultOverflow (x y : Double) (left : toDouble a = .ok x) (right : toDouble b = .ok y)
      (beyond : (o.rounded x y).isInfinite = true) :
      Answered o a b (.error (.fault (.resultOverflow (.text o.noun) [.number a, .number b])))

-- A whole number that comes to be converted, be it an operand or a result, is rounded beyond the doubles.
def TooLarge (o : Operator) : Number → Number → Prop
  | .whole m, .whole n =>
      if o = .division then overflowBound * n.natAbs ≤ m.natAbs else overflowBound ≤ (o.exact m n).natAbs
  | .whole n, .real _ => overflowBound ≤ n.natAbs
  | .real _, .whole n => overflowBound ≤ n.natAbs
  | _, _ => False

instance (o : Operator) (a b : Number) : Decidable (TooLarge o a b) :=
  match a, b with
  | .whole m, .whole n => inferInstanceAs (Decidable
      (if o = .division then overflowBound * n.natAbs ≤ m.natAbs else overflowBound ≤ (o.exact m n).natAbs))
  | .whole n, .real _ => inferInstanceAs (Decidable (overflowBound ≤ n.natAbs))
  | .real _, .whole n => inferInstanceAs (Decidable (overflowBound ≤ n.natAbs))
  | .real _, .real _ | .truth _, _ | .whole _, .truth _ | .real _, .truth _ => isFalse id

def Escapes (o : Operator) (a b : Number) : Prop := ¬ (o = .division ∧ b.isZero = true) ∧ TooLarge o a b

instance (o : Operator) (a b : Number) : Decidable (Escapes o a b) := by
  unfold Escapes
  infer_instance

theorem finite_cases (x : Double) (defined : x ≠ .undefined) :
    x.isInfinite = true ∧ finite x = .error .wholeTooLarge ∨
      x.isInfinite = false ∧ x.IsFinite ∧ finite x = .ok x := by
  rcases Double.finite_or_infinite x defined with ⟨negative, units, representable, rfl⟩ | infinite
  · exact .inr ⟨rfl, ⟨negative, units, representable, rfl⟩, rfl⟩
  · exact .inl ⟨infinite, by rw [finite, if_pos infinite]⟩

theorem whole_to_double (n : Int) :
    overflowBound ≤ n.natAbs ∧ toDouble (.whole n) = .error .wholeTooLarge ∨
      ¬ overflowBound ≤ n.natAbs ∧ (Double.ofInt n).IsFinite ∧ toDouble (.whole n) = .ok (Double.ofInt n) := by
  have bound := Double.of_int_infinite_iff n
  rcases finite_cases (Double.ofInt n) (Double.of_quotient_defined _ _ _) with ⟨infinite, refused⟩ | ⟨within, finite, done⟩
  · exact .inl ⟨bound.mp infinite, refused⟩
  · refine .inr ⟨fun beyond => ?_, finite, done⟩
    rw [bound.mpr beyond] at within
    cases within

theorem checked_whole (operation : Text) (a b : Number) (n : Int) :
    overflowBound ≤ n.natAbs ∧ checked operation a b (.whole n) = .error .wholeTooLarge ∨
      ¬ overflowBound ≤ n.natAbs ∧ checked operation a b (.whole n) = .ok (.whole n) := by
  rcases whole_to_double n with ⟨beyond, refused⟩ | ⟨within, ⟨negative, units, representable, same⟩, done⟩
  · exact .inl ⟨beyond, by rw [checked, refused]; rfl⟩
  · exact .inr ⟨within, by rw [checked, done, same]; rfl⟩

theorem whole_quotient_cases (m n : Int) (divides : n ≠ 0) :
    overflowBound * n.natAbs ≤ m.natAbs ∧ wholeQuotient m n = .error .wholeTooLarge ∨
      ¬ overflowBound * n.natAbs ≤ m.natAbs ∧ ∃ x : Double, x.IsFinite ∧ wholeQuotient m n = .ok x := by
  have bound : (Double.ofQuotient ((m < 0) != (n < 0)) (m.natAbs * Double.unitsPerOne) n.natAbs).isInfinite = true ↔
      overflowBound * n.natAbs ≤ m.natAbs := by
    rw [Double.of_quotient_infinite_iff _ _ _ (Int.natAbs_pos.mpr divides), Nat.mul_right_comm]
    exact Nat.mul_le_mul_right_iff Double.units_per_one_pos
  rcases finite_cases _ (Double.of_quotient_defined ((m < 0) != (n < 0)) (m.natAbs * Double.unitsPerOne) n.natAbs) with
    ⟨infinite, refused⟩ | ⟨within, finite, done⟩
  · exact .inl ⟨bound.mp infinite, refused⟩
  · refine .inr ⟨fun beyond => ?_, _, finite, done⟩
    rw [bound.mpr beyond] at within
    cases within

-- Where a double is among the operands, both become doubles, the left one first.
def asDoubles (a b : Number) : Except Failure (Double × Double) := do
  let x ← toDouble a
  let y ← toDouble b
  return (x, y)

theorem not_both_whole {α : Type} (a b : Number) (mixed : a.whole? = none ∨ b.whole? = none)
    (exact : Int → Int → Except Failure α) (otherwise : Except Failure α) :
    (match a.whole?, b.whole? with
      | some m, some n => exact m n
      | _, _ => otherwise) = otherwise := by
  rcases mixed with left | right
  · rw [left]
  · rw [right]
    cases a.whole? <;> rfl

theorem combined_mixed (exact : Int → Int → Int) (rounded : Double → Double → Double) (a b : Number)
    (mixed : a.whole? = none ∨ b.whole? = none) :
    combined exact rounded a b = (asDoubles a b).map fun pair => .real (rounded pair.1 pair.2) := by
  refine (not_both_whole a b mixed (fun m n => .ok (Number.whole (exact m n))) _).trans ?_
  rw [asDoubles]
  cases toDouble a with
  | error failure => rfl
  | ok x => cases toDouble b <;> rfl

theorem quotient_mixed (a b : Number) (mixed : a.whole? = none ∨ b.whole? = none) :
    quotient a b = (asDoubles a b).map fun pair => Double.divide pair.1 pair.2 := by
  refine (not_both_whole a b mixed wholeQuotient _).trans ?_
  rw [asDoubles]
  cases toDouble a with
  | error failure => rfl
  | ok x => cases toDouble b <;> rfl

theorem operation_mixed (o : Operator) (a b : Number) (mixed : a.whole? = none ∨ b.whole? = none)
    (divides : ¬ (o = .division ∧ b.isZero = true)) :
    operation o a b = (asDoubles a b).bind fun pair => checked o.noun a b (.real (o.rounded pair.1 pair.2)) := by
  have sum := fun exact rounded => combined_mixed exact rounded a b mixed
  cases o with
  | addition =>
      rw [operation, add, sum]
      cases asDoubles a b <;> rfl
  | subtraction =>
      rw [operation, subtract, sum]
      cases asDoubles a b <;> rfl
  | multiplication =>
      rw [operation, multiply, sum]
      cases asDoubles a b <;> rfl
  | division =>
      have nonzero : ¬ b.isZero = true := fun zero => divides ⟨rfl, zero⟩
      rw [operation, divide, if_neg nonzero, quotient_mixed a b mixed]
      cases asDoubles a b <;> rfl

theorem operation_whole (o : Operator) (a b : Number) (m n : Int) (undivided : o ≠ .division)
    (left : a.whole? = some m) (right : b.whole? = some n) :
    operation o a b = checked o.noun a b (.whole (o.exact m n)) := by
  have wholes : ∀ (exact : Int → Int → Int) (rounded : Double → Double → Double)
      (next : Number → Except Failure Number), (combined exact rounded a b >>= next) = next (.whole (exact m n)) := by
    intro exact rounded next
    rw [combined, left, right]
    rfl
  cases o with
  | addition => exact wholes _ _ _
  | subtraction => exact wholes _ _ _
  | multiplication => exact wholes _ _ _
  | division => exact absurd rfl undivided

def Settles (o : Operator) (a b : Number) : Prop :=
  Escapes o a b ∧ operation o a b = .error .wholeTooLarge ∨ ¬ Escapes o a b ∧ Answered o a b (operation o a b)

variable (o : Operator) (a b : Number)

theorem zero_settles (divisor : o = .division ∧ b.isZero = true) : Settles o a b := by
  obtain ⟨rfl, zero⟩ := divisor
  refine .inr ⟨fun escapes => escapes.1 ⟨rfl, zero⟩, ?_⟩
  rw [operation, divide, if_pos zero]
  exact .divisionByZero rfl zero

theorem large_settles (mixed : a.whole? = none ∨ b.whole? = none) (divides : ¬ (o = .division ∧ b.isZero = true))
    (large : TooLarge o a b) (refused : asDoubles a b = .error .wholeTooLarge) : Settles o a b := by
  refine .inl ⟨⟨divides, large⟩, ?_⟩
  rw [operation_mixed o a b mixed divides, refused]
  rfl

theorem converted_settles (mixed : a.whole? = none ∨ b.whole? = none) (divides : ¬ (o = .division ∧ b.isZero = true))
    (small : ¬ TooLarge o a b) (x y : Double) (left : toDouble a = .ok x) (right : toDouble b = .ok y)
    (leftFinite : x.IsFinite) (rightFinite : y.IsFinite) (divisor : y.isZero = b.isZero) : Settles o a b := by
  have nonzero : o = .division → y.isZero = false := by
    intro division
    rw [divisor]
    exact Bool.eq_false_iff.mpr fun zero => divides ⟨division, zero⟩
  refine .inr ⟨fun escapes => small escapes.2, ?_⟩
  have converted : asDoubles a b = .ok (x, y) := by
    rw [asDoubles, left, right]
    rfl
  rw [operation_mixed o a b mixed divides, converted]
  change Answered o a b (checked o.noun a b (.real (o.rounded x y)))
  rcases Double.finite_or_infinite _ (o.rounded_defined x y leftFinite rightFinite nonzero) with finite | infinite
  · rw [checked_finite _ _ _ _ finite]
    exact .done _ finite
  · rw [checked_infinite _ _ _ _ infinite]
    exact .resultOverflow x y left right infinite

theorem whole_real_settles (n : Int) (y : Double) (finite : y.IsFinite)
    (divides : ¬ (o = .division ∧ y.isZero = true)) : Settles o (.whole n) (.real y) := by
  rcases whole_to_double n with ⟨beyond, refused⟩ | ⟨within, converts, converted⟩
  · apply large_settles o (.whole n) (.real y) (.inr rfl) divides beyond
    rw [asDoubles, refused]
    rfl
  · exact converted_settles o (.whole n) (.real y) (.inr rfl) divides within _ y converted rfl converts finite rfl

theorem real_whole_settles (x : Double) (n : Int) (finite : x.IsFinite)
    (divides : ¬ (o = .division ∧ (Number.whole n).isZero = true)) : Settles o (.real x) (.whole n) := by
  rcases whole_to_double n with ⟨beyond, refused⟩ | ⟨within, converts, converted⟩
  · apply large_settles o (.real x) (.whole n) (.inl rfl) divides beyond
    rw [asDoubles, refused]
    rfl
  · exact converted_settles o (.real x) (.whole n) (.inl rfl) divides within x _ rfl converted finite converts (Double.of_int_zero n)

theorem whole_quotient_settles (m n : Int) (divides : n ≠ 0) : Settles .division (.whole m) (.whole n) := by
  have nonzero : ¬ (Number.whole n).isZero = true := fun zero => divides (of_decide_eq_true zero)
  have stays : ¬ (Operator.division = .division ∧ (Number.whole n).isZero = true) := fun both => nonzero both.2
  have large : TooLarge .division (.whole m) (.whole n) ↔ overflowBound * n.natAbs ≤ m.natAbs := by
    rw [TooLarge, if_pos rfl]
  have divided : operation .division (.whole m) (.whole n) = (wholeQuotient m n).bind fun q =>
      checked "division".toList (.whole m) (.whole n) (.real q) := by
    rw [operation, divide, if_neg nonzero]
    rfl
  rcases whole_quotient_cases m n divides with ⟨beyond, refused⟩ | ⟨within, q, finite, done⟩
  · exact .inl ⟨⟨stays, large.mpr beyond⟩, by rw [divided, refused]; rfl⟩
  · refine .inr ⟨fun escapes => within (large.mp escapes.2), ?_⟩
    rw [divided, done]
    change Answered _ _ _ (checked "division".toList (.whole m) (.whole n) (.real q))
    rw [checked_finite _ _ _ _ finite]
    exact .done _ finite

theorem exact_settles (m n : Int) (undivided : o ≠ .division) : Settles o (.whole m) (.whole n) := by
  have exact := operation_whole o (.whole m) (.whole n) m n undivided rfl rfl
  have large : TooLarge o (.whole m) (.whole n) ↔ overflowBound ≤ (o.exact m n).natAbs := by
    rw [TooLarge, if_neg undivided]
  rcases checked_whole o.noun (.whole m) (.whole n) (o.exact m n) with ⟨beyond, refused⟩ | ⟨within, done⟩
  · exact .inl ⟨⟨fun divisor => undivided divisor.1, large.mpr beyond⟩, exact.trans refused⟩
  · refine .inr ⟨fun escapes => within (large.mp escapes.2), ?_⟩
    rw [exact, done]
    exact .done _ trivial

theorem accepted_settle (left : Input.number (.number a) = .ok a) (right : Input.number (.number b) = .ok b) :
    Settles o a b := by
  by_cases zero : o = .division ∧ b.isZero = true
  · exact zero_settles o a b zero
  · rcases a.accepted_cases left with ⟨m, rfl⟩ | ⟨x, leftFinite, rfl⟩
    · rcases b.accepted_cases right with ⟨n, rfl⟩ | ⟨y, rightFinite, rfl⟩
      · by_cases division : o = .division
        · subst division
          exact whole_quotient_settles m n fun same => zero ⟨rfl, decide_eq_true same⟩
        · exact exact_settles o m n division
      · exact whole_real_settles o m y rightFinite zero
    · rcases b.accepted_cases right with ⟨n, rfl⟩ | ⟨y, rightFinite, rfl⟩
      · exact real_whole_settles o x n leftFinite zero
      · exact converted_settles o _ _ (.inl rfl) zero id x y rfl rfl leftFinite rightFinite rfl

theorem apply_accepted (left : Input.number (.number a) = .ok a) (right : Input.number (.number b) = .ok b) :
    apply (.operator o) (.number a) (.number b) = operation o a b := by
  rw [apply, left, right]
  rfl

theorem apply_answers_or_escapes (left : Input.number (.number a) = .ok a)
    (right : Input.number (.number b) = .ok b) :
    let outcome := apply (.operator o) (.number a) (.number b)
    (Answered o a b outcome ↔ ¬ Escapes o a b) ∧ (Escapes o a b → outcome = .error .wholeTooLarge) := by
  intro outcome
  rw [show outcome = operation o a b from apply_accepted o a b left right]
  rcases accepted_settle o a b left right with ⟨escapes, refused⟩ | ⟨answers, answered⟩
  · rw [refused]
    have unanswered : ¬ Answered o a b (.error .wholeTooLarge) := by
      intro answered
      cases answered
    exact ⟨⟨fun answered => absurd answered unanswered, fun stays => absurd escapes stays⟩, fun _ => rfl⟩
  · exact ⟨⟨fun _ => answers, fun _ => answered⟩, fun escapes => absurd escapes answers⟩

theorem third_answered_and_large_product_escapes :
    let half := Double.ofQuotient false Double.unitsPerOne 2
    let large : Number := .whole (10 ^ 400 : Nat)
    Answered .division (.whole 1) (.whole 3) (apply (.operator .division) (.number (.whole 1)) (.number (.whole 3))) ∧
      Input.number (.number (.real half)) = .ok (.real half) ∧
      apply (.operator .multiplication) (.number large) (.number (.real half)) = .error .wholeTooLarge := by
  intro half large
  have finite : half.IsFinite := by
    apply Double.of_quotient_finite
    decide +kernel
  have accepted := number_finite half finite
  have stays : ¬ Escapes .division (.whole 1) (.whole 3) := by decide +kernel
  have beyond : TooLarge .multiplication large (.real half) := by decide +kernel
  have escapes : Escapes .multiplication large (.real half) := ⟨by decide, beyond⟩
  exact ⟨(apply_answers_or_escapes .division (.whole 1) (.whole 3) rfl rfl).1.mpr stays, accepted,
    (apply_answers_or_escapes .multiplication large (.real half) rfl accepted).2 escapes⟩

theorem large_sum_unanswered :
    let large : Number := .whole (10 ^ 400 : Nat)
    let outcome := apply (.operator .addition) (.number large) (.number (.whole 1))
    Input.number (.number large) = .ok large ∧ Input.number (.number (.whole 1)) = .ok (.whole 1) ∧
      (∀ result, outcome ≠ .ok result) ∧ ∀ fault, outcome ≠ .error (.fault fault) := by
  intro large outcome
  have escapes : Escapes .addition large (.whole 1) := by decide +kernel
  have refused : outcome = .error .wholeTooLarge := by
    apply (apply_accepted .addition large (.whole 1) rfl rfl).trans
    rcases accepted_settle .addition large (.whole 1) rfl rfl with ⟨_, refused⟩ | ⟨stays, _⟩
    · exact refused
    · exact absurd escapes stays
  rw [refused]
  refine ⟨rfl, rfl, fun _ same => ?_, fun _ same => ?_⟩ <;> cases same

end Arithmetic

end PocketCalculator
