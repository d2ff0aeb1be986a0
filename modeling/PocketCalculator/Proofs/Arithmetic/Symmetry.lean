import PocketCalculator.Proofs.Arithmetic.Range
import PocketCalculator.Proofs.Double.Symmetry

set_option autoImplicit false

namespace PocketCalculator

-- A finite double, or a whole number that rounds to one.
def Number.Fits : Number → Prop
  | .whole n => n.natAbs < Double.overflowBound
  | .truth _ => True
  | .real x => x.IsFinite

namespace Arithmetic

open Double (overflowBound)

theorem fits_cases (a : Number) (fits : a.Fits) :
    (∃ n : Int, a.whole? = some n ∧ n.natAbs < overflowBound ∧ a.exact? = some (n : ℚ) ∧
      toDouble a = toDouble (.whole n)) ∨ ∃ x : Double, x.IsFinite ∧ a = .real x := by
  cases a with
  | whole n => exact .inl ⟨n, rfl, fits, rfl, rfl⟩
  | real x => exact .inr ⟨x, fits, rfl⟩
  | truth holds =>
      have small : (Number.ofTruth holds).natAbs < overflowBound := by cases holds <;> decide +kernel
      exact .inl ⟨Number.ofTruth holds, rfl, small, rfl, rfl⟩

theorem fits_converts (a : Number) (fits : a.Fits) : ∃ x : Double, x.IsFinite ∧ toDouble a = .ok x := by
  rcases fits_cases a fits with ⟨n, _, within, _, converts⟩ | ⟨x, finite, rfl⟩
  · rcases whole_to_double n with ⟨beyond, _⟩ | ⟨_, finite, done⟩
    · exact absurd within (Nat.not_lt.mpr beyond)
    · exact ⟨_, finite, converts.trans done⟩
  · exact ⟨x, finite, rfl⟩

-- Numbers with values in that relation, or failures of one class.
inductive Corresponds (related : ℚ → ℚ → Prop) : Except Failure Number → Except Failure Number → Prop where
  | done (first second : Number) (v w : ℚ) (value : first.exact? = some v) (other : second.exact? = some w)
      (holds : related v w) : Corresponds related (.ok first) (.ok second)
  | resultOverflow (operation other : Value) (operands others : List Value) :
      Corresponds related (.error (.fault (.resultOverflow operation operands)))
        (.error (.fault (.resultOverflow other others)))
  | wholeTooLarge : Corresponds related (.error .wholeTooLarge) (.error .wholeTooLarge)

-- What exchanged operands come to before the result is checked.
structure Exchanges (o : Operator) (related : ℚ → ℚ → Prop) : Prop where
  undivided : o ≠ .division
  magnitude : ∀ m n : Int, (o.exact n m).natAbs = (o.exact m n).natAbs
  whole : ∀ m n : Int, related (o.exact m n) (o.exact n m)
  infinite : ∀ x y : Double, x.IsFinite → y.IsFinite → (o.rounded y x).isInfinite = (o.rounded x y).isInfinite
  real : ∀ x y : Double, x.IsFinite → y.IsFinite → ∀ v w, Double.exact? (o.rounded x y) = some v →
    Double.exact? (o.rounded y x) = some w → related v w

theorem operation_converted (o : Operator) (undivided : o ≠ .division) (a b : Number) (x y : Double)
    (mixed : a.whole? = none ∨ b.whole? = none) (left : toDouble a = .ok x) (right : toDouble b = .ok y) :
    operation o a b = checked o.noun a b (.real (o.rounded x y)) := by
  have converted : asDoubles a b = .ok (x, y) := by
    rw [asDoubles, left, right]
    rfl
  rw [operation_mixed o a b mixed fun division => undivided division.1, converted]
  rfl

theorem operation_finite (o : Operator) (undivided : o ≠ .division) (a b : Number) (x y : Double)
    (mixed : a.whole? = none ∨ b.whole? = none) (left : toDouble a = .ok x) (right : toDouble b = .ok y)
    (finite : (o.rounded x y).IsFinite) : operation o a b = .ok (.real (o.rounded x y)) := by
  rw [operation_converted o undivided a b x y mixed left right, checked_finite _ _ _ _ finite]

section

variable {o : Operator} {related : ℚ → ℚ → Prop} (exchanges : Exchanges o related)

include exchanges

theorem whole_corresponds (a b c d : Number) (m n : Int) :
    Corresponds related (checked o.noun a b (.whole (o.exact m n))) (checked o.noun c d (.whole (o.exact n m))) := by
  have same := exchanges.magnitude m n
  rcases checked_whole o.noun a b (o.exact m n) with ⟨beyond, refused⟩ | ⟨within, done⟩
  · rcases checked_whole o.noun c d (o.exact n m) with ⟨_, also⟩ | ⟨inside, _⟩
    · rw [refused, also]
      exact .wholeTooLarge
    · exact absurd (same ▸ beyond) inside
  · rcases checked_whole o.noun c d (o.exact n m) with ⟨outside, _⟩ | ⟨_, also⟩
    · exact absurd (same ▸ outside) within
    · rw [done, also]
      exact .done _ _ _ _ rfl rfl (exchanges.whole m n)

theorem real_corresponds (a b c d : Number) (x y : Double) (left : x.IsFinite) (right : y.IsFinite) :
    Corresponds related (checked o.noun a b (.real (o.rounded x y))) (checked o.noun c d (.real (o.rounded y x))) := by
  have same := exchanges.infinite x y left right
  have defined : ∀ x y : Double, x.IsFinite → y.IsFinite → o.rounded x y ≠ .undefined := fun x y left right =>
    o.rounded_defined x y left right fun division => absurd division exchanges.undivided
  rcases Double.finite_or_infinite _ (defined x y left right) with finite | infinite
  · rcases Double.finite_or_infinite _ (defined y x right left) with also | infinite
    · obtain ⟨v, value⟩ := Double.finite_value _ finite
      obtain ⟨w, other⟩ := Double.finite_value _ also
      rw [checked_finite _ _ _ _ finite, checked_finite _ _ _ _ also]
      exact .done _ _ v w value other (exchanges.real x y left right v w value other)
    · obtain ⟨_, _, _, within⟩ := finite
      rw [same, within] at infinite
      cases infinite
  · rw [checked_infinite _ _ _ _ infinite, checked_infinite _ _ _ _ (same.trans infinite)]
    exact .resultOverflow _ _ _ _

theorem operation_exchanged (a b : Number) (left : a.Fits) (right : b.Fits) :
    Corresponds related (operation o a b) (operation o b a) := by
  have undivided := exchanges.undivided
  obtain ⟨x, leftFinite, leftConverts⟩ := fits_converts a left
  obtain ⟨y, rightFinite, rightConverts⟩ := fits_converts b right
  have converted (mixed : a.whole? = none ∨ b.whole? = none) :
      Corresponds related (operation o a b) (operation o b a) := by
    rw [operation_converted o undivided a b x y mixed leftConverts rightConverts,
      operation_converted o undivided b a y x mixed.symm rightConverts leftConverts]
    exact real_corresponds exchanges _ _ _ _ x y leftFinite rightFinite
  cases first : a.whole? with
  | none => exact converted (.inl first)
  | some m =>
      cases second : b.whole? with
      | none => exact converted (.inr second)
      | some n =>
          rw [operation_whole o a b m n undivided first second, operation_whole o b a n m undivided second first]
          exact whole_corresponds exchanges _ _ _ _ m n

end

theorem same_value (x y : Double) (same : y = x) (v w : ℚ) (value : x.exact? = some v) (other : y.exact? = some w) :
    v = w := by
  rw [same, value] at other
  exact Option.some.inj other

theorem addition_exchanges : Exchanges .addition Eq where
  undivided := by decide
  magnitude := fun m n => congrArg Int.natAbs (Int.add_comm n m)
  whole := fun m n => congrArg Int.cast (Int.add_comm m n)
  infinite := fun x y left right => congrArg Double.isInfinite (Double.add_swapped x y left right)
  real := fun x y left right => same_value _ _ (Double.add_swapped x y left right)

theorem multiplication_exchanges : Exchanges .multiplication Eq where
  undivided := by decide
  magnitude := fun m n => congrArg Int.natAbs (Int.mul_comm n m)
  whole := fun m n => congrArg Int.cast (Int.mul_comm m n)
  infinite := fun x y left right => congrArg Double.isInfinite (Double.multiply_swapped x y left right)
  real := fun x y left right => same_value _ _ (Double.multiply_swapped x y left right)

theorem subtraction_exchanges : Exchanges .subtraction fun v w => w = -v where
  undivided := by decide
  magnitude := by
    intro m n
    change (n - m).natAbs = (m - n).natAbs
    omega
  whole := by
    intro m n
    change ((n - m : Int) : ℚ) = -((m - n : Int) : ℚ)
    rw [← Int.neg_sub, Int.cast_neg]
  infinite := fun x y left right => (Double.subtract_swapped x y left right).infinite
  real := by
    intro x y left right v w value other
    have opposed := (Double.subtract_swapped x y left right).value
    change Double.exact? (Double.subtract x y) = some v at value
    change Double.exact? (Double.subtract y x) = some w at other
    rw [value, other, Option.map_some] at opposed
    exact Option.some.inj opposed

theorem subtract_itself (a : Number) (fits : a.Fits) :
    ∃ difference, subtract a a = .ok difference ∧ difference.exact? = some 0 := by
  rcases fits_cases a fits with ⟨n, whole, _⟩ | ⟨x, finite, rfl⟩
  · have exact := operation_whole .subtraction a a n n (by decide) whole whole
    rw [show Operator.exact .subtraction n n = 0 from Int.sub_self n] at exact
    rcases checked_whole (Operator.noun .subtraction) a a 0 with ⟨beyond, _⟩ | ⟨_, done⟩
    · exact absurd beyond (by decide +kernel)
    · exact ⟨_, exact.trans done, congrArg some Int.cast_zero⟩
  · obtain ⟨zero, value⟩ := Double.subtract_itself x finite
    exact ⟨_, operation_finite .subtraction (by decide) _ _ x x (.inl rfl) rfl rfl zero, value⟩

theorem add_zero_keeps (a : Number) (fits : a.Fits) :
    ∃ sum v, add a (.whole 0) = .ok sum ∧ sum.exact? = some v ∧ a.exact? = some v := by
  rcases fits_cases a fits with ⟨n, whole, within, value, _⟩ | ⟨x, finite, rfl⟩
  · have exact := operation_whole .addition a (.whole 0) n 0 (by decide) whole rfl
    rw [show Operator.exact .addition n 0 = n from Int.add_zero n] at exact
    rcases checked_whole (Operator.noun .addition) a (.whole 0) n with ⟨beyond, _⟩ | ⟨_, done⟩
    · exact absurd within (Nat.not_lt.mpr beyond)
    · exact ⟨_, _, exact.trans done, rfl, value⟩
  · obtain ⟨v, value⟩ := Double.finite_value x finite
    obtain ⟨same, kept⟩ := Double.add_nothing x finite
    have nothing : toDouble (.whole 0) = .ok (.zero false) := by
      rw [toDouble, Double.of_int_nothing]
      rfl
    exact ⟨_, v, operation_finite .addition (by decide) _ _ x _ (.inl rfl) rfl nothing same, kept.trans value, value⟩

theorem exchanged_operands_correspond (a b : Number) (left : a.Fits) (right : b.Fits) :
    Corresponds Eq (add a b) (add b a) ∧ Corresponds Eq (multiply a b) (multiply b a) ∧
      Corresponds (fun v w => w = -v) (subtract a b) (subtract b a) ∧
      (∃ difference, subtract a a = .ok difference ∧ difference.exact? = some 0) ∧
      ∃ sum v, add a (.whole 0) = .ok sum ∧ sum.exact? = some v ∧ a.exact? = some v :=
  ⟨operation_exchanged addition_exchanges a b left right, operation_exchanged multiplication_exchanges a b left right,
    operation_exchanged subtraction_exchanges a b left right, subtract_itself a left, add_zero_keeps a left⟩

theorem long_whole_and_half_exchanged :
    let count : Int := 2 ^ 53 + 1
    let long : Number := .whole count
    let half : Number := .real (Double.ofQuotient false Double.unitsPerOne 2)
    long.Fits ∧ half.Fits ∧ Corresponds Eq (add long half) (add half long) ∧
      Corresponds Eq (multiply long half) (multiply half long) ∧
      Corresponds (fun v w => w = -v) (subtract long half) (subtract half long) ∧
      (∃ difference, subtract half half = .ok difference ∧ difference.exact? = some 0) ∧
      ∃ sum, add long (.whole 0) = .ok sum ∧ sum.exact? = some (count : ℚ) := by
  intro count long half
  have first : long.Fits := by
    change count.natAbs < overflowBound
    decide +kernel
  have second : half.Fits := by
    apply Double.of_quotient_finite
    decide +kernel
  obtain ⟨sums, products, differences, _, sum, v, done, value, same⟩ :=
    exchanged_operands_correspond long half first second
  obtain ⟨_, _, _, nothing, _⟩ := exchanged_operands_correspond half long second first
  exact ⟨first, second, sums, products, differences, nothing, sum, done, value.trans same.symm⟩

end Arithmetic

end PocketCalculator
