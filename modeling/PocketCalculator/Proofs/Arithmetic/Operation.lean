import PocketCalculator.Proofs.Reduction.Window

set_option autoImplicit false

namespace PocketCalculator

namespace Operator

def noun : Operator → Text
  | .addition => "addition".toList
  | .subtraction => "subtraction".toList
  | .multiplication => "multiplication".toList
  | .division => "division".toList

def exact : Operator → Int → Int → Int
  | .addition => (· + ·)
  | .subtraction => (· - ·)
  | .multiplication => (· * ·)
  | .division => (· / ·)

def rounded : Operator → Double → Double → Double
  | .addition => Double.add
  | .subtraction => Double.subtract
  | .multiplication => Double.multiply
  | .division => Double.divide

end Operator

namespace Arithmetic

theorem operation_doubles (o : Operator) (x y : Double) (divides : o = .division → y.isZero = false) :
    operation o (.real x) (.real y) = checked o.noun (.real x) (.real y) (.real (o.rounded x y)) := by
  cases o with
  | addition => rfl
  | subtraction => rfl
  | multiplication => rfl
  | division =>
      have nonzero : ¬ (Number.real y).isZero = true := by simp [Number.isZero, divides rfl]
      rw [operation, divide, if_neg nonzero]
      rfl

end Arithmetic

namespace Reduction

theorem combined_rounds (settings : Settings) (l r : Numeral) (o : Operator) (x y : Double) (left : l.value = .ok x)
    (right : r.value = .ok y) (leftFinite : x.IsFinite) (rightFinite : y.IsFinite)
    (divides : o = .division → y.isZero = false) (finite : (o.rounded x y).IsFinite) :
    combined settings (.numeral l) (.operator o) (.numeral r) =
      (FixedPoint.written settings (.real (o.rounded x y))).map Numeral.mk := by
  have done : computed (.numeral l) (.operator o) (.numeral r) = .ok (.real (o.rounded x y)) := by
    simp only [computed, operand, left, right, bind, Except.bind, slotValue]
    rw [Arithmetic.apply, Arithmetic.number_finite x leftFinite, Arithmetic.number_finite y rightFinite]
    change Arithmetic.operation o (.real x) (.real y) = _
    rw [Arithmetic.operation_doubles o x y divides, Arithmetic.checked_finite _ _ _ _ finite]
  rw [combined_writes, done]
  rfl

end Reduction

end PocketCalculator
