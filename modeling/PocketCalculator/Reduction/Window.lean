import PocketCalculator.Arithmetic
import PocketCalculator.Expression.Basic
import PocketCalculator.FixedPoint

set_option autoImplicit false

namespace PocketCalculator.Reduction

def operand (side : Side) : Token → Except Failure Double
  | .operator o => .error (.fault (.operandInvalid side (.text o.text) none))
  | .numeral n =>
      match n.value with
      | .ok x => .ok x
      | .error malformed => .error (.fault (.operandInvalid side (.text n.text) (some malformed)))

-- In an operator's place a numeral is passed on as its text, which no operation is found for.
def slotValue : Token → Value
  | .operator o => .operator o
  | .numeral n => .text n.text

def combined (settings : Settings) (left slot right : Token) : Except Failure Numeral := do
  let x ← operand .left left
  let y ← operand .right right
  let result ← Arithmetic.apply (slotValue slot) (.number (.real x)) (.number (.real y))
  let text ← FixedPoint.written settings result
  return ⟨text⟩

end PocketCalculator.Reduction
