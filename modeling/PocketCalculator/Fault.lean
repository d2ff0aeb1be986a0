import PocketCalculator.Numeral
import PocketCalculator.Value

set_option autoImplicit false

namespace PocketCalculator

inductive Side where
  | left
  | right
deriving DecidableEq

inductive Fault where
  | general (message value : Value)
  | missingElement (shown : Value)
  -- Beside an operator stands another one, or a malformed numeral, which is then the cause.
  | operandInvalid (side : Side) (token : Value) (cause : Option Malformed)
  | divisionByZero (numerator : Value)
  | unknownOperator (found : Value)
  | resultOverflow (operation : Value) (operands : List Value)
  | invalidInput (value reason : Value)

-- What may leave a call instead of a result. Besides faults these are a whole number beyond the doubles,
-- a number with more digits than fixed-point text takes, a precision that is refused or not even a machine
-- word, and an observer that refuses a notification.
inductive Failure where
  | fault (fault : Fault)
  | wholeTooLarge
  | tooManyDigits
  | precisionRefused
  | precisionTooLarge
  | observerRefused

namespace Fault

def plainReason : Value := .text "invalid input".toList

def message : Fault → Text
  | .general message _ => message.written
  | .missingElement _ => "Missing element, enter a complete expression".toList
  | .operandInvalid .left _ _ => "Left operand is not a valid number".toList
  | .operandInvalid .right _ _ => "Right operand is not a valid number".toList
  | .divisionByZero _ => "Division by zero".toList
  | .unknownOperator _ => "Unknown operator".toList
  | .resultOverflow operation _ => "Overflow in ".toList ++ operation.written
  | .invalidInput _ reason => reason.written

def value : Fault → Value
  | .general _ value => value
  | .missingElement shown => shown
  | .operandInvalid _ token _ => token
  | .divisionByZero numerator => numerator
  | .unknownOperator found => found
  | .resultOverflow _ operands => .tuple operands
  | .invalidInput value _ => value

def written (fault : Fault) : Text :=
  match fault.value with
  | .absent => fault.message
  | value => fault.message ++ [':', ' '] ++ value.written

end Fault

end PocketCalculator
