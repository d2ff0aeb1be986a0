import PocketCalculator.Double.Arithmetic
import PocketCalculator.Input

set_option autoImplicit false

namespace PocketCalculator.Arithmetic

def finite (x : Double) : Except Failure Double :=
  if x.isInfinite then .error .wholeTooLarge else .ok x

def toDouble : Number → Except Failure Double
  | .real x => .ok x
  | .whole n => finite (Double.ofInt n)
  | .truth holds => finite (Double.ofInt (Number.ofTruth holds))

def checked (operation : Text) (a b result : Number) : Except Failure Number := do
  let x ← toDouble result
  if x.isInfinite then .error (.fault (.resultOverflow (.text operation) [.number a, .number b]))
  else .ok result

def combined (exact : Int → Int → Int) (rounded : Double → Double → Double) (a b : Number) :
    Except Failure Number :=
  match a.whole?, b.whole? with
  | some m, some n => .ok (.whole (exact m n))
  | _, _ => do
      let x ← toDouble a
      let y ← toDouble b
      return .real (rounded x y)

def add (a b : Number) : Except Failure Number := do
  checked "addition".toList a b (← combined (· + ·) Double.add a b)

def subtract (a b : Number) : Except Failure Number := do
  checked "subtraction".toList a b (← combined (· - ·) Double.subtract a b)

def multiply (a b : Number) : Except Failure Number := do
  checked "multiplication".toList a b (← combined (· * ·) Double.multiply a b)

-- The exact quotient of whole numbers is rounded once. Even a zero takes the sign that the operands give.
def wholeQuotient (m n : Int) : Except Failure Double :=
  finite (Double.ofQuotient ((m < 0) != (n < 0)) (m.natAbs * Double.unitsPerOne) n.natAbs)

def quotient (a b : Number) : Except Failure Double :=
  match a.whole?, b.whole? with
  | some m, some n => wholeQuotient m n
  | _, _ => do
      let x ← toDouble a
      let y ← toDouble b
      return Double.divide x y

-- A zero divisor is found before any number is converted.
def divide (a b : Number) : Except Failure Number :=
  if b.isZero then .error (.fault (.divisionByZero (.number a)))
  else do checked "division".toList a b (.real (← quotient a b))

def operation : Operator → Number → Number → Except Failure Number
  | .addition => add
  | .subtraction => subtract
  | .multiplication => multiply
  | .division => divide

def apply (operator left right : Value) : Except Failure Number :=
  match operator with
  | .operator o => do
      let a ← (Input.number left).mapError .fault
      let b ← (Input.number right).mapError .fault
      operation o a b
  | _ => .error (.fault (.unknownOperator operator))

end PocketCalculator.Arithmetic
