import PocketCalculator.Text.Basic
import PocketCalculator.Double.Rounding

set_option autoImplicit false

namespace PocketCalculator

structure Decimal where
  digits : Nat
  exponent : Int
deriving DecidableEq

namespace Double

-- Places are counted from this many below the units digit, which makes every grid integral.
def decimalShift : Nat := 400

def readsBack (units grid count : Nat) : Bool :=
  nearestUnits (count * 10 ^ grid * unitsPerOne) (10 ^ decimalShift) = units

def leadingPlace (units : Nat) : Nat :=
  (decimalText (units * 10 ^ decimalShift / unitsPerOne)).length - 1

-- The nearer neighbour among the multiples of `10 ^ grid` comes first. It may fail where the farther one
-- reads back, as the interval is wider above a power of two than below.
def neighbour? (units grid : Nat) : Option Nat :=
  let exact := units * 10 ^ decimalShift
  let step := unitsPerOne * 10 ^ grid
  let below := exact / step
  let nearest := halfEven exact step
  let other := if nearest = below then below + 1 else below
  if readsBack units grid nearest then some nearest
  else if readsBack units grid other then some other
  else none

-- Seventeen digits tell any two doubles apart.
def mostDigits : Nat := 17

-- Of the decimals with the fewest digits among those that round to the double, the nearest to its exact value.
def shortest (units : Nat) : Decimal :=
  let place := leadingPlace units
  let found := (List.range mostDigits).findSome? fun extra =>
    (neighbour? units (place - extra)).map fun count => Decimal.mk count ((place - extra : Int) - decimalShift)
  found.getD ⟨units, 0⟩

end Double

end PocketCalculator
