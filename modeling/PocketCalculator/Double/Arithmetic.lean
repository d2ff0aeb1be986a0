import PocketCalculator.Double.Rounding

set_option autoImplicit false

namespace PocketCalculator.Double

def negated : Double → Double
  | .undefined => .undefined
  | .infinite negative => .infinite !negative
  | .finite negative units representable => .finite (!negative) units representable

-- A sum of exactly zero is negative only between negative operands.
def add : Double → Double → Double
  | .undefined, _ => .undefined
  | _, .undefined => .undefined
  | .infinite s, .infinite t => if s = t then .infinite s else .undefined
  | .infinite s, .finite _ _ _ => .infinite s
  | .finite _ _ _, .infinite t => .infinite t
  | .finite s u _, .finite t v _ =>
      let total := signedUnits s u + signedUnits t v
      if total = 0 then zero (s && t) else ofQuotient (total < 0) total.natAbs 1

def subtract (a b : Double) : Double := add a (negated b)

def multiply : Double → Double → Double
  | .undefined, _ => .undefined
  | _, .undefined => .undefined
  | .infinite s, .infinite t => .infinite (s != t)
  | .infinite s, .finite t v _ => if v = 0 then .undefined else .infinite (s != t)
  | .finite s u _, .infinite t => if u = 0 then .undefined else .infinite (s != t)
  | .finite s u _, .finite t v _ => ofQuotient (s != t) (u * v) unitsPerOne

def divide : Double → Double → Double
  | .undefined, _ => .undefined
  | _, .undefined => .undefined
  | .infinite _, .infinite _ => .undefined
  | .infinite s, .finite t _ _ => .infinite (s != t)
  | .finite s _ _, .infinite t => zero (s != t)
  | .finite s u _, .finite t v _ =>
      if v = 0 then (if u = 0 then .undefined else .infinite (s != t))
      else ofQuotient (s != t) (u * unitsPerOne) v

end PocketCalculator.Double
