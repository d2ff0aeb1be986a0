import PocketCalculator.Value

set_option autoImplicit false

namespace PocketCalculator

mutual
inductive Observer where
  | recorder
  | refuser
  | scripted (script : List Command)
inductive Command where
  | numeral (typed : Value)
  | operator (chosen : Value)
  | reduce
  | reset
  | observe (observer : Option Observer)
  -- The observer's owner lets it go, and nobody else holds it.
  | release
  | settings
  | describe
  -- What happens outside the calculator.
  | idle
end

def Observer.scriptLength : Observer → Nat
  | .scripted script => script.length
  | _ => 0

def Command.ofKey (key : Char) : Command :=
  if key = '=' then .reduce
  else if key = 'C' then .reset
  else if (Operator.ofText? [key]).isSome then .operator (.text [key])
  else .numeral (.text [key])

end PocketCalculator
