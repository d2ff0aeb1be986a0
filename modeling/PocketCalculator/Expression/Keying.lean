import PocketCalculator.Expression.Editing

/- What a sequence of keystrokes amounts to. Operators cut it into runs of numeral input. Of a run a
   keystroke with a point is dropped when an earlier one that is kept has a point; the rest is one
   numeral. Of neighbouring operators the last one stays. -/
set_option autoImplicit false

namespace PocketCalculator

inductive Key where
  | input (t : Text)
  | operator (o : Operator)
deriving DecidableEq

namespace Key

def kept (pointed : Bool) : List Text → List Text
  | [] => []
  | t :: rest =>
      let pointsHere := t.contains '.'
      if pointed && pointsHere then kept pointed rest else t :: kept (pointed || pointsHere) rest

def numeralOf (run : List Text) : Numeral := Numeral.empty.extend (kept false run).flatten

structure Runs where
  first : List Text
  rest : List (Operator × List Text)
deriving DecidableEq

def runs : List Key → Runs
  | [] => ⟨[], []⟩
  | .input t :: keys => ⟨t :: (runs keys).first, (runs keys).rest⟩
  | .operator o :: keys => ⟨[], (o, (runs keys).first) :: (runs keys).rest⟩

-- An operator without input after it gives way to the next one.
def tokensOf : List (Operator × List Text) → Expression
  | [] => []
  | [(o, run)] => .operator o :: if run.isEmpty then [] else [.numeral (numeralOf run)]
  | (o, run) :: rest =>
      if run.isEmpty then tokensOf rest else .operator o :: .numeral (numeralOf run) :: tokensOf rest

-- The first run continues the zero of a fresh display.
def normalForm (keys : List Key) : Expression :=
  .numeral (numeralOf (['0'] :: (runs keys).first)) :: tokensOf (runs keys).rest

def pressed (tokens : Expression) : Key → Expression
  | .input t => (tokens.typed t).toOption.getD tokens
  | .operator o => tokens.withOperator o

end Key

end PocketCalculator
