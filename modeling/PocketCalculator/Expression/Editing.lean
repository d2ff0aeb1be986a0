import PocketCalculator.Expression.Basic

set_option autoImplicit false

namespace PocketCalculator.Expression

-- A numeral takes one decimal point; the one that refuses a second is given back.
def typed (tokens : Expression) (text : Text) : Except Numeral Expression :=
  match tokens.getLast? with
  | some (.numeral last) =>
      if last.hasPoint && text.contains '.' then .error last
      else .ok (tokens.dropLast ++ [.numeral (last.extend text)])
  | _ => .ok (tokens ++ [.numeral (Numeral.empty.extend text)])

def withoutTrailingOperator (tokens : Expression) : Expression :=
  if tokens.endsInOperator then tokens.dropLast else tokens

def startsWithOperator (tokens : Expression) : Bool := tokens.head?.any Token.isOperator

def withOperator (tokens : Expression) (o : Operator) : Expression :=
  let placed := tokens.withoutTrailingOperator ++ [.operator o]
  if startsWithOperator placed then initial else placed

end PocketCalculator.Expression
