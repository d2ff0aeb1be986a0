import PocketCalculator.Number
import PocketCalculator.Operator
import PocketCalculator.Text.Quoted

set_option autoImplicit false

namespace PocketCalculator

inductive Value where
  | absent
  | number (n : Number)
  | text (t : Text)
  | operator (o : Operator)
  | list (items : List Value)
  | tuple (items : List Value)
  -- An object of any other type, with the type's name and how it is written alone and in a sequence.
  | other (kind written literal : Text)

namespace Value

def kind : Value → Text
  | .absent => "NoneType".toList
  | .number n => n.kind
  | .text _ => "str".toList
  | .operator _ => "Operator".toList
  | .list _ => "list".toList
  | .tuple _ => "tuple".toList
  | .other kind _ _ => kind

def joined (items : List Text) : Text := Text.joined [',', ' '] items

def operatorLiteral (o : Operator) : Text :=
  "<Operator.".toList ++ o.name ++ [':', ' '] ++ Quoted.quoted o.text ++ ['>']

-- A tuple of one item keeps a comma, which tells it from the item in brackets.
def tupleLiteral : List Text → Text
  | [only] => '(' :: only ++ [',', ')']
  | items => '(' :: joined items ++ [')']

mutual
def literal : Value → Text
  | .absent => "None".toList
  | .number n => n.written
  | .text t => Quoted.quoted t
  | .operator o => operatorLiteral o
  | .list items => '[' :: joined (literals items) ++ [']']
  | .tuple items => tupleLiteral (literals items)
  | .other _ _ literal => literal
def literals : List Value → List Text
  | [] => []
  | first :: rest => literal first :: literals rest
end

def written : Value → Text
  | .text t => t
  | .operator o => o.text
  | .other _ written _ => written
  | value => literal value

end Value

end PocketCalculator
