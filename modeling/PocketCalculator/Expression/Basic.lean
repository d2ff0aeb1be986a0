import PocketCalculator.Expression.Token
import PocketCalculator.Fault
import PocketCalculator.Text.Words

set_option autoImplicit false

namespace PocketCalculator

abbrev Expression := List Token

namespace Expression

def initial : Expression := [.numeral .zero]

def rendered (tokens : Expression) : Text := Text.joined [' '] (tokens.map Token.text)

def ofText (t : Text) : Expression := (Words.words t).map Token.ofWord

def priorityLeft (tokens : Expression) : Bool := tokens.any Token.hasPriority

def endsInOperator (tokens : Expression) : Bool := tokens.getLast?.any Token.isOperator

inductive Validity where
  | valid
  | tooFewTokens
  | trailingOperator
deriving DecidableEq

def leastTokens : Nat := 3

def validity (tokens : Expression) : Validity :=
  if tokens.length < leastTokens then .tooFewTokens
  else if tokens.endsInOperator then .trailingOperator
  else .valid

def shownText (t : Text) : Value := if t.isEmpty then .absent else .text t

def ensureValid (tokens : Expression) : Except Fault Unit :=
  if tokens.validity = .valid then .ok () else .error (.missingElement (shownText tokens.rendered))

end Expression

end PocketCalculator
