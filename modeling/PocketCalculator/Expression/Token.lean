import PocketCalculator.Numeral
import PocketCalculator.Operator

set_option autoImplicit false

namespace PocketCalculator

inductive Token where
  | numeral (n : Numeral)
  | operator (o : Operator)
deriving DecidableEq

namespace Token

def text : Token → Text
  | .numeral n => n.text
  | .operator o => o.text

def isOperator : Token → Bool
  | .operator _ => true
  | .numeral _ => false

def hasPriority : Token → Bool
  | .operator o => o.hasPriority
  | .numeral _ => false

def ofWord (word : Text) : Token :=
  match Operator.ofText? word with
  | some o => .operator o
  | none => .numeral ⟨word⟩

theorem text_of_word (word : Text) : (ofWord word).text = word := by
  rw [ofWord]
  cases found : Operator.ofText? word with
  | none => rfl
  | some o => exact ((Operator.of_text_eq_some_iff word o).mp found).symm

end Token

end PocketCalculator
