import PocketCalculator.Text.Basic

set_option autoImplicit false

namespace PocketCalculator

inductive Operator where
  | addition
  | subtraction
  | multiplication
  | division
deriving DecidableEq

namespace Operator

def all : List Operator := [.addition, .subtraction, .multiplication, .division]

def symbol : Operator → Char
  | .addition => '+'
  | .subtraction => '-'
  | .multiplication => '*'
  | .division => '/'

def text (operator : Operator) : Text := [operator.symbol]

def name : Operator → Text
  | .addition => "ADDITION".toList
  | .subtraction => "SUBTRACTION".toList
  | .multiplication => "MULTIPLICATION".toList
  | .division => "DIVISION".toList

def hasPriority : Operator → Bool
  | .multiplication => true
  | .division => true
  | _ => false

def ofText? (t : Text) : Option Operator := all.find? fun operator => operator.text = t

theorem priority_iff (o : Operator) : o.hasPriority = true ↔ o = .multiplication ∨ o = .division := by
  cases o <;> simp [hasPriority]

theorem no_priority_iff (o : Operator) : o.hasPriority = false ↔ o = .addition ∨ o = .subtraction := by
  cases o <;> simp [hasPriority]

theorem of_text_text (operator : Operator) : ofText? operator.text = some operator := by
  cases operator <;> rfl

theorem of_text_eq_some_iff (t : Text) (operator : Operator) :
    ofText? t = some operator ↔ t = operator.text := by
  constructor
  · intro found
    have same := List.find?_some found
    simpa using (of_decide_eq_true same).symm
  · rintro rfl
    exact of_text_text operator

end Operator

end PocketCalculator
