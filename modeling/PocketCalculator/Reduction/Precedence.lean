import PocketCalculator.Expression.Chain
import PocketCalculator.Reduction.Window

set_option autoImplicit false

namespace PocketCalculator.Reduction

def unread (side : Side) (n : Numeral) (malformed : Malformed) : Failure :=
  .fault (.operandInvalid side (.text n.text) (some malformed))

def step (settings : Settings) (left : Numeral) (o : Operator) (right : Numeral) : Except Failure Numeral :=
  match left.value, right.value with
  | .error malformed, _ => .error (unread .left left malformed)
  | .ok _, .error malformed => .error (unread .right right malformed)
  | .ok x, .ok y => do
      let result ← Arithmetic.apply (.operator o) (.number (.real x)) (.number (.real y))
      let text ← FixedPoint.written settings result
      return ⟨text⟩

def folded (settings : Settings) : Numeral → List (Operator × Numeral) → Except Failure Numeral
  | result, [] => .ok result
  | result, (o, n) :: rest => do
      let next ← step settings result o n
      folded settings next rest

def term (settings : Settings) (chain : Chain) : Except Failure Numeral :=
  folded settings chain.first chain.rest

def terms (settings : Settings) : List (Operator × Chain) → Except Failure (List (Operator × Numeral))
  | [] => .ok []
  | (o, chain) :: rest => do
      let result ← term settings chain
      let results ← terms settings rest
      return (o, result) :: results

-- Each term from left to right, term after term, and then their results from left to right. The first failure
-- on this way is the outcome.
def byPrecedence (settings : Settings) (chain : Chain) : Except Failure Numeral := do
  let first ← term settings chain.firstTerm
  let later ← terms settings chain.laterTerms
  folded settings first later

@[simp] theorem combined_step (settings : Settings) (left right : Numeral) (o : Operator) :
    combined settings (.numeral left) (.operator o) (.numeral right) = step settings left o right := by
  simp only [combined, operand, slotValue, step]
  cases left.value with
  | error malformed => rfl
  | ok x => cases right.value <;> rfl

theorem folded_append (settings : Settings) (start : Numeral) (left right : List (Operator × Numeral)) :
    folded settings start (left ++ right) =
      (folded settings start left).bind fun middle => folded settings middle right := by
  induction left generalizing start with
  | nil => rfl
  | cons head tail ih =>
      simp only [List.cons_append, folded, bind]
      cases step settings start head.1 head.2 with
      | error failure => rfl
      | ok next => exact ih next

end PocketCalculator.Reduction
